import GuestInit.Cleanup
import GuestInit.Proofs.Booting

/-! The loop that kills all processes and collects the dead. It consists of rounds, a signal to all
and a wait each, and goes on just as long as both come out so that there may be somebody left. It
has no bound of its own: what ends it is that the kernel has only so many children and interruptions
to hand out. Main statement: `killAll_alternates`. -/

namespace GuestInit.Cleanup

open Kernel Program

/-- The signal went to all processes there were. Error 3 is that there was none. -/
def Signalled (reply : Reply) : Prop := 0 ≤ reply.value ∨ reply.errno = 3

instance : DecidablePred Signalled := fun _ => inferInstanceAs (Decidable (_ ∨ _))

/-- One signal 9 to all and the wait for any child right after it, with the answers to them. -/
structure Round where
  signal : Reply
  wait : Reply

namespace Round

def events (round : Round) : List Event :=
  [answered (.kill (-1) 9) round.signal, answered (.waitpid (-1)) round.wait]

/-- A child was collected. -/
abbrev Collects (round : Round) : Prop := 0 ≤ round.wait.value

/-- A signal to the supervisor itself came in between, which is error 4. -/
def Interrupted (round : Round) : Prop := round.wait.value < 0 ∧ round.wait.errno = 4

/-- After such a round there is another one. -/
def GoesOn (round : Round) : Prop :=
  Signalled round.signal ∧ (round.Collects ∨ round.Interrupted)

instance : DecidablePred Interrupted := fun _ => inferInstanceAs (Decidable (_ ∧ _))

theorem Interrupted.not_collects {round : Round} (h : round.Interrupted) : ¬ round.Collects := by
  have hfailed : round.wait.value < 0 := h.1
  omega

/-- How many children were collected in rounds. -/
def collected (rounds : List Round) : Nat := rounds.countP (Collects ·)

/-- How many rounds were interrupted. -/
def interruptions (rounds : List Round) : Nat := rounds.countP (Interrupted ·)

@[simp] theorem collected_nil : collected [] = 0 := rfl
@[simp] theorem collected_cons (round : Round) (rounds : List Round) :
    collected (round :: rounds) = collected rounds + if round.Collects then 1 else 0 := by
  simp [collected, List.countP_cons]

@[simp] theorem interruptions_nil : interruptions [] = 0 := rfl
@[simp] theorem interruptions_cons (round : Round) (rounds : List Round) :
    interruptions (round :: rounds) =
      interruptions rounds + if round.Interrupted then 1 else 0 := by
  simp [interruptions, List.countP_cons]

/-- Each round that goes on was handed a child or an interruption. -/
theorem length_eq {rounds : List Round} (h : ∀ round ∈ rounds, round.GoesOn) :
    rounds.length = collected rounds + interruptions rounds := by
  induction rounds with
  | nil => rfl
  | cons round rounds ih =>
    obtain ⟨⟨-, hround⟩, hrounds⟩ := List.forall_mem_cons.mp h
    have hlength := ih hrounds
    rw [List.length_cons, collected_cons, interruptions_cons]
    rcases hround with hcollects | hinterrupted
    · have hnot : ¬ round.Interrupted := fun hinterrupted => hinterrupted.not_collects hcollects
      rw [if_pos hcollects, if_neg hnot]
      omega
    · rw [if_neg hinterrupted.not_collects, if_pos hinterrupted]
      omega

end Round

/-- The loop, as far as it got: the rounds after which it went on, and the round it is in or ended
with. Children collected `before` are counted as well. Error 10 is that there is no child. -/
inductive Killing (most before : Nat) :
    List Event → Standing Surroundings (Except IoError Nat) → Prop
  | exhausted (rounds : List Round) (hrounds : ∀ round ∈ rounds, round.GoesOn)
      (hmost : rounds.length = most) : Killing most before (rounds.flatMap Round.events) .unfinished
  | signalling (rounds : List Round) (hrounds : ∀ round ∈ rounds, round.GoesOn)
      (hmost : rounds.length < most) :
      Killing most before (rounds.flatMap Round.events)
        (.pending (.call (.kill (-1) 9)))
  | unsignalled (rounds : List Round) {signal : Reply} (hrounds : ∀ round ∈ rounds, round.GoesOn)
      (hmost : rounds.length < most) (hsignal : ¬ Signalled signal) :
      Killing most before
        (rounds.flatMap Round.events ++ [answered (.kill (-1) 9) signal])
        (.returned (.error (.errno signal.errno)))
  | waiting (rounds : List Round) {signal : Reply} (hrounds : ∀ round ∈ rounds, round.GoesOn)
      (hmost : rounds.length < most) (hsignal : Signalled signal) :
      Killing most before
        (rounds.flatMap Round.events ++ [answered (.kill (-1) 9) signal])
        (.pending (.call (.waitpid (-1))))
  | childless (rounds : List Round) {last : Round} (hrounds : ∀ round ∈ rounds, round.GoesOn)
      (hmost : rounds.length < most) (hsignal : Signalled last.signal)
      (hfailed : last.wait.value < 0) (hchildless : last.wait.errno = 10) :
      Killing most before (rounds.flatMap Round.events ++ last.events)
        (.returned (.ok (before + Round.collected rounds)))
  | refused (rounds : List Round) {last : Round} (hrounds : ∀ round ∈ rounds, round.GoesOn)
      (hmost : rounds.length < most) (hsignal : Signalled last.signal)
      (hfailed : last.wait.value < 0)
      (hchildren : last.wait.errno ≠ 10) (hother : last.wait.errno ≠ 4) :
      Killing most before (rounds.flatMap Round.events ++ last.events)
        (.returned (.error (.errno last.wait.errno)))

theorem signalled_result (reply : Reply) : signalled reply.result =
    if Signalled reply then .ok () else .error (.errno reply.errno) := by
  by_cases hvalue : 0 ≤ reply.value
  · simp [Reply.result_of_nonneg hvalue, signalled, Signalled, hvalue]
  · rw [Reply.result_of_neg (by omega)]
    simp [signalled, Signalled, hvalue, Errno.noSuchProcess]

/-- One round and what it leads to. -/
theorem killAll_succ (most before : Nat) : killAll (most + 1) before =
    .ask (.call (.kill (-1) 9)) fun signal =>
      if Signalled signal then
        .ask (.call (.waitpid (-1))) fun wait =>
          if 0 ≤ wait.value then killAll most (before + 1)
          else if wait.errno = 10 then .done (.ok before)
          else if wait.errno = 4 then killAll most before
          else .done (.error (.errno wait.errno))
      else .done (.error (.errno signal.errno)) := by
  rw [killAll, Action.attempt_bind]
  refine congrArg (Program.ask (I := Surroundings) _) (funext fun (signal : Reply) => ?_)
  rw [signalled_result]
  by_cases hsignal : Signalled signal
  · rw [if_pos hsignal, if_pos hsignal]
    refine congrArg (Program.ask (I := Surroundings) _) (funext fun (wait : Reply) => ?_)
    dsimp only [Program.pure_eq, Program.bind]
    by_cases hvalue : 0 ≤ wait.value
    · rw [if_pos hvalue, Reply.result_of_nonneg hvalue]
    · rw [if_neg hvalue, Reply.result_of_neg (by omega)]
      simp only [IoError.errno.injEq, IoError.isInterruption_errno, decide_eq_true_eq]
      rfl
  · rw [if_neg hsignal, if_neg hsignal]
    rfl

section

variable {most before : Nat} {es : List Event} {round : Round} {rounds : List Round}
  {standing : Standing Surroundings (Except IoError Nat)}

/-- One more round in front. -/
theorem Killing.more (hround : round.GoesOn)
    (h : Killing most (before + if round.Collects then 1 else 0) es standing) :
    Killing (most + 1) before (round.events ++ es) standing := by
  have hmore {rounds : List Round} (hrounds : ∀ other ∈ rounds, other.GoesOn) :
      ∀ other ∈ round :: rounds, other.GoesOn := List.forall_mem_cons.mpr ⟨hround, hrounds⟩
  cases h with
  | exhausted rounds hrounds hmost =>
    exact .exhausted (round :: rounds) (hmore hrounds) (congrArg Nat.succ hmost)
  | signalling rounds hrounds hmost =>
    exact .signalling (round :: rounds) (hmore hrounds) (Nat.succ_lt_succ hmost)
  | unsignalled rounds hrounds hmost hsignal =>
    rw [← List.append_assoc]
    exact .unsignalled (round :: rounds) (hmore hrounds) (Nat.succ_lt_succ hmost) hsignal
  | waiting rounds hrounds hmost hsignal =>
    rw [← List.append_assoc]
    exact .waiting (round :: rounds) (hmore hrounds) (Nat.succ_lt_succ hmost) hsignal
  | childless rounds hrounds hmost hsignal hfailed hchildless =>
    have htotal : before + (if round.Collects then 1 else 0) + Round.collected rounds =
        before + Round.collected (round :: rounds) := by
      rw [Round.collected_cons]
      omega
    rw [← List.append_assoc, htotal]
    exact .childless (round :: rounds) (hmore hrounds) (Nat.succ_lt_succ hmost) hsignal hfailed
      hchildless
  | refused rounds hrounds hmost hsignal hfailed hchildren hother =>
    rw [← List.append_assoc]
    exact .refused (round :: rounds) (hmore hrounds) (Nat.succ_lt_succ hmost) hsignal hfailed
      hchildren hother

theorem killing_of_trace (h : (killAll most before).Trace es standing) :
    Killing most before es standing := by
  induction most generalizing before es with
  | zero =>
    obtain ⟨rfl, rfl⟩ := trace_unfinished_iff.mp h
    exact .exhausted [] nofun rfl
  | succ most ih =>
    rw [killAll_succ] at h
    rcases trace_ask_iff.mp h with ⟨rfl, rfl⟩ | ⟨signal, es, rfl, hwait⟩
    · exact .signalling [] nofun (Nat.succ_pos most)
    by_cases hunsignalled : ¬ Signalled signal
    · rw [if_neg hunsignalled] at hwait
      obtain ⟨rfl, rfl⟩ := trace_done_iff.mp hwait
      exact .unsignalled [] nofun (Nat.succ_pos most) hunsignalled
    have hsignal : Signalled signal := Decidable.not_not.mp hunsignalled
    rw [if_pos hsignal] at hwait
    rcases trace_ask_iff.mp hwait with ⟨rfl, rfl⟩ | ⟨wait, es, rfl, hend⟩
    · exact .waiting [] nofun (Nat.succ_pos most) hsignal
    let round : Round := ⟨signal, wait⟩
    by_cases hcollects : round.Collects
    · have hgoes : round.GoesOn := ⟨hsignal, .inl hcollects⟩
      rw [if_pos hcollects] at hend
      have hrest := ih hend
      exact .more hgoes (by rwa [if_pos hcollects])
    have hfailed : wait.value < 0 := Int.not_le.mp hcollects
    rw [if_neg hcollects] at hend
    by_cases hchildless : wait.errno = 10
    · rw [if_pos hchildless] at hend
      obtain ⟨rfl, rfl⟩ := trace_done_iff.mp hend
      exact @Killing.childless _ _ [] round nofun (Nat.succ_pos most) hsignal hfailed hchildless
    rw [if_neg hchildless] at hend
    by_cases hinterrupted : wait.errno = 4
    · have hgoes : round.GoesOn := ⟨hsignal, .inr ⟨hfailed, hinterrupted⟩⟩
      rw [if_pos hinterrupted] at hend
      have hrest := ih hend
      exact .more hgoes (by rwa [if_neg hcollects])
    · rw [if_neg hinterrupted] at hend
      obtain ⟨rfl, rfl⟩ := trace_done_iff.mp hend
      exact @Killing.refused _ _ [] round nofun (Nat.succ_pos most) hsignal hfailed hchildless
        hinterrupted

/-- A round that goes on leads back to the loop. -/
theorem killAll_round (hround : round.GoesOn)
    (h : (killAll most (before + if round.Collects then 1 else 0)).Trace es standing) :
    (killAll (most + 1) before).Trace (round.events ++ es) standing := by
  obtain ⟨hsignal, hwait⟩ := hround
  rw [killAll_succ]
  refine .ask _ ?_
  rw [if_pos hsignal]
  refine .ask _ ?_
  rcases hwait with hcollects | hinterrupted
  · rw [if_pos hcollects] at h ⊢
    exact h
  · have hchildren : round.wait.errno ≠ 10 := by
      rw [hinterrupted.2]
      decide
    rw [if_neg hinterrupted.not_collects] at h ⊢
    rw [if_neg hchildren, if_pos hinterrupted.2]
    exact h

theorem killAll_through (hrounds : ∀ round ∈ rounds, round.GoesOn)
    (h : (killAll most (before + Round.collected rounds)).Trace es standing) :
    (killAll (rounds.length + most) before).Trace (rounds.flatMap Round.events ++ es) standing := by
  induction rounds generalizing before with
  | nil =>
    rw [List.length_nil, Nat.zero_add]
    exact h
  | cons round rounds ih =>
    obtain ⟨hround, hrounds⟩ := List.forall_mem_cons.mp hrounds
    rw [List.length_cons, Nat.succ_add, List.flatMap_cons, List.append_assoc]
    refine killAll_round hround (ih hrounds ?_)
    rw [Round.collected_cons] at h
    rwa [Nat.add_assoc, Nat.add_comm (if round.Collects then 1 else 0)]

/-- The runs of the loop are just these. -/
theorem killAll_trace_iff :
    (killAll most before).Trace es standing ↔ Killing most before es standing := by
  refine ⟨killing_of_trace, fun h => ?_⟩
  -- With a round left, how that one goes is how the loop goes on.
  have hgoes {rounds : List Round} {es : List Event} (hrounds : ∀ round ∈ rounds, round.GoesOn)
      (hmost : rounds.length < most)
      (hlast : ∀ most, (killAll (most + 1) (before + Round.collected rounds)).Trace es standing) :
      (killAll most before).Trace (rounds.flatMap Round.events ++ es) standing := by
    obtain ⟨more, rfl⟩ := Nat.exists_eq_add_of_lt hmost
    exact killAll_through hrounds (hlast more)
  cases h with
  | exhausted rounds hrounds hmost =>
    have hnone : (killAll 0 (before + Round.collected rounds)).Trace [] .unfinished := .unfinished
    rw [← List.append_nil (rounds.flatMap Round.events), ← hmost]
    exact killAll_through hrounds hnone
  | signalling rounds hrounds hmost =>
    rw [← List.append_nil (rounds.flatMap Round.events)]
    exact hgoes hrounds hmost fun most => by
      rw [killAll_succ]
      exact .pending _ _
  | @unsignalled rounds signal hrounds hmost hsignal =>
    refine hgoes hrounds hmost fun most => ?_
    rw [killAll_succ]
    refine .ask _ ?_
    rw [if_neg hsignal]
    exact .done _
  | @waiting rounds signal hrounds hmost hsignal =>
    refine hgoes hrounds hmost fun most => ?_
    rw [killAll_succ]
    refine .ask _ ?_
    rw [if_pos hsignal]
    exact .pending _ _
  | @childless rounds last hrounds hmost hsignal hfailed hchildless =>
    refine hgoes hrounds hmost fun most => ?_
    rw [killAll_succ]
    refine .ask _ ?_
    rw [if_pos hsignal]
    refine .ask _ ?_
    rw [if_neg (by omega), if_pos hchildless]
    exact .done _
  | @refused rounds last hrounds hmost hsignal hfailed hchildren hother =>
    refine hgoes hrounds hmost fun most => ?_
    rw [killAll_succ]
    refine .ask _ ?_
    rw [if_pos hsignal]
    refine .ask _ ?_
    rw [if_neg (by omega), if_neg hchildren, if_neg hother]
    exact .done _

end

/-- How many signals were sent to all. -/
def signals (es : List Event) : Nat :=
  (calls (es.map Exchange.request)).count (.kill (-1) 9)

@[simp] theorem signals_nil : signals [] = 0 := rfl
@[simp] theorem signals_kill (reply : Reply) (es : List Event) :
    signals (answered (.kill (-1) 9) reply :: es) = signals es + 1 := by
  simp [signals, answered]
@[simp] theorem signals_wait (pid : Int) (reply : Reply) (es : List Event) :
    signals (answered (.waitpid pid) reply :: es) = signals es := by
  simp [signals, answered]

section

variable {σ α : Type} (reply : σ → Call → Reply × σ)

theorem run_attended_ask (c : Call) (next : Reply → Action α) (s : σ) :
    (Program.ask (.call c) next : Action α).run (attended reply) s =
      (next (reply s c).1).run (attended reply) (reply s c).2 := rfl

theorem exchanges_attended_ask (c : Call) (next : Reply → Action α) (s : σ) :
    (Program.ask (.call c) next : Action α).exchanges (attended reply) s =
      answered c (reply s c).1 ::
        (next (reply s c).1).exchanges (attended reply) (reply s c).2 := rfl

/-- The loop is over after so many rounds, however many more it is allowed. -/
def EndsWithin (most before : Nat) (s : σ) : Prop :=
  ∃ result s', ∀ more,
    (killAll (most + more) before).run (attended reply) s = (.returned result, s') ∧
    signals ((killAll (most + more) before).exchanges (attended reply) s) ≤ most

/-- A kernel may go on so for a number of rounds. -/
def Sustains (most : Nat) (s : σ) : Prop :=
  ∃ (rounds : List Round) (s' : σ), rounds.length = most ∧ (∀ round ∈ rounds, round.GoesOn) ∧
    (attended reply).behaviour.Path s (rounds.flatMap Round.events) s'

variable {reply}

/-- One round in front of a loop that ends. -/
theorem EndsWithin.more {most before : Nat} {s s₁ s₂ : σ} {round : Round} (hround : round.GoesOn)
    (hkill : reply s (.kill (-1) 9) = (round.signal, s₁))
    (hwait : reply s₁ (.waitpid (-1)) = (round.wait, s₂))
    (h : EndsWithin reply most (before + if round.Collects then 1 else 0) s₂) :
    EndsWithin reply (most + 1) before s := by
  obtain ⟨hsignal, hgoes⟩ := hround
  obtain ⟨result, s', hends⟩ := h
  refine ⟨result, s', fun more => ?_⟩
  obtain ⟨hrun, hsignals⟩ := hends more
  rw [Nat.succ_add, killAll_succ, run_attended_ask, exchanges_attended_ask, hkill, signals_kill,
    if_pos hsignal, run_attended_ask, exchanges_attended_ask, hwait, signals_wait]
  rcases hgoes with hcollects | hinterrupted
  · rw [if_pos hcollects] at hrun hsignals
    rw [if_pos hcollects]
    exact ⟨hrun, Nat.succ_le_succ hsignals⟩
  · have hchildren : round.wait.errno ≠ 10 := by
      rw [hinterrupted.2]
      decide
    rw [if_neg hinterrupted.not_collects] at hrun hsignals
    rw [if_neg hinterrupted.not_collects, if_neg hchildren, if_pos hinterrupted.2]
    exact ⟨hrun, Nat.succ_le_succ hsignals⟩

variable (reply)

/-- A loop that does not end within so many rounds was kept going by the kernel in each of them. -/
theorem endsWithin_or_sustains (most before : Nat) (s : σ) :
    EndsWithin reply most before s ∨ Sustains reply most s := by
  induction most generalizing before s with
  | zero => exact .inr ⟨[], s, rfl, nofun, .nil s⟩
  | succ most ih =>
    rcases hkill : reply s (.kill (-1) 9) with ⟨signal, s₁⟩
    by_cases hunsignalled : ¬ Signalled signal
    · refine .inl ⟨.error (.errno signal.errno), s₁, fun more => ?_⟩
      rw [Nat.succ_add, killAll_succ, run_attended_ask, exchanges_attended_ask, hkill, signals_kill,
        if_neg hunsignalled]
      exact ⟨rfl, Nat.succ_le_succ (Nat.zero_le most)⟩
    have hsignal : Signalled signal := Decidable.not_not.mp hunsignalled
    rcases hwait : reply s₁ (.waitpid (-1)) with ⟨wait, s₂⟩
    let round : Round := ⟨signal, wait⟩
    by_cases hgoes : round.GoesOn
    · rcases ih (before + if round.Collects then 1 else 0) s₂ with
        hends | ⟨rounds, s', hlength, hrounds, hpath⟩
      · exact .inl (hends.more hgoes hkill hwait)
      · refine .inr ⟨round :: rounds, s', congrArg Nat.succ hlength,
          List.forall_mem_cons.mpr ⟨hgoes, hrounds⟩, ?_⟩
        have hsignalled :
            (attended reply).behaviour s (.call (.kill (-1) 9)) signal s₁ := by
          simp [Machine.behaviour, attended, hkill]
        have hwaited : (attended reply).behaviour s₁ (.call (.waitpid (-1))) wait s₂ := by
          simp [Machine.behaviour, attended, hwait]
        exact .cons hsignalled (.cons hwaited hpath)
    · have hcollects : ¬ 0 ≤ wait.value := fun hcollects => hgoes ⟨hsignal, .inl hcollects⟩
      have hinterrupted : wait.errno ≠ 4 := fun hinterrupted =>
        hgoes ⟨hsignal, .inr ⟨Int.not_le.mp hcollects, hinterrupted⟩⟩
      let result : Except IoError Nat :=
        if wait.errno = 10 then .ok before else .error (.errno wait.errno)
      refine .inl ⟨result, s₂, fun more => ?_⟩
      rw [Nat.succ_add, killAll_succ, run_attended_ask, exchanges_attended_ask, hkill, signals_kill,
        if_pos hsignal, run_attended_ask, exchanges_attended_ask, hwait, signals_wait,
        if_neg hcollects, if_neg hinterrupted]
      by_cases hchildless : wait.errno = 10
      · simp only [result, if_pos hchildless]
        exact ⟨rfl, Nat.succ_le_succ (Nat.zero_le most)⟩
      · simp only [result, if_neg hchildless]
        exact ⟨rfl, Nat.succ_le_succ (Nat.zero_le most)⟩

end

/-- All runs of the loop: each wait comes right after a signal to all, it goes on just as long as
the signal found all processes or none and the wait collected a child or was interrupted, and where
it stops it returns the number of children collected, if it was told that there are none left, and
otherwise the error of the call it stopped at. And on a kernel that can hand out only so many
children and so many interruptions, it ends after at most one round for each of them and one more,
with one and the same result however many rounds it is allowed beyond that. -/
theorem killAll_alternates :
    (∀ most es standing, (killAll most 0).Trace es standing ↔ Killing most 0 es standing) ∧
    ∀ (σ : Type) (reply : σ → Call → Reply × σ) (s : σ) (children interruptions : Nat),
      (∀ rounds s', (∀ round ∈ rounds, round.GoesOn) →
        (attended reply).behaviour.Path s (rounds.flatMap Round.events) s' →
        Round.collected rounds ≤ children ∧ Round.interruptions rounds ≤ interruptions) →
      ∃ result s', ∀ most, children + interruptions + 1 ≤ most →
        (killAll most 0).run (attended reply) s = (.returned result, s') ∧
        signals ((killAll most 0).exchanges (attended reply) s) ≤ children + interruptions + 1 := by
  refine ⟨fun _ _ _ => killAll_trace_iff, fun σ reply s children interruptions hfew => ?_⟩
  rcases endsWithin_or_sustains reply (children + interruptions + 1) 0 s with
    ⟨result, s', hends⟩ | ⟨rounds, s', hlength, hrounds, hpath⟩
  · refine ⟨result, s', fun most hmost => ?_⟩
    obtain ⟨more, rfl⟩ := Nat.exists_eq_add_of_le hmost
    exact hends more
  · obtain ⟨hchildren, hinterruptions⟩ := hfew rounds s' hrounds hpath
    have hsum := Round.length_eq hrounds
    omega

/-- A kernel with so many children and so many interruptions to hand out, and with no others. -/
def dwindling (s : Nat × Nat) : Call → Reply × (Nat × Nat)
  | .kill _ _ => (if s.1 = 0 then ⟨-1, 3, 0⟩ else ⟨0, 0, 0⟩, s)
  | .waitpid _ =>
    match s with
    | (children, interruptions + 1) => (⟨-1, 4, 0⟩, (children, interruptions))
    | (children + 1, 0) => (⟨7, 0, 9⟩, (children, 0))
    | (0, 0) => (⟨-1, 10, 0⟩, (0, 0))
  | _ => (⟨0, 0, 0⟩, s)

theorem dwindling_few {s s' : Nat × Nat} {rounds : List Round}
    (h : (attended dwindling).behaviour.Path s (rounds.flatMap Round.events) s') :
    Round.collected rounds ≤ s.1 ∧ Round.interruptions rounds ≤ s.2 := by
  induction rounds generalizing s with
  | nil => exact ⟨Nat.zero_le _, Nat.zero_le _⟩
  | cons round rounds ih =>
    obtain ⟨s₁, hkill, hwaits⟩ := Behaviour.path_cons_iff.mp h
    obtain ⟨s₂, hwait, hrest⟩ := Behaviour.path_cons_iff.mp hwaits
    have hkill : (some (dwindling s (.kill (-1) 9)).1,
        (dwindling s (.kill (-1) 9)).2) = (some round.signal, s₁) := hkill
    have hwait : (some (dwindling s₁ (.waitpid (-1))).1,
        (dwindling s₁ (.waitpid (-1))).2) = (some round.wait, s₂) := hwait
    obtain rfl : s = s₁ := (Prod.mk.inj hkill).2
    obtain ⟨hreply, rfl⟩ := Prod.mk.inj hwait
    have hreply := Option.some.inj hreply
    obtain ⟨hchildren, hinterruptions⟩ := ih hrest
    simp only [Round.collected_cons, Round.interruptions_cons, Round.Collects, Round.Interrupted,
      ← hreply]
    rcases s with ⟨_ | children, _ | interruptions⟩ <;>
      simp [dwindling] at hchildren hinterruptions ⊢ <;> omega

/-- Two children and one interruption: four rounds do, and any more are not needed. -/
theorem killAll_alternates_dwindling :
    (∀ rounds s', (attended dwindling).behaviour.Path (2, 1) (rounds.flatMap Round.events) s' →
      Round.collected rounds ≤ 2 ∧ Round.interruptions rounds ≤ 1) ∧
    ∀ most, 4 ≤ most →
      (killAll most 0).run (attended dwindling) (2, 1) = (.returned (.ok 2), (0, 0)) ∧
      signals ((killAll most 0).exchanges (attended dwindling) (2, 1)) ≤ 4 := by
  refine ⟨fun _ _ => dwindling_few, ?_⟩
  obtain ⟨result, s', hends⟩ :=
    killAll_alternates.2 (Nat × Nat) dwindling (2, 1) 2 1 fun _ _ _ => dwindling_few
  have hfour : (killAll 4 0).run (attended dwindling) (2, 1) = (.returned (.ok 2), (0, 0)) := rfl
  have hresult := (hends 4 (Nat.le_refl 4)).1.symm.trans hfour
  exact fun most hmost => ⟨(hends most hmost).1.trans hresult, (hends most hmost).2⟩

end GuestInit.Cleanup
