import GuestInit.Proofs.Rounds
import GuestInit.Proofs.Safety

/-! What a launch after the first one finds. Between two launches the control loop has the guest cleaned
up, and does not go on unless that succeeded: so each further launch comes in whatever state a cleanup
that succeeds brings about, be it of the guest or of what is known of it. -/

namespace GuestInit

open Program

namespace ControlLoop

variable {σ : Type}

def Request.isLaunch : Request → Bool
  | .launch _ _ => true
  | .note _ | .reap => false

/-- The same surroundings, which remember whether something was launched. -/
def remembering (R : Behaviour Collaborators σ) : Behaviour Collaborators (Bool × σ) :=
  fun m q answer m' => m'.1 = (m.1 || q.isLaunch) ∧ R m.2 q answer m'.2

theorem remembering_path {R : Behaviour Collaborators σ} {s s' : σ} {es : List Event}
    (h : R.Path s es s') (before : Bool) :
    (remembering R).Path (before, s) es (before || es.any fun e => e.request.isLaunch, s') := by
  induction h generalizing before with
  | nil s => simp
  | @cons _ s₁ _ q _ _ step _ ih =>
    have hrest := ih (before || q.isLaunch)
    rw [Bool.or_assoc] at hrest
    exact .cons ⟨rfl, step⟩ hrest

/-- A cleanup that succeeds brings surroundings into a state of a certain kind, which they stay in
when something is noted. -/
structure Restores (R : Behaviour Collaborators σ) (Restored : σ → Prop) : Prop where
  reap : ∀ {s s'}, R s .reap (.ok ()) s' → Restored s'
  note : ∀ {s record answer s'}, Restored s → R s (.note record) answer s' → Restored s'

/-- Nothing is launched a second time but in a state of a certain kind. -/
def launchesIn (Restored : σ → Prop) : Bool × σ → Request → Prop :=
  fun m q => q.isLaunch = true → m.1 = true → Restored m.2

variable {R : Behaviour Collaborators σ} {Restored : σ → Prop}

theorem launchesIn_of_not {m : Bool × σ} {q : Request} (h : q.isLaunch = false) :
    launchesIn Restored m q := by simp [launchesIn, h]

theorem step_safe (hR : Restores R Restored) {command : Command} {script : Option Int}
    {launchedBefore : Bool} {s : σ} (hrestored : launchedBefore = true → Restored s) :
    (step command script).Safe (remembering R) (launchesIn Restored)
      (fun result m => result = .ok () → m.1 = true ∧ Restored m.2) (launchedBefore, s) := by
  rw [step_eq]
  refine ⟨launchesIn_of_not rfl, fun _ m₁ noted => ⟨fun _ hlaunched => ?_, ?_⟩⟩
  · have hs : Restored s := hrestored (by simpa [Request.isLaunch, noted.1] using hlaunched)
    exact hR.note hs noted.2
  · intro answer m₂ launched
    have hlaunched : m₂.1 = true := by simp [launched.1, Request.isLaunch]
    cases answer with
    | error fault => simp
    | ok status =>
      dsimp only
      cases command.judge status with
      | error fault => simp
      | ok record =>
        have hreap (m : Bool × σ) (hm : m.1 = true) :
            (request Collaborators .reap).Safe (remembering R) (launchesIn Restored)
              (fun result m => result = .ok () → m.1 = true ∧ Restored m.2) m := by
          refine safe_request (launchesIn_of_not rfl) fun answer m' reaped hok => ?_
          obtain rfl : answer = .ok () := hok
          exact ⟨by simp [reaped.1, hm], hR.reap reaped.2⟩
        cases record with
        | none => exact hreap m₂ hlaunched
        | some record =>
          exact ⟨launchesIn_of_not rfl, fun _ m₃ noted =>
            hreap m₃ (by simp [noted.1, hlaunched])⟩

/-- Before each round the surroundings are restored, if there was a round before. -/
theorem runFrom_safe (hR : Restores R Restored) {steps : Nat} {script : Script}
    {launchedBefore : Bool} {s : σ} (hrestored : launchedBefore = true → Restored s) :
    (runFrom steps script).Safe (remembering R) (launchesIn Restored)
      (fun outcome m => ∀ total, outcome.1 = .ok total →
        (launchedBefore = true ∨ steps < total) → Restored m.2) (launchedBefore, s) := by
  induction script using Script.next_induction generalizing steps launchedBefore s with
  | failed script fault hread =>
    rw [runFrom_of_error hread]
    simp
  | ended script hread =>
    rw [runFrom_of_end hread]
    refine ⟨launchesIn_of_not rfl, fun _ m₁ noted total htotal hmade => ?_⟩
    obtain rfl : steps = total := Except.ok.inj htotal
    have hs : Restored s := hrestored (by simpa using hmade)
    exact hR.note hs noted.2
  | command script command hread ih =>
    rw [runFrom_of_command hread]
    refine (step_safe hR hrestored).bind ?_
    rintro (fault | _) ⟨launched, s₁⟩ hstep
    · simp
    · obtain ⟨rfl, hs₁⟩ := hstep rfl
      refine (ih fun _ => hs₁).mono fun outcome m hrest total htotal _ => ?_
      exact hrest total htotal (.inl rfl)

/-- Each launch but the first one, and the end without a fault after one launch at least, comes in
the state that a cleanup brings about. -/
theorem run_restores (hR : Restores R Restored) {script : Script} {s s' : σ} {es : List Event}
    {standing : Standing Collaborators Outcome} (htrace : (run script).Trace es standing)
    (hpath : R.Path s es s') :
    (∀ command descriptor, standing = .pending (.launch command descriptor) →
      (∃ e ∈ es, e.request.isLaunch = true) → Restored s') ∧
    (∀ steps rest, standing = .returned (.ok steps, rest) → 0 < steps → Restored s') := by
  have hsafe : (run script).Safe (remembering R) (launchesIn Restored)
      (fun outcome m => ∀ total, outcome.1 = .ok total → (false = true ∨ 0 < total) →
        Restored m.2) (false, s) := runFrom_safe hR nofun
  have hall := safe_iff.mp hsafe es standing _ htrace (remembering_path hpath false)
  constructor
  · intro command descriptor hstanding hlaunched
    refine hall.1 _ hstanding rfl ?_
    simpa using hlaunched
  · intro steps rest hstanding hsteps
    exact hall.2 _ hstanding steps rfl (.inr hsteps)

/-- A command of the master that succeeds is cleaned up after, and then the next one is launched. -/
theorem run_second_launch {script : Script} {first second : Command}
    (hfirst : script.next.1 = .ok (some first)) (hmaster : first.privilege = .master)
    (hsecond : script.next.2.next.1 = .ok (some second)) :
    (run script).Trace [announced first, launched first script.descriptor (.ok (.code 0)),
      reaped (.ok ()), announced second]
      (.pending (.launch second script.next.2.descriptor)) := by
  have hpass : first.Passes (.code 0) := .inr rfl
  have hsilent : first.routineRecord (.code 0) = none := by simp [Command.routineRecord, hmaster]
  have hfirstRound : (step first script.descriptor).Trace
      [announced first, launched first script.descriptor (.ok (.code 0)), reaped (.ok ())]
      (.returned (.ok ())) := by
    rw [step_eq]
    refine .ask _ (.ask _ ?_)
    simp only [Command.judge_of_passes hpass, hsilent]
    exact .ask _ (.done _)
  rw [run, runFrom_of_command hfirst]
  refine trace_bind_iff.mpr (.inl ⟨_, _, [announced second], rfl, hfirstRound, ?_⟩)
  show (runFrom 1 script.next.2).Trace _ _
  rw [runFrom_of_command hsecond]
  exact .ask _ (.pending _ _)

end ControlLoop

end GuestInit
