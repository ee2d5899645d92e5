import GuestInit.Proofs.KillLoop
import GuestInit.Proofs.SweepLoops

/-! What a cleanup does, in order and to the last call. The complete runs of a cleanup are laid down
as data: the rounds of the loop that kills, and for each class one question for the highest index,
the slots up to it, and a removal of each object found there. Every other run is the start of a
complete one, as long as the loop that kills is not cut off. Main statement: `reap_in_order`. -/

namespace GuestInit

namespace Cleanup

open Kernel Program

/-- The identifiers by which slots are described, in order. A slot without one is empty. -/
def identifiers (slots : List Reply) : List Int :=
  slots.filterMap fun slot => if 0 ≤ slot.value then some slot.value else none

/-- A question for each slot from 0 on. -/
def descriptions (ipcClass : Ipc.Class) (slots : List Reply) : List Event :=
  slots.mapIdx fun index slot => answered (.ipcControl ipcClass .stat index) slot

/-- The attempt to remove an object, and a report if it failed. -/
def removal (ipcClass : Ipc.Class) (id : Int) (reply : Reply) : List Event :=
  answered (.ipcControl ipcClass .remove id) reply ::
    if reply.value < 0 then
      [⟨.log (.debug s!"remove {ipcClass.name} {id}: {(IoError.errno reply.errno).message}"), ()⟩]
    else []

/-- One attempt for each object. -/
def removals (ipcClass : Ipc.Class) (ids : List Int) (replies : List Reply) : List Event :=
  (List.zipWith (removal ipcClass) ids replies).flatten

/-- How many attempts succeeded. -/
def successes (replies : List Reply) : Nat := replies.countP (0 ≤ ·.value)

/-- The complete sweeps of a class: the question for the highest index fails, or all slots up to
that index are asked for, and then all objects found there are removed. -/
inductive Sweeping (ipcClass : Ipc.Class) : List Event → Except Fault Nat → Prop
  | unknown {info : Reply} (hfailed : info.value < 0) :
      Sweeping ipcClass [answered (.ipcControl ipcClass .info 0) info]
        (.error (.ipcInfo ipcClass (.errno info.errno)))
  | swept {info : Reply} {slots replies : List Reply} (hknown : 0 ≤ info.value)
      (hslots : (slots.length : Int) = info.value + 1)
      (hreplies : replies.length = (identifiers slots).length) :
      Sweeping ipcClass (answered (.ipcControl ipcClass .info 0) info ::
          descriptions ipcClass slots ++ removals ipcClass (identifiers slots) replies)
        (.ok (successes replies))

/-- The complete sweeps of classes one after the other. The first one that fails is the last one. -/
inductive SweepingAll : List Ipc.Class → List Event → Except Fault Nat → Prop
  | nil : SweepingAll [] [] (.ok 0)
  | failed {ipcClass : Ipc.Class} {es : List Event} {fault : Fault} (rest : List Ipc.Class)
      (h : Sweeping ipcClass es (.error fault)) : SweepingAll (ipcClass :: rest) es (.error fault)
  | cons {ipcClass : Ipc.Class} {rest : List Ipc.Class} {es es' : List Event} {removed : Nat}
      {result : Except Fault Nat} (h : Sweeping ipcClass es (.ok removed))
      (hrest : SweepingAll rest es' result) :
      SweepingAll (ipcClass :: rest) (es ++ es') (result.map (removed + ·))

/-- What is said of a cleanup that had anything to do. -/
def summary (collected removed : Nat) : List Event :=
  if 0 < collected ∨ 0 < removed then
    [⟨.log (.info s!"cleanup: collected {collected} processes, removed {removed} IPC objects"), ()⟩]
  else []

/-- The classes, in the order in which a cleanup sweeps them. -/
def sweepOrder : List Ipc.Class := [.sharedMemory, .semaphores, .messageQueues]

/-- The complete cleanups. -/
inductive Cleaning (rounds : Nat) : List Event → Except Fault Unit → Prop
  | unkilled {es : List Event} {cause : IoError}
      (hkill : Killing rounds 0 es (.returned (.error cause))) :
      Cleaning rounds es (.error (.kill cause))
  | unswept {es es' : List Event} {collected : Nat} {fault : Fault}
      (hkill : Killing rounds 0 es (.returned (.ok collected)))
      (hsweep : SweepingAll sweepOrder es' (.error fault)) :
      Cleaning rounds (es ++ es') (.error fault)
  | cleaned {es es' : List Event} {collected removed : Nat}
      (hkill : Killing rounds 0 es (.returned (.ok collected)))
      (hsweep : SweepingAll sweepOrder es' (.ok removed)) :
      Cleaning rounds (es ++ es' ++ summary collected removed) (.ok ())

section Sweep

variable {ipcClass : Ipc.Class} {es : List Event}

theorem identifiers_cons (slot : Reply) (slots : List Reply) :
    identifiers (slot :: slots) = slot.result.toOption.toList ++ identifiers slots := by
  by_cases hvalue : 0 ≤ slot.value
  · simp [identifiers, hvalue, Reply.result_of_nonneg hvalue, Except.toOption]
  · simp [identifiers, hvalue, Reply.result_of_neg (Int.not_le.mp hvalue), Except.toOption]

theorem reverse_append_identifiers (found : List Int) (slot : Reply) (slots : List Reply) :
    (slot.result.toOption.toList ++ found).reverse ++ identifiers slots =
      found.reverse ++ identifiers (slot :: slots) := by
  rw [identifiers_cons]
  cases slot.result.toOption <;> simp

theorem removals_cons (id : Int) (ids : List Int) (reply : Reply) (replies : List Reply) :
    removals ipcClass (id :: ids) (reply :: replies) =
      removal ipcClass id reply ++ removals ipcClass ids replies := rfl

theorem describeFrom_succ (count : Nat) (index : Int) (found : List Int) :
    (Ipc.describeFrom (count + 1) index found).interpret (askTable ipcClass) =
      .ask (.call (.ipcControl ipcClass .stat index)) fun slot =>
        (Ipc.describeFrom count (index + 1) (slot.result.toOption.toList ++ found)).interpret
          (askTable ipcClass) := by
  refine congrArg (Program.ask (I := Surroundings) _) (funext fun (slot : Reply) => ?_)
  simp only [Program.bind, Program.pure_eq]
  cases slot.result with
  | ok value => rfl
  | error cause => rfl

theorem removeAll_cons (id : Int) (rest : List Int) (removed : Nat) :
    (Ipc.removeAll ipcClass (id :: rest) removed).interpret (askTable ipcClass) =
      .ask (.call (.ipcControl ipcClass .remove id)) fun reply =>
        if reply.value < 0 then
          .ask (.log (Ipc.refusalRecord ipcClass id (.errno reply.errno))) fun _ =>
            (Ipc.removeAll ipcClass rest removed).interpret (askTable ipcClass)
        else (Ipc.removeAll ipcClass rest (removed + 1)).interpret (askTable ipcClass) := by
  refine congrArg (Program.ask (I := Surroundings) _) (funext fun (reply : Reply) => ?_)
  by_cases hfailed : reply.value < 0
  · rw [if_pos hfailed]
    simp only [Program.bind, Program.pure_eq, Reply.result_of_neg hfailed]
    rfl
  · rw [if_neg hfailed]
    simp only [Program.bind, Program.pure_eq, Reply.result_of_nonneg (Int.not_lt.mp hfailed)]
    rfl

/-- The slots are asked for in ascending order, and nothing else is done. -/
theorem describeFrom_trace_iff {count : Nat} {index : Int} {found ids : List Int} :
    ((Ipc.describeFrom count index found).interpret (askTable ipcClass)).Trace es (.returned ids) ↔
      ∃ slots : List Reply, slots.length = count ∧
        es = slots.mapIdx (fun i slot => answered (.ipcControl ipcClass .stat (index + i)) slot) ∧
        ids = found.reverse ++ identifiers slots := by
  induction count generalizing index found es with
  | zero =>
    rw [Ipc.describeFrom, Program.interpret_done, trace_done_iff]
    simp [List.length_eq_zero_iff, identifiers]
  | succ count ih =>
    have hshift (i : Nat) : index + 1 + (i : Int) = index + ((i + 1 : Nat) : Int) := by omega
    rw [describeFrom_succ, trace_ask_returned_iff]
    simp only [ih, hshift]
    constructor
    · rintro ⟨slot, _, rfl, slots, rfl, rfl, rfl⟩
      refine ⟨slot :: slots, rfl, ?_, reverse_append_identifiers found slot slots⟩
      rw [List.mapIdx_cons, Int.natCast_zero, Int.add_zero]
      rfl
    · rintro ⟨_ | ⟨slot, slots⟩, hcount, rfl, rfl⟩
      · cases hcount
      · refine ⟨slot, _, ?_, slots, Nat.succ.inj hcount, rfl,
          (reverse_append_identifiers found slot slots).symm⟩
        rw [List.mapIdx_cons, Int.natCast_zero, Int.add_zero]
        rfl

theorem successes_cons (reply : Reply) (replies : List Reply) :
    successes (reply :: replies) = successes replies + if 0 ≤ reply.value then 1 else 0 := by
  simp [successes, List.countP_cons]

/-- One attempt, and then those for the other objects, whatever came of it. -/
theorem removeAll_cons_trace_iff {id : Int} {rest : List Int} {removed total : Nat} :
    ((Ipc.removeAll ipcClass (id :: rest) removed).interpret (askTable ipcClass)).Trace es
        (.returned total) ↔
      ∃ reply es', es = removal ipcClass id reply ++ es' ∧
        ((Ipc.removeAll ipcClass rest (removed + if 0 ≤ reply.value then 1 else 0)).interpret
          (askTable ipcClass)).Trace es' (.returned total) := by
  rw [removeAll_cons, trace_ask_returned_iff]
  refine exists_congr fun reply => ?_
  by_cases hfailed : reply.value < 0
  · rw [if_pos hfailed, if_neg (Int.not_le.mpr hfailed), removal, if_pos hfailed]
    constructor
    · rintro ⟨_, rfl, hnext⟩
      obtain ⟨_, es', rfl, hrest⟩ := trace_ask_returned_iff.mp hnext
      exact ⟨es', rfl, hrest⟩
    · rintro ⟨es', rfl, hrest⟩
      exact ⟨_, rfl, .ask _ hrest⟩
  · rw [if_neg hfailed, if_pos (Int.not_lt.mp hfailed), removal, if_neg hfailed]
    rfl

/-- Each object has its removal attempted once, in order, whatever came of those before it. -/
theorem removeAll_trace_iff {ids : List Int} {removed total : Nat} :
    ((Ipc.removeAll ipcClass ids removed).interpret (askTable ipcClass)).Trace es
        (.returned total) ↔
      ∃ replies : List Reply, replies.length = ids.length ∧ es = removals ipcClass ids replies ∧
        total = removed + successes replies := by
  induction ids generalizing removed es with
  | nil =>
    rw [Ipc.removeAll, Program.interpret_done, trace_done_iff]
    simp [List.length_eq_zero_iff, removals, successes]
  | cons id ids ih =>
    simp only [removeAll_cons_trace_iff, ih]
    constructor
    · rintro ⟨reply, _, rfl, replies, hlength, rfl, rfl⟩
      refine ⟨reply :: replies, congrArg Nat.succ hlength, removals_cons .. |>.symm, ?_⟩
      rw [successes_cons]
      omega
    · rintro ⟨_ | ⟨reply, replies⟩, hlength, rfl, rfl⟩
      · cases hlength
      · refine ⟨reply, _, removals_cons .., replies, Nat.succ.inj hlength, rfl, ?_⟩
        rw [successes_cons]
        omega

theorem sweep_eq (ipcClass : Ipc.Class) : sweep ipcClass =
    .ask (.call (.ipcControl ipcClass .info 0)) fun info =>
      if info.value < 0 then .done (.error (.ipcInfo ipcClass (.errno info.errno)))
      else
        (Ipc.describeFrom (info.value + 1).toNat 0 []).interpret (askTable ipcClass) >>= fun ids =>
        (Ipc.removeAll ipcClass ids 0).interpret (askTable ipcClass) >>= fun removed =>
          .done (.ok removed) := by
  rw [sweep, Ipc.sweep_eq]
  refine congrArg (Program.ask (I := Surroundings) _) (funext fun (info : Reply) => ?_)
  by_cases hfailed : info.value < 0
  · rw [if_pos hfailed]
    simp only [Program.bind, Program.pure_eq, Reply.result_of_neg hfailed]
    rfl
  · rw [if_neg hfailed]
    simp only [Program.bind, Program.pure_eq, Reply.result_of_nonneg (Int.not_lt.mp hfailed),
      Program.interpret_bind, Program.interpret_done]

theorem sweep_trace_iff {result : Except Fault Nat} :
    (sweep ipcClass).Trace es (.returned result) ↔ Sweeping ipcClass es result := by
  have hdescriptions (slots : List Reply) : slots.mapIdx (fun i slot =>
      answered (.ipcControl ipcClass .stat (0 + i)) slot) = descriptions ipcClass slots := by
    simp only [Int.zero_add, descriptions]
  rw [sweep_eq, trace_ask_returned_iff]
  constructor
  · rintro ⟨info, rest, rfl, hrest⟩
    by_cases hfailed : info.value < 0
    · rw [if_pos hfailed] at hrest
      obtain ⟨rfl, hresult⟩ := trace_done_iff.mp hrest
      cases hresult
      exact .unknown hfailed
    · rw [if_neg hfailed] at hrest
      obtain ⟨ids, es₁, es₂, rfl, hdescribe, hremovals⟩ := trace_bind_returned_iff.mp hrest
      obtain ⟨removed, es₃, es₄, rfl, hremove, hdone⟩ := trace_bind_returned_iff.mp hremovals
      obtain ⟨rfl, hresult⟩ := trace_done_iff.mp hdone
      cases hresult
      obtain ⟨slots, hslots, rfl, rfl⟩ := describeFrom_trace_iff.mp hdescribe
      obtain ⟨replies, hreplies, rfl, rfl⟩ := removeAll_trace_iff.mp hremove
      rw [hdescriptions, List.append_nil, Nat.zero_add]
      exact .swept (by omega) (by omega) hreplies
  · rintro (@⟨info, hfailed⟩ | @⟨info, slots, replies, hknown, hslots, hreplies⟩)
    · refine ⟨info, [], rfl, ?_⟩
      rw [if_pos hfailed]
      exact .done _
    · refine ⟨info, _, rfl, ?_⟩
      rw [if_neg (by omega)]
      have hcount : slots.length = (info.value + 1).toNat := by omega
      refine trace_bind_returned_iff.mpr ⟨_, _, _, rfl,
        describeFrom_trace_iff.mpr ⟨slots, hcount, (hdescriptions slots).symm, rfl⟩, ?_⟩
      refine trace_bind_returned_iff.mpr ⟨_, _, [], (List.append_nil _).symm,
        removeAll_trace_iff.mpr ⟨replies, hreplies, rfl, rfl⟩, ?_⟩
      rw [Nat.zero_add]
      exact .done _

theorem sweepAll_trace_iff {classes : List Ipc.Class} {removed : Nat} {result : Except Fault Nat} :
    (sweepAll classes removed).Trace es (.returned result) ↔
      ∃ swept, SweepingAll classes es swept ∧ result = swept.map (removed + ·) := by
  induction classes generalizing removed es with
  | nil =>
    rw [sweepAll, Program.pure_eq, trace_done_iff]
    constructor
    · rintro ⟨rfl, hresult⟩
      cases hresult
      exact ⟨.ok 0, .nil, rfl⟩
    · rintro ⟨_, ⟨⟩, rfl⟩
      exact ⟨rfl, rfl⟩
  | cons ipcClass rest ih =>
    rw [sweepAll, trace_bind_returned_iff]
    constructor
    · rintro ⟨swept, es₁, es₂, rfl, hsweep, hrest⟩
      have hsweep := sweep_trace_iff.mp hsweep
      cases swept with
      | error fault =>
        obtain ⟨rfl, hresult⟩ := trace_done_iff.mp hrest
        cases hresult
        rw [List.append_nil]
        exact ⟨.error fault, .failed rest hsweep, rfl⟩
      | ok more =>
        obtain ⟨swept, hswept, rfl⟩ := ih.mp hrest
        refine ⟨swept.map (more + ·), .cons hsweep hswept, ?_⟩
        cases swept with
        | error fault => rfl
        | ok total => exact congrArg Except.ok (Nat.add_assoc removed more total)
    · rintro ⟨swept, hswept, rfl⟩
      cases hswept with
      | failed _ hsweep =>
        exact ⟨_, es, [], (List.append_nil es).symm, sweep_trace_iff.mpr hsweep, .done _⟩
      | @cons _ _ es₁ es₂ more total hsweep hrest =>
        refine ⟨_, es₁, es₂, rfl, sweep_trace_iff.mpr hsweep, ih.mpr ⟨total, hrest, ?_⟩⟩
        cases total with
        | error fault => rfl
        | ok total => exact congrArg Except.ok (Nat.add_assoc removed more total).symm

theorem sweepAll_zero_trace_iff {classes : List Ipc.Class} {result : Except Fault Nat} :
    (sweepAll classes 0).Trace es (.returned result) ↔ SweepingAll classes es result := by
  have hzero (swept : Except Fault Nat) : swept.map (0 + ·) = swept := by
    cases swept with
    | error fault => rfl
    | ok removed => exact congrArg Except.ok (Nat.zero_add removed)
  simp only [sweepAll_trace_iff, hzero, exists_eq_right']

end Sweep

section Answerable

theorem askTable_answerable (ipcClass : Ipc.Class) (q : Ipc.Request) :
    (askTable ipcClass q).Answerable := by
  cases q with
  | maxIndex => exact ⟨⟨⟨0, 0, 0⟩⟩, fun _ => trivial⟩
  | describe index => exact ⟨⟨⟨0, 0, 0⟩⟩, fun _ => trivial⟩
  | remove id => exact ⟨⟨⟨0, 0, 0⟩⟩, fun _ => trivial⟩
  | note record => exact ⟨⟨()⟩, fun _ => trivial⟩

theorem sweepAll_answerable (classes : List Ipc.Class) (removed : Nat) :
    (sweepAll classes removed).Answerable := by
  induction classes generalizing removed with
  | nil => trivial
  | cons ipcClass rest ih =>
    refine ((Ipc.sweep_answerable ipcClass).interpret (askTable_answerable ipcClass)).bind ?_
    intro swept
    cases swept with
    | error fault => trivial
    | ok more => exact ih (removed + more)

end Answerable

/-- The part of a cleanup after the loop that kills. -/
def sweepAfter (collected : Nat) : Action (Except Fault Unit) := do
  match ← sweepAll Ipc.Class.all 0 with
  | .error fault => return .error fault
  | .ok removed =>
    if 0 < collected ∨ 0 < removed then Action.log (cleanupRecord collected removed)
    return .ok ()

theorem reap_eq (rounds : Nat) : reap rounds = killAll rounds 0 >>= fun
    | .error cause => .done (.error (.kill cause))
    | .ok collected => sweepAfter collected := by
  refine bind_congr fun killed => ?_
  cases killed with
  | error cause => rfl
  | ok collected => rfl

theorem sweepAfter_answerable (collected : Nat) : (sweepAfter collected).Answerable := by
  refine (sweepAll_answerable Ipc.Class.all 0).bind fun swept => ?_
  cases swept with
  | error fault => trivial
  | ok removed =>
    dsimp only
    split
    · exact ⟨⟨()⟩, fun _ => trivial⟩
    · trivial

section Reap

variable {rounds collected : Nat} {es : List Event} {result : Except Fault Unit}

/-- What is said at the end of a cleanup is said in one record or not at all. -/
theorem summary_trace_iff {removed : Nat} :
    (do
      if 0 < collected ∨ 0 < removed then Action.log (cleanupRecord collected removed)
      return .ok () : Action (Except Fault Unit)).Trace es (.returned result) ↔
      es = summary collected removed ∧ result = .ok () := by
  unfold summary
  split
  · constructor
    · intro h
      obtain ⟨_, _, rfl, hdone⟩ := trace_ask_returned_iff.mp h
      obtain ⟨rfl, hresult⟩ := trace_done_iff.mp hdone
      exact ⟨rfl, Standing.returned.inj hresult⟩
    · rintro ⟨rfl, rfl⟩
      exact .ask _ (.done _)
  · constructor
    · intro h
      obtain ⟨rfl, hresult⟩ := trace_done_iff.mp h
      exact ⟨rfl, Standing.returned.inj hresult⟩
    · rintro ⟨rfl, rfl⟩
      exact .done _

theorem reap_trace_iff : (reap rounds).Trace es (.returned result) ↔ Cleaning rounds es result := by
  rw [reap_eq, trace_bind_returned_iff]
  constructor
  · rintro ⟨killed, es₁, es₂, rfl, hkill, hrest⟩
    have hkill := killAll_trace_iff.mp hkill
    cases killed with
    | error cause =>
      obtain ⟨rfl, hresult⟩ := trace_done_iff.mp hrest
      cases hresult
      rw [List.append_nil]
      exact .unkilled hkill
    | ok collected =>
      obtain ⟨swept, es₃, es₄, rfl, hsweep, hend⟩ := trace_bind_returned_iff.mp hrest
      have hsweep := sweepAll_zero_trace_iff.mp hsweep
      cases swept with
      | error fault =>
        obtain ⟨rfl, hresult⟩ := trace_done_iff.mp hend
        cases hresult
        rw [List.append_nil]
        exact .unswept hkill hsweep
      | ok removed =>
        obtain ⟨rfl, rfl⟩ := summary_trace_iff.mp hend
        rw [← List.append_assoc]
        exact .cleaned hkill hsweep
  · intro h
    cases h with
    | unkilled hkill =>
      exact ⟨_, es, [], (List.append_nil es).symm, killAll_trace_iff.mpr hkill, .done _⟩
    | unswept hkill hsweep =>
      refine ⟨_, _, _, rfl, killAll_trace_iff.mpr hkill, ?_⟩
      exact trace_bind_returned_iff.mpr ⟨_, _, [], (List.append_nil _).symm,
        sweepAll_zero_trace_iff.mpr hsweep, .done _⟩
    | cleaned hkill hsweep =>
      refine ⟨_, _, _, List.append_assoc .., killAll_trace_iff.mpr hkill, ?_⟩
      exact trace_bind_returned_iff.mpr ⟨_, _, _, rfl, sweepAll_zero_trace_iff.mpr hsweep,
        summary_trace_iff.mpr ⟨rfl, rfl⟩⟩

/-- Where the loop that kills waits for an answer, the next one may be its last. -/
theorem Killing.fails {most before : Nat} {q : Request} (h : Killing most before es (.pending q)) :
    ∃ answer cause, Killing most before (es ++ [⟨q, answer⟩]) (.returned (.error cause)) := by
  let refusal : Reply := ⟨-1, Errno.notPermitted, 0⟩
  have hrefused : refusal.value < 0 ∧ refusal.errno ≠ Errno.noChild ∧
      refusal.errno ≠ Errno.interrupted := by decide
  cases h with
  | signalling rounds hrounds hmost =>
    exact ⟨refusal, _, .unsignalled rounds hrounds hmost (by decide)⟩
  | @waiting rounds signal hrounds hmost hsignal =>
    refine ⟨refusal, .errno Errno.notPermitted, ?_⟩
    rw [List.append_assoc]
    exact @Killing.refused _ _ rounds ⟨signal, refusal⟩ hrounds hmost hsignal hrefused.1
      hrefused.2.1 hrefused.2.2

theorem reap_completes {q : Request} (h : (reap rounds).Trace es (.pending q)) :
    ∃ answer rest result, (reap rounds).Trace (es ++ ⟨q, answer⟩ :: rest) (.returned result) := by
  rw [reap_eq] at h ⊢
  rcases trace_bind_iff.mp h with ⟨killed, es₁, es₂, rfl, hkill, hrest⟩ | ⟨r, hr, hkill⟩ | ⟨hr, -⟩
  · cases killed with
    | error cause => cases hrest
    | ok collected =>
      obtain ⟨answer, rest, result, htrace⟩ := (sweepAfter_answerable collected).completes hrest
      refine ⟨answer, rest, result, trace_bind_returned_iff.mpr ⟨_, es₁, _, ?_, hkill, htrace⟩⟩
      exact List.append_assoc ..
  · cases hr
    obtain ⟨answer, cause, hkilled⟩ := (killAll_trace_iff.mp hkill).fails
    exact ⟨answer, [], _, trace_bind_returned_iff.mpr
      ⟨_, _, [], (List.append_nil _).symm, killAll_trace_iff.mpr hkilled, .done _⟩⟩
  · cases hr

/-- All runs of a cleanup. -/
theorem reap_in_order (rounds : Nat) :
    (∀ es result, (reap rounds).Trace es (.returned result) ↔ Cleaning rounds es result) ∧
    (∀ es q, (reap rounds).Trace es (.pending q) ↔
      ∃ answer rest result, Cleaning rounds (es ++ ⟨q, answer⟩ :: rest) result) ∧
    ∀ es, (reap rounds).Trace es .unfinished ↔ Killing rounds 0 es .unfinished := by
  refine ⟨fun _ _ => reap_trace_iff, fun es q => ⟨fun h => ?_, ?_⟩, fun es => ?_⟩
  · obtain ⟨answer, rest, result, htrace⟩ := reap_completes h
    exact ⟨answer, rest, result, reap_trace_iff.mp htrace⟩
  · rintro ⟨answer, rest, result, hcleaning⟩
    exact (reap_trace_iff.mpr hcleaning).cut
  · rw [reap_eq, trace_bind_iff]
    constructor
    · rintro (⟨killed, es₁, es₂, rfl, -, hrest⟩ | ⟨q, hpending, -⟩ | ⟨-, hkill⟩)
      · cases killed with
        | error cause => cases hrest
        | ok collected => exact absurd hrest (sweepAfter_answerable collected).not_cut
      · cases hpending
      · exact killAll_trace_iff.mp hkill
    · exact fun hkilling => .inr (.inr ⟨rfl, killAll_trace_iff.mpr hkilling⟩)

end Reap

end Cleanup
end GuestInit
