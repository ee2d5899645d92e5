import GuestInit.Proofs.Duties
import GuestInit.Proofs.Relaunch

/-! What a sweep leaves behind of what it saw. Main statement: each object that a query describes has its
removal attempted, so that only an object of which the kernel refused the removal can be left. But no
refusal ends a sweep, whatever the reason is, and the run goes on beside the object. -/

namespace GuestInit

open Kernel Program
open Behaviour (recording)

namespace Cleanup

/-- An object of a class, by its identifier. -/
abbrev Object := Ipc.Class × Int

/-- A removal went through, or there was no such object any more. That is error 22, or error 43 if it
went away while it was asked for. -/
def Gone (reply : Reply) : Prop := 0 ≤ reply.value ∨ reply.errno = 22 ∨ reply.errno = 43

instance : DecidablePred Gone := fun _ => inferInstanceAs (Decidable (_ ∨ _))

/-- The objects that may be there after an exchange: one that a slot is described by comes in, and
stays until a removal tells that it is gone. -/
def survive : List Object → Event → List Object
  | objects, ⟨.call (.ipcControl ipcClass .stat _), reply⟩ =>
    if 0 ≤ reply.value then (ipcClass, reply.value) :: objects else objects
  | objects, ⟨.call (.ipcControl ipcClass .remove id), reply⟩ =>
    if Gone reply then objects.filter (· ≠ (ipcClass, id)) else objects
  | objects, _ => objects

/-- Of the objects seen in a run, those that may still be there. -/
def survivors (es : List Event) : List Object := es.foldl survive []

/-- The object whose removal failed though it may still be there. -/
def refusal? : Event → Option Object
  | ⟨.call (.ipcControl ipcClass .remove id), reply⟩ =>
    if Gone reply then none else some (ipcClass, id)
  | _ => none

/-- The objects that could not be removed. -/
def refusals (es : List Event) : List Object := es.filterMap refusal?

theorem survivors_concat (es : List Event) (e : Event) :
    survivors (es ++ [e]) = survive (survivors es) e := by simp [survivors]

theorem refusals_concat (es : List Event) (e : Event) :
    refusals (es ++ [e]) = refusals es ++ (refusal? e).toList := by
  cases h : refusal? e <;> simp [refusals, h]

/-- A request that neither describes an object nor removes one. -/
def Neutral : Request → Prop
  | .call (.ipcControl _ .stat _) | .call (.ipcControl _ .remove _) => False
  | _ => True

theorem survive_of_neutral {e : Event} (h : Neutral e.request) (objects : List Object) :
    survive objects e = objects := by
  unfold survive
  split
  · exact h.elim
  · exact h.elim
  · rfl

/-- Whatever may still be there was refused, but for the objects of a class whose removal is yet to
be attempted. -/
def Accounted (ipcClass : Ipc.Class) (ids : List Int) (es : List Event) : Prop :=
  ∀ object ∈ survivors es, object ∈ refusals es ∨ ∃ id ∈ ids, object = (ipcClass, id)

theorem accounted_nil_iff (ipcClass : Ipc.Class) {es : List Event} :
    Accounted ipcClass [] es ↔ survivors es ⊆ refusals es := by
  simp [Accounted, List.subset_def]

section

variable {ipcClass : Ipc.Class} {ids : List Int} {es : List Event}

theorem Accounted.neutral {e : Event} (h : Accounted ipcClass ids es) (he : Neutral e.request) :
    Accounted ipcClass ids (es ++ [e]) := by
  intro object hobject
  rw [survivors_concat, survive_of_neutral he] at hobject
  rw [refusals_concat]
  exact (h object hobject).imp_left (List.mem_append_left _)

theorem Accounted.described {index : Int} {reply : Reply} (h : Accounted ipcClass ids es) :
    Accounted ipcClass (reply.result.toOption.toList ++ ids)
      (es ++ [answered (.ipcControl ipcClass .stat index) reply]) := by
  intro object hobject
  rw [survivors_concat] at hobject
  rw [refusals_concat]
  have hbefore (hmem : object ∈ survivors es) :
      object ∈ refusals es ++ (refusal? (answered (.ipcControl ipcClass .stat index) reply)).toList ∨
        ∃ id ∈ reply.result.toOption.toList ++ ids, object = (ipcClass, id) :=
    (h object hmem).imp (List.mem_append_left _) fun ⟨id, hid, heq⟩ =>
      ⟨id, List.mem_append_right _ hid, heq⟩
  by_cases hvalue : 0 ≤ reply.value
  · have hresult : reply.result = .ok reply.value := Reply.result_of_nonneg hvalue
    simp only [survive, answered, hvalue, if_true, List.mem_cons] at hobject
    rcases hobject with rfl | hmem
    · exact .inr ⟨reply.value, by simp [hresult, Except.toOption], rfl⟩
    · exact hbefore hmem
  · simp only [survive, answered, hvalue, if_false] at hobject
    exact hbefore hobject

theorem Accounted.removed {id : Int} {reply : Reply} (h : Accounted ipcClass (id :: ids) es) :
    Accounted ipcClass ids (es ++ [answered (.ipcControl ipcClass .remove id) reply]) := by
  intro object hobject
  rw [survivors_concat] at hobject
  rw [refusals_concat]
  by_cases hgone : Gone reply
  · simp only [survive, answered, hgone, if_true, List.mem_filter, decide_eq_true_eq] at hobject
    rcases h object hobject.1 with hrefused | ⟨n, hn, rfl⟩
    · exact .inl (List.mem_append_left _ hrefused)
    · have hne : n ≠ id := fun heq => hobject.2 (by rw [heq])
      exact .inr ⟨n, (List.mem_cons.mp hn).resolve_left hne, rfl⟩
  · simp only [survive, answered, hgone, if_false] at hobject
    rcases h object hobject with hrefused | ⟨n, hn, rfl⟩
    · exact .inl (List.mem_append_left _ hrefused)
    · rcases List.mem_cons.mp hn with rfl | hn
      · exact .inl (List.mem_append_right _ (by simp [refusal?, answered, hgone]))
      · exact .inr ⟨n, hn, rfl⟩

end

/-- A question to the table of a class, and the exchange with the kernel that answers it. -/
inductive Conveys (ipcClass : Ipc.Class) : Exchange Ipc.TableAccess → Event → Prop
  | maxIndex (reply : Reply) : Conveys ipcClass ⟨.maxIndex, reply.result⟩
      (answered (.ipcControl ipcClass .info 0) reply)
  | describe (index : Int) (reply : Reply) :
      Conveys ipcClass ⟨.describe index, reply.result.toOption⟩
        (answered (.ipcControl ipcClass .stat index) reply)
  | remove (id : Int) (reply : Reply) :
      Conveys ipcClass ⟨.remove id, reply.result.map fun _ => ()⟩
        (answered (.ipcControl ipcClass .remove id) reply)
  | note (record : Record) : Conveys ipcClass ⟨.note record, ()⟩ ⟨.log record, ()⟩

/-- How the table of a class answers by way of a kernel, of which all is kept. -/
def asking (ipcClass : Ipc.Class) : Behaviour Ipc.TableAccess (List Event) :=
  fun es q answer es' => ∃ e, Conveys ipcClass ⟨q, answer⟩ e ∧ es' = es ++ [e]

theorem askTable_asks (ipcClass : Ipc.Class) (q : Ipc.Request) (es : List Event) :
    (askTable ipcClass q).Safe (recording Surroundings) anything (asking ipcClass es q) es := by
  cases q with
  | maxIndex => exact ⟨trivial, fun reply _ kept => ⟨_, .maxIndex reply, kept⟩⟩
  | describe index => exact ⟨trivial, fun reply _ kept => ⟨_, .describe index reply, kept⟩⟩
  | remove id => exact ⟨trivial, fun reply _ kept => ⟨_, .remove id reply, kept⟩⟩
  | note record => exact ⟨trivial, fun _ _ kept => ⟨_, .note record, kept⟩⟩

/-- All slots of a class below an index were asked for. -/
def Described (ipcClass : Ipc.Class) (bound : Int) (es : List Event) : Prop :=
  ∀ index, 0 ≤ index → index < bound →
    ∃ reply, answered (.ipcControl ipcClass .stat index) reply ∈ es

/-- All slots of a class were asked for, up to the highest index in use. -/
def Inspected (ipcClass : Ipc.Class) (es : List Event) : Prop :=
  ∃ reply, answered (.ipcControl ipcClass .info 0) reply ∈ es ∧ 0 ≤ reply.value ∧
    Described ipcClass (reply.value + 1) es

theorem Described.mono {ipcClass : Ipc.Class} {bound : Int} {es es' : List Event}
    (h : Described ipcClass bound es) (hes : es <+: es') : Described ipcClass bound es' := by
  intro index hindex hbound
  obtain ⟨reply, hreply⟩ := h index hindex hbound
  exact ⟨reply, hes.subset hreply⟩

theorem Inspected.mono {ipcClass : Ipc.Class} {es es' : List Event} (h : Inspected ipcClass es)
    (hes : es <+: es') : Inspected ipcClass es' := by
  obtain ⟨reply, hreply, hvalue, hdescribed⟩ := h
  exact ⟨reply, hes.subset hreply, hvalue, hdescribed.mono hes⟩

section

variable {ipcClass : Ipc.Class} {es : List Event}

/-- What is found in the slots goes on the list of what is yet to be removed. -/
theorem describeFrom_inspects (count : Nat) (h : Accounted ipcClass [] es) :
    (Ipc.describeFrom count 0 []).Safe (asking ipcClass) anything
      (fun ids es' => es <+: es' ∧ Accounted ipcClass ids es' ∧ Described ipcClass count es')
      es := by
  have hloop : (Ipc.describeFrom count 0 []).Safe (asking ipcClass) anything
      (fun ids es' => es <+: es' ∧ Accounted ipcClass ids.reverse es' ∧
        Described ipcClass (0 + count) es') es := by
    refine Ipc.describeFrom_invariant (motive := fun index found es' => es <+: es' ∧
      Accounted ipcClass found es' ∧ Described ipcClass index es') (fun _ => trivial) ?_ count
      ⟨List.prefix_rfl, h, fun index hindex hbound => by omega⟩
    rintro index found es₁ answer _ ⟨hes₁, hfound, hdescribed⟩ ⟨_, conveyed, rfl⟩
    cases conveyed with | describe _ reply
    have hgrown := List.prefix_append es₁ [answered (.ipcControl ipcClass .stat index) reply]
    refine ⟨hes₁.trans hgrown, hfound.described, fun other hother hbound => ?_⟩
    by_cases hlast : other = index
    · exact ⟨reply, by simp [hlast]⟩
    · exact hdescribed.mono hgrown other hother (by omega)
  refine hloop.mono fun ids es' ⟨hes', hids, hdescribed⟩ => ⟨hes', ?_, ?_⟩
  · simpa [Accounted] using hids
  · simpa using hdescribed

/-- What is on the list has its removal attempted, one after the other. -/
theorem removeAll_accounts {ids : List Int} (removed : Nat) (h : Accounted ipcClass ids es) :
    (Ipc.removeAll ipcClass ids removed).Safe (asking ipcClass) anything
      (fun _ es' => es <+: es' ∧ Accounted ipcClass [] es') es := by
  have hremoved {id : Int} {rest : List Int} {answer : Except IoError Unit} {es₁ es₂ : List Event}
      (hrest : es <+: es₁ ∧ Accounted ipcClass (id :: rest) es₁)
      (step : asking ipcClass es₁ (.remove id) answer es₂) :
      es <+: es₂ ∧ Accounted ipcClass rest es₂ := by
    obtain ⟨_, ⟨⟩, rfl⟩ := step
    exact ⟨hrest.1.trans (List.prefix_append _ _), hrest.2.removed⟩
  refine Ipc.removeAll_invariant
    (motive := fun rest _ es' => es <+: es' ∧ Accounted ipcClass rest es') (fun _ => trivial)
    hremoved (fun hrest step => ⟨trivial, fun es₃ noted => ?_⟩) ⟨List.prefix_rfl, h⟩
  obtain ⟨_, ⟨⟩, rfl⟩ := noted
  have hrefused := hremoved hrest step
  exact ⟨hrefused.1.trans (List.prefix_append _ _), hrefused.2.neutral trivial⟩

/-- What a sweep of a class comes to: all slots were asked for, or it failed, and not for a refusal. -/
def Swept (ipcClass : Ipc.Class) (es es' : List Event) : Except Fault Nat → Prop
  | .ok _ => Inspected ipcClass es'
  | .error _ => refusals es' = refusals es

theorem ipcSweep_accounts (h : Accounted ipcClass [] es) :
    (Ipc.sweep ipcClass).Safe (asking ipcClass) anything
      (fun result es' => Accounted ipcClass [] es' ∧ Swept ipcClass es es' result) es := by
  refine ⟨trivial, fun answer es₁ step => ?_⟩
  obtain ⟨_, ⟨reply⟩, rfl⟩ := step
  have hasked : Accounted ipcClass [] (es ++ [answered (.ipcControl ipcClass .info 0) reply]) :=
    h.neutral trivial
  cases hresult : reply.result with
  | error cause => exact ⟨hasked, by simp [Swept, refusals_concat, refusal?, answered]⟩
  | ok most =>
    obtain ⟨hvalue, rfl⟩ := Reply.result_eq_ok hresult
    have hdescribe := describeFrom_inspects (reply.value + 1).toNat hasked
    refine safe_bind_iff.mpr (safe_bind_iff.mpr (hdescribe.mono ?_))
    rintro ids es₂ ⟨hes₂, hids, hdescribed⟩
    refine safe_bind_iff.mpr ((removeAll_accounts 0 hids).mono ?_)
    rintro removed es₃ ⟨hes₃, hnone⟩
    have hcount : ((reply.value + 1).toNat : Int) = reply.value + 1 := by omega
    rw [hcount] at hdescribed
    have hinfo : answered (.ipcControl ipcClass .info 0) reply ∈ es₃ :=
      (hes₂.trans hes₃).subset (by simp)
    exact ⟨hnone, reply, hinfo, hvalue, hdescribed.mono hes₃⟩

/-- Of what was seen, only what was refused may be left. -/
abbrev Settled (es : List Event) : Prop := survivors es ⊆ refusals es

theorem sweep_settles (ipcClass : Ipc.Class) (h : Settled es) :
    (sweep ipcClass).Safe (recording Surroundings) anything
      (fun result es' => Settled es' ∧ Swept ipcClass es es' result) es := by
  have hsweep := ipcSweep_accounts ((accounted_nil_iff ipcClass).mpr h)
  refine (hsweep.mono_guard fun es q _ => askTable_asks ipcClass q es).interpret.mono ?_
  exact fun result es' hes' => hes'.imp_left (accounted_nil_iff ipcClass).mp

theorem sweepAll_settles (classes : List Ipc.Class) (removed : Nat) (h : Settled es) :
    (sweepAll classes removed).Safe (recording Surroundings) anything
      (fun result es' => Settled es' ∧ ∀ total, result = .ok total →
        ∀ ipcClass ∈ classes, Inspected ipcClass es') es := by
  induction classes generalizing removed es with
  | nil => exact ⟨h, by simp⟩
  | cons ipcClass rest ih =>
    refine (sweep_settles ipcClass h).bind fun result es₁ ⟨h₁, hswept⟩ => ?_
    cases result with
    | error fault => exact ⟨h₁, nofun⟩
    | ok more =>
      refine (ih (removed + more) h₁).recording_grows.mono ?_
      rintro result es₂ ⟨⟨h₂, hrest⟩, hes₂⟩
      refine ⟨h₂, fun total htotal => List.forall_mem_cons.mpr ⟨?_, hrest total htotal⟩⟩
      exact Inspected.mono hswept hes₂

theorem Settled.neutral {e : Event} (h : Settled es) (he : Neutral e.request) :
    Settled (es ++ [e]) := by
  have haccounted : Accounted .sharedMemory [] es := (accounted_nil_iff _).mpr h
  exact (accounted_nil_iff _).mp (haccounted.neutral he)

theorem killAll_settles (rounds collected : Nat) (h : Settled es) :
    (killAll rounds collected).Safe (recording Surroundings) anything (fun _ es' => Settled es')
      es := by
  have hkill : (killAll rounds collected).Within (fun _ => True) Neutral
      (FailsAs IoError.Numbered) := killAll_within trivial trivial rounds collected
  refine (hkill.preserves (fun _ _ _ _ => trivial) ?_ h).mono fun _ _ h => h.2
  intro es q answer es' hq hes kept
  exact kept ▸ hes.neutral hq

theorem reap_settles (rounds : Nat) (h : Settled es) :
    (reap rounds).Safe (recording Surroundings) anything
      (fun result es' => Settled es' ∧ (result = .ok () → ∀ ipcClass, Inspected ipcClass es'))
      es := by
  refine (killAll_settles rounds 0 h).bind fun result es₁ h₁ => ?_
  cases result with
  | error cause => exact ⟨h₁, nofun⟩
  | ok collected =>
    refine (sweepAll_settles Ipc.Class.all 0 h₁).bind fun result es₂ ⟨h₂, hclasses⟩ => ?_
    cases result with
    | error fault => exact ⟨h₂, nofun⟩
    | ok removed =>
      have hinspected (ipcClass : Ipc.Class) : Inspected ipcClass es₂ :=
        hclasses removed rfl ipcClass ipcClass.mem_all
      dsimp only
      split
      · refine ⟨trivial, fun _ es₃ kept => ?_⟩
        obtain rfl : es₃ = es₂ ++ [_] := kept
        exact ⟨h₂.neutral trivial, fun _ ipcClass =>
          (hinspected ipcClass).mono (List.prefix_append _ _)⟩
      · exact ⟨h₂, fun _ => hinspected⟩

end

theorem Settled.survivors_eq_nil {es : List Event} (h : Settled es) (hnone : refusals es = []) :
    survivors es = [] := List.subset_nil.mp (hnone ▸ h)

/-- The real cleanup beside a launcher and a console that may do anything. What the last cleanup had
to do with the kernel is kept until the next launch. -/
def reaping (rounds : Nat) : Behaviour ControlLoop.Collaborators (List Event)
  | _, .reap, answer, es' => (reap rounds).Trace es' (.returned answer)
  | es, .note _, _, es' => es' = es
  | _, .launch _ _, _, es' => es' = []

theorem reaping_restores (rounds : Nat) :
    (ControlLoop.Restores (reaping rounds) fun es => (reap rounds).Trace es (.returned (.ok ()))) where
  reap reaped := reaped
  note reaped noted := noted ▸ reaped

/-- A sweep that succeeds has asked for every slot up to the highest index, and a cleanup that succeeds
has done so in every class. Of the objects seen, only those may be left whose removal the kernel refused:
none, if it refused none. But a refusal fails no sweep. Each launch after the first one comes right after
a cleanup that succeeded. -/
theorem leaves_refused_only (rounds : Nat) :
    (∀ ipcClass es result, (sweep ipcClass).Trace es (.returned result) →
      Settled es ∧ (∀ removed, result = .ok removed → Inspected ipcClass es) ∧
        ∀ fault, result = .error fault → refusals es = []) ∧
    (∀ es result, (reap rounds).Trace es (.returned result) →
      Settled es ∧ (result = .ok () → ∀ ipcClass, Inspected ipcClass es)) ∧
    ∀ script es kept command descriptor,
      (ControlLoop.run script).Trace es (.pending (.launch command descriptor)) →
      (∃ e ∈ es, e.request.isLaunch = true) → (reaping rounds).Path [] es kept →
      (reap rounds).Trace kept (.returned (.ok ())) ∧ Settled kept := by
  have hnothing : Settled [] := List.nil_subset _
  have hreap (es : List Event) (result : Except Fault Unit)
      (htrace : (reap rounds).Trace es (.returned result)) :
      Settled es ∧ (result = .ok () → ∀ ipcClass, Inspected ipcClass es) :=
    (reap_settles rounds hnothing).recorded htrace
  refine ⟨fun ipcClass es result htrace => ?_, hreap, ?_⟩
  · obtain ⟨hsettled, hswept⟩ := (sweep_settles ipcClass hnothing).recorded htrace
    cases result with
    | ok removed => exact ⟨hsettled, fun _ _ => hswept, nofun⟩
    | error fault => exact ⟨hsettled, nofun, fun _ _ => hswept⟩
  · intro script es kept command descriptor htrace hlaunched hpath
    have hrun := ControlLoop.run_restores (reaping_restores rounds) htrace hpath
    have hreaped := hrun.1 command descriptor rfl hlaunched
    exact ⟨hreaped, (hreap kept _ hreaped).1⟩

/-- A sweep that sees one object, of which the removal fails with an error number. -/
def failingSweep (code : Int) : List Event :=
  [answered (.ipcControl .sharedMemory .info 0) ⟨0, 0, 0⟩,
   answered (.ipcControl .sharedMemory .stat 0) ⟨5, 0, 0⟩,
   answered (.ipcControl .sharedMemory .remove 5) ⟨-1, code, 0⟩,
   ⟨.log (Ipc.refusalRecord .sharedMemory 5 (.errno code)), ()⟩]

/-- A cleanup in which nothing is there but that object. -/
def failingReap (code : Int) : List Event :=
  let vacant (ipcClass : Ipc.Class) : List Event :=
    [answered (.ipcControl ipcClass .info 0) ⟨0, 0, 0⟩,
     answered (.ipcControl ipcClass .stat 0) ⟨-1, 22, 0⟩]
  [answered (.kill (-1) 9) ⟨-1, 3, 0⟩,
   answered (.waitpid (-1)) ⟨-1, 10, 0⟩] ++
    failingSweep code ++ vacant .semaphores ++ vacant .messageQueues

theorem failingSweep_trace (code : Int) :
    (sweep .sharedMemory).Trace (failingSweep code) (.returned (.ok 0)) := by
  iterate 4 refine .ask _ ?_
  exact .done _

theorem failingReap_trace (code : Int) :
    (reap 1).Trace (failingReap code) (.returned (.ok ())) := by
  iterate 10 refine .ask _ ?_
  exact .done _

/-- Of two commands of the master, the second one is launched after such a cleanup. -/
theorem failingReap_path (code : Int) :
    let script : Script := .ofSource (.ofBytes (Bytes.ofString "a\nb\n"))
    let second : Command := ⟨2, .master, Bytes.ofString "b"⟩
    ∃ es, (ControlLoop.run script).Trace es (.pending (.launch second none)) ∧
      (∃ e ∈ es, e.request.isLaunch = true) ∧ (reaping 1).Path [] es (failingReap code) := by
  intro script second
  let first : Command := ⟨1, .master, Bytes.ofString "a"⟩
  refine ⟨_, ControlLoop.run_second_launch (show script.next.1 = .ok (some first) from rfl) rfl rfl,
    ⟨_, .tail _ (.head _), rfl⟩, ?_⟩
  exact .cons rfl (.cons rfl (.cons (failingReap_trace code) (.cons rfl (.nil _))))

/-- An object that vanished before its removal is not there when the second command is launched. -/
theorem leaves_refused_only_vanished :
    ∃ script es command, (ControlLoop.run script).Trace es (.pending (.launch command none)) ∧
      (reaping 1).Path [] es (failingReap 43) ∧
      survivors (failingReap 43) = [] := by
  obtain ⟨es, htrace, hlaunched, hpath⟩ := failingReap_path 43
  have hlaunch := (leaves_refused_only 1).2.2 _ es _ _ _ htrace hlaunched hpath
  exact ⟨_, es, _, htrace, hpath, hlaunch.2.survivors_eq_nil (by decide)⟩

/-- A sweep is content with an object whose removal is not permitted, and so is the cleanup: the second
command is launched beside that object. -/
theorem refused_object_survives :
    ((sweep .sharedMemory).Trace (failingSweep 1) (.returned (.ok 0)) ∧
      survivors (failingSweep 1) = [(.sharedMemory, 5)]) ∧
    ∃ script es command, (ControlLoop.run script).Trace es (.pending (.launch command none)) ∧
      (reaping 1).Path [] es (failingReap 1) ∧
      survivors (failingReap 1) = [(.sharedMemory, 5)] := by
  obtain ⟨es, htrace, -, hpath⟩ := failingReap_path 1
  exact ⟨⟨failingSweep_trace _, by decide⟩, _, es, _, htrace, hpath, by decide⟩

end Cleanup
end GuestInit
