import GuestInit.Cleanup
import GuestInit.Proofs.SweepLoops

/-! What the supervisor has to know of its kernel so that a cleanup leaves nothing behind. Between
two requests the other processes may do anything, fork and create objects as well: a step of the
kernel contains whatever they did until the answer. All that is needed is that nothing comes from
nothing, that the report of having no child is true, and that the tables of System V IPC answer
truly as long as nobody else is there to change them. Nothing is said of what a signal does. -/

namespace GuestInit

open Kernel Program

structure GuestKernel (σ : Type) where
  respond : Behaviour Surroundings σ
  /-- The numbers of the processes other than the supervisor, also of the dead not yet collected. -/
  others : σ → Nat → Prop
  /-- The identifier of the object in a slot of the table of a class. -/
  table : σ → Ipc.Class → Nat → Option Nat
  /-- Where there is no process, none appears but by a fork of the supervisor. -/
  others_respond : ∀ {s q answer s'}, q ≠ .call .fork → respond s q answer s' →
    (∀ pid, ¬ others s pid) → ∀ pid, ¬ others s' pid
  /-- Where there is no process, no object appears. -/
  table_respond : ∀ {s q answer s' ipcClass i id}, q ≠ .call .fork → respond s q answer s' →
    (∀ pid, ¬ others s pid) → table s' ipcClass i = some id → table s ipcClass i = some id
  /-- Error 10 of a wait for any process is that there is no child. -/
  childless : ∀ {s reply s'}, respond s (.call (.waitpid (-1))) reply s' → reply.value < 0 →
    reply.errno = 10 → ∀ pid, ¬ others s' pid
  info_respond : ∀ {s ipcClass reply s' i id},
    respond s (.call (.ipcControl ipcClass .info 0)) reply s' → (∀ pid, ¬ others s pid) →
    0 ≤ reply.value → table s' ipcClass i = some id → (i : Int) ≤ reply.value
  stat_respond : ∀ {s ipcClass reply s'} {i : Nat} {id},
    respond s (.call (.ipcControl ipcClass .stat i)) reply s' → (∀ pid, ¬ others s pid) →
    table s' ipcClass i = some id → reply.value = id
  remove_respond : ∀ {s ipcClass reply s' i} {id : Nat},
    respond s (.call (.ipcControl ipcClass .remove id)) reply s' → (∀ pid, ¬ others s pid) →
    table s ipcClass i = some id → table s' ipcClass i = none

namespace GuestKernel

variable {σ : Type} (K : GuestKernel σ)

/-- No process but the supervisor is there. -/
def Quiet (s : σ) : Prop := ∀ pid, ¬ K.others s pid

/-- No process but the supervisor is there, and no object. -/
structure Clean (s : σ) : Prop where
  quiet : K.Quiet s
  empty : ∀ ipcClass i, K.table s ipcClass i = none

/-- Nobody is there afterwards, and what is there of objects was there before. -/
structure Settles (s s' : σ) : Prop where
  quiet : K.Quiet s'
  table : ∀ {ipcClass i id}, K.table s' ipcClass i = some id → K.table s ipcClass i = some id

variable {K} {s s' s'' : σ}

theorem Settles.refl (h : K.Quiet s) : K.Settles s s := ⟨h, id⟩

theorem Settles.trans (h : K.Settles s s') (h' : K.Settles s' s'') : K.Settles s s'' :=
  ⟨h'.quiet, fun hslot => h.table (h'.table hslot)⟩

theorem Settles.empty {ipcClass : Ipc.Class} (h : K.Settles s s')
    (hempty : ∀ i, K.table s ipcClass i = none) (i : Nat) : K.table s' ipcClass i = none := by
  cases hslot : K.table s' ipcClass i with
  | none => rfl
  | some id =>
    have hbefore := h.table hslot
    simp [hempty i] at hbefore

theorem Clean.settles (h : K.Clean s) (h' : K.Settles s s') : K.Clean s' :=
  ⟨h'.quiet, fun ipcClass => h'.empty (h.empty ipcClass)⟩

theorem Quiet.settles {q : Request} {answer : Answer q} (h : K.Quiet s) (hq : q ≠ .call .fork)
    (step : K.respond s q answer s') : K.Settles s s' :=
  ⟨K.others_respond hq step h, fun hslot => K.table_respond hq step h hslot⟩

theorem Clean.log {record : Record} {answer : Unit} (h : K.Clean s)
    (step : K.respond s (.log record) answer s') : K.Clean s' :=
  h.settles (h.quiet.settles (by simp) step)

/-- How the table of a class answers a supervisor that is alone. -/
def access (K : GuestKernel σ) (ipcClass : Ipc.Class) : Behaviour Ipc.TableAccess σ
  | s, .maxIndex, answer, s' => K.Settles s s' ∧
    ∀ most, answer = .ok most → ∀ i id, K.table s' ipcClass i = some id → (i : Int) ≤ most
  | s, .describe index, answer, s' => K.Settles s s' ∧
    ∀ (i : Nat) id, index = i → K.table s' ipcClass i = some id → answer = some (id : Int)
  | s, .remove operand, _, s' => K.Settles s s' ∧
    ∀ (id : Nat) i, operand = id → K.table s' ipcClass i ≠ some id
  | s, .note _, _, s' => K.Settles s s'

theorem attempt_safe {c : Call} (hquiet : K.Quiet s) (hc : c ≠ .fork) :
    (Action.attempt c).Safe K.respond anything
      (fun result s' => K.Settles s s' ∧
        ∃ reply, result = reply.result ∧ K.respond s (.call c) reply s') s :=
  ⟨trivial, fun reply _ step => ⟨hquiet.settles (by simpa using hc) step, reply, rfl, step⟩⟩

theorem log_safe {record : Record} (hquiet : K.Quiet s) :
    (Action.log record).Safe K.respond anything (fun _ s' => K.Settles s s') s :=
  ⟨trivial, fun _ _ step => hquiet.settles (by simp) step⟩

/-- The supervisor's way to ask for a table gets it the answers of the table. -/
theorem askTable_safe (ipcClass : Ipc.Class) (q : Ipc.Request) (hquiet : K.Quiet s) :
    (Cleanup.askTable ipcClass q).Safe K.respond anything (K.access ipcClass s q) s := by
  cases q with
  | maxIndex =>
    refine (attempt_safe hquiet (by simp)).mono ?_
    rintro _ s' ⟨hsettles, reply, rfl, step⟩
    refine ⟨hsettles, fun most hmost i id hslot => ?_⟩
    obtain ⟨hvalue, rfl⟩ := Reply.result_eq_ok hmost
    exact K.info_respond step hquiet hvalue hslot
  | describe index =>
    refine (attempt_safe hquiet (by simp)).bind ?_
    rintro _ s' ⟨hsettles, reply, rfl, step⟩
    refine ⟨hsettles, ?_⟩
    rintro i id rfl hslot
    have hvalue : reply.value = id := K.stat_respond step hquiet hslot
    rw [Reply.result_of_nonneg (by omega), hvalue]
    rfl
  | remove operand =>
    refine (attempt_safe hquiet (by simp)).bind ?_
    rintro _ s' ⟨hsettles, reply, rfl, step⟩
    refine ⟨hsettles, ?_⟩
    rintro id i rfl hslot
    have hgone := K.remove_respond step hquiet (hsettles.table hslot)
    simp [hslot] at hgone
  | note record => exact log_safe hquiet

section Sweep

variable {ipcClass : Ipc.Class}

/-- The identifiers of all slots below an index are found, if the kernel's guest is quiet. -/
theorem describeFrom_safe (count : Nat) (hquiet : K.Quiet s) :
    (Ipc.describeFrom count 0 []).Safe (K.access ipcClass) (fun s _ => K.Quiet s)
      (fun ids s' => K.Settles s s' ∧
        ∀ i id, K.table s' ipcClass i = some id → i < count → (id : Int) ∈ ids) s := by
  refine (Ipc.describeFrom_invariant (motive := fun index found s' => K.Settles s s' ∧
    ∀ (i id : Nat), K.table s' ipcClass i = some id → (i : Int) < index → (id : Int) ∈ found)
    (fun h => h.1.quiet) ?_ count ⟨.refl hquiet, fun i id _ hi => by omega⟩).mono ?_
  · intro index found s₁ answer s₂ ⟨hsettles₁, hfound⟩ ⟨hsettles, hanswer⟩
    refine ⟨hsettles₁.trans hsettles, fun i id hslot hi => ?_⟩
    rcases Int.lt_or_eq_of_le (Int.lt_add_one_iff.mp hi) with hlt | rfl
    · exact List.mem_append_right _ (hfound i id (hsettles.table hslot) hlt)
    · simp [hanswer i id rfl hslot]
  · rintro ids s' ⟨hsettles, hids⟩
    exact ⟨hsettles, fun i id hslot hi => by simpa using hids i id hslot (by omega)⟩

/-- Objects whose identifiers are listed are gone once the list has been gone through. -/
theorem removeAll_safe (ids : List Int) (removed : Nat) (hquiet : K.Quiet s)
    (hids : ∀ i id, K.table s ipcClass i = some id → (id : Int) ∈ ids) :
    (Ipc.removeAll ipcClass ids removed).Safe (K.access ipcClass) (fun s _ => K.Quiet s)
      (fun _ s' => K.Settles s s' ∧ ∀ i, K.table s' ipcClass i = none) s := by
  let Listed (ids : List Int) (s' : σ) : Prop := K.Settles s s' ∧
    ∀ (i id : Nat), K.table s' ipcClass i = some id → (id : Int) ∈ ids
  have hstep {id : Int} {rest : List Int} {answer : Except IoError Unit} {s₁ s₂ : σ}
      (h : Listed (id :: rest) s₁) (step : K.access ipcClass s₁ (.remove id) answer s₂) :
      Listed rest s₂ := by
    refine ⟨h.1.trans step.1, fun i n hslot => ?_⟩
    rcases List.mem_cons.mp (h.2 i n (step.1.table hslot)) with heq | hmem
    · exact absurd hslot (step.2 n i heq.symm)
    · exact hmem
  refine (Ipc.removeAll_invariant (motive := fun rest _ => Listed rest) (fun h => h.1.quiet)
    hstep (fun h step => ?_) ⟨.refl hquiet, hids⟩).mono ?_
  · have hrest := hstep h step
    exact ⟨hrest.1.quiet, fun _ noted =>
      ⟨hrest.1.trans noted, fun i n hslot => hrest.2 i n (noted.table hslot)⟩⟩
  · rintro _ s' ⟨hsettles, hnone⟩
    exact ⟨hsettles, fun i => Option.eq_none_iff_forall_ne_some.mpr fun id hslot =>
      List.not_mem_nil (hnone i id hslot)⟩

theorem ipcSweep_safe (hquiet : K.Quiet s) :
    (Ipc.sweep ipcClass).Safe (K.access ipcClass) (fun s _ => K.Quiet s)
      (fun result s' => K.Settles s s' ∧
        ((∃ removed, result = .ok removed) → ∀ i, K.table s' ipcClass i = none)) s := by
  refine ⟨hquiet, fun answer s₁ step => ?_⟩
  obtain ⟨hsettles, hmost⟩ := step
  cases answer with
  | error cause => exact ⟨hsettles, by simp⟩
  | ok most =>
    refine safe_bind_iff.mpr (safe_bind_iff.mpr ?_)
    refine (describeFrom_safe (most + 1).toNat hsettles.quiet).mono ?_
    rintro ids s₂ ⟨hsettles₂, hids⟩
    refine safe_bind_iff.mpr ((removeAll_safe ids 0 hsettles₂.quiet fun i id hslot => ?_).mono ?_)
    · have hle := hmost most rfl i id (hsettles₂.table hslot)
      exact hids i id hslot (by omega)
    · exact fun _ s₃ h => ⟨hsettles.trans (hsettles₂.trans h.1), fun _ => h.2⟩

end Sweep

theorem sweep_safe (ipcClass : Ipc.Class) (hquiet : K.Quiet s) :
    (Cleanup.sweep ipcClass).Safe K.respond anything
      (fun result s' => K.Settles s s' ∧
        ((∃ removed, result = .ok removed) → ∀ i, K.table s' ipcClass i = none)) s :=
  ((ipcSweep_safe hquiet).mono_guard fun _ q h => askTable_safe ipcClass q h).interpret

/-- Classes that were swept stay empty while the next ones are. -/
theorem sweepAll_safe (classes : List Ipc.Class) (removed : Nat) (hquiet : K.Quiet s) :
    (Cleanup.sweepAll classes removed).Safe K.respond anything
      (fun result s' => K.Settles s s' ∧ ((∃ removed, result = .ok removed) →
        ∀ ipcClass ∈ classes, ∀ i, K.table s' ipcClass i = none)) s := by
  induction classes generalizing removed s with
  | nil => exact ⟨.refl hquiet, by simp⟩
  | cons ipcClass rest ih =>
    refine (sweep_safe ipcClass hquiet).bind ?_
    rintro (fault | more) s₁ ⟨hsettles, hempty⟩
    · exact ⟨hsettles, by simp⟩
    · refine (ih (removed + more) hsettles.quiet).mono ?_
      rintro result s₂ ⟨hsettles₂, hrest⟩
      refine ⟨hsettles.trans hsettles₂, fun hok => ?_⟩
      rw [List.forall_mem_cons]
      exact ⟨hsettles₂.empty (hempty ⟨more, rfl⟩), hrest hok⟩

/-- Killing ends well only where no process is left. -/
theorem killAll_safe (rounds collected : Nat) :
    (Cleanup.killAll rounds collected).Safe K.respond anything
      (fun result s' => (∃ collected, result = .ok collected) → K.Quiet s') s := by
  induction rounds generalizing collected s with
  | zero => trivial
  | succ rounds ih =>
    rw [Cleanup.killAll, Action.attempt_bind]
    refine ⟨trivial, fun signal s₁ _ => ?_⟩
    dsimp only
    cases Cleanup.signalled signal.result with
    | error cause => simp
    | ok _ =>
      dsimp only
      rw [Action.attempt_bind]
      refine ⟨trivial, fun reply s₂ step => ?_⟩
      dsimp only
      cases hresult : reply.result with
      | ok value => exact ih (collected + 1)
      | error cause =>
        obtain ⟨hneg, rfl⟩ := Reply.result_eq_error hresult
        dsimp only
        split
        · rename_i hcause
          exact fun _ => K.childless step hneg (IoError.errno.inj hcause)
        · split
          · exact ih collected
          · simp

/-- A cleanup that succeeds leaves no process behind and no object. -/
theorem reap_safe (rounds : Nat) :
    (Cleanup.reap rounds).Safe K.respond anything
      (fun result s' => result = .ok () → K.Clean s') s := by
  refine (killAll_safe rounds 0).bind ?_
  rintro (cause | collected) s₁ hquiet
  · simp
  · refine (sweepAll_safe Ipc.Class.all 0 (hquiet ⟨collected, rfl⟩)).bind ?_
    rintro (fault | removed) s₂ ⟨hsettles, hempty⟩
    · simp
    · have hclean : K.Clean s₂ :=
        ⟨hsettles.quiet, fun ipcClass =>
          hempty ⟨removed, rfl⟩ ipcClass (Ipc.Class.mem_all ipcClass)⟩
      dsimp only
      split
      · exact ⟨trivial, fun _ s₃ step _ => hclean.log step⟩
      · exact fun _ => hclean

end GuestKernel
end GuestInit
