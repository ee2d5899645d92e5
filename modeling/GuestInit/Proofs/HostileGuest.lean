import GuestInit.Proofs.GuestKernel

/-! The most hostile guest there is. Its processes fork, die, create objects and discard them as
they like, until a signal dooms them; a doomed process does nothing but die. The kernel of such a
guest meets all that a cleanup relies on. -/

namespace GuestInit

open Kernel

inductive HostileGuest.Phase where
  | running | doomed | dead
deriving DecidableEq, Repr

structure HostileGuest where
  /-- The processes other than the supervisor, with their numbers. -/
  processes : List (Nat × HostileGuest.Phase)
  table : Ipc.Class → Nat → Option Nat
  /-- In a class no two objects have one identifier. -/
  distinct : ∀ {ipcClass i j id}, table ipcClass i = some id → table ipcClass j = some id → i = j

namespace HostileGuest

/-- A signal that cannot be caught reaches every process. A dead one stays dead. -/
def signal (guest : HostileGuest) : HostileGuest :=
  { guest with processes := guest.processes.map fun
      | (pid, .dead) => (pid, Phase.dead)
      | (pid, _) => (pid, Phase.doomed) }

/-- An object with a new identifier comes into a slot. -/
def create (guest : HostileGuest) (ipcClass : Ipc.Class) (i id : Nat)
    (fresh : ∀ j, guest.table ipcClass j ≠ some id) : HostileGuest where
  processes := guest.processes
  table other j := if other = ipcClass ∧ j = i then some id else guest.table other j
  distinct := by
    intro other j k n hj hk
    have := @guest.distinct other j k n
    grind

/-- A slot becomes empty. -/
def clear (guest : HostileGuest) (ipcClass : Ipc.Class) (i : Nat) : HostileGuest where
  processes := guest.processes
  table other j := if other = ipcClass ∧ j = i then none else guest.table other j
  distinct := by
    intro other j k n hj hk
    have := @guest.distinct other j k n
    grind

/-- What a process may do by itself. -/
inductive Move : HostileGuest → HostileGuest → Prop
  | fork {guest parent child} (running : (parent, .running) ∈ guest.processes)
      (fresh : ∀ phase, (child, phase) ∉ guest.processes) :
      Move guest { guest with processes := (child, .running) :: guest.processes }
  | die {guest before pid phase after} (there : guest.processes = before ++ (pid, phase) :: after) :
      Move guest { guest with processes := before ++ (pid, .dead) :: after }
  | create {guest pid ipcClass i id} (running : (pid, .running) ∈ guest.processes)
      (fresh : ∀ j, guest.table ipcClass j ≠ some id) :
      Move guest (guest.create ipcClass i id fresh)
  | discard {guest pid ipcClass i} (running : (pid, .running) ∈ guest.processes) :
      Move guest (guest.clear ipcClass i)

/-- What all processes may do between two requests of the supervisor. -/
inductive Moves : HostileGuest → HostileGuest → Prop
  | refl (guest) : Moves guest guest
  | step {guest guest₁ guest₂} (move : Move guest guest₁) (rest : Moves guest₁ guest₂) :
      Moves guest guest₂

/-- How the kernel answers, and what becomes of the guest by that. Requests that only a launcher
makes are not answered. -/
def Effect (guest : HostileGuest) : (q : Request) → Answer q → HostileGuest → Prop
  | .log _, _, after => after = guest
  | .call (.kill _ _), reply, after =>
    if guest.processes = [] then
      reply.value < 0 ∧ reply.errno = Errno.noSuchProcess ∧ after = guest
    else 0 ≤ reply.value ∧ after = guest.signal
  | .call (.waitpid _), reply, after =>
    (∃ (left right : List (Nat × Phase)) (pid : Nat),
      guest.processes = left ++ (pid, .dead) :: right ∧ reply.value = pid ∧
      after = { guest with processes := left ++ right }) ∨
    (reply.value < 0 ∧ reply.errno = Errno.interrupted ∧ after = guest) ∨
    (guest.processes = [] ∧ reply.value < 0 ∧ reply.errno = Errno.noChild ∧ after = guest)
  | .call (.ipcControl ipcClass .info _), reply, after =>
    (∀ i id, guest.table ipcClass i = some id → (i : Int) ≤ reply.value) ∧ after = guest
  | .call (.ipcControl ipcClass .stat operand), reply, after =>
    (match guest.table ipcClass operand.toNat with
      | some id => reply.value = id
      | none => reply.value < 0) ∧ after = guest
  | .call (.ipcControl ipcClass .remove operand), reply, after =>
    (∃ i id, operand = (id : Nat) ∧ guest.table ipcClass i = some id ∧ 0 ≤ reply.value ∧
      after = guest.clear ipcClass i) ∨
    ((∀ i (id : Nat), operand = id → guest.table ipcClass i ≠ some id) ∧ reply.value < 0 ∧
      after = guest)
  | _, _, _ => False

def respond : Behaviour Surroundings HostileGuest := fun guest q answer after =>
  ∃ guest₁, Moves guest guest₁ ∧ guest₁.Effect q answer after

theorem Moves.eq_of_nobody {guest after : HostileGuest} (h : Moves guest after)
    (hnobody : guest.processes = []) : after = guest := by
  cases h with
  | refl => rfl
  | step move _ =>
    cases move with
    | fork running => simp [hnobody] at running
    | die there => simp [hnobody] at there
    | create running => simp [hnobody] at running
    | discard running => simp [hnobody] at running

/-- Where there is nobody, a request has its own effect only. -/
theorem effect_of_nobody {guest after : HostileGuest} {q : Request} {answer : Answer q}
    (h : respond guest q answer after) (hnobody : guest.processes = []) :
    guest.Effect q answer after := by
  obtain ⟨guest₁, hmoves, heffect⟩ := h
  exact hmoves.eq_of_nobody hnobody ▸ heffect

/-- In a guest without processes, a request only ever empties slots. -/
theorem nobody_effect {guest after : HostileGuest} {q : Request} {answer : Answer q}
    (h : guest.Effect q answer after) (hnobody : guest.processes = []) :
    after.processes = [] ∧
      ∀ ipcClass i id, after.table ipcClass i = some id → guest.table ipcClass i = some id := by
  have hself : after = guest → after.processes = [] ∧
      ∀ ipcClass i id, after.table ipcClass i = some id → guest.table ipcClass i = some id := by
    rintro rfl
    exact ⟨hnobody, fun _ _ _ h => h⟩
  unfold Effect at h
  split at h
  · exact hself h
  · rw [if_pos hnobody] at h
    exact hself h.2.2
  · rcases h with ⟨left, right, pid, hthere, -⟩ | h | h
    · simp [hnobody] at hthere
    · exact hself h.2.2
    · exact hself h.2.2.2
  · exact hself h.2
  · exact hself h.2
  · rcases h with ⟨i, id, -, -, -, rfl⟩ | h
    · refine ⟨hnobody, fun other j n hslot => ?_⟩
      simp only [clear] at hslot
      split at hslot
      · cases hslot
      · exact hslot
    · exact hself h.2.2
  · exact h.elim

theorem nobody_iff {guest : HostileGuest} :
    (∀ pid, ¬ ∃ phase, (pid, phase) ∈ guest.processes) ↔ guest.processes = [] := by
  simp [List.eq_nil_iff_forall_not_mem]

def kernel : GuestKernel HostileGuest where
  respond := respond
  others guest pid := ∃ phase, (pid, phase) ∈ guest.processes
  table := table
  others_respond := by
    intro guest q answer after _ step hquiet
    rw [nobody_iff] at hquiet ⊢
    exact (nobody_effect (effect_of_nobody step hquiet) hquiet).1
  table_respond := by
    intro guest q answer after ipcClass i id _ step hquiet hslot
    rw [nobody_iff] at hquiet
    exact (nobody_effect (effect_of_nobody step hquiet) hquiet).2 _ _ _ hslot
  childless := by
    rintro guest reply after ⟨guest₁, -, ⟨left, right, pid, -, hvalue, -⟩ | h | h⟩ hneg hchild
    · omega
    · simp [h.2.1, Errno.interrupted] at hchild
    · obtain ⟨hnobody, -, -, rfl⟩ := h
      exact nobody_iff.mpr hnobody
  info_respond := by
    intro guest ipcClass reply after i id step hquiet _ hslot
    obtain ⟨hmost, rfl⟩ := effect_of_nobody step (nobody_iff.mp hquiet)
    exact hmost i id hslot
  stat_respond := by
    intro guest ipcClass reply after i id step hquiet hslot
    obtain ⟨hreply, rfl⟩ := effect_of_nobody step (nobody_iff.mp hquiet)
    simpa [hslot] using hreply
  remove_respond := by
    intro guest ipcClass reply after i id step hquiet hslot
    rcases effect_of_nobody step (nobody_iff.mp hquiet) with ⟨j, n, hid, hj, -, rfl⟩ | ⟨hnone, -⟩
    · obtain rfl : id = n := by omega
      simp [clear, guest.distinct hslot hj]
    · exact absurd hslot (hnone i id rfl)

/-- A guest with nothing in it. -/
def vacant : HostileGuest := ⟨[], fun _ _ => none, nofun⟩

/-- What a command may leave behind: a process of its own, and a segment of shared memory. -/
def littered : HostileGuest :=
  { vacant.create .sharedMemory 0 5 nofun with processes := [(7, .running)] }

/-- The littered guest once its process was collected. -/
def deserted : HostileGuest := { littered with processes := [] }

/-- The deserted guest once its segment was removed. -/
def swept : HostileGuest := deserted.clear .sharedMemory 0

theorem deserted_table (ipcClass : Ipc.Class) (i : Nat) :
    deserted.table ipcClass i = if ipcClass = .sharedMemory ∧ i = 0 then some 5 else none := rfl

theorem swept_table {ipcClass : Ipc.Class} (h : ipcClass ≠ .sharedMemory) (i : Nat) :
    swept.table ipcClass i = none := by
  simp [swept, clear, deserted_table, h]

/-- A cleanup of the littered guest, in which the process dies of the first signal. -/
theorem littered_reap : kernel.respond.Returns (Cleanup.reap 2) littered (.ok ()) swept := by
  have killed : respond littered (.call (.kill (-1) 9)) ⟨0, 0, 0⟩ littered.signal :=
    ⟨_, .refl _, Int.le_refl 0, rfl⟩
  have collected : respond littered.signal (.call (.waitpid (-1))) ⟨7, 0, 9⟩ deserted :=
    ⟨_, .step (@Move.die _ [] 7 .doomed [] rfl) (.refl _), .inl ⟨[], [], 7, rfl, rfl, rfl⟩⟩
  have nobody : respond deserted (.call (.kill (-1) 9))
      ⟨-1, Errno.noSuchProcess, 0⟩ deserted := ⟨_, .refl _, by decide, rfl, rfl⟩
  have childless : respond deserted (.call (.waitpid (-1))) ⟨-1, Errno.noChild, 0⟩ deserted :=
    ⟨_, .refl _, .inr (.inr ⟨rfl, by decide, rfl, rfl⟩)⟩
  have highest : respond deserted (.call (.ipcControl .sharedMemory .info 0)) ⟨0, 0, 0⟩
      deserted := by
    refine ⟨_, .refl _, fun i id hslot => ?_, rfl⟩
    have hi : i = 0 := by simp_all [deserted_table]
    simp [hi]
  have described : respond deserted (.call (.ipcControl .sharedMemory .stat 0)) ⟨5, 0, 0⟩
      deserted := ⟨_, .refl _, rfl, rfl⟩
  have removed : respond deserted (.call (.ipcControl .sharedMemory .remove 5)) ⟨0, 0, 0⟩ swept :=
    ⟨_, .refl _, .inl ⟨0, 5, rfl, rfl, Int.le_refl 0, rfl⟩⟩
  have lowest {ipcClass : Ipc.Class} (h : ipcClass ≠ .sharedMemory) :
      respond swept (.call (.ipcControl ipcClass .info 0)) ⟨0, 0, 0⟩ swept :=
    ⟨_, .refl _, by simp [swept_table h], rfl⟩
  have unused {ipcClass : Ipc.Class} (h : ipcClass ≠ .sharedMemory) :
      respond swept (.call (.ipcControl ipcClass .stat 0)) ⟨-1, Errno.invalidArgument, 0⟩ swept :=
    ⟨_, .refl _, by simp [swept_table h], rfl⟩
  have reported : respond swept (.log (Cleanup.cleanupRecord 1 1)) () swept := ⟨_, .refl _, rfl⟩
  have hsemaphores : Ipc.Class.semaphores ≠ .sharedMemory := nofun
  have hmessageQueues : Ipc.Class.messageQueues ≠ .sharedMemory := nofun
  refine ⟨_, ?_, .cons killed <| .cons collected <| .cons nobody <| .cons childless <|
    .cons highest <| .cons described <| .cons removed <|
    .cons (lowest hsemaphores) <| .cons (unused hsemaphores) <|
    .cons (lowest hmessageQueues) <| .cons (unused hmessageQueues) <| .cons reported <| .nil _⟩
  iterate 12 refine .ask _ ?_
  exact .done _

end HostileGuest
end GuestInit
