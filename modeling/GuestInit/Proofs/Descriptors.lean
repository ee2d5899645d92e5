import Mathlib.Logic.Function.Basic
import GuestInit.Boot
import GuestInit.Launch
import GuestInit.Proofs.KernelTrace

/-! What binding streams does to the descriptors of a process. Main statement: whichever descriptor
the kernel hands out, and whichever were closed before, the bound ones point to the new file in the
end and all others are as they were; so nothing stays open that was opened on the way. -/

namespace GuestInit

open Kernel Program

/-- The open files of a process by their descriptors. What an open file is, is left open. -/
abbrev Descriptors (φ : Type) := Int → Option φ

namespace Descriptors

variable {φ : Type}

/-- Some descriptors point to a file, and all others are as before. -/
def pointing (table : Descriptors φ) (fds : List Int) (file : φ) : Descriptors φ :=
  fun fd => if fd ∈ fds then some file else table fd

section

variable {table : Descriptors φ} {fds fds' : List Int} {file : φ} {fd : Int}

theorem pointing_of_mem (h : fd ∈ fds) : table.pointing fds file fd = some file := if_pos h

@[simp] theorem pointing_nil : table.pointing [] file = table := by
  funext fd
  exact if_neg List.not_mem_nil

theorem pointing_congr (h : ∀ fd, fd ∈ fds ↔ fd ∈ fds') :
    table.pointing fds file = table.pointing fds' file := by
  funext fd
  simp only [pointing, h]

theorem update_pointing (fd : Int) :
    Function.update (table.pointing fds file) fd (some file) = table.pointing (fd :: fds) file := by
  funext fd'
  by_cases h : fd' = fd
  · rw [h, Function.update_self, pointing_of_mem List.mem_cons_self]
  · rw [Function.update_of_ne h]
    simp only [pointing, List.mem_cons, h, false_or]

/-- A descriptor that was free before is free again when it is closed. -/
theorem close_pointing (hfree : table fd = none) (h : ∀ fd', fd' ∈ fds' ↔ fd' ∈ fds ∧ fd' ≠ fd) :
    Function.update (table.pointing fds file) fd none = table.pointing fds' file := by
  funext fd'
  by_cases hfd : fd' = fd
  · simp [pointing, h, hfd, hfree]
  · simp [pointing, h, hfd]

end

/-- How a call acts on the descriptors, where `file` is what opening a path with some flags gives. A
file is opened under a descriptor that was free; a descriptor that is duplicated replaces another
one; a descriptor that is closed is free, whatever is answered. A call that fails changes nothing. -/
def Acts (file : Bytes → Nat → φ) (table : Descriptors φ) :
    Call → (reply : Reply) → Descriptors φ → Prop
  | .openFile path flags, reply, table' =>
    (reply.value < 0 ∧ table' = table) ∨
      0 ≤ reply.value ∧ table reply.value = none ∧
        table' = Function.update table reply.value (some (file path flags))
  | .dup2 fd target, reply, table' =>
    (reply.value < 0 ∧ table' = table) ∨
      0 ≤ reply.value ∧ table' = Function.update table target (table fd)
  | .close fd, _, table' => table' = Function.update table fd none
  | _, _, table' => table' = table

/-- A kernel that keeps descriptors, and answers as it likes. -/
def keeping (file : Bytes → Nat → φ) : Behaviour Surroundings (Descriptors φ)
  | table, .call c, reply, table' => Acts file table c reply table'
  | table, _, _, table' => table' = table

section

variable {ε : Type} {file : Bytes → Nat → φ} {table table' : Descriptors φ} {failed : IoError → ε}
  {c : Call} {result : Except ε Unit}

/-- An attempt that starts with a call fails with it, or goes on with its value. -/
theorem returns_call_bind {next : Int → Attempt ε Unit}
    (h : (keeping file).Returns (Attempt.call failed c >>= next).run table result table') :
    ∃ reply table₁, Acts file table c reply table₁ ∧
      ((reply.value < 0 ∧ result = .error (failed (.errno reply.errno)) ∧ table' = table₁) ∨
        0 ≤ reply.value ∧ (keeping file).Returns (next reply.value).run table₁ result table') := by
  obtain ⟨es, htrace, hpath⟩ := h
  rcases Attempt.trace_call_bind htrace with ⟨-, hpending⟩ | ⟨reply, hneg, rfl, hresult⟩ |
    ⟨reply, rest, hvalue, rfl, hnext⟩
  · cases hpending
  · obtain ⟨table₁, hacts, hrest⟩ := Behaviour.path_cons_iff.mp hpath
    obtain rfl := Behaviour.path_nil_iff.mp hrest
    cases hresult
    exact ⟨reply, table', hacts, .inl ⟨hneg, rfl, rfl⟩⟩
  · obtain ⟨table₁, hacts, hrest⟩ := Behaviour.path_cons_iff.mp hpath
    exact ⟨reply, table₁, hacts, .inr ⟨hvalue, rest, hnext, hrest⟩⟩

theorem pointing_of_opened {path : Bytes} {flags : Nat} {reply : Reply}
    (h : Acts file table (.openFile path flags) reply table') (hvalue : 0 ≤ reply.value) :
    table reply.value = none ∧ table' = table.pointing [reply.value] (file path flags) := by
  rcases h with ⟨hneg, -⟩ | ⟨-, hfree, rfl⟩
  · omega
  · refine ⟨hfree, ?_⟩
    rw [← update_pointing, pointing_nil]

theorem pointing_of_duplicated {fds : List Int} {opened : φ} {fd target : Int} {reply : Reply}
    (hfd : fd ∈ fds) (h : Acts file (table.pointing fds opened) (.dup2 fd target) reply table')
    (hvalue : 0 ≤ reply.value) : table' = table.pointing (target :: fds) opened := by
  rcases h with ⟨hneg, -⟩ | ⟨-, rfl⟩
  · omega
  · rw [pointing_of_mem hfd, update_pointing]

/-- After a descriptor was duplicated, one more points to its file. -/
theorem returns_dup2_seq {fds : List Int} {opened : φ} {fd target : Int} {p : Attempt ε Unit}
    (hfd : fd ∈ fds)
    (h : (keeping file).Returns
      (discard (Attempt.call failed (.dup2 fd target)) >>= fun _ => p : Attempt ε Unit).run
      (table.pointing fds opened) (.ok ()) table') :
    (keeping file).Returns p.run (table.pointing (target :: fds) opened) (.ok ()) table' := by
  have hbind : (discard (Attempt.call failed (.dup2 fd target)) >>= fun _ => p : Attempt ε Unit) =
      Attempt.call failed (.dup2 fd target) >>= fun _ => p := by
    show (Attempt.call failed (.dup2 fd target) >>= fun _ => pure ()) >>= _ = _
    rw [bind_assoc]
    rfl
  rw [hbind] at h
  obtain ⟨reply, table₁, hacts, ⟨-, hresult, -⟩ | ⟨hvalue, hrest⟩⟩ := returns_call_bind h
  · cases hresult
  · obtain rfl := pointing_of_duplicated hfd hacts hvalue
    exact hrest

theorem returns_close {fd : Int}
    (h : (keeping file).Returns
      (ExceptT.lift (discard (Action.call (.close fd))) : Attempt ε Unit).run table result table') :
    table' = Function.update table fd none := by
  obtain ⟨es, htrace, hpath⟩ := h
  obtain ⟨reply, rest, rfl, hdone⟩ := trace_ask_returned_iff.mp htrace
  obtain ⟨rfl, -⟩ := trace_done_iff.mp hdone
  obtain ⟨table₁, hacts, hrest⟩ := Behaviour.path_cons_iff.mp hpath
  exact (Behaviour.path_nil_iff.mp hrest).trans hacts

/-- The descriptor that was opened may be one of the three, and is closed only if it is not. -/
theorem bindNullStreams_pointing
    (h : (keeping file).Returns Launch.bindNullStreams.run table (.ok ()) table') :
    table' = table.pointing [0, 1, 2] (file (Bytes.ofString "/dev/null") 2) := by
  obtain ⟨reply, table₁, hacts, ⟨-, hresult, -⟩ | ⟨hvalue, hrest⟩⟩ := returns_call_bind h
  · cases hresult
  obtain ⟨hfree, rfl⟩ := pointing_of_opened hacts hvalue
  have hinput := returns_dup2_seq (by simp) hrest
  have houtput := returns_dup2_seq (by simp) hinput
  have herror := returns_dup2_seq (by simp) houtput
  have hnumbers : standardInput = 0 ∧ standardOutput = 1 ∧ standardError = 2 := ⟨rfl, rfl, rfl⟩
  by_cases habove : reply.value > standardError
  · rw [if_pos habove] at herror
    rw [returns_close herror]
    refine close_pointing hfree fun fd => ?_
    simp only [List.mem_cons, List.not_mem_nil, or_false]
    omega
  · rw [if_neg habove] at herror
    obtain ⟨es, htrace, hpath⟩ := herror
    obtain ⟨rfl, -⟩ := trace_done_iff.mp htrace
    rw [Behaviour.path_nil_iff.mp hpath]
    refine pointing_congr fun fd => ?_
    simp only [List.mem_cons, List.not_mem_nil, or_false]
    omega

/-- Moving a descriptor to the input leaves nothing behind of it, and nothing at all if it fails. -/
theorem moveToInput_pointing {fd : Int} {opened : φ} {result : Except IoError Unit}
    (hfree : table fd = none)
    (h : (keeping file).Returns (Boot.moveToInput fd).run (table.pointing [fd] opened) result table') :
    (result = .ok () ∧ table' = table.pointing [0] opened) ∨
      ((∃ cause, result = .error cause) ∧ table' = table) := by
  obtain ⟨es, htrace, hpath⟩ := h
  unfold Boot.moveToInput standardInput at htrace
  by_cases hinput : fd = 0
  · rw [if_pos hinput] at htrace
    obtain ⟨rfl, hresult⟩ := trace_done_iff.mp htrace
    rw [Behaviour.path_nil_iff.mp hpath, hinput]
    exact .inl ⟨Standing.returned.inj hresult, rfl⟩
  · rw [if_neg hinput] at htrace
    obtain ⟨moved, es₁, rfl, hclose⟩ := trace_ask_returned_iff.mp htrace
    obtain ⟨closed, es₂, rfl, hdone⟩ := trace_ask_returned_iff.mp hclose
    obtain ⟨rfl, hresult⟩ := trace_done_iff.mp hdone
    obtain ⟨table₁, hmoves, hrest⟩ := Behaviour.path_cons_iff.mp hpath
    obtain ⟨table₂, hcloses, hend⟩ := Behaviour.path_cons_iff.mp hrest
    obtain rfl := Behaviour.path_nil_iff.mp hend
    obtain rfl : table' = Function.update table₁ fd none := hcloses
    replace hresult := Standing.returned.inj hresult
    rcases hmoves with ⟨hneg, rfl⟩ | ⟨hvalue, hmoved⟩
    · rw [Reply.result_of_neg hneg] at hresult
      refine .inr ⟨⟨_, hresult⟩, ?_⟩
      rw [close_pointing hfree fun fd' => ?_, pointing_nil]
      simp
    · rw [Reply.result_of_nonneg hvalue] at hresult
      refine .inl ⟨hresult, ?_⟩
      rw [hmoved, pointing_of_mem List.mem_cons_self, update_pointing]
      refine close_pointing hfree fun fd' => ?_
      simp only [List.mem_cons, List.not_mem_nil, or_false]
      omega

/-- A file that cannot be opened is not moved, and one that was opened is under a free descriptor. -/
theorem bindInput_pointing {path : Bytes} {result : Except IoError Unit}
    (h : (keeping file).Returns (Boot.bindInput path).run table result table') :
    (result = .ok () ∧ table' = table.pointing [0] (file path 0)) ∨
      ((∃ cause, result = .error cause) ∧ table' = table) := by
  unfold Boot.bindInput at h
  by_cases hnul : path.hasNul = true
  · rw [if_pos hnul] at h
    obtain ⟨es, htrace, hpath⟩ := h
    obtain ⟨rfl, hresult⟩ := trace_done_iff.mp htrace
    exact .inr ⟨⟨_, Standing.returned.inj hresult⟩, Behaviour.path_nil_iff.mp hpath⟩
  · rw [if_neg hnul] at h
    obtain ⟨reply, table₁, hopens, ⟨hneg, hresult, rfl⟩ | ⟨hvalue, hmoves⟩⟩ := returns_call_bind h
    · rcases hopens with ⟨-, rfl⟩ | ⟨hvalue, -⟩
      · exact .inr ⟨⟨_, hresult⟩, rfl⟩
      · omega
    · obtain ⟨hfree, rfl⟩ := pointing_of_opened hopens hvalue
      exact moveToInput_pointing hfree hmoves

end

/-- Binding the streams of a process leaves no other trace in its descriptors: if the null device is
bound, then to the three standard streams and to nothing else, and if a file is bound to the input,
then to nothing else; if the latter fails, wherever it does, all is as it was. This holds for all
descriptors that were open before, the standard ones or not, and for any descriptor under which the
file is opened. -/
theorem bindings_pointing (file : Bytes → Nat → φ) (table table' : Descriptors φ) :
    ((keeping file).Returns Launch.bindNullStreams.run table (.ok ()) table' →
      table' = table.pointing [0, 1, 2] (file (Bytes.ofString "/dev/null") 2)) ∧
    ∀ path,
      ((keeping file).Returns (Boot.bindInput path).run table (.ok ()) table' →
        table' = table.pointing [0] (file path 0)) ∧
      ∀ cause, (keeping file).Returns (Boot.bindInput path).run table (.error cause) table' →
        table' = table := by
  refine ⟨bindNullStreams_pointing, fun path => ⟨fun h => ?_, fun cause h => ?_⟩⟩
  · rcases bindInput_pointing h with ⟨-, htable⟩ | ⟨⟨_, hresult⟩, -⟩
    · exact htable
    · cases hresult
  · rcases bindInput_pointing h with ⟨hresult, -⟩ | ⟨-, htable⟩
    · cases hresult
    · exact htable

/-- The null device is opened as 2, which is source and target of a `dup2` then and is not closed; the
input device is opened as 0, and is not moved at all; and it is opened as 5, but cannot be moved. -/
theorem bindings_pointing_gaps :
    let file : Bytes → Nat → Bytes × Nat := Prod.mk
    let table : Descriptors (Bytes × Nat) := fun fd => if fd = 1 then some ([0x70], 1) else none
    let device : Bytes := [0x64]
    ∃ streams input unbound,
      (keeping file).Returns Launch.bindNullStreams.run table (.ok ()) streams ∧
      streams = table.pointing [0, 1, 2] (Bytes.ofString "/dev/null", 2) ∧
      (keeping file).Returns (Boot.bindInput device).run table (.ok ()) input ∧
      input = table.pointing [0] (device, 0) ∧
      (keeping file).Returns (Boot.bindInput device).run table (.error (.errno 16)) unbound ∧
      unbound = table := by
  intro file table device
  let reply (value : Int) : Reply := ⟨value, 16, 0⟩
  have hnull : Launch.bindNullStreams.run.Trace
      [answered (.openFile (Bytes.ofString "/dev/null") 2) (reply 2),
        answered (.dup2 2 0) (reply 0), answered (.dup2 2 1) (reply 1),
        answered (.dup2 2 2) (reply 2)] (.returned (.ok ())) := by
    iterate 4 refine .ask _ ?_
    exact .done _
  have hinput : (Boot.bindInput device).run.Trace
      [answered (.openFile device 0) (reply 0)] (.returned (.ok ())) := by
    refine .ask _ ?_
    exact .done _
  have hstuck : (Boot.bindInput device).run.Trace
      [answered (.openFile device 0) (reply 5), answered (.dup2 5 0) (reply (-1)),
        answered (.close 5) (reply 0)] (.returned (.error (.errno 16))) := by
    iterate 3 refine .ask _ ?_
    exact .done _
  obtain ⟨streams, hstreams⟩ : ∃ streams,
      (keeping file).Returns Launch.bindNullStreams.run table (.ok ()) streams :=
    ⟨_, _, hnull, .cons (.inr ⟨by decide, rfl, rfl⟩) (.cons (.inr ⟨by decide, rfl⟩)
      (.cons (.inr ⟨by decide, rfl⟩) (.cons (.inr ⟨by decide, rfl⟩) (.nil _))))⟩
  obtain ⟨input, hbound⟩ : ∃ input,
      (keeping file).Returns (Boot.bindInput device).run table (.ok ()) input :=
    ⟨_, _, hinput, .cons (.inr ⟨by decide, rfl, rfl⟩) (.nil _)⟩
  obtain ⟨unbound, hunbound⟩ : ∃ unbound,
      (keeping file).Returns (Boot.bindInput device).run table (.error (.errno 16)) unbound :=
    ⟨_, _, hstuck, .cons (.inr ⟨by decide, rfl, rfl⟩) (.cons (.inl ⟨by decide, rfl⟩)
      (.cons rfl (.nil _)))⟩
  exact ⟨streams, input, unbound, hstreams, (bindings_pointing file table streams).1 hstreams,
    hbound, ((bindings_pointing file table input).2 device).1 hbound,
    hunbound, ((bindings_pointing file table unbound).2 device).2 _ hunbound⟩

end Descriptors
end GuestInit
