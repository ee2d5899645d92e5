import GuestInit.Host.Processes
import GuestInit.Proofs.OneLine
import GuestInit.Proofs.Rehearsals

/-! The machine on which launches are recorded. Only a script whose path the kernel takes is opened
there; a process that forks makes a run as its program has it; and a launched command, whichever it
is, ends with the status of a child that could not give something up. -/

namespace GuestInit

open Kernel Program

namespace Host

section Files

variable {path : Bytes}

/-- A path that is followed to its end has no name that is too long. -/
theorem walk_names {before : List Node} {node found : Node} {names : List Bytes}
    (h : walk before node names = .ok found) : ∀ name ∈ names, name.length ≤ longestName := by
  induction names generalizing before node with
  | nil => nofun
  | cons name names ih =>
    rw [List.forall_mem_cons]
    cases node with
    | file content => simp [walk] at h
    | directory entries =>
      unfold walk at h
      split at h
      case isTrue hstays =>
        refine ⟨?_, ih h⟩
        rcases hstays with rfl | rfl <;> decide
      split at h
      case isTrue hback =>
        subst hback
        refine ⟨by decide, ?_⟩
        split at h <;> exact ih h
      split at h
      case isTrue => cases h
      case isFalse hlength =>
        refine ⟨Nat.le_of_not_lt hlength, ?_⟩
        split at h
        · cases h
        · exact ih h

/-- A path that leads anywhere is one that the kernel takes. -/
theorem resolve_names {node : Node} (h : resolve path = .ok node) :
    path ≠ [] ∧ path.length < longestPath ∧
      ∀ name ∈ path.splitOn slash, name.length ≤ longestName := by
  rw [resolve] at h
  split at h
  · cases h
  case isFalse hempty =>
  split at h
  · cases h
  case isFalse hlength =>
  refine ⟨hempty, Nat.lt_of_not_le hlength, ?_⟩
  split at h <;> exact walk_names h

/-- What is opened has its own descriptor and none of its lines read; what is not opened is reported
by its path. -/
theorem openScript_spec (path : Bytes) :
    (∃ cause, openScript path = .error (.openFile path cause)) ∨
    ∃ node : Node, openScript path = .ok (.ofFile 3 node.source) ∧ path.hasNul = false ∧ path ≠ [] ∧
      path.length < 4096 ∧ ∀ name ∈ path.splitOn slash, name.length ≤ 255 := by
  rw [openScript]
  split
  · exact .inl ⟨_, rfl⟩
  case isFalse hnul =>
  cases hresolve : resolve path with
  | error code => exact .inl ⟨_, rfl⟩
  | ok node =>
    exact .inr ⟨node, rfl, Bool.eq_false_iff.mpr hnul, resolve_names hresolve⟩

end Files

namespace Machine

/-- Only a fork uses up the number of the next process. -/
@[simp] theorem answer_nextPid (machine : Machine) (q : Request) :
    (machine.answer q).2.nextPid = machine.nextPid := by
  cases q with
  | call c =>
    cases c with
    | close fd =>
      by_cases h : fd ∈ machine.descriptors <;> simp [answer, reply, h]
    | waitpid pid =>
      cases h : machine.ended.lookup pid <;> simp [answer, reply, h]
    | _ => rfl
  | _ => rfl

end Machine

section Run

variable {α : Type} {machine : Machine}

theorem run_fork (next : Reply → Action α) (machine : Machine) :
    run (.ask (.call .fork) next) machine =
      run (next (Machine.succeeding machine.nextPid))
        (machine.afterChild (run (next (Machine.succeeding 0)) machine).2) := rfl

theorem run_ask {q : Request} (hq : q ≠ .call .fork) (next : Answer q → Action α)
    (machine : Machine) : run (.ask q next) machine =
      match machine.answer q with
      | (some answer, machine) => run (next answer) machine
      | (none, machine) => (.stopped, machine) := by
  cases q with
  | call c =>
    cases c with
    | fork => exact absurd rfl hq
    | _ => rfl
  | _ => rfl

/-- What a process does on that machine is a run of its program, in which no fork fails and none
returns in the child. -/
theorem run_traces (action : Action α) (hpid : 0 < machine.nextPid) :
    ∃ es standing, action.Trace es standing ∧ (run action machine).1 = standing.ending ∧
      ∀ reply, answered .fork reply ∈ es → 0 < reply.value := by
  induction action generalizing machine with
  | done value => exact ⟨[], _, .done value, rfl, nofun⟩
  | unfinished => exact ⟨[], _, .unfinished, rfl, nofun⟩
  | ask q next ih =>
    by_cases hq : q = .call .fork
    · -- the child's run leaves its lines and its status, and the parent goes on behind it
      subst hq
      have hafter : 0 < (machine.afterChild (run (next (Machine.succeeding 0)) machine).2).nextPid := by
        simpa [Machine.afterChild] using Int.add_pos hpid Int.one_pos
      obtain ⟨es, standing, htrace, hending, hforks⟩ := ih (Machine.succeeding machine.nextPid) hafter
      refine ⟨_, standing, .ask _ htrace, hending, fun reply hmem => ?_⟩
      rcases List.mem_cons.mp hmem with heq | hmem
      · obtain rfl : reply = Machine.succeeding machine.nextPid := by simpa [answered] using heq
        exact hpid
      · exact hforks reply hmem
    · rw [run_ask hq]
      have hnext := machine.answer_nextPid q
      generalize machine.answer q = answered at hnext ⊢
      obtain ⟨_ | answer, machine'⟩ := answered
      · exact ⟨[], _, .pending q next, rfl, nofun⟩
      · obtain ⟨es, standing, htrace, hending, hforks⟩ := ih answer (hnext ▸ hpid)
        refine ⟨_, standing, .ask answer htrace, hending, fun reply hmem => ?_⟩
        rcases List.mem_cons.mp hmem with heq | hmem
        · exact absurd (congrArg Exchange.request heq).symm hq
        · exact hforks reply hmem

end Run

section Launch

open Launch

variable {α : Type}

/-- A child that has a script to give up goes on like one that has none, if it can. -/
theorem child_some (arguments : Arguments) (identity : Identity) (fd : Int) :
    child arguments identity (some fd) = .ask (.call (.close fd)) fun reply =>
      match reply.result with
      | .ok _ => child arguments identity none
      | .error cause => (ChildFailure.of "close control script" cause).die := by
  refine congrArg (Program.ask (I := Surroundings) (.call (.close fd)))
    (funext fun (reply : Reply) => ?_)
  simp only [Program.bind, Program.pure_eq]
  cases reply.result with
  | ok value => rfl
  | error cause => rfl

/-- What a child there cannot give up: a script that is not open, or else its groups. -/
def failure (machine : Machine) : Option Int → ChildFailure
  | none => .of "set groups" (.errno 1)
  | some fd =>
    if fd ∈ machine.descriptors then .of "set groups" (.errno 1)
    else .of "close control script" (.errno 9)

/-- A child there says what it cannot give up, and exits. -/
theorem run_child (arguments : Arguments) (identity : Identity) (script : Option Int)
    (f : Empty → Action α) (machine : Machine) :
    (run (child arguments identity script >>= f) machine).2.console =
      (Console.recordLines (.error (failure machine script).message)).reverse ++ machine.console ∧
    (run (child arguments identity script >>= f) machine).2.exitStatus = some 1 := by
  cases script with
  | none => exact ⟨rfl, rfl⟩
  | some fd =>
    rw [child_some, ask_bind, run_ask (by nofun)]
    by_cases hopen : fd ∈ machine.descriptors
    · have hanswer : machine.answer (.call (.close fd)) = (some (Machine.succeeding 0),
          { machine with descriptors := machine.descriptors.erase fd }) := by
        simp [Machine.answer, Machine.reply, hopen]
      rw [hanswer, failure, if_pos hopen]
      exact ⟨rfl, rfl⟩
    · have hanswer : machine.answer (.call (.close fd)) =
          (some (Machine.failing Errno.badDescriptor), machine) := by
        simp [Machine.answer, Machine.reply, hopen]
      rw [hanswer, failure, if_neg hopen]
      exact ⟨rfl, rfl⟩

theorem startedRecord_start (command : Command) (pid : Int) :
    (startedRecord command pid).message.toList.take 3 = ['s', 't', 'e'] := by
  show ("step " ++ _ ++ _ ++ _ : String).toList.take 3 = _
  simp only [String.toList_append, List.append_assoc]
  rfl

/-- What is said of a failure is one line, and not the one that names a new process. -/
theorem failure_line (machine : Machine) (script : Option Int) :
    OneLine (failure machine script).message ∧
      ∀ command pid, (failure machine script).message ≠ (startedRecord command pid).message := by
  have hcases : failure machine script = .of "set groups" (.errno 1) ∨
      failure machine script = .of "close control script" (.errno 9) := by
    cases script with
    | none => exact .inl rfl
    | some fd =>
      rw [failure]
      split
      · exact .inl rfl
      · exact .inr rfl
  have hstart : (failure machine script).message.toList.take 3 ≠ ['s', 't', 'e'] := by
    rcases hcases with hfailure | hfailure <;> rw [hfailure] <;> decide
  constructor
  · rcases hcases with hfailure | hfailure <;> rw [hfailure] <;> decide
  · intro command pid heq
    exact hstart (heq ▸ startedRecord_start command pid)

/-- The parent of a child that has exited names it, waits for it and has its status. -/
theorem run_launch {command : Command} {arguments : Arguments}
    (h : Launch.arguments command = .ok arguments) (identities : Identities) (script : Option Int)
    (descriptors : List Int) :
    let machine := Machine.ofDescriptors descriptors
    let after := run (Launch.launch 1 identities command script) machine
    after.1 = .returned (.ok (.code 1)) ∧
      after.2.console.reverse =
        Console.recordLines (.error (failure machine script).message) ++
          Console.recordLines (startedRecord command 2) := by
  intro machine after
  let child := (run (Launch.child arguments (identities.get command.privilege) script >>=
    fun never => (never.elim : Action (Except Fault ExitStatus))) machine).2
  obtain ⟨hconsole, hstatus⟩ : child.console =
      (Console.recordLines (.error (failure machine script).message)).reverse ++ [] ∧
      child.exitStatus = some 1 := run_child arguments _ script _ machine
  have hafter : after = run (.ask (.log (startedRecord command 2)) fun _ =>
      wait 1 2 >>= fun result => .done (result.mapError .wait)) (machine.afterChild child) := by
    simp only [after, launch_eq h, run_fork]
    rfl
  rw [hafter]
  constructor
  · show Ending.returned (Except.ok (ExitStatus.ofWord (Machine.exitWord (child.exitStatus.getD 0)))) = _
    rw [hstatus]
    rfl
  · show ((Console.recordLines (startedRecord command 2)).reverse ++ child.console).reverse = _
    rw [hconsole, List.append_nil, ← List.reverse_append, List.reverse_reverse]

/-- A launch there, whatever the command and whoever it is for: a line that does not split is not
launched, and any other one ends with status 1 and the one line about what could not be given up. -/
theorem launch_spec (identities : Identities) (descriptors : List Int) (command : Command)
    (script : Option Int) :
    Host.launch identities descriptors command script =
      match Launch.arguments command with
      | .error fault => (.error fault, [])
      | .ok _ => (.ok (.code 1),
          Console.recordLines (.error (failure (.ofDescriptors descriptors) script).message)) := by
  cases harguments : Launch.arguments command with
  | error fault =>
    have hlaunch : Launch.launch 1 identities command script = .done (.error fault) := by
      rw [Launch.launch, harguments]
      rfl
    rw [Host.launch, hlaunch]
    rfl
  | ok arguments =>
    obtain ⟨hending, hconsole⟩ := run_launch harguments identities script descriptors
    obtain ⟨hline, hother⟩ := failure_line (.ofDescriptors descriptors) script
    have hfailed : Console.recordLines (.error (failure (.ofDescriptors descriptors) script).message) =
        ["init: " ++ (failure (.ofDescriptors descriptors) script).message] :=
      Console.lines_tagged hline
    have hstarted : Console.recordLines (startedRecord command 2) =
        ["init: " ++ (startedRecord command 2).message] :=
      Console.lines_tagged (by simp +decide [startedRecord, Record.debug])
    have hne := mt (String.append_right_inj "init: ").mp (hother command 2)
    simp only [Host.launch, hending, hconsole, Ending.value?, Option.getD_some]
    rw [hfailed, show (Machine.ofDescriptors descriptors).nextPid = 2 from rfl, hstarted]
    simp [hne]

/-- The control loop, rehearsed there: each launch leaves its line on the console, if any, and a
program that writes nothing. -/
theorem runs_launcher (identities : Identities) (times : Nat) (script : Script)
    (stage : Rehearsal.Stage) :
    Rehearsal.Rehearsed (fun command script =>
      (launch identities [3, 0, 1, 2] command script).2.map .line ++ [.output []])
      times script (Rehearsal.runs (launcher identities) times script stage) := by
  refine Rehearsal.runs_rehearsed (fun stage command script => ?_) times script stage
  rw [List.reverse_append, List.append_assoc, ← Rehearsal.recordAll_events]
  rfl

end Launch

end Host
end GuestInit
