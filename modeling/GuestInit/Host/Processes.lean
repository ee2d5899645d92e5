import GuestInit.Host.Files
import GuestInit.Launch
import GuestInit.Rehearsal.Loop

/-! Launching commands on a machine that forks: the child runs to its end before its parent goes
on. The supervisor is the superuser there, but it lacks the capability to change groups, so no
child gets any further than that. -/

namespace GuestInit.Host

open Kernel

structure Machine where
  /-- The descriptors that are open. -/
  descriptors : List Int
  /-- What was written to the console, the latest line first. -/
  console : List String
  /-- The children that ended, each with the word that reports how. -/
  ended : List (Int × UInt32)
  /-- The number of the next process. -/
  nextPid : Int
  /-- The exit status of the process itself, once it has one. -/
  exitStatus : Option Nat
deriving DecidableEq, Repr

namespace Machine

def ofDescriptors (descriptors : List Int) : Machine := ⟨descriptors, [], [], 2, none⟩

def failing (errno : Int) : Reply := ⟨-1, errno, 0⟩

def succeeding (value : Int) : Reply := ⟨value, 0, 0⟩

/-- A call that no process there gets to is not provided. -/
def reply (machine : Machine) : Call → Reply × Machine
  | .close fd =>
    if fd ∈ machine.descriptors then
      (succeeding 0, { machine with descriptors := machine.descriptors.erase fd })
    else (failing Errno.badDescriptor, machine)
  | .geteuid => (succeeding 0, machine)
  | .setgroups _ => (failing Errno.notPermitted, machine)
  | .waitpid pid =>
    match machine.ended.lookup pid with
    | some word => (⟨pid, 0, word⟩, machine)
    | none => (failing Errno.noChild, machine)
  | _ => (failing Errno.notImplemented, machine)

def written (machine : Machine) (lines : List String) : Machine :=
  { machine with console := lines.reverse ++ machine.console }

def answer (machine : Machine) : (q : Kernel.Request) → Option (Kernel.Answer q) × Machine
  | .call call => (some (machine.reply call).1, (machine.reply call).2)
  | .openScript _ => (some (.error (.errno Errno.notImplemented)), machine)
  | .log record => (some (), machine.written (Console.recordLines record))
  | .complain text => (some (), machine.written (Console.lines text))
  | .exit status => (none, { machine with exitStatus := some status })

/-- The word that reports an exit. -/
def exitWord (status : Nat) : UInt32 := status.toUInt32 <<< 8

/-- A parent after its child, of which it keeps the console lines and the exit status. -/
def afterChild (parent child : Machine) : Machine :=
  { parent with
    console := child.console
    ended := (parent.nextPid, exitWord (child.exitStatus.getD 0)) :: parent.ended
    nextPid := parent.nextPid + 1 }

end Machine

/-- Runs an action. A fork runs the rest of it twice, first as the child. -/
def run {α : Type} : Action α → Machine → Ending α × Machine
  | .done value, machine => (.returned value, machine)
  | .unfinished, machine => (.unfinished, machine)
  | .ask (.call .fork) next, machine =>
    let child := (run (next (Machine.succeeding 0)) machine).2
    run (next (Machine.succeeding machine.nextPid)) (machine.afterChild child)
  | .ask q next, machine =>
    match machine.answer q with
    | (some answer, machine) => run (next answer) machine
    | (none, machine) => (.stopped, machine)

/-- The identities commands get there: the superuser in both roles. -/
def identities : Identities := ⟨⟨0, 0, 0o077, .inherited⟩, ⟨0, 0, 0o000, .null⟩⟩

/-- Launches one command and returns the console lines it made. The line that names the new process
is left out, because it says nothing about the command. -/
def launch (identities : Identities) (descriptors : List Int) (command : Command)
    (script : Option Int) : Except Fault ExitStatus × List String :=
  let machine := Machine.ofDescriptors descriptors
  let (ending, after) := run (Launch.launch 1 identities command script) machine
  let started := Console.recordLines (Launch.startedRecord command machine.nextPid)
  let lines := after.console.reverse.filter fun line => !started.contains line
  (ending.value?.getD (.error (.wait (.errno Errno.noChild))), lines)

/-- A launcher for the control loop. No program gets to write anything. -/
def launcher (identities : Identities) : Rehearsal.Launcher := fun stage command script =>
  let (result, lines) := launch identities (scriptDescriptor :: [0, 1, 2]) command script
  (result, (stage.recordAll (lines.map .line)).record (.output []))

end GuestInit.Host
