import GuestInit.Program
import GuestInit.Script
import GuestInit.Text.Blank

/-! The loop that executes a control script: read a command, launch it, judge how it ended, remove
what it left behind. The launcher and the reaper are left open, so that they may answer anything. -/

namespace GuestInit.ControlLoop

inductive Request where
  | note (record : Record)
  /-- Runs a command to its end. The descriptor is the one of the script, for the command to give up. -/
  | launch (command : Command) (script : Option Int)
  /-- Removes what commands left behind. -/
  | reap
deriving DecidableEq, Repr

abbrev Answer : Request → Type
  | .note _ => Unit
  | .launch _ _ => Except Fault ExitStatus
  | .reap => Except Fault Unit

abbrev Collaborators : Interface := ⟨Request, Answer⟩

/-- Announces a command, before it is launched. -/
def stepRecord (command : Command) : Record :=
  .info s!"step {command.line} ({command.privilege.name}): {Blank.trim (Utf8.lossy command.raw)}"

def finishedRecord (steps : Nat) : Record := .info s!"control script finished after {steps} steps"

def note (record : Record) : Program Collaborators Unit :=
  Program.request Collaborators (.note record)

/-- Reports what a judgement asks for, if anything. -/
def noteIfAny : Option Record → Program Collaborators Unit
  | none => .done ()
  | some record => note record

/-- What became of a run: the number of commands executed or the fault that ended it, and the
script as far as it was left unread. -/
abbrev Outcome := Except Fault Nat × Script

/-- Launches a command, judges how it ended and has the rest removed. -/
def step (command : Command) (script : Option Int) : Program Collaborators (Except Fault Unit) := do
  note (stepRecord command)
  match ← Program.request Collaborators (.launch command script) with
  | .error fault => return .error fault
  | .ok status =>
    match command.judge status with
    | .error fault => return .error fault
    | .ok record =>
      noteIfAny record
      Program.request Collaborators .reap

/-- Goes on after `steps` commands. A fault ends the run where it arises: a command of the master
that failed is not even cleaned up after, since the guest is about to halt. -/
def runFrom (steps : Nat) (script : Script) : Program Collaborators Outcome :=
  match _h : script.next with
  | (.error fault, rest) => return (.error fault, rest)
  | (.ok none, rest) => do
    note (finishedRecord steps)
    return (.ok steps, rest)
  | (.ok (some command), rest) => do
    match ← step command script.descriptor with
    | .error fault => return (.error fault, rest)
    | .ok () => runFrom (steps + 1) rest
termination_by script.source.size
decreasing_by
  have := @Script.size_next_lt script command (by rw [_h])
  rwa [_h] at this

/-- Executes the whole script. -/
def run (script : Script) : Program Collaborators Outcome := runFrom 0 script

end GuestInit.ControlLoop
