import GuestInit.Session

/-! The command line. The supervisor runs with the console as standard error. Its system calls are
not bound to a kernel here; each is answered the way a kernel does that lacks the call, so under
process number 1 it reports what it cannot mount, and that it cannot halt. -/

namespace GuestInit

/-- What a kernel replies to a call that it does not have. -/
def Kernel.Reply.unavailable : Kernel.Reply := ⟨-1, Errno.notImplemented, 0⟩

/-- Performs an action. It ends with a value, or with the exit status that it asked for. -/
def performOnConsole {α : Type} : Action α → IO (Except Nat α)
  | .done value => return .ok value
  | .unfinished => return .error 1
  | .ask (.call _) next => performOnConsole (next .unavailable)
  | .ask (.openScript _) next => performOnConsole (next (.error (.errno Errno.notImplemented)))
  | .ask (.log record) next => do
    (Console.recordLines record).forM IO.eprintln
    performOnConsole (next ())
  | .ask (.complain text) next => do
    IO.eprint text
    performOnConsole (next ())
  | .ask (.exit status) _ => return .error status

/-- The number of this process, which starts its line in the process filesystem. -/
def processNumber : IO Nat := do
  let line ← IO.FS.readFile "/proc/self/stat"
  return (String.ofList (line.toList.takeWhile Char.isDigit)).toNat?.getD 0

end GuestInit

open GuestInit in
/-- Runs the supervisor and returns its exit status. -/
def main : IO UInt32 := do
  let diskSize := (← IO.getEnv DiskSize.variableName).map Bytes.ofString
  match ← performOnConsole (Session.start 1 (← processNumber) diskSize) with
  | .ok status | .error status => return status.toUInt32
