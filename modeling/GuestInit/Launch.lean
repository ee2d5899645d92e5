import GuestInit.Config
import GuestInit.Kernel

/-! Launching a command. The supervisor forks one child and waits for it. The child gives up
whatever the command must not have, in a fixed order, before it becomes the program: the control
script, its groups, its ids and, for the worker, its streams. A child that fails on the way ends
alone and with status 1. -/

namespace GuestInit.Launch

open GuestInit.Action

/-- The whole environment of a launched program. -/
def environment : List String := ["PATH=/usr/bin:/bin", "LANG=C", "HOME=/tmp"]

def nullDevice : Bytes := Bytes.ofString "/dev/null"

/-- What a child could not do, and why. -/
structure ChildFailure where
  what : String
  why : String
deriving DecidableEq, Repr

namespace ChildFailure

def message (failure : ChildFailure) : String := failure.what ++ ": " ++ failure.why

def of (what : String) (cause : IoError) : ChildFailure := ⟨what, cause.message⟩

/-- Reports the failure and ends the child. -/
def die (failure : ChildFailure) : Action Empty := do
  log (.error failure.message)
  exit 1

end ChildFailure

/-- The control script is all that a child shares with the supervisor. -/
def giveUpScript : Option Int → Attempt ChildFailure Unit
  | none => pure ()
  | some fd => discard (Attempt.call (.of "close control script") (.close fd))

/-- Only the superuser may change its groups. -/
def giveUpGroups : Attempt ChildFailure Unit := do
  if (← ExceptT.lift (call .geteuid)).value = 0 then
    discard (Attempt.call (.of "set groups") (.setgroups 0))

/-- Points standard input, output and error to the null device. -/
def bindNullStreams : Attempt IoError Unit := do
  let fd ← Attempt.call id (.openFile nullDevice Kernel.readWrite)
  discard (Attempt.call id (.dup2 fd Kernel.standardInput))
  discard (Attempt.call id (.dup2 fd Kernel.standardOutput))
  discard (Attempt.call id (.dup2 fd Kernel.standardError))
  if fd > Kernel.standardError then ExceptT.lift (discard (call (.close fd)))

def bindStreams : Streams → Attempt ChildFailure Unit
  | .inherited => pure ()
  | .null => ExceptT.adapt (.of "reopen std streams") bindNullStreams

/-- Turns the child into what the identity asks for. -/
def takeOn (identity : Identity) (script : Option Int) : Attempt ChildFailure Unit := do
  giveUpScript script
  giveUpGroups
  discard (Attempt.call (.of "set gid") (.setgid identity.gid))
  discard (Attempt.call (.of "set uid") (.setuid identity.uid))
  ExceptT.lift (discard (call (.umask identity.umask)))
  bindStreams identity.streams

/-- Becomes the program that the first argument names. It only returns if that fails, and then the
error number says why. -/
def execute : Arguments → Action ChildFailure
  | [] => return ⟨"execve", "empty command"⟩
  | program :: rest => do
    let reply ← call (.execve program (program :: rest) (environment.map Bytes.ofString))
    return .of s!"execve {Utf8.lossy program}" (.errno reply.errno)

/-- All a child does. It never returns to the supervisor's work. -/
def child (arguments : Arguments) (identity : Identity) (script : Option Int) : Action Empty := do
  match ← (takeOn identity script).run with
  | .error failure => failure.die
  | .ok () => (← execute arguments).die

/-- Waits until one process, and no other, has ended. Interruptions are waited out, at most
`rounds` times. -/
def wait : (rounds : Nat) → (pid : Int) → Action (Except IoError ExitStatus)
  | 0, _ => .unfinished
  | rounds + 1, pid => do
    let reply ← call (.waitpid pid)
    match reply.result with
    | .ok _ => return .ok (.ofWord reply.word)
    | .error cause => if cause.isInterruption then wait rounds pid else return .error cause

def startedRecord (command : Command) (pid : Int) : Record :=
  .debug s!"step {command.line} is process {pid}"

/-- The arguments of a command, which the kernel can take. -/
def arguments (command : Command) : Except Fault Arguments := do
  let arguments ← command.arguments
  let _ ← arguments.terminated.mapError (.malformedLine command.line)
  return arguments

/-- Runs a command to its end, under the identity of its privilege. Everything that can be
prepared is prepared before the fork. -/
def launch (rounds : Nat) (identities : Identities) (command : Command) (script : Option Int) :
    Action (Except Fault ExitStatus) := do
  match arguments command with
  | .error fault => return .error fault
  | .ok arguments =>
    match ← attempt .fork with
    | .error cause => return .error (.fork cause)
    | .ok pid =>
      if pid = 0 then
        (← child arguments (identities.get command.privilege) script).elim
      else
        log (startedRecord command pid)
        return (← wait rounds pid).mapError .wait

end GuestInit.Launch
