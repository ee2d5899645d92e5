import GuestInit.Boot
import GuestInit.Cleanup
import GuestInit.ControlLoop
import GuestInit.Halt
import GuestInit.Launch

/-! The whole run of the supervisor: boot the guest, execute the control script, halt. -/

namespace GuestInit.Session

open GuestInit.Action

/-- The control loop's collaborators at work: commands are launched as processes, and what they
leave behind is removed from the guest. -/
def collaborate (rounds : Nat) (identities : Identities) :
    (q : ControlLoop.Request) → Action (ControlLoop.Answer q)
  | .note record => log record
  | .launch command script => Launch.launch rounds identities command script
  | .reap => Cleanup.reap rounds

/-- Executes a control script. -/
def execute (rounds : Nat) (identities : Identities) (script : Script) :
    Action ControlLoop.Outcome :=
  (ControlLoop.run script).interpret (collaborate rounds identities)

/-- Everything between the configuration and the halt. -/
def serve (rounds : Nat) (config : Config) : Action (Except Fault Unit) := do
  match ← (Boot.prepare config).run with
  | .error fault => return .error fault
  | .ok () =>
    match ← openScript config.controlPath with
    | .error cause => return .error (.openFile config.controlPath cause)
    | .ok (fd, source) =>
      return (← execute rounds config.identities (.ofFile fd source)).1.map fun _ => ()

/-- Sets the console up, unless that was done before. A failure is said on standard error, and the run
goes on. -/
def setUpConsole (isSet : Bool) : Action Unit :=
  match Console.setUp isSet with
  | .error cause => complain (Console.tagged cause.message)
  | .ok _ => return ()

/-- The supervisor as process 1. It does not return. -/
def supervise (rounds : Nat) (diskSize : Option Bytes) : Action Empty := do
  setUpConsole false
  log (.info "init")
  match Config.ofVariable diskSize with
  | .error fault => Halt.die fault
  | .ok config =>
    log (.debug s!"scratch size {config.diskSize.text}")
    match ← serve rounds config with
    | .error fault => Halt.die fault
    | .ok () => Halt.halt

/-- The whole program, with its process number and the value of the environment variable. Killing every
other process is for process 1 alone: under any other number it only returns an exit status. -/
def start (rounds : Nat) (pid : Nat) (diskSize : Option Bytes) : Action Nat :=
  if pid = 1 then do (← supervise rounds diskSize).elim
  else do
    complain (Console.tagged "must run as process 1")
    return 1

end GuestInit.Session
