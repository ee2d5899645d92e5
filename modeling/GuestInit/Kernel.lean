import GuestInit.Console
import GuestInit.Ipc.Class
import GuestInit.Program
import GuestInit.Script.Source

/-! What the supervisor asks of its surroundings: calls to the kernel, the control script, and a
console to write to. -/

namespace GuestInit.Kernel

/-- A system call with its arguments. -/
inductive Call where
  | mount (source target fstype : Bytes) (flags : UInt64) (data : Option Bytes)
  | setrlimit (resource : Nat) (soft hard : UInt64)
  | openFile (path : Bytes) (flags : Nat)
  | dup2 (fd target : Int)
  | close (fd : Int)
  | fork
  | geteuid
  | setgroups (count : Nat)
  | setgid (gid : UInt32)
  | setuid (uid : UInt32)
  | umask (mask : UInt32)
  | execve (path : Bytes) (argv envp : List Bytes)
  | waitpid (pid : Int)
  | kill (pid signal : Int)
  | ipcControl (ipcClass : Ipc.Class) (operation : Ipc.Operation) (operand : Int)
  | reboot (command : UInt32)
deriving DecidableEq, Repr

/-- What the kernel answers to a call that returns. -/
structure Reply where
  value : Int
  /-- The error number as it stands after the call. -/
  errno : Int
  /-- The word with which `waitpid` reports how a process ended. -/
  word : UInt32
deriving DecidableEq, Repr

/-- A call has failed if and only if its value is negative; the error number then says why. -/
def Reply.result (reply : Reply) : Except IoError Int :=
  if reply.value < 0 then .error (.errno reply.errno) else .ok reply.value

theorem Reply.result_of_neg {reply : Reply} (h : reply.value < 0) :
    reply.result = .error (.errno reply.errno) := if_pos h

theorem Reply.result_of_nonneg {reply : Reply} (h : 0 ≤ reply.value) :
    reply.result = .ok reply.value := if_neg (by omega)

theorem Reply.result_eq_ok {reply : Reply} {value : Int} (h : reply.result = .ok value) :
    0 ≤ reply.value ∧ value = reply.value := by
  by_cases hneg : reply.value < 0
  · simp [result_of_neg hneg] at h
  · rw [result_of_nonneg (by omega)] at h
    exact ⟨by omega, (Except.ok.inj h).symm⟩

theorem Reply.result_eq_error {reply : Reply} {cause : IoError} (h : reply.result = .error cause) :
    reply.value < 0 ∧ cause = .errno reply.errno := by
  by_cases hneg : reply.value < 0
  · rw [result_of_neg hneg] at h
    exact ⟨hneg, (Except.error.inj h).symm⟩
  · simp [result_of_nonneg (show 0 ≤ reply.value by omega)] at h

inductive Request where
  | call (call : Call)
  /-- Opens the control script for reading. -/
  | openScript (path : Bytes)
  | log (record : Record)
  /-- Writes to standard error without the console. -/
  | complain (text : String)
  /-- Ends the process, without flushing or undoing anything. -/
  | exit (status : Nat)
deriving DecidableEq, Repr

/-- An opened script is a descriptor and what can be read from it. Nothing follows an exit. -/
abbrev Answer : Request → Type
  | .call _ => Reply
  | .openScript _ => Except IoError (Int × Source)
  | .log _ | .complain _ => Unit
  | .exit _ => Empty

abbrev Surroundings : Interface := ⟨Request, Answer⟩

end Kernel

/-- What the supervisor, or a child of its, does. -/
abbrev Action := Program Kernel.Surroundings

/-- An action that may fail. -/
abbrev Attempt (ε : Type) := ExceptT ε Action

namespace Action

open Kernel

def call (c : Call) : Action Reply := Program.request Surroundings (.call c)

def log (record : Record) : Action Unit := Program.request Surroundings (.log record)

def complain (text : String) : Action Unit := Program.request Surroundings (.complain text)

def openScript (path : Bytes) : Action (Except IoError (Int × Source)) :=
  Program.request Surroundings (.openScript path)

def exit (status : Nat) : Action Empty := Program.request Surroundings (.exit status)

/-- A call, and its value if it did not fail. -/
def attempt (c : Call) : Action (Except IoError Int) := do
  return (← call c).result

section
variable {β : Type}

@[simp] theorem call_bind (c : Call) (f : Reply → Action β) :
    (call c >>= f) = .ask (.call c) f := rfl
@[simp] theorem log_bind (record : Record) (f : Unit → Action β) :
    (log record >>= f) = .ask (.log record) f := rfl
@[simp] theorem attempt_bind (c : Call) (f : Except IoError Int → Action β) :
    (attempt c >>= f) = .ask (.call c) fun reply => f reply.result := rfl

end

end Action

/-- A call whose failure is the failure of the whole attempt, once it is told what failed. -/
def Attempt.call {ε : Type} (failed : IoError → ε) (c : Kernel.Call) : Attempt ε Int :=
  ExceptT.mk do return (← Action.attempt c).mapError failed

/-- An action that cannot fail. -/
def Attempt.log {ε : Type} (record : Record) : Attempt ε Unit := ExceptT.lift (Action.log record)

namespace Attempt

variable {ε ε' α β : Type}

/-- An attempt goes on with the value of a call, or fails where the call does. -/
theorem run_call_bind (failed : IoError → ε) (c : Kernel.Call) (f : Int → Attempt ε α) :
    (call failed c >>= f).run = .ask (.call c) fun reply =>
      match reply.result with
      | .ok value => (f value).run
      | .error cause => .done (.error (failed cause)) := by
  refine congrArg (Program.ask (I := Kernel.Surroundings) (.call c)) (funext fun reply => ?_)
  show (ExceptT.bindCont f (reply.result.mapError failed) : Action (Except ε α)) = _
  cases reply.result with
  | ok value => rfl
  | error cause => rfl

theorem run_lift_call_bind (c : Kernel.Call) (f : Kernel.Reply → Attempt ε α) :
    (ExceptT.lift (Action.call c) >>= f : Attempt ε α).run =
      .ask (.call c) fun reply => (f reply).run := rfl

theorem adapt_bind (adapted : ε → ε') (p : Attempt ε α) (f : α → Attempt ε β) :
    (ExceptT.adapt adapted (p >>= f) : Attempt ε' β) =
      ExceptT.adapt adapted p >>= fun value => ExceptT.adapt adapted (f value) := by
  apply ExceptT.ext
  show Except.mapError adapted <$> (p.run >>= ExceptT.bindCont f) =
    (Except.mapError adapted <$> p.run) >>=
      ExceptT.bindCont fun value => ExceptT.adapt adapted (f value)
  rw [map_bind, bind_map_left]
  refine bind_congr fun result => ?_
  cases result with
  | ok value => rfl
  | error cause => rfl

theorem adapt_call (adapted : ε → ε') (failed : IoError → ε) (c : Kernel.Call) :
    (ExceptT.adapt adapted (call failed c) : Attempt ε' Int) = call (adapted ∘ failed) c := by
  apply ExceptT.ext
  refine congrArg (Program.ask (I := Kernel.Surroundings) (.call c)) (funext fun reply => ?_)
  show Program.done ((reply.result.mapError failed).mapError adapted) =
    Program.done (reply.result.mapError (adapted ∘ failed))
  cases reply.result with
  | ok value => rfl
  | error cause => rfl

theorem adapt_discard (adapted : ε → ε') (p : Attempt ε α) :
    (ExceptT.adapt adapted (discard p) : Attempt ε' Unit) = discard (ExceptT.adapt adapted p) :=
  adapt_bind adapted p fun _ => pure ()

end Attempt

namespace Kernel

/-! Numbers of the kernel's interface. -/

def readOnly : Nat := 0
def readWrite : Nat := 2
def standardInput : Int := 0
def standardOutput : Int := 1
def standardError : Int := 2
/-- The limit on the number of processes of one user. -/
def processLimit : Nat := 6
/-- All processes but the caller. -/
def everyProcess : Int := -1
/-- Any child of the caller. -/
def anyChild : Int := -1
/-- The signal that cannot be caught. -/
def sigkill : Int := 9
/-- Halts the machine. -/
def haltSystem : UInt32 := 0xCDEF0123

end Kernel
end GuestInit
