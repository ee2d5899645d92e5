import GuestInit.Arguments.Split
import GuestInit.Console
import GuestInit.Fault

/-! One line of the control script, and what its outcome means for the run. -/

namespace GuestInit

/-- Who a command runs as: the grading side, or the submission it grades. -/
inductive Privilege where
  | master | worker
deriving DecidableEq, Repr

def Privilege.name : Privilege → String
  | master => "master"
  | worker => "worker"

structure Command where
  /-- The number of the line, counted from 1. -/
  line : Nat
  privilege : Privilege
  /-- The line without its marker. -/
  raw : Bytes
deriving DecidableEq, Repr

namespace Command

/-- The exclamation mark, with which a line of the worker starts. -/
def workerMarker : UInt8 := 0x21

def parse (line : Nat) : Bytes → Command
  | [] => ⟨line, .master, []⟩
  | first :: rest =>
    if first = workerMarker then ⟨line, .worker, rest⟩ else ⟨line, .master, first :: rest⟩

@[simp] theorem parse_line (line : Nat) (text : Bytes) : (parse line text).line = line := by
  cases text with
  | nil => rfl
  | cons first rest => simp only [parse]; split <;> rfl

def arguments (command : Command) : Except Fault Arguments :=
  (Arguments.split command.raw).mapError (.malformedLine command.line)

/-- The program as a report names it: the raw line if that does not split. -/
def programName (command : Command) : String :=
  match Arguments.split command.raw with
  | .ok arguments => (arguments.program?.map Utf8.lossy).getD ""
  | .error _ => Utf8.lossy command.raw

/-- Says whether the run may go on after a command ended, and what is to be reported if so. A
command of the master has to exit with status 0; whatever one of the worker does is routine. -/
def judge (command : Command) (status : ExitStatus) : Except Fault (Option Record) :=
  match command.privilege with
  | .worker => .ok (some (.debug s!"worker step {command.line} {status.text}"))
  | .master =>
    if status.isSuccess then .ok none
    else .error (.masterStep command.line command.programName status)

end Command
end GuestInit
