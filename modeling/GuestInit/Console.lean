import GuestInit.Bytes

/-! The console: standard error of process 1, where the supervisor reports what it does. -/

namespace GuestInit

inductive Level where
  | error | warn | info | debug | trace
deriving DecidableEq, Repr

namespace Level

/-- How much detail a level stands for. -/
def detail : Level → Nat
  | error => 1
  | warn => 2
  | info => 3
  | debug => 4
  | trace => 5

/-- The most detailed level that is shown; the host has no say in it. -/
def shown : Level := debug

def isShown (level : Level) : Bool := level.detail ≤ shown.detail

end Level

/-- What the supervisor has to say, and how important it is. -/
structure Record where
  level : Level
  message : String
deriving DecidableEq, Repr

namespace Record

def error (message : String) : Record := ⟨.error, message⟩
def info (message : String) : Record := ⟨.info, message⟩
def debug (message : String) : Record := ⟨.debug, message⟩

end Record

namespace Console

/-- Stands before each record, so that the host can tell the supervisor's lines from a program's. -/
def tag : String := "init"

/-- The lines of a text. -/
def lines (text : String) : List String := (cutAfter '\n' text.toList).map String.ofList

/-- A message under the tag, ended by a newline. -/
def tagged (message : String) : String := tag ++ ": " ++ message ++ "\n"

/-- The console lines a record makes. A message with newlines in it makes more than one. -/
def recordLines (record : Record) : List String :=
  if record.level.isShown then lines (tagged record.message) else []

/-- Why the console could not be set up. -/
inductive SetupError where
  | alreadySet
deriving DecidableEq, Repr

def SetupError.message : SetupError → String
  | alreadySet => "attempted to set a logger after the logging system was already initialized"

/-- The console is set up once in the life of a process. -/
def setUp (isSet : Bool) : Except SetupError Level :=
  if isSet then .error .alreadySet else .ok Level.shown

end Console
end GuestInit
