import GuestInit.Text.Utf8

/-! The arguments of one command. The first one names the program. -/

namespace GuestInit

/-- Why a line or a list of byte strings cannot be the arguments of a command. -/
inductive ArgumentError where
  | tooMany (limit : Nat)
  | unbalancedQuotes
  | nulByte
deriving DecidableEq, Repr

def ArgumentError.message : ArgumentError → String
  | tooMany limit => s!"arguments limit exceeded (at most {limit})"
  | unbalancedQuotes => "unbalanced quotes"
  | nulByte => "NUL byte in command"

abbrev Arguments := List Bytes

namespace Arguments

/-- The most arguments a command may have. -/
def most : Nat := 100

def program? (arguments : Arguments) : Option Bytes := arguments.head?

def text (arguments : Arguments) : String := " ".intercalate (arguments.map Utf8.lossy)

/-- A string as the kernel takes it, ended by a NUL byte. -/
def terminate (argument : Bytes) : Except ArgumentError Bytes :=
  if argument.hasNul then .error .nulByte else .ok (argument ++ [Bytes.nul])

/-- The arguments as the kernel takes them. -/
def terminated (arguments : Arguments) : Except ArgumentError (List Bytes) :=
  arguments.mapM terminate

end Arguments
end GuestInit
