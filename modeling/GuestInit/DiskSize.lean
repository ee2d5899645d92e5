import GuestInit.Fault

/-! The size of the scratch filesystem, the one thing the host may choose: digits, and after them
at most one percent sign or unit. -/

namespace GuestInit

structure DiskSize where
  text : String
deriving DecidableEq, Repr

namespace DiskSize

/-- The environment variable that holds the size. -/
def variableName : String := "disksize"

/-- Half the memory. -/
def defaultText : String := "50%"

/-- The most bytes a size may have. -/
def longest : Nat := 10

def isUnit (c : Char) : Bool := "%kKmMgGtTpPeE".toList.contains c

def isDigit (c : Char) : Bool := '0' ≤ c && c ≤ '9'

/-- A text without the units at its end. -/
def stem (text : List Char) : List Char := (text.reverse.dropWhile isUnit).reverse

def isWellFormed (text : List Char) : Bool :=
  !(stem text).isEmpty && (stem text).all isDigit && text.length ≤ (stem text).length + 1

/-- Reads a size. Without a value it is the default. -/
def parse (value : Option String) : Except Fault DiskSize :=
  let text := value.getD defaultText
  if text.utf8ByteSize > longest then .error (.diskSizeTooLong text.utf8ByteSize longest)
  else if isWellFormed text.toList then .ok ⟨text⟩
  else .error (.diskSizeMalformed text)

/-- Reads the size from the bytes of the environment variable. Bytes that are no text are
malformed whatever their number. -/
def ofVariable : Option Bytes → Except Fault DiskSize
  | none => parse none
  | some bytes =>
    match Utf8.decode? bytes with
    | some text => parse (some text)
    | none => .error (.diskSizeMalformed (Utf8.lossy bytes))

/-- The mount options of the scratch filesystem. -/
def mountOptions (size : DiskSize) : String := "mode=777,size=" ++ size.text

end DiskSize

instance : Inhabited DiskSize := ⟨⟨DiskSize.defaultText⟩⟩

end GuestInit
