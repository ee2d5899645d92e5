import GuestInit.Arguments

/-! Cutting a line into arguments. Arguments stand between runs of blanks. A quoted run, ended by
the quote that opened it, takes blanks and the other quote literally and may be glued to unquoted
bytes; an empty one still makes an argument. Outside single quotes a backslash and one of ten bytes
stand for one byte, and any other backslash for itself.

A line is read byte by byte. The limit is checked where an argument begins, so that an argument
over the limit is an error whatever follows it. -/

namespace GuestInit.Arguments

inductive Quote where
  | single | double
deriving DecidableEq, Repr

inductive ByteKind where
  | nul | blank
  | quote (mark : Quote)
  | backslash
  | plain
deriving DecidableEq, Repr

def backslash : UInt8 := 0x5C

/-- Blanks are space, tab, carriage return and newline. -/
def kind (byte : UInt8) : ByteKind :=
  if byte = 0 then .nul
  else if byte = 0x20 ∨ byte = 0x09 ∨ byte = 0x0D ∨ byte = 0x0A then .blank
  else if byte = 0x22 then .quote .double
  else if byte = 0x27 then .quote .single
  else if byte = backslash then .backslash
  else .plain

/-- The byte that a backslash and one of `abfnrtv\'"` stand for. -/
def unescape (byte : UInt8) : Option UInt8 :=
  if byte = 0x61 then some 0x07
  else if byte = 0x62 then some 0x08
  else if byte = 0x66 then some 0x0C
  else if byte = 0x6E then some 0x0A
  else if byte = 0x72 then some 0x0D
  else if byte = 0x74 then some 0x09
  else if byte = 0x76 then some 0x0B
  else if byte = 0x5C ∨ byte = 0x27 ∨ byte = 0x22 then some byte
  else none

/-- How far a line has been read. -/
structure Progress where
  /-- The arguments that are complete, the latest one first. -/
  finished : List Bytes
  /-- The bytes of the argument being read, the latest one first, or nothing between arguments. -/
  field : Option Bytes
  /-- The quoted run that is open. -/
  quote : Option Quote
  /-- The byte before was a backslash that may begin an escape. -/
  escaping : Bool
deriving DecidableEq, Repr

namespace Progress

def empty : Progress := ⟨[], none, none, false⟩

/-- Makes sure that an argument is being read. -/
def opened (limit : Nat) (p : Progress) : Except ArgumentError Progress :=
  match p.field with
  | some _ => .ok p
  | none =>
    if p.finished.length < limit then .ok { p with field := some [] } else .error (.tooMany limit)

/-- Adds a byte to the argument being read. -/
def append (p : Progress) (byte : UInt8) : Progress :=
  { p with field := some (byte :: p.field.getD []) }

def push (limit : Nat) (p : Progress) (byte : UInt8) : Except ArgumentError Progress :=
  (p.opened limit).map (·.append byte)

/-- Completes the argument being read, if there is one. -/
def finish (p : Progress) : Progress :=
  match p.field with
  | some field => { p with finished := field.reverse :: p.finished, field := none }
  | none => p

/-- Reads a byte that no escape claims. -/
def read (limit : Nat) (p : Progress) (byte : UInt8) : Except ArgumentError Progress :=
  match kind byte with
  | .nul => .error .nulByte
  | .blank => if p.quote.isSome then p.push limit byte else .ok p.finish
  | .quote mark =>
    match p.quote with
    | none => (p.opened limit).map fun p => { p with quote := some mark }
    | some current => if current = mark then .ok { p with quote := none } else p.push limit byte
  | .backslash =>
    if p.quote = some .single then p.push limit byte
    else (p.opened limit).map fun p => { p with escaping := true }
  | .plain => p.push limit byte

def step (limit : Nat) (p : Progress) (byte : UInt8) : Except ArgumentError Progress :=
  if p.escaping then
    match unescape byte with
    | some meant => .ok ({ p with escaping := false }.append meant)
    | none => ({ p with escaping := false }.append backslash).read limit byte
  else p.read limit byte

/-- The end of the line. A backslash directly before it stands for itself. -/
def close (p : Progress) : Except ArgumentError Arguments :=
  let p := if p.escaping then p.append backslash else p
  if p.quote.isSome then .error .unbalancedQuotes else .ok p.finish.finished.reverse

end Progress

/-- The arguments of a line, if they are at most `limit`. -/
def splitWithin (limit : Nat) (line : Bytes) : Except ArgumentError Arguments := do
  (← line.foldlM (Progress.step limit) Progress.empty).close

/-- The arguments of a line, if they are no more than a command may have. -/
def split (line : Bytes) : Except ArgumentError Arguments := splitWithin most line

end GuestInit.Arguments
