import GuestInit.Arguments.Split

/-! The grammar of a control line. A line is any number of fields with blanks between and around
them; a field is one or more pieces, each of which stands for some bytes. Only a backslash needs to
know what follows it on the line, so every derivation carries the rest of the line along. -/

namespace GuestInit.Grammar

open Arguments (backslash)

def singleQuote : UInt8 := 0x27
def doubleQuote : UInt8 := 0x22

/-- Space, tab, carriage return and newline. -/
def blanks : List UInt8 := [0x20, 0x09, 0x0D, 0x0A]

/-- The letters of the escapes and the bytes they stand for: `abfnrtv`, and a backslash and the two
quotes for themselves. -/
def escapes : List (UInt8 × UInt8) :=
  [(0x61, 0x07), (0x62, 0x08), (0x66, 0x0C), (0x6E, 0x0A), (0x72, 0x0D), (0x74, 0x09), (0x76, 0x0B),
   (backslash, backslash), (singleQuote, singleQuote), (doubleQuote, doubleQuote)]

/-- A byte that stands for itself outside quotes. -/
structure Plain (byte : UInt8) : Prop where
  not_nul : byte ≠ Bytes.nul
  not_blank : byte ∉ blanks
  not_single : byte ≠ singleQuote
  not_double : byte ≠ doubleQuote
  not_backslash : byte ≠ backslash

/-- Nothing that an escape may be made of comes next. -/
def NoLetter (rest : Bytes) : Prop := ∀ next ∈ rest.head?, ∀ meant, (next, meant) ∉ escapes

/-- The inside of a double-quoted run, what it stands for, and the rest of the line. -/
inductive Quoted : (written value rest : Bytes) → Prop
  | nil (rest : Bytes) : Quoted [] [] rest
  | verbatim {byte written value rest} (hnul : byte ≠ Bytes.nul) (hquote : byte ≠ doubleQuote)
      (hbackslash : byte ≠ backslash) (hrest : Quoted written value rest) :
      Quoted (byte :: written) (byte :: value) rest
  | escape {letter meant written value rest} (hletter : (letter, meant) ∈ escapes)
      (hrest : Quoted written value rest) :
      Quoted (backslash :: letter :: written) (meant :: value) rest
  | lone {written value rest} (hletter : NoLetter (written ++ rest))
      (hrest : Quoted written value rest) :
      Quoted (backslash :: written) (backslash :: value) rest

/-- A piece of a field. -/
inductive Piece : (written value rest : Bytes) → Prop
  | plain {byte} (rest : Bytes) (hplain : Plain byte) : Piece [byte] [byte] rest
  | escape {letter meant} (rest : Bytes) (hletter : (letter, meant) ∈ escapes) :
      Piece [backslash, letter] [meant] rest
  | lone {rest} (hletter : NoLetter rest) : Piece [backslash] [backslash] rest
  | single {content} (rest : Bytes)
      (hcontent : ∀ byte ∈ content, byte ≠ Bytes.nul ∧ byte ≠ singleQuote) :
      Piece (singleQuote :: (content ++ [singleQuote])) content rest
  | double {written value rest} (hquoted : Quoted written value (doubleQuote :: rest)) :
      Piece (doubleQuote :: (written ++ [doubleQuote])) value rest

/-- Pieces in a row, their values put together. -/
inductive Pieces : (written value rest : Bytes) → Prop
  | nil (rest : Bytes) : Pieces [] [] rest
  | cons {written value written' value' rest} (hpiece : Piece written value (written' ++ rest))
      (hrest : Pieces written' value' rest) : Pieces (written ++ written') (value ++ value') rest

/-- A field is at least one piece; what is written of it is never empty, what it stands for may be. -/
def Field (written value rest : Bytes) : Prop := written ≠ [] ∧ Pieces written value rest

/-- The byte that a piece starts with begins an argument. -/
theorem Piece.begins {written value rest : Bytes} (h : Piece written value rest) :
    ∃ byte tail, written = byte :: tail ∧ byte ≠ Bytes.nul ∧ byte ∉ blanks := by
  cases h with
  | @plain byte _ hplain => exact ⟨byte, [], rfl, hplain.not_nul, hplain.not_blank⟩
  | @escape letter _ _ _ => exact ⟨backslash, [letter], rfl, by decide⟩
  | lone _ => exact ⟨backslash, [], rfl, by decide⟩
  | single _ _ => exact ⟨singleQuote, value ++ [singleQuote], rfl, by decide⟩
  | @double written _ _ _ => exact ⟨doubleQuote, written ++ [doubleQuote], rfl, by decide⟩

theorem Field.begins {written value rest : Bytes} (h : Field written value rest) :
    ∃ byte tail, written = byte :: tail ∧ byte ≠ Bytes.nul ∧ byte ∉ blanks := by
  obtain ⟨hne, hpieces⟩ := h
  cases hpieces with
  | nil => exact absurd rfl hne
  | @cons first _ others _ _ hpiece _ =>
    obtain ⟨byte, tail, rfl, hbegins⟩ := hpiece.begins
    exact ⟨byte, tail ++ others, rfl, hbegins⟩

/-- Bytes between fields. -/
def Blanks (bytes : Bytes) : Prop := ∀ byte ∈ bytes, byte ∈ blanks

instance (bytes : Bytes) : Decidable (Blanks bytes) := List.decidableBAll (· ∈ blanks) bytes

/-- Fields with blanks between them, and perhaps after them. -/
inductive Fields : Bytes → Arguments → Prop
  | last {written value trail} (hfield : Field written value trail) (htrail : Blanks trail) :
      Fields (written ++ trail) [value]
  | cons {written value gap rest arguments} (hfield : Field written value (gap ++ rest))
      (hgap : Blanks gap) (hne : gap ≠ []) (hrest : Fields rest arguments) :
      Fields (written ++ (gap ++ rest)) (value :: arguments)

/-- A line and the arguments it stands for. -/
inductive Line : Bytes → Arguments → Prop
  | blank {line} (h : Blanks line) : Line line []
  | fields {lead rest arguments} (hlead : Blanks lead) (h : Fields rest arguments) :
      Line (lead ++ rest) arguments

end GuestInit.Grammar
