import GuestInit.Proofs.Reading

/-! Splitting undoes quoting. An argument can be quoted in two ways: between single quotes, where a
single quote leaves the run, stands there escaped and begins another run; or between double quotes,
with a backslash in front of each backslash and of each double quote. Main statement: a line of quoted
arguments, with blanks of any kind between and around them, is split into just these arguments. -/

namespace GuestInit.Quoting

open Grammar Arguments

/-- How a byte is written inside a quoted run. -/
def inside : Quote → UInt8 → Bytes
  | .single, byte =>
    if byte = singleQuote then [singleQuote, backslash, singleQuote, singleQuote] else [byte]
  | .double, byte => if byte = backslash ∨ byte = doubleQuote then [backslash, byte] else [byte]

def quoted (mark : Quote) (value : Bytes) : Bytes :=
  mark.byte :: (value.flatMap (inside mark) ++ [mark.byte])

@[simp] theorem inside_single_quote :
    inside .single singleQuote = [singleQuote, backslash, singleQuote, singleQuote] := rfl

theorem inside_single_other {byte : UInt8} (h : byte ≠ singleQuote) : inside .single byte = [byte] :=
  if_neg h

/-- What may be written between double quotes for a byte: an escape that means it, or the byte. -/
inductive Writes : Bytes → UInt8 → Prop
  | escape {letter meant : UInt8} (hletter : (letter, meant) ∈ escapes) :
      Writes [backslash, letter] meant
  | verbatim {byte : UInt8} (hquote : byte ≠ doubleQuote) (hbackslash : byte ≠ backslash) :
      Writes [byte] byte

theorem inside_double_writes (byte : UInt8) : Writes (inside .double byte) byte := by
  by_cases hescaped : byte = backslash ∨ byte = doubleQuote
  · have hletter : (byte, byte) ∈ escapes := by
      rcases hescaped with rfl | rfl
      · decide
      · decide
    simpa only [inside, hescaped, if_true] using Writes.escape hletter
  · obtain ⟨hbackslash, hquote⟩ := not_or.mp hescaped
    simpa only [inside, hescaped, if_false] using Writes.verbatim hquote hbackslash

/-- Byte by byte, what is written between double quotes stands for the value. -/
theorem quoted_of_writes {write : UInt8 → Bytes} (hwrite : ∀ byte, Writes (write byte) byte)
    {value : Bytes} (h : Bytes.nul ∉ value) (rest : Bytes) :
    Quoted (value.flatMap write) value rest := by
  induction value with
  | nil => exact .nil rest
  | cons byte value ih =>
    obtain ⟨hbyte, hvalue⟩ := List.ne_and_not_mem_of_not_mem_cons h
    have hfirst := hwrite byte
    rw [List.flatMap_cons]
    generalize write byte = written at hfirst
    cases hfirst with
    | escape hletter => exact .escape hletter (ih hvalue)
    | verbatim hquote hbackslash => exact .verbatim hbyte.symm hquote hbackslash (ih hvalue)

/-- The induction leaves a run open, in which `content` is written already. -/
theorem pieces_single {value : Bytes} (h : Bytes.nul ∉ value) (content : Bytes)
    (hcontent : ∀ byte ∈ content, byte ≠ Bytes.nul ∧ byte ≠ singleQuote) (rest : Bytes) :
    Pieces (singleQuote :: (content ++ (value.flatMap (inside .single) ++ [singleQuote])))
      (content ++ value) rest := by
  induction value generalizing content with
  | nil => simpa using Pieces.cons (.single ([] ++ rest) hcontent) (.nil rest)
  | cons byte value ih =>
    obtain ⟨hbyte, hvalue⟩ := List.ne_and_not_mem_of_not_mem_cons h
    by_cases hquote : byte = singleQuote
    · subst hquote
      have hletter : (singleQuote, singleQuote) ∈ escapes := by decide
      have hreopened := ih hvalue [] nofun
      simpa using Pieces.cons (.single _ hcontent) (.cons (.escape _ hletter) hreopened)
    · have hcontent' : ∀ other ∈ content ++ [byte], other ≠ Bytes.nul ∧ other ≠ singleQuote := by
        intro other hother
        rcases List.mem_append.mp hother with hmem | hmem
        · exact hcontent other hmem
        · exact List.mem_singleton.mp hmem ▸ ⟨hbyte.symm, hquote⟩
      simpa [inside_single_other hquote] using ih hvalue _ hcontent'

theorem field_quoted (mark : Quote) {value : Bytes} (h : Bytes.nul ∉ value) (rest : Bytes) :
    Field (quoted mark value) value rest := by
  refine ⟨List.cons_ne_nil _ _, ?_⟩
  cases mark with
  | single => exact pieces_single h [] nofun rest
  | double =>
    have hpiece : Piece (quoted .double value) value ([] ++ rest) :=
      .double (quoted_of_writes inside_double_writes h _)
    simpa using Pieces.cons hpiece (.nil rest)

/-- An argument on a line, how it is quoted, and the blanks that follow it. -/
structure Item where
  mark : Quote
  value : Bytes
  gap : Bytes
  nulFree : Bytes.nul ∉ value
  blank : Blanks gap

def Item.written (item : Item) : Bytes := quoted item.mark item.value ++ item.gap

theorem fields_items {first : Item} {rest : List Item}
    (hbetween : ∀ item ∈ (first :: rest).dropLast, item.gap ≠ []) :
    Fields ((first :: rest).flatMap Item.written) ((first :: rest).map Item.value) := by
  induction rest generalizing first with
  | nil => simpa [Item.written] using Fields.last (field_quoted first.mark first.nulFree _) first.blank
  | cons second rest ih =>
    rw [List.dropLast_cons_cons, List.forall_mem_cons] at hbetween
    obtain ⟨hgap, hrest⟩ := hbetween
    simpa [Item.written] using
      Fields.cons (field_quoted first.mark first.nulFree _) first.blank hgap (ih hrest)

/-- Arguments that are quoted, each in either way, are what the line is split into: whatever blanks
stand in front of them, between them, where there is at least one, and behind them. -/
theorem splitWithin_quoted {lead : Bytes} (hlead : Blanks lead) {items : List Item}
    (hbetween : ∀ item ∈ items.dropLast, item.gap ≠ []) {limit : Nat} (hlimit : items.length ≤ limit) :
    splitWithin limit (lead ++ items.flatMap Item.written) = .ok (items.map Item.value) := by
  refine splitWithin_of_line ?_ (by simpa using hlimit)
  cases items with
  | nil => simpa using Line.blank hlead
  | cons first rest => exact .fields hlead (fields_items hbetween)

/-- Quotes and backslashes in either kind of run, an empty argument, and a limit that is just met. -/
theorem splitWithin_quoted_mixed :
    let items : List Item :=
      [⟨.single, Bytes.ofString "it's\n\\", [0x09, 0x20], by decide, by decide⟩,
        ⟨.single, [], [0x0A], by decide, by decide⟩,
        ⟨.double, Bytes.ofString "\\n \"'é", [0x0D], by decide, by decide⟩]
    Blanks [0x20] ∧ (∀ item ∈ items.dropLast, item.gap ≠ []) ∧ items.length ≤ 3 ∧
    splitWithin 3 ([0x20] ++ items.flatMap Item.written) = .ok (items.map Item.value) := by
  intro items
  have hlead : Blanks [0x20] := by decide
  have hbetween : ∀ item ∈ items.dropLast, item.gap ≠ [] := by decide
  exact ⟨hlead, hbetween, by decide, splitWithin_quoted hlead hbetween (by decide)⟩

end GuestInit.Quoting
