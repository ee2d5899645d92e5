import GuestInit.Proofs.Quoting

/-! How arguments are written so that they are read back. Every argument goes between double quotes,
with a backslash in front of a backslash and of a double quote; a newline, which would end the line,
is written as an escape. -/

namespace GuestInit.Rendering

open Grammar Arguments

/-- The letter that stands for a newline after a backslash. -/
def newlineLetter : UInt8 := 0x6E

def space : UInt8 := 0x20

/-- A byte as it is written between double quotes. -/
def byte (value : UInt8) : Bytes :=
  if value = backslash ∨ value = doubleQuote then [backslash, value]
  else if value = Bytes.newline then [backslash, newlineLetter]
  else [value]

def argument (value : Bytes) : Bytes := doubleQuote :: (value.flatMap byte ++ [doubleQuote])

/-- Arguments with one space between them. -/
def arguments : Arguments → Bytes
  | [] => []
  | [last] => argument last
  | first :: second :: rest => argument first ++ space :: arguments (second :: rest)

/-- Arguments start with a quote, if there are any. -/
theorem arguments_begin (values : Arguments) :
    arguments values = [] ∨ ∃ rest, arguments values = doubleQuote :: rest := by
  rcases values with _ | ⟨first, _ | ⟨second, rest⟩⟩
  · exact .inl rfl
  · exact .inr ⟨_, rfl⟩
  · exact .inr ⟨_, rfl⟩

/-- How a byte is written: as an escape that means it, or as it is. -/
theorem byte_cases (value : UInt8) :
    (∃ letter, (letter, value) ∈ escapes ∧ byte value = [backslash, letter]) ∨
      value ≠ doubleQuote ∧ value ≠ backslash ∧ value ≠ Bytes.newline ∧ byte value = [value] := by
  by_cases hbackslash : value = backslash
  · exact .inl ⟨backslash, by rw [hbackslash]; decide, by rw [hbackslash]; decide⟩
  by_cases hquote : value = doubleQuote
  · exact .inl ⟨doubleQuote, by rw [hquote]; decide, by rw [hquote]; decide⟩
  by_cases hnewline : value = Bytes.newline
  · exact .inl ⟨newlineLetter, by rw [hnewline]; decide, by rw [hnewline]; decide⟩
  · exact .inr ⟨hquote, hbackslash, hnewline, by simp [byte, hbackslash, hquote, hnewline]⟩

theorem newline_notMem_byte (value : UInt8) : Bytes.newline ∉ byte value := by
  rcases byte_cases value with ⟨letter, hletter, hbyte⟩ | ⟨-, -, hnewline, hbyte⟩
  · have hletters : escapes.all (fun entry => entry.1 ≠ Bytes.newline) = true := by decide
    have hnewline : letter ≠ Bytes.newline := by
      simpa using List.all_eq_true.mp hletters (letter, value) hletter
    have hbackslash : Bytes.newline ≠ backslash := by decide
    simp [hbyte, hbackslash, hnewline.symm]
  · simpa [hbyte] using hnewline.symm

theorem newline_notMem_argument (value : Bytes) : Bytes.newline ∉ argument value := by
  have hquote : Bytes.newline ≠ doubleQuote := by decide
  simp [argument, hquote, newline_notMem_byte]

theorem newline_notMem_arguments (values : Arguments) : Bytes.newline ∉ arguments values := by
  induction values with
  | nil => simp [arguments]
  | cons first rest ih =>
    cases rest with
    | nil => exact newline_notMem_argument first
    | cons second rest =>
      have hspace : Bytes.newline ≠ space := by decide
      simp [arguments, newline_notMem_argument, hspace, ih]

theorem byte_writes (value : UInt8) : Quoting.Writes (byte value) value := by
  rcases byte_cases value with ⟨letter, hletter, hbyte⟩ | ⟨hquote, hbackslash, -, hbyte⟩
  · rw [hbyte]
    exact .escape hletter
  · rw [hbyte]
    exact .verbatim hquote hbackslash

theorem field_argument {value : Bytes} (h : Bytes.nul ∉ value) (rest : Bytes) :
    Field (argument value) value rest := by
  have hpiece : Piece (argument value) value ([] ++ rest) := .double (Quoting.quoted_of_writes byte_writes h _)
  have hpieces : Pieces (argument value ++ []) (value ++ []) rest := .cons hpiece (.nil rest)
  simp only [List.append_nil] at hpieces
  exact ⟨List.cons_ne_nil _ _, hpieces⟩

theorem fields_arguments {first : Bytes} {rest : Arguments}
    (h : ∀ value ∈ first :: rest, Bytes.nul ∉ value) :
    Fields (arguments (first :: rest)) (first :: rest) := by
  induction rest generalizing first with
  | nil =>
    have hfields : Fields (argument first ++ []) [first] :=
      .last (field_argument (h first (by simp)) []) (by simp [Blanks])
    rwa [List.append_nil] at hfields
  | cons second rest ih =>
    have hgap : Blanks [space] := by
      simp only [Blanks, List.mem_singleton, forall_eq]
      decide
    exact .cons (field_argument (h first (by simp)) _) hgap (by simp)
      (ih fun value hvalue => h value (List.mem_cons_of_mem first hvalue))

/-- Arguments without NUL bytes are what the grammar derives from what is written of them. -/
theorem line_arguments {values : Arguments} (h : ∀ value ∈ values, Bytes.nul ∉ value) :
    Line (arguments values) values := by
  cases values with
  | nil => exact .blank (by simp [Blanks, arguments])
  | cons first rest =>
    have hlead : Blanks [] := by simp [Blanks]
    exact .fields hlead (fields_arguments h)

theorem split_arguments {values : Arguments} (h : ∀ value ∈ values, Bytes.nul ∉ value)
    (hmost : values.length ≤ most) : split (arguments values) = .ok values :=
  splitWithin_of_line (line_arguments h) hmost

end GuestInit.Rendering
