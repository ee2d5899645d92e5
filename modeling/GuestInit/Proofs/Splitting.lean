import GuestInit.Proofs.Reading

/-! The grammar decides which lines are cut into arguments, and into which. That a derived line is
read as derived is one half; here a derivation is put together from a reading, byte by byte from the
end of the line. -/

namespace GuestInit.Arguments

open Grammar

/-- What may follow an argument. -/
def Ends (rest : Bytes) (more : Arguments) : Prop :=
  (Blanks rest ∧ more = []) ∨
    ∃ gap tail, rest = gap ++ tail ∧ Blanks gap ∧ gap ≠ [] ∧ Fields tail more

/-- What may follow within an argument, outside quotes. -/
def Continues (rest value : Bytes) (more : Arguments) : Prop :=
  ∃ written tail, rest = written ++ tail ∧ Pieces written value tail ∧ Ends tail more

/-- What may follow within an argument, in a quoted run or outside. -/
def Remains : Option Quote → (rest value : Bytes) → (more : Arguments) → Prop
  | none, rest, value, more => Continues rest value more
  | some .single, rest, value, more => ∃ content tail value',
      (∀ byte ∈ content, byte ≠ Bytes.nul ∧ byte ≠ singleQuote) ∧
      rest = content ++ singleQuote :: tail ∧ value = content ++ value' ∧ Continues tail value' more
  | some .double, rest, value, more => ∃ written inner tail value',
      Quoted written inner (doubleQuote :: tail) ∧
      rest = written ++ doubleQuote :: tail ∧ value = inner ++ value' ∧ Continues tail value' more

section

variable {rest value : Bytes} {more : Arguments} {byte : UInt8} {quote : Option Quote} {mark : Quote}

theorem line_of_blank (hblank : byte ∈ blanks) (h : Line rest more) : Line (byte :: rest) more := by
  cases h with
  | blank hrest => exact .blank (List.forall_mem_cons.mpr ⟨hblank, hrest⟩)
  | @fields lead _ _ hlead hfields =>
    have hlead' : Blanks (byte :: lead) := List.forall_mem_cons.mpr ⟨hblank, hlead⟩
    exact .fields hlead' hfields

theorem ends_of_blank (hblank : byte ∈ blanks) (h : Line rest more) : Ends (byte :: rest) more := by
  cases h with
  | blank hrest => exact .inl ⟨List.forall_mem_cons.mpr ⟨hblank, hrest⟩, rfl⟩
  | @fields lead tail _ hlead hfields =>
    have hlead' : Blanks (byte :: lead) := List.forall_mem_cons.mpr ⟨hblank, hlead⟩
    exact .inr ⟨byte :: lead, tail, rfl, hlead', nofun, hfields⟩

theorem blank_of_ends (h : Ends (byte :: rest) more) : byte ∈ blanks := by
  rcases h with ⟨htrail, -⟩ | ⟨gap, tail, heq, hgap, hne, -⟩
  · exact htrail byte List.mem_cons_self
  · obtain ⟨first, gap, rfl⟩ := List.exists_cons_of_ne_nil hne
    obtain ⟨rfl, -⟩ := List.cons.inj heq
    exact hgap byte List.mem_cons_self

theorem fields_of_ends {written : Bytes} (hfield : Field written value rest) (h : Ends rest more) :
    Fields (written ++ rest) (value :: more) := by
  rcases h with ⟨htrail, rfl⟩ | ⟨gap, tail, rfl, hgap, hne, hfields⟩
  · exact .last hfield htrail
  · exact .cons hfield hgap hne hfields

theorem continues_of_ends (h : Ends rest more) : Continues rest [] more :=
  ⟨[], rest, rfl, .nil rest, h⟩

theorem continues_of_piece {written value' : Bytes} (hpiece : Piece written value rest)
    (h : Continues rest value' more) : Continues (written ++ rest) (value ++ value') more := by
  obtain ⟨written', tail, rfl, hpieces, hends⟩ := h
  exact ⟨written ++ written', tail, (List.append_assoc ..).symm, .cons hpiece hpieces, hends⟩

/-- What goes on within an argument from a byte that is not blank begins with an argument. -/
theorem line_of_continues (hblank : byte ∉ blanks) (h : Continues (byte :: rest) value more) :
    Line (byte :: rest) (value :: more) := by
  obtain ⟨written, tail, heq, hpieces, hends⟩ := h
  have hwritten : written ≠ [] := by
    rintro rfl
    have htail : tail = byte :: rest := heq.symm
    rw [htail] at hends
    exact hblank (blank_of_ends hends)
  have hlead : Blanks [] := nofun
  rw [heq, ← List.nil_append (written ++ tail)]
  exact .fields hlead (fields_of_ends ⟨hwritten, hpieces⟩ hends)

theorem remains_plain (hplain : Plain byte) (h : Remains none rest value more) :
    Remains none (byte :: rest) (byte :: value) more := continues_of_piece (.plain rest hplain) h

theorem remains_open (h : Remains (some mark) rest value more) :
    Remains none (mark.byte :: rest) value more := by
  cases mark with
  | single =>
    obtain ⟨content, tail, value', hcontent, rfl, rfl, hcontinues⟩ := h
    show Continues (singleQuote :: (content ++ singleQuote :: tail)) (content ++ value') more
    simpa using continues_of_piece (.single tail hcontent) hcontinues
  | double =>
    obtain ⟨written, inner, tail, value', hquoted, rfl, rfl, hcontinues⟩ := h
    show Continues (doubleQuote :: (written ++ doubleQuote :: tail)) (inner ++ value') more
    simpa using continues_of_piece (.double hquoted) hcontinues

theorem remains_close (h : Remains none rest value more) :
    Remains (some mark) (mark.byte :: rest) value more := by
  cases mark with
  | single => exact ⟨[], rest, value, nofun, rfl, rfl, h⟩
  | double => exact ⟨[], [], rest, value, .nil _, rfl, rfl, h⟩

theorem remains_verbatim (hnul : byte ≠ Bytes.nul) (hquote : byte ≠ mark.byte)
    (hbackslash : mark = .double → byte ≠ backslash) (h : Remains (some mark) rest value more) :
    Remains (some mark) (byte :: rest) (byte :: value) more := by
  cases mark with
  | single =>
    obtain ⟨content, tail, value', hcontent, rfl, rfl, hcontinues⟩ := h
    have hcontent' := List.forall_mem_cons.mpr ⟨⟨hnul, hquote⟩, hcontent⟩
    exact ⟨byte :: content, tail, value', hcontent', rfl, rfl, hcontinues⟩
  | double =>
    obtain ⟨written, inner, tail, value', hquoted, rfl, rfl, hcontinues⟩ := h
    have hquoted' := Quoted.verbatim hnul hquote (hbackslash rfl) hquoted
    exact ⟨byte :: written, byte :: inner, tail, value', hquoted', rfl, rfl, hcontinues⟩

theorem remains_escape {letter meant : UInt8} (hquote : quote ≠ some .single)
    (hletter : (letter, meant) ∈ escapes) (h : Remains quote rest value more) :
    Remains quote (backslash :: letter :: rest) (meant :: value) more := by
  rcases quote with _ | _ | _
  · exact continues_of_piece (.escape rest hletter) h
  · exact absurd rfl hquote
  · obtain ⟨written, inner, tail, value', hquoted, rfl, rfl, hcontinues⟩ := h
    exact ⟨backslash :: letter :: written, meant :: inner, tail, value', .escape hletter hquoted, rfl,
      rfl, hcontinues⟩

theorem remains_lone (hquote : quote ≠ some .single) (hletter : NoLetter rest)
    (h : Remains quote rest value more) :
    Remains quote (backslash :: rest) (backslash :: value) more := by
  rcases quote with _ | _ | _
  · exact continues_of_piece (.lone hletter) h
  · exact absurd rfl hquote
  · obtain ⟨written, inner, tail, value', hquoted, rfl, rfl, hcontinues⟩ := h
    exact ⟨backslash :: written, backslash :: inner, tail, value', .lone hletter hquoted, rfl, rfl,
      hcontinues⟩

end

section

variable {limit : Nat} {finished : List Bytes} {field rest : Bytes} {arguments : Arguments}

/-- What was read and what remains make up the arguments. -/
def Accounts (limit : Nat) (finished : List Bytes) (field : Bytes) (quote : Option Quote)
    (rest : Bytes) (arguments : Arguments) : Prop :=
  ∃ value more, arguments = finished.reverse ++ (field.reverse ++ value) :: more ∧
    arguments.length ≤ limit ∧ Remains quote rest value more

namespace Accounts

variable {quote quote' : Option Quote} {rest' : Bytes}

theorem keep (h : Accounts limit finished field quote rest arguments)
    (hremains : ∀ value more, Remains quote rest value more → Remains quote' rest' value more) :
    Accounts limit finished field quote' rest' arguments := by
  obtain ⟨value, more, heq, hlimit, hrest⟩ := h
  exact ⟨value, more, heq, hlimit, hremains value more hrest⟩

theorem push {byte : UInt8} (h : Accounts limit finished (byte :: field) quote rest arguments)
    (hremains : ∀ value more, Remains quote rest value more →
      Remains quote' rest' (byte :: value) more) :
    Accounts limit finished field quote' rest' arguments := by
  obtain ⟨value, more, heq, hlimit, hrest⟩ := h
  exact ⟨byte :: value, more, by simpa using heq, hlimit, hremains value more hrest⟩

end Accounts

/-- The lines of which a reading that gets to the end is accounted for by the grammar. -/
structure Sound (limit : Nat) (line : Bytes) : Prop where
  between : ∀ finished arguments, finished.length ≤ limit →
    (Progress.between finished).readAll limit line = .ok arguments →
    ∃ more, arguments = finished.reverse ++ more ∧ arguments.length ≤ limit ∧ Line line more
  within : ∀ finished field quote arguments, finished.length < limit →
    (Progress.within finished field quote).readAll limit line = .ok arguments →
    Accounts limit finished field quote line arguments

open Progress

theorem within_backslash {quote : Option Quote} (hquote : quote ≠ some .single)
    (hroom : finished.length < limit) (hsound : ∀ tail, tail <:+ rest → Sound limit tail)
    (h : (Progress.within finished field quote).readAll limit (backslash :: rest) = .ok arguments) :
    Accounts limit finished field quote (backslash :: rest) arguments := by
  rcases letter_cases rest with ⟨letter, meant, tail, rfl, hletter⟩ | hletter
  · rw [within_escape hquote hletter] at h
    have htail := hsound tail (List.suffix_cons letter tail)
    have hrest := htail.within finished (meant :: field) quote arguments hroom h
    exact hrest.push fun value more => remains_escape hquote hletter
  · rw [within_lone hquote hletter] at h
    have hrest := (hsound rest List.suffix_rfl).within finished (backslash :: field) quote arguments
      hroom h
    exact hrest.push fun value more => remains_lone hquote hletter

/-- Outside quotes. -/
theorem within_none {byte : UInt8} (hroom : finished.length < limit)
    (hsound : ∀ tail, tail <:+ rest → Sound limit tail)
    (h : (Progress.within finished field none).readAll limit (byte :: rest) = .ok arguments) :
    Accounts limit finished field none (byte :: rest) arguments := by
  have hrest := hsound rest List.suffix_rfl
  rcases byte_cases byte with rfl | hblank | ⟨mark, rfl⟩ | rfl | hplain
  · rw [within_nul] at h
    cases h
  · rw [within_blank hblank] at h
    obtain ⟨more, heq, hlimit, hline⟩ := hrest.between (field.reverse :: finished) arguments hroom h
    refine ⟨[], more, by simpa using heq, hlimit, ?_⟩
    exact continues_of_ends (ends_of_blank hblank hline)
  · rw [within_open] at h
    exact (hrest.within finished field (some mark) arguments hroom h).keep fun _ _ => remains_open
  · exact within_backslash nofun hroom hsound h
  · rw [within_plain hplain] at h
    have hpush := hrest.within finished (byte :: field) none arguments hroom h
    exact hpush.push fun _ _ => remains_plain hplain

/-- In a quoted run. -/
theorem within_some {byte : UInt8} {mark : Quote} (hroom : finished.length < limit)
    (hsound : ∀ tail, tail <:+ rest → Sound limit tail)
    (h : (Progress.within finished field (some mark)).readAll limit (byte :: rest) = .ok arguments) :
    Accounts limit finished field (some mark) (byte :: rest) arguments := by
  have hrest := hsound rest List.suffix_rfl
  by_cases hnul : byte = Bytes.nul
  · rw [hnul, within_nul] at h
    cases h
  by_cases hquote : byte = mark.byte
  · rw [hquote, within_close] at h
    rw [hquote]
    exact (hrest.within finished field none arguments hroom h).keep fun _ _ => remains_close
  by_cases hbackslash : mark = .double ∧ byte = backslash
  · obtain ⟨rfl, rfl⟩ := hbackslash
    exact within_backslash nofun hroom hsound h
  · have hverbatim : mark = .double → byte ≠ backslash := fun hmark hbyte =>
      hbackslash ⟨hmark, hbyte⟩
    rw [within_verbatim mark hnul hquote hverbatim] at h
    have hpush := hrest.within finished (byte :: field) (some mark) arguments hroom h
    exact hpush.push fun _ _ => remains_verbatim hnul hquote hverbatim

theorem sound_nil (limit : Nat) : Sound limit [] where
  between finished arguments hlimit h := by
    rw [between_nil] at h
    cases h
    exact ⟨[], by simp, by simpa using hlimit, .blank nofun⟩
  within finished field quote arguments hroom h := by
    cases quote with
    | none =>
      rw [within_nil] at h
      cases h
      exact ⟨[], [], by simp, by simpa using Nat.succ_le_of_lt hroom,
        continues_of_ends (.inl ⟨nofun, rfl⟩)⟩
    | some mark =>
      rw [open_nil] at h
      cases h

theorem sound_cons {byte : UInt8} (hsound : ∀ tail, tail <:+ rest → Sound limit tail) :
    Sound limit (byte :: rest) where
  between finished arguments hlimit h := by
    by_cases hnul : byte = Bytes.nul
    · rw [hnul, between_nul] at h
      cases h
    by_cases hblank : byte ∈ blanks
    · rw [between_blank hblank] at h
      have hrest := hsound rest List.suffix_rfl
      obtain ⟨more, heq, hcount, hline⟩ := hrest.between finished arguments hlimit h
      exact ⟨more, heq, hcount, line_of_blank hblank hline⟩
    by_cases hroom : finished.length < limit
    · rw [between_begin hnul hblank hroom] at h
      obtain ⟨value, more, heq, hcount, hcontinues⟩ := within_none hroom hsound h
      exact ⟨value :: more, heq, hcount, line_of_continues hblank hcontinues⟩
    · rw [between_full hnul hblank hroom] at h
      cases h
  within finished field quote arguments hroom h := by
    cases quote with
    | none => exact within_none hroom hsound h
    | some mark => exact within_some hroom hsound h

/-- An escape takes two bytes at once, so the induction is on all that may be left of a line. -/
theorem sound_of_suffix (limit : Nat) (line : Bytes) : ∀ tail, tail <:+ line → Sound limit tail := by
  induction line with
  | nil =>
    intro tail htail
    rw [List.suffix_nil.mp htail]
    exact sound_nil limit
  | cons byte rest ih =>
    intro tail htail
    rcases List.suffix_cons_iff.mp htail with rfl | htail
    · exact sound_cons ih
    · exact ih tail htail

theorem line_of_splitWithin {line : Bytes} (h : splitWithin limit line = .ok arguments) :
    Line line arguments ∧ arguments.length ≤ limit := by
  have hsound := sound_of_suffix limit line line List.suffix_rfl
  obtain ⟨more, rfl, hlimit, hline⟩ := hsound.between [] arguments (Nat.zero_le limit) h
  exact ⟨hline, hlimit⟩

end

theorem line_unique {line : Bytes} {arguments arguments' : Arguments} (h : Line line arguments)
    (h' : Line line arguments') : arguments = arguments' := by
  have hsplit := splitWithin_of_line h (Nat.le_max_left arguments.length arguments'.length)
  have hsplit' := splitWithin_of_line h' (Nat.le_max_right arguments.length arguments'.length)
  rw [hsplit] at hsplit'
  exact Except.ok.inj hsplit'

/-- A line is cut into arguments if and only if the grammar derives them from it and they are no more
than the limit; and there are no two such lists of arguments for one line. -/
theorem splitWithin_iff_line (line : Bytes) :
    (∀ limit arguments, splitWithin limit line = .ok arguments ↔
      Line line arguments ∧ arguments.length ≤ limit) ∧
    ∃ derived : Option Arguments, ∀ arguments, Line line arguments ↔ derived = some arguments := by
  constructor
  · intro limit arguments
    exact ⟨line_of_splitWithin, fun ⟨hline, hlimit⟩ => splitWithin_of_line hline hlimit⟩
  · by_cases hderived : ∃ arguments, Line line arguments
    · obtain ⟨arguments, hline⟩ := hderived
      refine ⟨some arguments, fun arguments' => ⟨fun hline' => ?_, fun heq => ?_⟩⟩
      · rw [line_unique hline hline']
      · obtain rfl := Option.some.inj heq
        exact hline
    · exact ⟨none, fun arguments => ⟨fun hline => absurd ⟨arguments, hline⟩ hderived, nofun⟩⟩

/-- Glued runs, an escaped quote in quotes, an empty run, and a backslash that stands for itself. -/
example : splitWithin 3 (Bytes.ofString "a\"b \\\"\"'\"' ''\t\\q") =
    .ok [Bytes.ofString "ab \"\"", [], Bytes.ofString "\\q"] := rfl

end GuestInit.Arguments
