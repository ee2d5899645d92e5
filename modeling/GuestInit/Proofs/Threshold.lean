import GuestInit.Proofs.Scanning

/-! The limit is a threshold. How many arguments a line begins is a matter of the grammar and of no limit;
it parts the limits in two. Under any below it the limit is the error, and all others give the same
result. Main statement: `splitWithin_threshold`. -/

namespace GuestInit.Arguments

open Grammar Progress

theorem begun_le_length {p q : Progress} {bytes : Bytes} (h : Scans p bytes q) :
    q.begun ≤ p.begun + bytes.length := by
  induction h with
  | nil p => exact Nat.le_refl _
  | @cons p q r byte bytes hread _ ih =>
    have hstep : q.begun ≤ p.begun + 1 := by
      rw [hread.begun_eq]
      split <;> omega
    rw [List.length_cons]
    omega

theorem length_le_of_line {line : Bytes} {arguments : Arguments} (h : Line line arguments) :
    arguments.length ≤ line.length := by
  have hsplit := splitWithin_of_line h (Nat.le_refl arguments.length)
  obtain ⟨p, hscan, -, hclose⟩ := exists_scan_of_ne_nulByte hsplit nofun nofun
  rw [length_of_close (hscan.proper proper_empty) hclose]
  exact Nat.le_trans (begun_le_length hscan) (Nat.le_of_eq (Nat.zero_add _))

/-- Whether a line is whole can be found out by splitting it: it has no more arguments than bytes. -/
instance (line : Bytes) : Decidable (∃ arguments, Line line arguments) :=
  match hsplit : splitWithin line.length line with
  | .ok arguments => .isTrue ⟨arguments, (line_of_splitWithin hsplit).1⟩
  | .error cause => .isFalse <| by
    rintro ⟨arguments, hline⟩
    have hok := splitWithin_of_line hline (length_le_of_line hline)
    cases hsplit.symm.trans hok

/-- The bytes end with a blank, if there are any. -/
def EndsBlank (bytes : Bytes) : Prop := ∀ last ∈ bytes.getLast?, last ∈ blanks

instance (bytes : Bytes) : Decidable (EndsBlank bytes) :=
  Option.decidableForallMem (p := (· ∈ blanks)) bytes.getLast?

/-- Behind `before`, an argument begins with a byte: no quoted run is open and no argument goes on. -/
structure Begins (before : Bytes) (byte : UInt8) : Prop where
  nulFree : Bytes.nul ∉ before ++ [byte]
  not_blank : byte ∉ blanks
  /-- What comes before is whole by itself. -/
  whole : ∃ arguments, Line before arguments
  apart : EndsBlank before

theorem begins_iff (before : Bytes) (byte : UInt8) : Begins before byte ↔
    Bytes.nul ∉ before ++ [byte] ∧ byte ∉ blanks ∧ (∃ arguments, Line before arguments) ∧
      EndsBlank before :=
  ⟨fun ⟨hnul, hblank, hwhole, hapart⟩ => ⟨hnul, hblank, hwhole, hapart⟩,
    fun ⟨hnul, hblank, hwhole, hapart⟩ => ⟨hnul, hblank, hwhole, hapart⟩⟩

instance (before : Bytes) (byte : UInt8) : Decidable (Begins before byte) :=
  decidable_of_iff _ (begins_iff before byte).symm

/-- The number of arguments that begin in the rest of a line. -/
def begunBehind (before : Bytes) : (rest : Bytes) → Nat
  | [] => 0
  | byte :: rest => (if Begins before byte then 1 else 0) + begunBehind (before ++ [byte]) rest

/-- The number of arguments that a line begins before its first NUL byte, whether it ends them or not. -/
def argumentsBegun (line : Bytes) : Nat := begunBehind [] line

section

variable {before bytes rest : Bytes} {byte : UInt8} {p q : Progress}

theorem begunBehind_of_nul (h : Bytes.nul ∈ before) (rest : Bytes) : begunBehind before rest = 0 := by
  induction rest generalizing before with
  | nil => rfl
  | cons byte rest ih =>
    have hnul : Bytes.nul ∈ before ++ [byte] := List.mem_append_left [byte] h
    have hbegins : ¬ Begins before byte := fun hbegins => hbegins.nulFree hnul
    rw [begunBehind, if_neg hbegins, ih hnul]

theorem begunBehind_stop (h : Stops rest) (before : Bytes) : begunBehind before rest = 0 := by
  cases rest with
  | nil => rfl
  | cons byte rest =>
    obtain rfl : byte = Bytes.nul := h byte rfl
    have hnul : Bytes.nul ∈ before ++ [Bytes.nul] := by simp
    have hbegins : ¬ Begins before Bytes.nul := fun hbegins => hbegins.nulFree hnul
    rw [begunBehind, if_neg hbegins, begunBehind_of_nul hnul]

/-- Between two arguments is where a whole line has been read that ends with a blank or is empty. -/
theorem field_eq_none_iff (h : Scans .empty before p) : p.field = none ↔
    (∃ arguments, Line before arguments) ∧ EndsBlank before := by
  have hp : Proper p := h.proper proper_empty
  rcases List.eq_nil_or_concat before with rfl | ⟨head, last, rfl⟩
  · cases h
    exact ⟨fun _ => ⟨⟨[], .blank nofun⟩, nofun⟩, fun _ => rfl⟩
  · rw [List.concat_eq_append] at h ⊢
    obtain ⟨p', -, hread⟩ := h.of_concat
    have hlast : (head ++ [last]).getLast? = some last := List.getLast?_concat
    rw [hread.field_eq_none_iff, EndsBlank, hlast]
    constructor
    · rintro ⟨hblank, hquote⟩
      rcases hp.close_cases with ⟨-, arguments, hclose, -⟩ | ⟨mark, hopen, -⟩
      · refine ⟨⟨arguments, (line_iff_close h arguments).mpr hclose⟩, ?_⟩
        rintro _ ⟨⟩
        exact hblank
      · rw [hquote] at hopen
        cases hopen
    · rintro ⟨⟨arguments, hline⟩, hapart⟩
      have hclose := (line_iff_close h arguments).mp hline
      rcases hp.close_cases with ⟨hquote, -⟩ | ⟨mark, -, hopen⟩
      · exact ⟨hapart last rfl, hquote⟩
      · rw [hclose] at hopen
        cases hopen

theorem begins_iff_reads (h : Scans .empty before p) (hread : Reads p byte q) :
    Begins before byte ↔ p.field = none ∧ byte ∉ blanks := by
  have hnul : Bytes.nul ∉ before ++ [byte] := (h.append (.single hread)).nulFree
  rw [begins_iff, field_eq_none_iff h]
  constructor
  · rintro ⟨-, hblank, hwhole, hapart⟩
    exact ⟨⟨hwhole, hapart⟩, hblank⟩
  · rintro ⟨⟨hwhole, hapart⟩, hblank⟩
    exact ⟨hnul, hblank, hwhole, hapart⟩

/-- A scan begins an argument wherever the grammar says that one begins. -/
theorem begun_eq_of_scan (hbefore : Scans .empty before p) (h : Scans p bytes q) (hstops : Stops rest) :
    q.begun = p.begun + begunBehind before (bytes ++ rest) := by
  induction h generalizing before with
  | nil p => rw [List.nil_append, begunBehind_stop hstops, Nat.add_zero]
  | @cons p q r byte bytes hread _ ih =>
    have hnext : r.begun = q.begun + begunBehind (before ++ [byte]) (bytes ++ rest) :=
      ih (hbefore.append (.single hread))
    simp only [List.cons_append, begunBehind, begins_iff_reads hbefore hread]
    rw [hnext, hread.begun_eq, Nat.add_assoc]

end

/-- Under a limit below the number of arguments begun, the limit is the error, wherever on the line it is
exceeded and whatever else is wrong with the line. Under all other limits the result is one and the
same, and if it is a list of arguments, it has them all. -/
theorem splitWithin_threshold (line : Bytes) : ∃ result : Except ArgumentError Arguments,
    (∀ limit < argumentsBegun line, splitWithin limit line = .error (.tooMany limit)) ∧
    (∀ limit ≥ argumentsBegun line, splitWithin limit line = result) ∧
    (∀ limit, result ≠ .error (.tooMany limit)) ∧
    ∀ arguments, result = .ok arguments → arguments.length = argumentsBegun line := by
  obtain ⟨bytes, rest, p, rfl, hstops, hscan⟩ := proper_empty.exists_scan line
  have hp : Proper p := hscan.proper proper_empty
  have hbegun : p.begun = argumentsBegun (bytes ++ rest) := by
    rw [begun_eq_of_scan (.nil .empty) hscan hstops]
    exact Nat.zero_add _
  refine ⟨p.outcome rest, fun limit hbelow => ?_, fun limit habove => ?_, fun limit hmany => ?_,
    fun arguments hok => ?_⟩
  · rw [splitWithin_scan hscan hstops, if_neg (by omega)]
  · rw [splitWithin_scan hscan hstops, if_pos (by omega)]
  · cases rest with
    | cons byte rest => cases hmany
    | nil =>
      rcases hp.close_cases with ⟨-, arguments, hclose, -⟩ | ⟨mark, -, hclose⟩
      · cases hclose.symm.trans hmany
      · cases hclose.symm.trans hmany
  · cases rest with
    | cons byte rest => cases hok
    | nil => rw [length_of_close hp hok, hbegun]

/-- A plain argument, a quoted one, an empty one and an unfinished one are begun before the NUL byte. -/
example : argumentsBegun (Bytes.ofString "a \"b c\"\t'' d\\\"'e \x00 f") = 4 := by decide

end GuestInit.Arguments
