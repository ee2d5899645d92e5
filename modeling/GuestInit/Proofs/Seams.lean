import GuestInit.Proofs.Scanning

/-! Splitting two lines joined by a blank. A line that splits leaves nothing open that a blank would not
end: not even a backslash at its end reaches across. What stands behind the blank is then read as it
would be alone, only with fewer arguments allowed. Main statement: `splitWithin_seam`. -/

namespace GuestInit.Arguments

open Grammar

namespace Progress

/-- The same progress behind arguments that are complete already, the latest one first. -/
def behind (earlier : List Bytes) (p : Progress) : Progress :=
  { p with finished := p.finished ++ earlier }

variable {earlier finished : List Bytes} {field bytes rest : Bytes} {quote : Option Quote}
  {p q : Progress} {byte : UInt8} {arguments : Arguments}

@[simp] theorem between_behind :
    (between finished).behind earlier = between (finished ++ earlier) := rfl
@[simp] theorem within_behind :
    (within finished field quote).behind earlier = within (finished ++ earlier) field quote := rfl
@[simp] theorem pending_behind :
    (pending finished field quote).behind earlier = pending (finished ++ earlier) field quote := rfl

theorem begun_behind : (p.behind earlier).begun = earlier.length + p.begun := by
  simp only [begun, behind, List.length_append]
  omega

/-- What a byte does, it does behind any arguments. -/
theorem Reads.behind (h : Reads p byte q) : Reads (p.behind earlier) byte (q.behind earlier) := by
  induction h with
  | gap hblank => exact .gap hblank
  | begin hnul hblank _ ih => exact .begin hnul hblank ih
  | blank hblank => exact .blank hblank
  | plain hplain => exact .plain hplain
  | enter mark => exact .enter mark
  | leave mark => exact .leave mark
  | verbatim mark hnul hquote hbackslash => exact .verbatim mark hnul hquote hbackslash
  | backslash hquote => exact .backslash hquote
  | escape hletter => exact .escape hletter
  | lone hletter _ ih => exact .lone hletter ih

theorem Scans.behind (h : Scans p bytes q) : Scans (p.behind earlier) bytes (q.behind earlier) := by
  induction h with
  | nil p => exact .nil (p.behind earlier)
  | cons hread _ ih => exact .cons hread.behind ih

theorem close_behind (hp : Proper p) :
    (p.behind earlier).close = p.close.map (earlier.reverse ++ ·) := by
  cases hp with
  | between finished => simp [Except.map]
  | within finished field quote => cases quote <;> simp [Except.map]
  | @pending finished field quote _ => cases quote <;> simp [Except.map]

theorem outcome_behind (hp : Proper p) (rest : Bytes) :
    (p.behind earlier).outcome rest = (p.outcome rest).map (earlier.reverse ++ ·) := by
  cases rest with
  | nil => exact close_behind hp
  | cons byte rest => rfl

theorem unescape_of_blank (h : byte ∈ blanks) : unescape byte = none := by
  have hblanks : blanks.all (fun byte => unescape byte = none) = true := by decide
  simpa using List.all_eq_true.mp hblanks byte h

/-- Where a line may end, a blank ends it in the same way. -/
theorem reads_blank (hp : Proper p) (hclose : p.close = .ok arguments)
    (hblank : byte ∈ blanks) : Reads p byte (between arguments.reverse) := by
  cases hp with
  | between finished =>
    obtain rfl : finished.reverse = arguments := Except.ok.inj hclose
    rw [List.reverse_reverse]
    exact .gap hblank
  | within finished field quote =>
    cases quote with
    | none =>
      obtain rfl : (field.reverse :: finished).reverse = arguments := Except.ok.inj hclose
      rw [List.reverse_reverse]
      exact .blank hblank
    | some mark => cases hclose
  | @pending finished field quote _ =>
    cases quote with
    | none =>
      obtain rfl : ((backslash :: field).reverse :: finished).reverse = arguments :=
        Except.ok.inj hclose
      rw [List.reverse_reverse]
      exact .lone (unescape_of_blank hblank) (.blank hblank)
    | some mark => cases hclose

/-- A rest that is scanned behind a line and a blank, scanned behind the line's arguments. -/
theorem Scans.seam {line : Bytes} (hline : Scans .empty line p) (hclose : p.close = .ok arguments)
    (hblank : byte ∈ blanks) (hrest : Scans .empty bytes q) :
    Scans .empty (line ++ [byte] ++ bytes) (q.behind arguments.reverse) := by
  have hp : Proper p := hline.proper proper_empty
  have hseam : Scans p [byte] (between arguments.reverse) := .single (reads_blank hp hclose hblank)
  have hbehind : Scans (between arguments.reverse) bytes (q.behind arguments.reverse) := hrest.behind
  exact (hline.append hseam).append hbehind

end Progress

open Progress

/-- A line that splits, a blank and whatever else: the rest is split as it is alone, within what the
limit leaves to it, and decides what the whole comes to. -/
theorem splitWithin_seam {limit : Nat} {line : Bytes} {arguments : Arguments} {blank : UInt8}
    (hline : splitWithin limit line = .ok arguments) (hblank : blank ∈ blanks) (rest : Bytes) :
    arguments.length ≤ limit ∧ splitWithin limit (line ++ [blank] ++ rest) =
      match splitWithin (limit - arguments.length) rest with
      | .ok more => .ok (arguments ++ more)
      | .error (.tooMany _) => .error (.tooMany limit)
      | .error .unbalancedQuotes => .error .unbalancedQuotes
      | .error .nulByte => .error .nulByte := by
  obtain ⟨p, hscan, hroom, hclose⟩ := exists_scan_of_ne_nulByte hline nofun nofun
  have hlength : arguments.length = p.begun := length_of_close (hscan.proper proper_empty) hclose
  obtain ⟨bytes, stop, q, rfl, hstops, hrest⟩ := proper_empty.exists_scan rest
  have hjoined := hscan.seam hclose hblank hrest
  refine ⟨hlength ▸ hroom, ?_⟩
  rw [← List.append_assoc, splitWithin_scan hjoined hstops, splitWithin_scan hrest hstops, begun_behind,
    outcome_behind (hrest.proper proper_empty), List.length_reverse, List.reverse_reverse]
  by_cases hmore : arguments.length + q.begun ≤ limit
  · have hmore' : q.begun ≤ limit - arguments.length := by omega
    rw [if_pos hmore, if_pos hmore']
    cases stop with
    | cons byte stop => rfl
    | nil =>
      rcases (hrest.proper proper_empty).close_cases with ⟨-, more, hend, -⟩ | ⟨mark, -, hend⟩
      · simp [outcome, hend, Except.map]
      · simp [outcome, hend, Except.map]
  · have hmore' : ¬ q.begun ≤ limit - arguments.length := by omega
    rw [if_neg hmore, if_neg hmore']

/-- A backslash in front of the seam, blanks behind it, and a limit that the rest exceeds. -/
theorem splitWithin_seam_backslash :
    splitWithin 3 (Bytes.ofString "x \\") = .ok [Bytes.ofString "x", Bytes.ofString "\\"] ∧
    0x0A ∈ blanks ∧
    splitWithin 3 (Bytes.ofString "x \\" ++ [0x0A] ++ Bytes.ofString " ''n \"") =
      .error (.tooMany 3) := by
  have hline : splitWithin 3 (Bytes.ofString "x \\") =
      .ok [Bytes.ofString "x", Bytes.ofString "\\"] := rfl
  have hblank : 0x0A ∈ blanks := by decide
  exact ⟨hline, hblank, (splitWithin_seam hline hblank (Bytes.ofString " ''n \"")).2⟩

end GuestInit.Arguments
