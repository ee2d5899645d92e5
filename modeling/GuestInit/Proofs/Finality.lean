import GuestInit.Proofs.Scanning

/-! Which errors more bytes can mend. NUL and the limit are errors for good: whatever follows, a reading
does not get past them. Open quotes are not: the quote that is open closes them, and it has to be written
twice only if a backslash at the end of the line would escape the first one.
Main statement: `splitWithin_error_final_or_closable`. -/

namespace GuestInit.Arguments

open Grammar Progress

/-- The bytes end in a backslash that makes no pair with the one before it. -/
def Unpaired (bytes : Bytes) : Prop := (bytes.reverse.takeWhile (· = backslash)).length % 2 = 1

instance (bytes : Bytes) : Decidable (Unpaired bytes) :=
  inferInstanceAs (Decidable ((bytes.reverse.takeWhile (· = backslash)).length % 2 = 1))

section

variable {bytes : Bytes} {byte : UInt8}

theorem not_unpaired_nil : ¬ Unpaired [] := by decide

theorem unpaired_backslash : Unpaired (bytes ++ [backslash]) ↔ ¬ Unpaired bytes := by
  simp only [Unpaired, List.reverse_concat, List.takeWhile_cons, decide_true, if_true,
    List.length_cons]
  omega

theorem not_unpaired_other (h : byte ≠ backslash) : ¬ Unpaired (bytes ++ [byte]) := by
  simp [Unpaired, h]

/-- Backslashes pair up behind the last byte that is none. -/
theorem unpaired_behind (h : byte ≠ backslash) (before content : Bytes) :
    Unpaired (before ++ byte :: content) ↔ Unpaired content := by
  have htakeWhile (last : Bytes) : (last ++ byte :: before.reverse).takeWhile (· = backslash) =
      last.takeWhile (· = backslash) := by
    induction last with
    | nil => simp [h]
    | cons first last ih => simp only [List.cons_append, List.takeWhile_cons, ih]
  have hreverse : (before ++ byte :: content).reverse = content.reverse ++ byte :: before.reverse := by
    simp
  rw [Unpaired, hreverse, htakeWhile, Unpaired]

end

/-- A quoted run that opens behind `before` and has got to the end of `content`. -/
structure OpenRun (mark : Quote) (before content : Bytes) : Prop where
  /-- Its quote stands outside quotes, -/
  whole : ∃ arguments, Line before arguments
  /-- and is not escaped. -/
  bare : ¬ Unpaired before
  /-- A further quote of its kind would close it, unless it is escaped, which it can only be in double
  quotes. -/
  unclosed : ∀ head tail, content = head ++ mark.byte :: tail → mark = .double ∧ Unpaired head

theorem OpenRun.concat {mark : Quote} {before content : Bytes} {byte : UInt8}
    (h : OpenRun mark before content) (hbyte : byte = mark.byte → mark = .double ∧ Unpaired content) :
    OpenRun mark before (content ++ [byte]) where
  whole := h.whole
  bare := h.bare
  unclosed head tail heq := by
    rcases List.eq_nil_or_concat tail with rfl | ⟨tail, last, rfl⟩
    · obtain ⟨rfl, hlast⟩ := List.append_inj' heq rfl
      exact hbyte (List.head_eq_of_cons_eq hlast)
    · rw [List.concat_eq_append, ← List.cons_append, ← List.append_assoc] at heq
      exact h.unclosed head tail (List.append_inj' heq rfl).1

namespace Progress

variable {p q : Progress} {byte : UInt8} {mark : Quote}

theorem unescape_mark (mark : Quote) : unescape mark.byte = some mark.byte := by
  cases mark <;> decide

theorem mark_ne_backslash (mark : Quote) : mark.byte ≠ Arguments.backslash := by
  cases mark <;> decide

theorem blank_ne_backslash (h : byte ∈ blanks) : byte ≠ Arguments.backslash := by
  rintro rfl
  exact backslash_notMem_blanks h

/-- A backslash is set aside, unless it is itself the letter of an escape or in single quotes. -/
theorem Reads.escaping_iff (h : Reads p byte q) : q.escaping = true ↔
    byte = Arguments.backslash ∧ p.escaping = false ∧ p.quote ≠ some .single := by
  induction h with
  | gap hblank => simp [blank_ne_backslash hblank]
  | begin _ _ _ ih => exact ih
  | blank hblank => simp [blank_ne_backslash hblank]
  | plain hplain => simp [hplain.not_backslash]
  | enter mark => simp [mark_ne_backslash mark]
  | leave mark => simp [mark_ne_backslash mark]
  | verbatim mark _ _ hbackslash => cases mark <;> simp_all
  | backslash hquote => simp [hquote]
  | escape _ => simp
  | @lone _ _ _ byte _ hletter _ ih =>
    have hbyte : byte ≠ Arguments.backslash := by
      rintro rfl
      cases hletter
    simp [ih, hbyte]

/-- A backslash neither opens nor closes a quoted run. -/
theorem Reads.quote_of_backslash (h : Reads p Arguments.backslash q) : q.quote = p.quote := by
  generalize hbyte : Arguments.backslash = byte at h
  induction h with
  | gap => rfl
  | begin _ _ _ ih => exact ih hbyte
  | blank => rfl
  | plain => rfl
  | enter mark => exact absurd hbyte.symm (mark_ne_backslash mark)
  | leave mark => exact absurd hbyte.symm (mark_ne_backslash mark)
  | verbatim => rfl
  | backslash => rfl
  | escape => rfl
  | lone _ _ ih => exact ih hbyte

/-- A run that is open was open before, or this byte opened it. -/
theorem Reads.open_cases (h : Reads p byte q) (hp : Proper p) (hopen : q.quote = some mark) :
    (p.quote = none ∧ p.escaping = false ∧ byte = mark.byte) ∨
      (p.quote = some mark ∧ (byte = mark.byte → mark = .double ∧ p.escaping = true)) := by
  induction h with
  | gap => cases hopen
  | begin _ _ _ ih =>
    rcases ih (.within _ _ _) hopen with ⟨-, -, hbyte⟩ | ⟨hnone, -⟩
    · exact .inl ⟨rfl, rfl, hbyte⟩
    · cases hnone
  | blank => cases hopen
  | plain => cases hopen
  | enter other =>
    obtain rfl : other = mark := Option.some.inj hopen
    exact .inl ⟨rfl, rfl, rfl⟩
  | leave => cases hopen
  | verbatim other _ hquote _ =>
    obtain rfl : other = mark := Option.some.inj hopen
    exact .inr ⟨rfl, fun hbyte => absurd hbyte hquote⟩
  | backslash => exact .inr ⟨hopen, fun hbyte => absurd hbyte.symm (mark_ne_backslash mark)⟩
  | escape =>
    have hdouble : mark = .double := by
      cases hp with
      | pending _ _ hquote =>
        cases mark with
        | single => exact absurd hopen hquote
        | double => rfl
    exact .inr ⟨hopen, fun _ => ⟨hdouble, rfl⟩⟩
  | lone hletter _ ih =>
    rcases ih (.within _ _ _) hopen with ⟨-, -, rfl⟩ | ⟨hquote, hmark⟩
    · rw [unescape_mark] at hletter
      cases hletter
    · exact .inr ⟨hquote, fun hbyte => ⟨(hmark hbyte).1, rfl⟩⟩

/-- Outside single quotes, the backslash that is set aside is the one that is unpaired. -/
theorem escaping_iff_unpaired {line : Bytes} (h : Scans .empty line p) :
    p.escaping = true ↔ p.quote ≠ some .single ∧ Unpaired line := by
  induction h using Scans.concat_induction with
  | nil => simp [not_unpaired_nil, Progress.empty]
  | @concat bytes q byte r _ hread ih =>
    rw [hread.escaping_iff]
    by_cases hbyte : byte = Arguments.backslash
    · subst hbyte
      rw [hread.quote_of_backslash, unpaired_backslash]
      constructor
      · rintro ⟨-, hfree, hquote⟩
        refine ⟨hquote, fun hunpaired => ?_⟩
        rw [ih.mpr ⟨hquote, hunpaired⟩] at hfree
        cases hfree
      · rintro ⟨hquote, hpaired⟩
        refine ⟨rfl, ?_, hquote⟩
        rw [← Bool.not_eq_true, ih]
        exact fun hescaping => hpaired hescaping.2
    · exact ⟨fun hescaping => absurd hescaping.1 hbyte,
        fun hunpaired => absurd hunpaired.2 (not_unpaired_other hbyte)⟩

theorem not_unpaired_of_scan {line : Bytes} (h : Scans .empty line p) (hfree : p.escaping = false)
    (hquote : p.quote ≠ some .single) : ¬ Unpaired line := by
  rw [← Bool.not_eq_true, escaping_iff_unpaired h] at hfree
  exact fun hunpaired => hfree ⟨hquote, hunpaired⟩

/-- The quoted run that is open where a scan ends. -/
theorem openRun_of_scan {line : Bytes} (h : Scans .empty line p) (hopen : p.quote = some mark) :
    ∃ before content, line = before ++ mark.byte :: content ∧ OpenRun mark before content := by
  induction h using Scans.concat_induction with
  | nil => cases hopen
  | @concat bytes q byte r hscan hread ih =>
    have hq : Proper q := hscan.proper proper_empty
    rcases hread.open_cases hq hopen with ⟨hquote, hfree, rfl⟩ | ⟨hquote, hbyte⟩
    · have hbare : ¬ Unpaired bytes := not_unpaired_of_scan hscan hfree (by simp [hquote])
      rcases hq.close_cases with ⟨-, arguments, hclose, -⟩ | ⟨other, hother, -⟩
      · have hwhole : Line bytes arguments := (line_iff_close hscan arguments).mpr hclose
        exact ⟨bytes, [], rfl, ⟨arguments, hwhole⟩, hbare, fun head tail heq => by simp at heq⟩
      · rw [hquote] at hother
        cases hother
    · obtain ⟨before, content, rfl, hrun⟩ := ih hquote
      refine ⟨before, content ++ [byte], by simp, hrun.concat fun hmark => ?_⟩
      obtain ⟨hdouble, hescaping⟩ := hbyte hmark
      have hunpaired := ((escaping_iff_unpaired hscan).mp hescaping).2
      exact ⟨hdouble, (unpaired_behind (mark_ne_backslash mark) before content).mp hunpaired⟩

/-- The quote that is open closes the run, the second one if a backslash waits for the first. -/
theorem Proper.scans_close (hp : Proper p) (hopen : p.quote = some mark) :
    (p.escaping = false ∧ ∃ q arguments, Scans p [mark.byte] q ∧ q.begun = p.begun ∧
      q.close = .ok arguments) ∨
    (p.escaping = true ∧ mark = .double ∧ (∃ q, Scans p [mark.byte] q ∧ q.begun = p.begun ∧
      q.close = .error .unbalancedQuotes) ∧
      ∃ q arguments, Scans p [mark.byte, mark.byte] q ∧ q.begun = p.begun ∧
        q.close = .ok arguments) := by
  cases hp with
  | between finished => cases hopen
  | within finished field quote =>
    obtain rfl : quote = some mark := hopen
    exact .inl ⟨rfl, _, _, .single (.leave mark), rfl, rfl⟩
  | @pending finished field quote hquote =>
    obtain rfl : quote = some mark := hopen
    have hletter : (mark.byte, mark.byte) ∈ escapes := mem_of_unescape (unescape_mark mark)
    have hdouble : mark = .double := by
      cases mark with
      | single => exact absurd rfl hquote
      | double => rfl
    exact .inr ⟨rfl, hdouble, ⟨_, .single (.escape hletter), rfl, rfl⟩, _, _,
      .cons (.escape hletter) (.single (.leave mark)), rfl, rfl⟩

theorem unbalanced_of_close {p : Progress} {cause : ArgumentError} (h : p.close = .error cause) :
    cause = .unbalancedQuotes := by
  simp only [close] at h
  generalize (if p.escaping = true then p.append Arguments.backslash else p) = q at h
  split at h
  · exact (Except.error.inj h).symm
  · cases h

end Progress

variable {limit : Nat} {line : Bytes} {cause : ArgumentError}

/-- A reading that does not get to the end of a line gets to the end of no longer line. -/
theorem splitWithin_append_of_error (h : splitWithin limit line = .error cause)
    (hcause : cause ≠ .unbalancedQuotes) (more : Bytes) :
    splitWithin limit (line ++ more) = .error cause := by
  unfold splitWithin at h ⊢
  rw [List.foldlM_append]
  cases hread : line.foldlM (Progress.step limit) .empty with
  | error stopped =>
    rw [hread] at h
    exact congrArg Except.error (Except.error.inj h)
  | ok p =>
    rw [hread] at h
    exact absurd (unbalanced_of_close h) hcause

/-- NUL and the limit are final: no continuation of the line changes the error. A line whose quotes are
open is split once the quote of the run that is open is added to it; only if that run is in double
quotes and the line ends in an unpaired backslash, one quote leaves it open and a second one closes it. -/
theorem splitWithin_error_final_or_closable (h : splitWithin limit line = .error cause) :
    (cause ≠ .unbalancedQuotes → ∀ more, splitWithin limit (line ++ more) = .error cause) ∧
    (cause = .unbalancedQuotes → ∃ mark before content, line = before ++ mark.byte :: content ∧
      OpenRun mark before content ∧
      if mark = .double ∧ Unpaired line then
        splitWithin limit (line ++ [mark.byte]) = .error .unbalancedQuotes ∧
        ∃ arguments, splitWithin limit (line ++ [mark.byte, mark.byte]) = .ok arguments
      else ∃ arguments, splitWithin limit (line ++ [mark.byte]) = .ok arguments) := by
  refine ⟨fun hcause => splitWithin_append_of_error h hcause, ?_⟩
  rintro rfl
  obtain ⟨p, hscan, hroom, hclose⟩ := exists_scan_of_ne_nulByte h nofun nofun
  have hp : Proper p := hscan.proper proper_empty
  obtain ⟨mark, hopen⟩ : ∃ mark, p.quote = some mark := by
    rcases hp.close_cases with ⟨-, arguments, hok, -⟩ | ⟨mark, hopen, -⟩
    · cases hclose.symm.trans hok
    · exact ⟨mark, hopen⟩
  have hadded {added : Bytes} {q : Progress} (hmore : Scans p added q) (hbegun : q.begun = p.begun) :
      splitWithin limit (line ++ added) = q.close := by
    rw [splitWithin_of_scan (hscan.append hmore), if_pos (hbegun ▸ hroom)]
  obtain ⟨before, content, hline, hrun⟩ := openRun_of_scan hscan hopen
  refine ⟨mark, before, content, hline, hrun, ?_⟩
  rcases hp.scans_close hopen with ⟨hfree, q, arguments, hq, hbegun, hok⟩ |
    ⟨hescaping, rfl, ⟨q, hq, hbegun, hstill⟩, q', arguments, hq', hbegun', hok⟩
  · have hnot : ¬ (mark = .double ∧ Unpaired line) := by
      rintro ⟨rfl, hunpaired⟩
      exact not_unpaired_of_scan hscan hfree (by simp [hopen]) hunpaired
    rw [if_neg hnot]
    exact ⟨arguments, (hadded hq hbegun).trans hok⟩
  · rw [if_pos ⟨rfl, ((escaping_iff_unpaired hscan).mp hescaping).2⟩]
    exact ⟨(hadded hq hbegun).trans hstill, arguments, (hadded hq' hbegun').trans hok⟩

/-- An argument too many stays one, and an unpaired backslash in double quotes takes two more of them. -/
theorem splitWithin_error_final_or_closable_backslash :
    let line := Bytes.ofString "x \"it's \\"
    (splitWithin 1 line = .error (.tooMany 1) ∧
      ∀ more, splitWithin 1 (line ++ more) = .error (.tooMany 1)) ∧
    splitWithin 2 line = .error .unbalancedQuotes ∧ Unpaired line ∧
      ∃ mark before content, line = before ++ mark.byte :: content ∧ OpenRun mark before content ∧
        if mark = .double ∧ Unpaired line then
          splitWithin 2 (line ++ [mark.byte]) = .error .unbalancedQuotes ∧
          ∃ arguments, splitWithin 2 (line ++ [mark.byte, mark.byte]) = .ok arguments
        else ∃ arguments, splitWithin 2 (line ++ [mark.byte]) = .ok arguments := by
  intro line
  have hmany : splitWithin 1 line = .error (.tooMany 1) := rfl
  have hopen : splitWithin 2 line = .error .unbalancedQuotes := rfl
  have hunpaired : Unpaired line := by decide
  exact ⟨⟨hmany, (splitWithin_error_final_or_closable hmany).1 nofun⟩, hopen, hunpaired,
    (splitWithin_error_final_or_closable hopen).2 rfl⟩

end GuestInit.Arguments
