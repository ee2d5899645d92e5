import GuestInit.Proofs.Splitting

/-! Reading a line without regard to the limit. What a byte does to the progress of a reading does not
depend on the limit; the limit only says whether the reading goes on. So a line has one scan, up to its
first NUL byte, and from it the outcome under every limit can be told (`splitWithin_scan`). -/

namespace GuestInit.Arguments

open Grammar

theorem ne_nul_of_blank {byte : UInt8} (h : byte ∈ blanks) : byte ≠ Bytes.nul := by
  rintro rfl
  exact absurd h (by decide)

theorem Quote.byte_ne_nul (mark : Quote) : mark.byte ≠ Bytes.nul := by
  cases mark <;> decide

theorem Quote.byte_notMem_blanks (mark : Quote) : mark.byte ∉ blanks := by
  cases mark <;> decide

theorem backslash_notMem_blanks : backslash ∉ blanks := by decide

theorem letter_begins {letter meant : UInt8} (h : (letter, meant) ∈ escapes) :
    letter ≠ Bytes.nul ∧ letter ∉ blanks := by
  have hescapes : escapes.all (fun entry => entry.1 ≠ Bytes.nul ∧ entry.1 ∉ blanks) = true := by
    decide
  simpa using List.all_eq_true.mp hescapes (letter, meant) h

namespace Progress

/-- The number of arguments begun so far. -/
def begun (p : Progress) : Nat := p.finished.length + p.field.toList.length

/-- What a byte other than NUL does, as long as the limit does not stop it. -/
inductive Reads : Progress → UInt8 → Progress → Prop
  | gap {finished byte} (hblank : byte ∈ blanks) : Reads (between finished) byte (between finished)
  | begin {finished byte q} (hnul : byte ≠ Bytes.nul) (hblank : byte ∉ blanks)
      (h : Reads (within finished [] none) byte q) : Reads (between finished) byte q
  | blank {finished field byte} (hblank : byte ∈ blanks) :
      Reads (within finished field none) byte (between (field.reverse :: finished))
  | plain {finished field byte} (hplain : Plain byte) :
      Reads (within finished field none) byte (within finished (byte :: field) none)
  | enter {finished field} (mark : Quote) :
      Reads (within finished field none) mark.byte (within finished field (some mark))
  | leave {finished field} (mark : Quote) :
      Reads (within finished field (some mark)) mark.byte (within finished field none)
  | verbatim {finished field byte} (mark : Quote) (hnul : byte ≠ Bytes.nul)
      (hquote : byte ≠ mark.byte) (hbackslash : mark = .double → byte ≠ backslash) :
      Reads (within finished field (some mark)) byte (within finished (byte :: field) (some mark))
  | backslash {finished field quote} (hquote : quote ≠ some .single) :
      Reads (within finished field quote) backslash (pending finished field quote)
  | escape {finished field quote letter meant} (hletter : (letter, meant) ∈ escapes) :
      Reads (pending finished field quote) letter (within finished (meant :: field) quote)
  | lone {finished field quote byte q} (hletter : unescape byte = none)
      (h : Reads (within finished (Arguments.backslash :: field) quote) byte q) :
      Reads (pending finished field quote) byte q

/-- The progresses that there are: a quoted run is always within an argument, and so is a backslash
that is set aside, which single quotes never do. -/
inductive Proper : Progress → Prop
  | between (finished : List Bytes) : Proper (between finished)
  | within (finished : List Bytes) (field : Bytes) (quote : Option Quote) :
      Proper (within finished field quote)
  | pending (finished : List Bytes) (field : Bytes) {quote : Option Quote}
      (hquote : quote ≠ some .single) : Proper (pending finished field quote)

section

variable {p q : Progress} {byte : UInt8} {limit : Nat} {finished : List Bytes} {field : Bytes}
  {quote : Option Quote}

@[simp] theorem between_field : (between finished).field = none := rfl
@[simp] theorem within_field : (within finished field quote).field = some field := rfl
@[simp] theorem pending_field : (pending finished field quote).field = some field := rfl
@[simp] theorem between_escaping : (between finished).escaping = false := rfl
@[simp] theorem within_escaping : (within finished field quote).escaping = false := rfl
@[simp] theorem pending_escaping : (pending finished field quote).escaping = true := rfl
@[simp] theorem pending_quote : (pending finished field quote).quote = quote := rfl
@[simp] theorem begun_between : (between finished).begun = finished.length := rfl
@[simp] theorem begun_within : (within finished field quote).begun = finished.length + 1 := rfl
@[simp] theorem begun_pending : (pending finished field quote).begun = finished.length + 1 := rfl

theorem within_reads (hnul : byte ≠ Bytes.nul) :
    ∃ q, Reads (within finished field quote) byte q := by
  cases quote with
  | none =>
    rcases byte_cases byte with h | hblank | ⟨mark, rfl⟩ | rfl | hplain
    · exact absurd h hnul
    · exact ⟨_, .blank hblank⟩
    · exact ⟨_, .enter mark⟩
    · exact ⟨_, .backslash nofun⟩
    · exact ⟨_, .plain hplain⟩
  | some mark =>
    by_cases hquote : byte = mark.byte
    · rw [hquote]
      exact ⟨_, .leave mark⟩
    by_cases hbackslash : mark = .double ∧ byte = Arguments.backslash
    · obtain ⟨rfl, rfl⟩ := hbackslash
      exact ⟨_, .backslash nofun⟩
    · exact ⟨_, .verbatim mark hnul hquote fun hmark hbyte => hbackslash ⟨hmark, hbyte⟩⟩

theorem Proper.reads (h : Proper p) (hnul : byte ≠ Bytes.nul) : ∃ q, Reads p byte q := by
  cases h with
  | between finished =>
    by_cases hblank : byte ∈ blanks
    · exact ⟨_, .gap hblank⟩
    · obtain ⟨q, hq⟩ : ∃ q, Reads (Progress.within finished [] none) byte q := within_reads hnul
      exact ⟨q, .begin hnul hblank hq⟩
  | within finished field quote => exact within_reads hnul
  | pending finished field _ =>
    cases hmeant : unescape byte with
    | some meant => exact ⟨_, .escape (mem_of_unescape hmeant)⟩
    | none =>
      obtain ⟨q, hq⟩ := within_reads hnul
      exact ⟨q, .lone hmeant hq⟩

theorem Reads.proper (h : Reads p byte q) : Proper q := by
  induction h with
  | gap => exact .between _
  | begin _ _ _ ih => exact ih
  | blank => exact .between _
  | plain => exact .within _ _ _
  | enter => exact .within _ _ _
  | leave => exact .within _ _ _
  | verbatim => exact .within _ _ _
  | backslash hquote => exact .pending _ _ hquote
  | escape => exact .within _ _ _
  | lone _ _ ih => exact ih

/-- An argument begins with a byte that is not blank, between two arguments. -/
theorem Reads.begun_eq (h : Reads p byte q) :
    q.begun = p.begun + if p.field = none ∧ byte ∉ blanks then 1 else 0 := by
  induction h with
  | gap hblank => simp [hblank]
  | begin _ hblank _ ih => simpa [hblank] using ih
  | blank => simp
  | plain => simp
  | enter => simp
  | leave => simp
  | verbatim => simp
  | backslash => simp
  | escape => simp
  | lone _ _ ih => simpa using ih

theorem Reads.begun_le (h : Reads p byte q) : p.begun ≤ q.begun := by
  rw [h.begun_eq]
  exact Nat.le_add_right _ _

theorem Reads.step_ok (h : Reads p byte q) (hroom : q.begun ≤ limit) : p.step limit byte = .ok q := by
  induction h with
  | gap hblank => exact step_gap hblank
  | @begin finished _ _ hnul hblank h ih =>
    have hmore : finished.length < limit := Nat.le_trans h.begun_le hroom
    rw [step_begin hnul hblank hmore]
    exact ih hroom
  | blank hblank => exact step_blank hblank
  | plain hplain => exact step_plain hplain
  | enter mark => exact step_open mark
  | leave mark => exact step_close mark
  | verbatim mark hnul hquote hbackslash => exact step_verbatim mark hnul hquote hbackslash
  | backslash hquote => exact step_backslash hquote
  | escape hletter => exact step_escape hletter
  | lone hletter _ ih =>
    rw [step_lone hletter]
    exact ih hroom

/-- Only where an argument begins can the limit be exceeded. -/
theorem Reads.step_tooMany (h : Reads p byte q) (hroom : p.begun ≤ limit) (hfull : limit < q.begun) :
    p.step limit byte = .error (.tooMany limit) := by
  have hbegun := h.begun_eq
  have hbegins : p.field = none ∧ byte ∉ blanks := by
    refine Decidable.byContradiction fun hcontinues => ?_
    rw [if_neg hcontinues] at hbegun
    omega
  cases h with
  | gap hblank => exact absurd hblank hbegins.2
  | @begin finished _ _ hnul hblank h =>
    rw [if_pos hbegins, begun_between] at hbegun
    exact step_full hnul hblank (by omega)
  | _ => cases hbegins.1

theorem Reads.ne_nul (h : Reads p byte q) : byte ≠ Bytes.nul := by
  induction h with
  | gap hblank => exact ne_nul_of_blank hblank
  | begin hnul _ _ _ => exact hnul
  | blank hblank => exact ne_nul_of_blank hblank
  | plain hplain => exact hplain.not_nul
  | enter mark => exact mark.byte_ne_nul
  | leave mark => exact mark.byte_ne_nul
  | verbatim _ hnul _ _ => exact hnul
  | backslash _ => decide
  | escape hletter => exact (letter_begins hletter).1
  | lone _ _ ih => exact ih

/-- A blank outside quotes is the one thing that leaves no argument open. -/
theorem Reads.field_eq_none_iff (h : Reads p byte q) :
    q.field = none ↔ byte ∈ blanks ∧ q.quote = none := by
  induction h with
  | gap hblank => simp [hblank]
  | begin _ _ _ ih => exact ih
  | blank hblank => simp [hblank]
  | plain hplain => simp [hplain.not_blank]
  | enter mark => simp
  | leave mark => simp [mark.byte_notMem_blanks]
  | verbatim => simp
  | backslash => simp [backslash_notMem_blanks]
  | escape hletter => simp [(letter_begins hletter).2]
  | lone _ _ ih => exact ih

theorem Proper.step_nul (h : Proper p) : p.step limit Bytes.nul = .error .nulByte := by
  cases h with
  | between finished => rfl
  | within finished field quote => rfl
  | pending finished field _ => rfl

@[simp] theorem close_between : (between finished).close = .ok finished.reverse := rfl
@[simp] theorem close_within :
    (within finished field none).close = .ok (field.reverse :: finished).reverse := rfl
@[simp] theorem close_open {mark : Quote} :
    (within finished field (some mark)).close = .error .unbalancedQuotes := rfl
@[simp] theorem close_pending : (pending finished field quote).close =
    (within finished (Arguments.backslash :: field) quote).close := rfl

/-- The end of a line is an error in a quoted run, and nowhere else. -/
theorem Proper.close_cases (h : Proper p) :
    (p.quote = none ∧ ∃ arguments, p.close = .ok arguments ∧ arguments.length = p.begun) ∨
      ∃ mark, p.quote = some mark ∧ p.close = .error .unbalancedQuotes := by
  have hwithin (field : Bytes) (quote : Option Quote) (finished : List Bytes) :
      (quote = none ∧ ∃ arguments, (Progress.within finished field quote).close = .ok arguments ∧
        arguments.length = finished.length + 1) ∨
      ∃ mark, quote = some mark ∧
        (Progress.within finished field quote).close = .error .unbalancedQuotes := by
    cases quote with
    | none => exact .inl ⟨rfl, (field.reverse :: finished).reverse, rfl, by simp⟩
    | some mark => exact .inr ⟨mark, rfl, rfl⟩
  cases h with
  | between finished => exact .inl ⟨rfl, finished.reverse, rfl, by simp⟩
  | within finished field quote => exact hwithin field quote finished
  | @pending finished field quote _ => exact hwithin (Arguments.backslash :: field) quote finished

theorem length_of_close {arguments : Arguments} (hp : Proper p) (h : p.close = .ok arguments) :
    arguments.length = p.begun := by
  rcases hp.close_cases with ⟨-, closed, hclose, hlength⟩ | ⟨mark, -, hclose⟩
  · rw [h] at hclose
    rw [Except.ok.inj hclose, hlength]
  · rw [h] at hclose
    cases hclose

end

/-- What bytes other than NUL do, as long as the limit does not stop them. -/
inductive Scans : Progress → Bytes → Progress → Prop
  | nil (p : Progress) : Scans p [] p
  | cons {p q r byte bytes} (hread : Reads p byte q) (hrest : Scans q bytes r) :
      Scans p (byte :: bytes) r

/-- What is left of a line where a scan stops: nothing, or a NUL byte and whatever follows it. -/
def Stops (rest : Bytes) : Prop := ∀ byte ∈ rest.head?, byte = Bytes.nul

/-- What becomes of a line whose scan stopped there, if the limit allows it. -/
def outcome (p : Progress) : (rest : Bytes) → Except ArgumentError Arguments
  | [] => p.close
  | _ :: _ => .error .nulByte

section

variable {p q r : Progress} {bytes bytes' rest : Bytes} {byte : UInt8} {limit : Nat}

theorem Scans.append (h : Scans p bytes q) (h' : Scans q bytes' r) : Scans p (bytes ++ bytes') r := by
  induction h with
  | nil => exact h'
  | cons hread _ ih => exact .cons hread (ih h')

theorem Scans.single (h : Reads p byte q) : Scans p [byte] q := .cons h (.nil q)

/-- The last byte of a scan. -/
theorem Scans.of_concat (h : Scans p (bytes ++ [byte]) r) :
    ∃ q, Scans p bytes q ∧ Reads q byte r := by
  induction bytes generalizing p with
  | nil =>
    cases h with
    | cons hread hrest =>
      cases hrest
      exact ⟨p, .nil p, hread⟩
  | cons first bytes ih =>
    cases h with
    | cons hread hrest =>
      obtain ⟨q, hscan, hlast⟩ := ih hrest
      exact ⟨q, .cons hread hscan, hlast⟩

/-- What holds of no bytes and is kept by one more byte holds of every scan. -/
theorem Scans.concat_induction {motive : ∀ bytes q, Scans p bytes q → Prop}
    (nil : motive [] p (.nil p))
    (concat : ∀ {bytes q byte r} (hscan : Scans p bytes q) (hread : Reads q byte r),
      motive bytes q hscan → motive (bytes ++ [byte]) r (hscan.append (.single hread)))
    {bytes : Bytes} {q : Progress} (h : Scans p bytes q) : motive bytes q h := by
  have hfrom {front bytes : Bytes} {q q' : Progress} (hfront : Scans p front q')
      (hrest : Scans q' bytes q) (hmotive : motive front q' hfront) :
      motive (front ++ bytes) q (hfront.append hrest) := by
    induction hrest generalizing front with
    | nil q => simpa only [List.append_nil] using hmotive
    | @cons q' r' r byte bytes hread hrest ih =>
      have hmore := ih (hfront.append (.single hread)) (concat hfront hread hmotive)
      simpa only [List.append_assoc, List.singleton_append] using hmore
  exact hfrom (.nil p) h nil

theorem Scans.proper (h : Scans p bytes q) (hp : Proper p) : Proper q := by
  induction h with
  | nil => exact hp
  | cons hread _ ih => exact ih hread.proper

theorem Scans.nulFree (h : Scans p bytes q) : Bytes.nul ∉ bytes := by
  induction h with
  | nil => exact List.not_mem_nil
  | cons hread _ ih => exact List.not_mem_cons_of_ne_of_not_mem hread.ne_nul.symm ih

theorem Scans.begun_le (h : Scans p bytes q) : p.begun ≤ q.begun := by
  induction h with
  | nil => exact Nat.le_refl _
  | cons hread _ ih => exact Nat.le_trans hread.begun_le ih

/-- A line is scanned up to its first NUL byte. -/
theorem Proper.exists_scan (hp : Proper p) (line : Bytes) :
    ∃ bytes rest q, line = bytes ++ rest ∧ Stops rest ∧ Scans p bytes q := by
  induction line generalizing p with
  | nil => exact ⟨[], [], p, rfl, nofun, .nil p⟩
  | cons byte line ih =>
    by_cases hnul : byte = Bytes.nul
    · have hstops : Stops (byte :: line) := fun first hfirst => (Option.some.inj hfirst).symm.trans hnul
      exact ⟨[], byte :: line, p, rfl, hstops, .nil p⟩
    · obtain ⟨q, hread⟩ := hp.reads hnul
      obtain ⟨bytes, rest, r, rfl, hstops, hscan⟩ := ih hread.proper
      exact ⟨byte :: bytes, rest, r, rfl, hstops, .cons hread hscan⟩

theorem Proper.readAll_stop (hp : Proper p) (hstops : Stops rest) :
    p.readAll limit rest = p.outcome rest := by
  cases rest with
  | nil => rfl
  | cons byte rest =>
    obtain rfl : byte = Bytes.nul := hstops byte rfl
    rw [readAll_cons, hp.step_nul]
    rfl

/-- Once an argument over the limit has begun, the limit is the error, whatever the rest of the scan
would have come to. -/
theorem Scans.readAll_eq (h : Scans p bytes q) (hp : Proper p) (hstops : Stops rest)
    (hroom : p.begun ≤ limit) : p.readAll limit (bytes ++ rest) =
      if q.begun ≤ limit then q.outcome rest else .error (.tooMany limit) := by
  induction h with
  | nil p => rw [List.nil_append, hp.readAll_stop hstops, if_pos hroom]
  | @cons p q r byte bytes hread hrest ih =>
    rw [List.cons_append]
    by_cases hnext : q.begun ≤ limit
    · rw [readAll_of_step (hread.step_ok hnext)]
      exact ih hread.proper hnext
    · have hlast : ¬ r.begun ≤ limit := fun hle => hnext (Nat.le_trans hrest.begun_le hle)
      rw [readAll_cons, hread.step_tooMany hroom (by omega), if_neg hlast]
      rfl

end
end Progress

open Progress

theorem proper_empty : Proper Progress.empty := .between []

/-- What a line comes to under a limit is told by its one scan. -/
theorem splitWithin_scan {bytes rest : Bytes} {p : Progress} (h : Scans .empty bytes p)
    (hstops : Stops rest) (limit : Nat) : splitWithin limit (bytes ++ rest) =
      if p.begun ≤ limit then p.outcome rest else .error (.tooMany limit) :=
  h.readAll_eq proper_empty hstops (Nat.zero_le limit)

theorem splitWithin_of_scan {line : Bytes} {p : Progress} (h : Scans .empty line p) (limit : Nat) :
    splitWithin limit line = if p.begun ≤ limit then p.close else .error (.tooMany limit) := by
  have hstops : Stops [] := nofun
  have hend := splitWithin_scan h hstops limit
  rwa [List.append_nil] at hend

/-- A scanned line is derived by the grammar if and only if it may end there. -/
theorem line_iff_close {line : Bytes} {p : Progress} (h : Scans .empty line p)
    (arguments : Arguments) : Line line arguments ↔ p.close = .ok arguments := by
  constructor
  · intro hline
    have hsplit := splitWithin_of_line hline (Nat.le_refl arguments.length)
    rw [splitWithin_of_scan h] at hsplit
    by_cases hroom : p.begun ≤ arguments.length
    · rwa [if_pos hroom] at hsplit
    · rw [if_neg hroom] at hsplit
      cases hsplit
  · intro hclose
    have hsplit : splitWithin p.begun line = .ok arguments := by
      rw [splitWithin_of_scan h, if_pos (Nat.le_refl _), hclose]
    exact (line_of_splitWithin hsplit).1

/-- Only a line without a NUL byte gets to its end. -/
theorem exists_scan_of_ne_nulByte {limit : Nat} {line : Bytes}
    {result : Except ArgumentError Arguments} (h : splitWithin limit line = result)
    (hnul : result ≠ .error .nulByte) (hmany : ∀ limit, result ≠ .error (.tooMany limit)) :
    ∃ p, Scans .empty line p ∧ p.begun ≤ limit ∧ p.close = result := by
  obtain ⟨bytes, rest, p, rfl, hstops, hscan⟩ := proper_empty.exists_scan line
  rw [splitWithin_scan hscan hstops] at h
  by_cases hroom : p.begun ≤ limit
  · rw [if_pos hroom] at h
    cases rest with
    | nil =>
      rw [List.append_nil]
      exact ⟨p, hscan, hroom, h⟩
    | cons byte rest => exact absurd h.symm hnul
  · rw [if_neg hroom] at h
    exact absurd h.symm (hmany limit)

end GuestInit.Arguments
