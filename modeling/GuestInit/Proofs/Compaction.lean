import Mathlib.Algebra.GroupWithZero.Nat
import GuestInit.Proofs.Lines
import GuestInit.Proofs.NulFree
import GuestInit.Proofs.PrivilegeDrop

/-! Splitting a line in place. What a reading has made of a line is never longer than what it has read of
it, a terminator after each complete argument included. So the arguments can be written over the line as
it is being read: the pass writes behind the place it reads from, and all it needs beside the line is the
one byte behind it, for the last terminator. Main statement: `splitWithin_compacts`. -/

namespace GuestInit

/-- Puts bytes in the place of others, from a position on. -/
def Bytes.overwrite (buffer : Bytes) (position : Nat) (bytes : Bytes) : Bytes :=
  buffer.take position ++ bytes ++ buffer.drop (position + bytes.length)

theorem Bytes.overwrite_append (front back bytes : Bytes) :
    Bytes.overwrite (front ++ back) front.length bytes = front ++ bytes ++ back.drop bytes.length := by
  simp [Bytes.overwrite, List.drop_append]

theorem Command.length_parse_raw_le (number : Nat) (text : Bytes) :
    (parse number text).raw.length ≤ text.length := by
  cases text with
  | nil => exact Nat.le_refl _
  | cons first rest =>
    by_cases hmarker : first = workerMarker
    · simp [parse, hmarker]
    · simp [parse, hmarker]

theorem Script.length_next_raw_le {script : Script} {command : Command}
    (h : script.next.1 = .ok (some command)) : command.raw.length ≤ longestLine := by
  rcases hread : script.source.readLine (longestLine + 1) with ⟨_ | text, source⟩
  · unfold next at h
    rw [hread] at h
    cases h
  · by_cases hne : text = []
    · unfold next at h
      rw [hread, hne] at h
      cases h
    · rw [next_of_read hread hne] at h
      by_cases hlength : (withoutNewline text).length > longestLine
      · rw [if_pos hlength] at h
        cases h
      · rw [if_neg hlength] at h
        cases h
        exact Nat.le_trans (Command.length_parse_raw_le _ _) (Nat.le_of_not_lt hlength)

namespace Arguments

open Grammar

/-- The arguments one behind the other, each with its terminator. -/
def packed (arguments : Arguments) : Bytes := arguments.flatMap (· ++ [Bytes.nul])

@[simp] theorem packed_concat (arguments : Arguments) (argument : Bytes) :
    packed (arguments ++ [argument]) = arguments.packed ++ argument ++ [Bytes.nul] := by
  simp [packed]

theorem length_packed (arguments : Arguments) :
    arguments.packed.length = (arguments.map (·.length + 1)).sum := by
  simp [packed, List.length_flatMap]

namespace Progress

/-- What a reading has made so far: the complete arguments and the bytes of the one being read. -/
def written (p : Progress) : Bytes := packed p.finished.reverse ++ (p.field.getD []).reverse

theorem length_written (p : Progress) :
    p.written.length = (p.finished.map (·.length + 1)).sum + (p.field.getD []).length := by
  simp [written, length_packed, List.map_reverse, List.sum_reverse]

/-- Progresses that differ in nothing but the bytes of their arguments. -/
inductive Alike : Progress → Progress → Prop
  | between {finished finished'} (hcount : finished.length = finished'.length) :
      Alike (between finished) (between finished')
  | within {finished finished' field field' quote} (hcount : finished.length = finished'.length) :
      Alike (within finished field quote) (within finished' field' quote)
  | pending {finished finished' field field' quote} (hcount : finished.length = finished'.length) :
      Alike (pending finished field quote) (pending finished' field' quote)

/-- A progress without the bytes of its arguments. -/
def outline (p : Progress) : Progress :=
  { p with finished := List.replicate p.finished.length [], field := p.field.map fun _ => [] }

section

variable {p q p' : Progress} {byte : UInt8} {limit : Nat} {finished : List Bytes} {field : Bytes}
  {quote : Option Quote}

@[simp] theorem between_written : (between finished).written = packed finished.reverse := by
  simp [written, between]
@[simp] theorem within_written :
    (within finished field quote).written = packed finished.reverse ++ field.reverse := rfl
@[simp] theorem pending_written :
    (pending finished field quote).written = packed finished.reverse ++ field.reverse := rfl

theorem Proper.alike_outline (h : Proper p) : Alike p p.outline := by
  cases h with
  | between finished => exact .between List.length_replicate.symm
  | within finished field quote => exact .within List.length_replicate.symm
  | pending finished field _ => exact .pending List.length_replicate.symm

theorem Alike.outline_eq (h : Alike p p') : p.outline = p'.outline := by
  cases h with
  | between hcount => simp [outline, Progress.between, hcount]
  | within hcount => simp [outline, Progress.within, hcount]
  | pending hcount => simp [outline, Progress.pending, hcount]

theorem Alike.begun_eq (h : Alike p p') : p.begun = p'.begun := by
  cases h with
  | between hcount => simpa using hcount
  | within hcount => simpa using hcount
  | pending hcount => simpa using hcount

theorem Alike.proper (h : Alike p p') (hp : Proper p) : Proper p' := by
  cases h with
  | between _ => exact .between _
  | within _ => exact .within _ _ _
  | pending _ =>
    cases hp with
    | pending _ _ hquote => exact .pending _ _ hquote

/-- What a byte adds to the arguments does not depend on the bytes that they have. -/
theorem Reads.alike (h : Reads p byte q) (halike : Alike p p') : ∃ q' added, Reads p' byte q' ∧
    Alike q q' ∧ q.written = p.written ++ added ∧ q'.written = p'.written ++ added := by
  induction h generalizing p' with
  | gap hblank =>
    cases halike with
    | between hcount => exact ⟨_, [], .gap hblank, .between hcount, by simp, by simp⟩
  | begin hnul hblank _ ih =>
    cases halike with
    | between hcount =>
      obtain ⟨q', added, hread, halike, hq, hq'⟩ := ih (.within hcount)
      exact ⟨q', added, .begin hnul hblank hread, halike, by simpa using hq, by simpa using hq'⟩
  | blank hblank =>
    cases halike with
    | within hcount =>
      have hcount' := congrArg (· + 1) hcount
      exact ⟨_, [Bytes.nul], .blank hblank, .between hcount', by simp, by simp⟩
  | @plain _ _ byte hplain =>
    cases halike with
    | within hcount => exact ⟨_, [byte], .plain hplain, .within hcount, by simp, by simp⟩
  | enter mark =>
    cases halike with
    | within hcount => exact ⟨_, [], .enter mark, .within hcount, by simp, by simp⟩
  | leave mark =>
    cases halike with
    | within hcount => exact ⟨_, [], .leave mark, .within hcount, by simp, by simp⟩
  | @verbatim _ _ byte mark hnul hquote hbackslash =>
    cases halike with
    | within hcount =>
      exact ⟨_, [byte], .verbatim mark hnul hquote hbackslash, .within hcount, by simp, by simp⟩
  | backslash hquote =>
    cases halike with
    | within hcount => exact ⟨_, [], .backslash hquote, .pending hcount, by simp, by simp⟩
  | @escape _ _ _ letter meant hletter =>
    cases halike with
    | pending hcount => exact ⟨_, [meant], .escape hletter, .within hcount, by simp, by simp⟩
  | lone hletter _ ih =>
    cases halike with
    | pending hcount =>
      obtain ⟨q', added, hread, halike, hq, hq'⟩ := ih (.within hcount)
      exact ⟨q', Arguments.backslash :: added, .lone hletter hread, halike, by simpa using hq,
        by simpa using hq'⟩

/-- The end of a line adds to the arguments a terminator at most, and a backslash that was set aside. -/
theorem Alike.close_cases (h : Alike p p') :
    (p.close = .error .unbalancedQuotes ∧ p'.close = .error .unbalancedQuotes) ∨
      ∃ arguments arguments' added, p.close = .ok arguments ∧ p'.close = .ok arguments' ∧
        arguments.length = arguments'.length ∧ arguments.packed = p.written ++ added ∧
        arguments'.packed = p'.written ++ added ∧ added.length ≤ p.escaping.toNat + 1 := by
  cases h with
  | between hcount =>
    exact .inr ⟨_, _, [], close_between, close_between, by simpa using hcount, by simp, by simp,
      by simp⟩
  | @within _ _ _ _ quote hcount =>
    cases quote with
    | none =>
      exact .inr ⟨_, _, [Bytes.nul], close_within, close_within, by simpa using hcount, by simp,
        by simp, by simp⟩
    | some mark => exact .inl ⟨rfl, rfl⟩
  | @pending _ _ _ _ quote hcount =>
    cases quote with
    | none =>
      exact .inr ⟨_, _, [Arguments.backslash, Bytes.nul], close_pending.trans close_within,
        close_pending.trans close_within, by simpa using hcount, by simp, by simp, by simp⟩
    | some mark => exact .inl ⟨rfl, rfl⟩

/-- A byte adds no more than it takes, if a backslash that is set aside counts as added. -/
theorem Reads.length_written_le (h : Reads p byte q) :
    q.written.length + q.escaping.toNat ≤ p.written.length + p.escaping.toNat + 1 := by
  induction h with
  | gap => simp
  | begin _ _ _ ih => simpa using ih
  | blank => simp [Nat.add_assoc]
  | plain => simp [Nat.add_assoc]
  | enter => simp
  | leave => simp
  | verbatim => simp [Nat.add_assoc]
  | backslash => simp
  | escape => simp [Nat.add_assoc]
  | lone _ _ ih => simpa [Nat.add_assoc] using ih

theorem Scans.length_written_le {bytes : Bytes} (h : Scans p bytes q) :
    q.written.length + q.escaping.toNat ≤ p.written.length + p.escaping.toNat + bytes.length := by
  induction h with
  | nil => exact Nat.le_refl _
  | cons hread _ ih =>
    have hfirst := hread.length_written_le
    rw [List.length_cons]
    omega

/-- A byte is read, or it is an error whatever the bytes of the arguments are. -/
theorem Proper.step_cases (hp : Proper p) (hroom : p.begun ≤ limit) (byte : UInt8) :
    (∃ q, p.step limit byte = .ok q ∧ Reads p byte q ∧ q.begun ≤ limit) ∨
      ∃ cause, p.step limit byte = .error cause ∧ ∀ p', Alike p p' →
        p'.step limit byte = .error cause := by
  by_cases hnul : byte = Bytes.nul
  · subst hnul
    exact .inr ⟨.nulByte, hp.step_nul, fun p' halike => (halike.proper hp).step_nul⟩
  · obtain ⟨q, hread⟩ := hp.reads hnul
    by_cases hmore : q.begun ≤ limit
    · exact .inl ⟨q, hread.step_ok hmore, hread, hmore⟩
    · refine .inr ⟨.tooMany limit, hread.step_tooMany hroom (by omega), fun p' halike => ?_⟩
      obtain ⟨q', -, hread', halike', -, -⟩ := hread.alike halike
      rw [halike.begun_eq] at hroom
      rw [halike'.begun_eq] at hmore
      exact hread'.step_tooMany hroom (by omega)

/-- Bytes that are read without an error are scanned. -/
theorem Proper.scans_of_foldlM {bytes : Bytes} (hp : Proper p) (hroom : p.begun ≤ limit)
    (h : bytes.foldlM (step limit) p = .ok q) : Scans p bytes q := by
  induction bytes generalizing p with
  | nil =>
    obtain rfl : p = q := Except.ok.inj h
    exact .nil p
  | cons byte bytes ih =>
    rw [List.foldlM_cons] at h
    rcases hp.step_cases hroom byte with ⟨r, hstep, hread, hmore⟩ | ⟨cause, hstep, -⟩
    · rw [hstep] at h
      exact .cons hread (ih hread.proper hmore h)
    · rw [hstep] at h
      cases h

end

end Progress

/-- A pass over a buffer that holds a line. The bytes of the arguments are in the buffer and nowhere
else; what the pass knows of them is only their outline. -/
structure Pass where
  buffer : Bytes
  /-- Where the next byte is read. -/
  read : Nat
  /-- Where the next byte is written. -/
  written : Nat
  outline : Progress
deriving DecidableEq, Repr

namespace Pass

open Progress

/-- The line with one more byte behind it, which the last terminator may need. -/
def start (line : Bytes) : Pass := ⟨line ++ [Bytes.nul], 0, 0, .empty⟩

def write (pass : Pass) (bytes : Bytes) : Pass :=
  { pass with
    buffer := pass.buffer.overwrite pass.written bytes, written := pass.written + bytes.length }

/-- Reads a byte out of the buffer, as it is by now, and writes what that byte adds to the arguments. -/
def next (limit : Nat) (pass : Pass) : Except ArgumentError Pass :=
  (pass.outline.step limit (pass.buffer.getD pass.read Bytes.nul)).map fun p =>
    { pass.write (p.written.drop pass.outline.written.length) with
      read := pass.read + 1, outline := p.outline }

def run (limit : Nat) : (count : Nat) → Pass → Except ArgumentError Pass
  | 0, pass => .ok pass
  | count + 1, pass => do (← pass.next limit).run limit count

/-- The number of the arguments, and the buffer that holds them. -/
def finish (pass : Pass) : Except ArgumentError (Nat × Bytes) :=
  pass.outline.close.map fun arguments =>
    (arguments.length, (pass.write (arguments.packed.drop pass.outline.written.length)).buffer)

/-- A pass that has read up to a position: the front of the buffer has been replaced. -/
def reached (original : Bytes) (read : Nat) (p : Progress) : Pass :=
  ⟨p.written ++ original.drop p.written.length, read, p.written.length, p.outline⟩

variable {limit read : Nat} {original : Bytes} {byte : UInt8} {p : Progress}

@[simp] theorem reached_read : (reached original read p).read = read := rfl
@[simp] theorem reached_outline : (reached original read p).outline = p.outline := rfl

theorem start_eq (line : Bytes) : start line = reached (line ++ [Bytes.nul]) 0 .empty := rfl

theorem reached_write (added : Bytes) : (reached original read p).write added =
    ⟨p.written ++ added ++ original.drop (p.written ++ added).length, read,
      (p.written ++ added).length, p.outline⟩ := by
  simp only [write, reached, Bytes.overwrite_append, List.drop_drop, List.length_append]

/-- A pass that stays within the buffer leaves it as long as it was. -/
theorem length_reached (h : p.written.length ≤ original.length) :
    (reached original read p).buffer.length = original.length := by
  rw [reached, List.length_append, List.length_drop, Nat.add_sub_cancel' h]

/-- What has not been read is as it was. -/
theorem drop_reached (h : p.written.length ≤ read) :
    (reached original read p).buffer.drop read = original.drop read := by
  rw [reached, List.drop_append, List.drop_eq_nil_of_le h, List.nil_append, List.drop_drop,
    Nat.add_sub_cancel' h]

/-- As long as the writing has not overtaken the reading, a byte of the line is read, and it does to the
buffer what it does to the arguments. -/
theorem reached_next (hp : Proper p) (hroom : p.begun ≤ limit) (hbehind : p.written.length ≤ read)
    (hbyte : original[read]? = some byte) : (reached original read p).next limit =
      (p.step limit byte).map (reached original (read + 1)) := by
  have hget : (reached original read p).buffer.getD read Bytes.nul = byte := by
    rw [List.getD_eq_getElem?_getD, ← List.head?_drop, drop_reached hbehind, List.head?_drop, hbyte]
    rfl
  unfold next
  simp only [reached_read, reached_outline, hget]
  rcases hp.step_cases hroom byte with ⟨q, hstep, hread, hmore⟩ | ⟨cause, hstep, halike⟩
  · -- The step is made on the outline; what it adds there is what it would add to `p`.
    obtain ⟨q', added, hread', halike, hq, hq'⟩ := hread.alike hp.alike_outline
    have hadded : q'.written.drop p.outline.written.length = added := by rw [hq', List.drop_left]
    rw [hstep, hread'.step_ok (halike.begun_eq ▸ hmore)]
    simp only [Except.map, hadded, reached_write, ← hq, ← halike.outline_eq]
    rfl
  · rw [hstep, halike p.outline hp.alike_outline]
    rfl

theorem reached_run {before bytes rest : Bytes} (hp : Proper p) (hroom : p.begun ≤ limit)
    (hbehind : p.written.length + p.escaping.toNat ≤ before.length) :
    (reached (before ++ bytes ++ rest) before.length p).run limit bytes.length =
      (bytes.foldlM (step limit) p).map (reached (before ++ bytes ++ rest) (before ++ bytes).length) := by
  induction bytes generalizing p before with
  | nil => simp [run, pure, Except.pure, Except.map]
  | cons byte bytes ih =>
    have hbyte : (before ++ byte :: bytes ++ rest)[before.length]? = some byte := by simp
    rw [List.length_cons, run, reached_next hp hroom (by omega) hbyte, List.foldlM_cons]
    rcases hp.step_cases hroom byte with ⟨q, hstep, hread, hmore⟩ | ⟨cause, hstep, -⟩
    · have hlength := hread.length_written_le
      have hbehind' : q.written.length + q.escaping.toNat ≤ (before ++ [byte]).length := by
        rw [List.length_append, List.length_singleton]
        omega
      have hrest := ih hread.proper hmore hbehind'
      rw [hstep]
      show (reached _ (before.length + 1) q).run limit bytes.length =
        (bytes.foldlM (step limit) q).map _
      simpa using hrest
    · rw [hstep]
      rfl

/-- The pass ends with the arguments in the buffer, behind them what was there before. -/
theorem reached_finish (hp : Proper p) : (reached original read p).finish =
    p.close.map fun arguments =>
      (arguments.length, arguments.packed ++ original.drop arguments.packed.length) := by
  unfold finish
  rw [reached_outline]
  rcases hp.alike_outline.close_cases with ⟨hclose, hclose'⟩ |
    ⟨arguments, arguments', added, hclose, hclose', hcount, hpacked, hpacked', -⟩
  · rw [hclose, hclose']
    rfl
  · have hadded : arguments'.packed.drop p.outline.written.length = added := by
      rw [hpacked', List.drop_left]
    rw [hclose, hclose']
    simp only [Except.map, hadded, reached_write, ← hpacked, hcount]

end Pass

open Progress

/-- Splits a line within a buffer that has one byte more than the line. -/
def compact (limit : Nat) (line : Bytes) : Except ArgumentError (Nat × Bytes) := do
  (← (Pass.start line).run limit line.length).finish

section

variable {limit : Nat} {line : Bytes} {p : Progress} {arguments : Arguments}

theorem run_start (limit : Nat) (before rest : Bytes) :
    (Pass.start (before ++ rest)).run limit before.length =
      (before.foldlM (Progress.step limit) .empty).map
        (Pass.reached (before ++ rest ++ [Bytes.nul]) before.length) := by
  have hrun := @Pass.reached_run limit .empty [] before (rest ++ [Bytes.nul]) proper_empty
    (Nat.zero_le limit) (Nat.zero_le 0)
  simpa [Pass.start_eq] using hrun

theorem compact_eq (limit : Nat) (line : Bytes) : compact limit line =
    (splitWithin limit line).map fun arguments =>
      (arguments.length, arguments.packed ++ (line ++ [Bytes.nul]).drop arguments.packed.length) := by
  have hrun := run_start limit line []
  rw [List.append_nil] at hrun
  unfold compact splitWithin
  rw [hrun]
  cases hread : line.foldlM (Progress.step limit) .empty with
  | error cause => rfl
  | ok p =>
    have hscan : Scans .empty line p := proper_empty.scans_of_foldlM (Nat.zero_le limit) hread
    exact Pass.reached_finish (hscan.proper proper_empty)

/-- The terminators take the place of the blank and of the byte behind the line. -/
example : compact 2 (Bytes.ofString "x y") = .ok (2, [0x78, 0x00, 0x79, 0x00]) := rfl

theorem length_written_le (h : Scans .empty line p) :
    p.written.length + p.escaping.toNat ≤ line.length := by
  have hlength : p.written.length + p.escaping.toNat ≤ 0 + line.length := h.length_written_le
  rwa [Nat.zero_add] at hlength

theorem length_packed_le (h : splitWithin limit line = .ok arguments) :
    arguments.packed.length ≤ line.length + 1 := by
  obtain ⟨p, hscan, -, hclose⟩ := exists_scan_of_ne_nulByte h nofun nofun
  have hp : Proper p := hscan.proper proper_empty
  have hlength := length_written_le hscan
  rcases hp.alike_outline.close_cases with ⟨hopen, -⟩ | ⟨_, _, added, hok, -, -, hpacked, -, hadded⟩
  · cases hopen.symm.trans hclose
  · obtain rfl := Except.ok.inj (hok.symm.trans hclose)
    rw [hpacked, List.length_append]
    omega

end

/-- However far a line has been read, the complete arguments with a terminator each, the bytes of the one
being read and a backslash that is set aside are together no more than what has been read. So a pass that
writes the arguments over the line as it reads it stays behind the place it reads from, finds there what
the line had, and comes to what splitting the line comes to: the same error, or the same arguments. They
take one byte more than the line at most, and the arguments of a command of the script, as the kernel
takes them, one byte more than the longest line. -/
theorem splitWithin_compacts (limit : Nat) (line : Bytes) :
    (∀ before rest p, line = before ++ rest →
      before.foldlM (Progress.step limit) .empty = .ok p →
      (p.finished.map (·.length + 1)).sum + (p.field.getD []).length + p.escaping.toNat ≤ before.length ∧
      ∃ pass, (Pass.start line).run limit before.length = .ok pass ∧ pass.read = before.length ∧
        pass.written ≤ pass.read ∧ pass.buffer.take pass.written = p.written ∧
        pass.buffer.drop pass.read = rest ++ [Bytes.nul] ∧ pass.buffer.length = line.length + 1) ∧
    (compact limit line = (splitWithin limit line).map fun arguments =>
      (arguments.length, arguments.packed ++ (line ++ [Bytes.nul]).drop arguments.packed.length)) ∧
    (∀ arguments, splitWithin limit line = .ok arguments →
      (arguments.map (·.length + 1)).sum ≤ line.length + 1) ∧
    ∀ (script : Script) command arguments, script.next.1 = .ok (some command) →
      Launch.arguments command = .ok arguments →
      ∃ strings, arguments.terminated = .ok strings ∧ strings.flatten = arguments.packed ∧
        strings.flatten.length ≤ 4097 := by
  refine ⟨fun before rest p hline hread => ?_, compact_eq limit line, fun arguments hsplit => ?_,
    fun script command arguments hnext harguments => ?_⟩
  · have hscan : Scans .empty before p := proper_empty.scans_of_foldlM (Nat.zero_le limit) hread
    have hlength := length_written_le hscan
    have hbehind : p.written.length ≤ before.length := Nat.le_of_add_right_le hlength
    have hfits : p.written.length ≤ (line ++ [Bytes.nul]).length := by
      rw [hline, List.length_append, List.length_append]
      omega
    have hrun : (Pass.start line).run limit before.length =
        .ok (.reached (line ++ [Bytes.nul]) before.length p) := by
      rw [hline, run_start, hread]
      rfl
    refine ⟨?_, _, hrun, rfl, hbehind, ?_, ?_, ?_⟩
    · rwa [length_written] at hlength
    · exact List.take_left
    · rw [Pass.reached_read, Pass.drop_reached hbehind, hline, List.append_assoc, List.drop_left]
    · rw [Pass.length_reached hfits, List.length_append, List.length_singleton]
  · rw [← length_packed]
    exact length_packed_le hsplit
  · have hsplit : split command.raw = .ok arguments := Launch.split_of_arguments harguments
    have hpacked : (arguments.map (· ++ [Bytes.nul])).flatten = arguments.packed :=
      List.flatMap_def.symm
    refine ⟨_, terminated_of_splitWithin hsplit, hpacked, ?_⟩
    have hraw : command.raw.length ≤ 4096 := Script.length_next_raw_le hnext
    have hlength := length_packed_le hsplit
    rw [hpacked]
    omega

/-- An empty argument, and one with an escape and a backslash that stands for itself at the end of the
line; the reading stops where a backslash may still begin an escape. -/
theorem splitWithin_compacts_escapes :
    let before := Bytes.ofString "'' x\\"
    let rest := Bytes.ofString "ty\\"
    let p : Progress := ⟨[[]], some (Bytes.ofString "x"), none, true⟩
    let arguments : Arguments := [[], Bytes.ofString "x\ty\\"]
    let script := Script.ofSource (.ofBytes (Bytes.ofString "!'' x\\ty\\\n"))
    before.foldlM (Progress.step 2) .empty = .ok p ∧
    (p.finished.map (·.length + 1)).sum + (p.field.getD []).length + p.escaping.toNat ≤ before.length ∧
    (∃ pass, (Pass.start (before ++ rest)).run 2 before.length = .ok pass ∧
      pass.buffer.drop pass.read = rest ++ [Bytes.nul]) ∧
    splitWithin 2 (before ++ rest) = .ok arguments ∧
    compact 2 (before ++ rest) =
      .ok (2, [0x00, 0x78, 0x09, 0x79, 0x5C, 0x00] ++ [0x79, 0x5C, 0x00]) ∧
    (arguments.map (·.length + 1)).sum ≤ (before ++ rest).length + 1 ∧
    script.next.1 = .ok (some ⟨1, .worker, before ++ rest⟩) ∧
    ∃ strings, arguments.terminated = .ok strings ∧ strings.flatten.length ≤ 4097 := by
  intro before rest p arguments script
  have hread : before.foldlM (Progress.step 2) .empty = .ok p := rfl
  have hsplit : splitWithin 2 (before ++ rest) = .ok arguments := rfl
  have hnext : script.next.1 = .ok (some ⟨1, .worker, before ++ rest⟩) := rfl
  have harguments : Launch.arguments ⟨1, .worker, before ++ rest⟩ = .ok arguments := rfl
  obtain ⟨hbound, hcompact, hsum, hscript⟩ := splitWithin_compacts 2 (before ++ rest)
  obtain ⟨hlength, pass, hrun, -, -, -, hunread, -⟩ := hbound before rest p rfl hread
  obtain ⟨strings, hstrings, -, hspace⟩ := hscript script _ arguments hnext harguments
  rw [hsplit] at hcompact
  exact ⟨hread, hlength, ⟨pass, hrun, hunread⟩, hsplit, hcompact, hsum arguments hsplit, hnext,
    strings, hstrings, hspace⟩

end Arguments
end GuestInit
