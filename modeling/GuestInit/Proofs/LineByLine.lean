import GuestInit.Proofs.Lines

/-! A script is read line by line. Main statement: whatever the pieces in which its bytes are
delivered, each read gives the next line of the script with the number of that line, up to the first
line that is too long; and behind the last line there is nothing, however often it is asked for. -/

namespace GuestInit

namespace Bytes

/-- A byte string cut at every newline. What follows the last newline is a line if it is not empty. -/
inductive Cut : Bytes → List Bytes → Prop
  | nil : Cut [] []
  | last {line} (hline : newline ∉ line) (hne : line ≠ []) : Cut line [line]
  | line {line rest lines} (hline : newline ∉ line) (hrest : Cut rest lines) :
      Cut (line ++ newline :: rest) (line :: lines)

theorem exists_cut (bytes : Bytes) : ∃ lines, Cut bytes lines := by
  induction hlength : bytes.length using Nat.strongRecOn generalizing bytes with
  | ind length ih =>
    by_cases hmem : newline ∈ bytes
    · obtain ⟨line, rest, rfl, hline⟩ := List.eq_append_cons_of_mem hmem
      have hshorter : rest.length < length := by simp [← hlength]; omega
      obtain ⟨lines, hrest⟩ := ih rest.length hshorter rest rfl
      exact ⟨line :: lines, .line hline hrest⟩
    · by_cases hne : bytes = []
      · rw [hne]
        exact ⟨[], .nil⟩
      · exact ⟨[bytes], .last hmem hne⟩

/-- There are as many newlines before a line as there are lines. -/
theorem Cut.before {bytes line : Bytes} {lines : List Bytes} (h : Cut bytes lines) {k : Nat}
    (hline : lines[k]? = some line) :
    ∃ before rest, bytes = before ++ (line ++ rest) ∧ before.count newline = k := by
  induction h generalizing k with
  | nil => simp at hline
  | @last first _ _ =>
    cases k with
    | zero =>
      obtain rfl : first = line := by simpa using hline
      exact ⟨[], [], by simp, rfl⟩
    | succ k => simp at hline
  | @line first others lines hfirst _ ih =>
    cases k with
    | zero =>
      obtain rfl : first = line := by simpa using hline
      exact ⟨[], newline :: others, rfl, rfl⟩
    | succ k =>
      obtain ⟨before, rest, rfl, hcount⟩ := ih (by simpa using hline)
      refine ⟨first ++ newline :: before, rest, by simp, ?_⟩
      simp [List.count_eq_zero_of_not_mem hfirst, hcount]

end Bytes

/-- The command that a line stands for: the worker's, without its first byte, if that is an
exclamation mark, and the master's if it is not. -/
inductive Command.Stands (number : Nat) : Bytes → Command → Prop
  | worker (raw : Bytes) : Stands number (0x21 :: raw) ⟨number, .worker, raw⟩
  | master {line : Bytes} (h : line.head? ≠ some 0x21) :
      Stands number line ⟨number, .master, line⟩

theorem Command.parse_stands (number : Nat) (line : Bytes) : Stands number line (parse number line) := by
  cases line with
  | nil => exact .master nofun
  | cons first rest =>
    rw [parse]
    split
    · rename_i hmarker
      exact hmarker ▸ .worker rest
    · rename_i hmarker
      exact .master (by simpa [workerMarker] using hmarker)

namespace Script

open Bytes

variable {script : Script} {bytes line rest : Bytes} {lines : List Bytes}

/-- What a read gives where a line begins, or where there is none. -/
def reading (number : Nat) : Option Bytes → Except Fault (Option Command)
  | none => .ok none
  | some line =>
    if line.length ≤ longestLine then .ok (some (Command.parse number line))
    else .error (.lineTooLong number longestLine)

theorem next_of_delivers_last (h : script.source.Delivers line) (hline : newline ∉ line)
    (hne : line ≠ []) (hlength : line.length ≤ longestLine) :
    script.next.1 = .ok (some (Command.parse (script.lines + 1) line)) ∧
      script.next.2.source.Delivers [] := by
  obtain ⟨source, hread, hrest⟩ := h.readLine (longestLine + 1)
  rw [Source.cutLine_last hline (by omega)] at hread hrest
  rw [next_of_read hread hne, withoutNewline_of_notMem hline, if_neg (Nat.not_lt.mpr hlength)]
  exact ⟨rfl, hrest⟩

/-- Of a line that is too long, one byte more is read than a line may have. -/
theorem next_of_delivers_long (h : script.source.Delivers (line ++ rest)) (hline : newline ∉ line)
    (hlength : longestLine < line.length) :
    script.next.1 = .error (.lineTooLong (script.lines + 1) longestLine) := by
  let piece := line.take (longestLine + 1)
  have hpiece : newline ∉ piece := fun hmem => hline (List.mem_of_mem_take hmem)
  have hcount : piece.length = longestLine + 1 := by simp [piece]; omega
  have hsplit : line ++ rest = piece ++ (line.drop (longestLine + 1) ++ rest) := by
    rw [← List.append_assoc, List.take_append_drop]
  obtain ⟨source, hread, -⟩ := h.readLine (longestLine + 1)
  rw [hsplit, ← hcount, Source.cutLine_full hpiece, hcount] at hread
  have hne : piece ≠ [] := List.ne_nil_of_length_pos (by omega)
  rw [next_of_read hread hne, withoutNewline_of_notMem hpiece, if_pos (by omega)]

theorem after_of_delivers_nil (h : script.source.Delivers []) (k : Nat) :
    (script.after k).next.1 = .ok none := by
  induction k generalizing script with
  | zero => exact next_of_delivers_nil h
  | succ k ih => exact ih (delivers_nil_next h)

/-- The induction is on the lines that are left, with any number of lines read before. -/
theorem next_after_of_cut (hcut : Cut bytes lines) (h : script.source.Delivers bytes) {k : Nat}
    (hshort : ∀ line ∈ lines.take k, line.length ≤ longestLine) :
    (script.after k).next.1 = reading (script.lines + k + 1) lines[k]? := by
  induction hcut generalizing script k with
  | nil => exact after_of_delivers_nil h k
  | @last line hline hne =>
    cases k with
    | zero =>
      by_cases hlength : line.length ≤ longestLine
      · simpa [reading, hlength] using (next_of_delivers_last h hline hne hlength).1
      · rw [← List.append_nil line] at h
        simpa [reading, hlength] using next_of_delivers_long h hline (Nat.lt_of_not_le hlength)
    | succ k =>
      have hlength : line.length ≤ longestLine := hshort line (by simp)
      exact after_of_delivers_nil (next_of_delivers_last h hline hne hlength).2 k
  | @line line rest lines hline _ ih =>
    cases k with
    | zero =>
      by_cases hlength : line.length ≤ longestLine
      · simpa [reading, hlength] using (next_of_delivers_line h hline hlength).1
      · simpa [reading, hlength] using next_of_delivers_long h hline (Nat.lt_of_not_le hlength)
    | succ k =>
      simp only [List.take_succ_cons, List.forall_mem_cons] at hshort
      obtain ⟨-, hrest, hlines⟩ := next_of_delivers_line h hline hshort.1
      rw [after_succ, ih hrest hshort.2, hlines, List.getElem?_cons_succ]
      congr 1
      omega

/-- However the bytes of a script are delivered, the reads give its lines, one after the other and
each with its number, which is one more than the number of newlines before it. A line is a command of
the worker if and only if it begins with the marker. The first line that is too long is a fault, and
behind the last line every read gives the end. -/
theorem reads_lines (bytes : Bytes) :
    (∃ lines, Cut bytes lines) ∧
    ∀ lines, Cut bytes lines → ∀ source : Source, source.Delivers bytes → ∀ descriptor k,
      (∀ line ∈ lines.take k, line.length ≤ 4096) →
      let answer := (Script.after ⟨source, descriptor, 0⟩ k).next.1
      (lines.length ≤ k → answer = .ok none) ∧
      ∀ line, lines[k]? = some line →
        (∃ before rest, bytes = before ++ (line ++ rest) ∧ before.count newline = k) ∧
        (line.length ≤ 4096 →
          ∃ command, Command.Stands (k + 1) line command ∧ answer = .ok (some command)) ∧
        (4096 < line.length → answer = .error (.lineTooLong (k + 1) 4096)) := by
  refine ⟨exists_cut bytes, fun lines hcut source hsource descriptor k hshort => ?_⟩
  let script : Script := ⟨source, descriptor, 0⟩
  have hscript : script.source.Delivers bytes := hsource
  have hanswer := next_after_of_cut hcut hscript hshort
  rw [Nat.zero_add] at hanswer
  refine ⟨fun hend => ?_, fun line hline => ⟨hcut.before hline, fun hlength => ?_, fun hlong => ?_⟩⟩
  · simpa [reading, List.getElem?_eq_none hend] using hanswer
  · refine ⟨Command.parse (k + 1) line, Command.parse_stands (k + 1) line, ?_⟩
    simpa [reading, longestLine, hline, hlength] using hanswer
  · simpa [reading, longestLine, hline, Nat.not_le_of_lt hlong] using hanswer

/-- A line that is as long as a line may be, in pieces and with an interruption, and then one that is
one byte longer. -/
theorem reads_lines_at_limit :
    let first : Bytes := List.replicate 4096 0x61
    let second : Bytes := List.replicate 4097 0x21
    let bytes := first ++ newline :: second
    let source := Source.ofDeliveries
      [.data first, .failure (.errno Errno.interrupted), .data [], .data (newline :: second)]
    Cut bytes [first, second] ∧ source.Delivers bytes ∧
    (∃ command, Command.Stands 1 first command ∧
      (Script.ofSource source).next.1 = .ok (some command)) ∧
    (Script.ofSource source).next.2.next.1 = .error (.lineTooLong 2 4096) := by
  intro first second bytes source
  have hshort : first.length ≤ 4096 := Nat.le_of_eq List.length_replicate
  have hlong : 4096 < second.length := by
    rw [List.length_replicate]
    decide
  have hcut : Cut bytes [first, second] := by
    have hfirst : newline ∉ first := fun hmem => absurd (List.eq_of_mem_replicate hmem) (by decide)
    have hsecond : newline ∉ second := fun hmem => absurd (List.eq_of_mem_replicate hmem) (by decide)
    exact .line hfirst (.last hsecond (List.ne_nil_of_length_pos (Nat.zero_lt_of_lt hlong)))
  have hsource : source.Delivers bytes :=
    ⟨by simp [source, Source.ofDeliveries, Delivery.Steady],
      by simp [source, Source.ofDeliveries, Delivery.bytes, bytes], rfl⟩
  have hreads := (reads_lines bytes).2 [first, second] hcut source hsource none
  exact ⟨hcut, hsource, ((hreads 0 (List.forall_mem_nil _)).2 first rfl).2.1 hshort,
    ((hreads 1 (List.forall_mem_singleton.mpr hshort)).2 second rfl).2.2 hlong⟩

end Script
end GuestInit
