import GuestInit.Launch
import GuestInit.Proofs.Scanning

/-! No argument of a line has a NUL byte in it, so the arguments of a line can always be handed to the
kernel: what decides whether a command can be launched is whether its line splits. Main statement:
`arguments_terminated`. -/

namespace GuestInit

namespace Grammar

theorem meant_ne_nul {letter meant : UInt8} (h : (letter, meant) ∈ escapes) : meant ≠ Bytes.nul := by
  have hescapes : escapes.all (fun entry => entry.2 ≠ Bytes.nul) = true := by decide
  simpa using List.all_eq_true.mp hescapes (letter, meant) h

section

variable {written value rest : Bytes}

theorem Quoted.nulFree (h : Quoted written value rest) : Bytes.nul ∉ value := by
  induction h with
  | nil => exact List.not_mem_nil
  | verbatim hnul _ _ _ ih => exact List.not_mem_cons_of_ne_of_not_mem hnul.symm ih
  | escape hletter _ ih => exact List.not_mem_cons_of_ne_of_not_mem (meant_ne_nul hletter).symm ih
  | lone _ _ ih => exact List.not_mem_cons_of_ne_of_not_mem (by decide) ih

theorem Piece.nulFree (h : Piece written value rest) : Bytes.nul ∉ value := by
  cases h with
  | plain _ hplain => exact fun hnul => hplain.not_nul (List.mem_singleton.mp hnul).symm
  | escape _ hletter => exact fun hnul => meant_ne_nul hletter (List.mem_singleton.mp hnul).symm
  | lone _ => decide
  | single _ hcontent => exact fun hnul => (hcontent Bytes.nul hnul).1 rfl
  | double hquoted => exact hquoted.nulFree

theorem Pieces.nulFree (h : Pieces written value rest) : Bytes.nul ∉ value := by
  induction h with
  | nil => exact List.not_mem_nil
  | cons hpiece _ ih => exact List.not_mem_append hpiece.nulFree ih

end

section

variable {line : Bytes} {arguments : Arguments}

theorem Fields.nulFree (h : Fields line arguments) : ∀ argument ∈ arguments, Bytes.nul ∉ argument := by
  induction h with
  | last hfield _ => exact List.forall_mem_singleton.mpr hfield.2.nulFree
  | cons hfield _ _ _ ih => exact List.forall_mem_cons.mpr ⟨hfield.2.nulFree, ih⟩

theorem Line.nulFree (h : Line line arguments) : ∀ argument ∈ arguments, Bytes.nul ∉ argument := by
  cases h with
  | blank _ => exact nofun
  | fields _ hfields => exact hfields.nulFree

end
end Grammar

namespace Arguments

theorem terminate_of_nulFree {argument : Bytes} (h : Bytes.nul ∉ argument) :
    terminate argument = .ok (argument ++ [Bytes.nul]) := by
  have hnul : ¬ argument.hasNul = true := by rwa [Bytes.hasNul_iff]
  rw [terminate, if_neg hnul]

theorem terminated_of_nulFree {arguments : Arguments}
    (h : ∀ argument ∈ arguments, Bytes.nul ∉ argument) :
    arguments.terminated = .ok (arguments.map (· ++ [Bytes.nul])) := by
  unfold terminated
  induction arguments with
  | nil => rfl
  | cons argument arguments ih =>
    obtain ⟨hargument, hrest⟩ := List.forall_mem_cons.mp h
    rw [List.mapM_cons, terminate_of_nulFree hargument, ih hrest]
    rfl

/-- What a line splits into can be handed to the kernel. -/
theorem terminated_of_splitWithin {limit : Nat} {line : Bytes} {arguments : Arguments}
    (h : splitWithin limit line = .ok arguments) :
    arguments.terminated = .ok (arguments.map (· ++ [Bytes.nul])) :=
  terminated_of_nulFree (line_of_splitWithin h).1.nulFree

/-- A scan stops at a NUL byte at the latest, and so does the reading, be it within quotes or behind a
backslash; only the limit may have stopped it before. -/
theorem splitWithin_of_nul {line : Bytes} (h : Bytes.nul ∈ line) (limit : Nat) :
    splitWithin limit line = .error .nulByte ∨ splitWithin limit line = .error (.tooMany limit) := by
  obtain ⟨bytes, rest, p, rfl, hstops, hscan⟩ := proper_empty.exists_scan line
  rw [splitWithin_scan hscan hstops]
  by_cases hroom : p.begun ≤ limit
  · rw [if_pos hroom]
    cases rest with
    | nil => exact absurd (List.append_nil bytes ▸ h) hscan.nulFree
    | cons byte rest => exact .inl rfl
  · rw [if_neg hroom]
    exact .inr rfl

end Arguments

theorem Command.nul_mem_parse {line : Bytes} (h : Bytes.nul ∈ line) (number : Nat) :
    Bytes.nul ∈ (parse number line).raw := by
  cases line with
  | nil => exact h
  | cons first rest =>
    by_cases hmarker : first = workerMarker
    · have hfirst : Bytes.nul ≠ first := by
        rw [hmarker]
        decide
      simpa only [parse, if_pos hmarker] using List.mem_of_ne_of_mem hfirst h
    · simpa only [parse, if_neg hmarker] using h

namespace Launch

variable {command : Command}

theorem arguments_of_split {split : Arguments} (h : Arguments.split command.raw = .ok split) :
    Launch.arguments command = .ok split := by
  unfold Launch.arguments Command.arguments
  rw [h]
  show (split.terminated.mapError _ >>= fun _ => pure split) = Except.ok split
  rw [Arguments.terminated_of_splitWithin h]
  rfl

theorem arguments_of_error {cause : ArgumentError} (h : Arguments.split command.raw = .error cause) :
    Launch.arguments command = .error (.malformedLine command.line cause) := by
  unfold Launch.arguments Command.arguments
  rw [h]
  rfl

theorem arguments_eq (command : Command) : Launch.arguments command = command.arguments := by
  unfold Command.arguments
  cases hsplit : Arguments.split command.raw with
  | ok split => exact arguments_of_split hsplit
  | error cause => exact arguments_of_error hsplit

/-- Nothing is called for a line with a NUL byte in it. -/
theorem launch_of_nul {line : Bytes} (h : Bytes.nul ∈ line) (rounds : Nat) (identities : Identities)
    (number : Nat) (script : Option Int) :
    ∃ cause, launch rounds identities (Command.parse number line) script =
      .done (.error (.malformedLine number cause)) := by
  obtain ⟨cause, hsplit⟩ : ∃ cause, Arguments.split (Command.parse number line).raw = .error cause := by
    rcases Arguments.splitWithin_of_nul (Command.nul_mem_parse h number) Arguments.most with
      hnul | hmany
    · exact ⟨_, hnul⟩
    · exact ⟨_, hmany⟩
  refine ⟨cause, ?_⟩
  simp only [launch, arguments_of_error hsplit, Command.parse_line]
  rfl

/-- What a line splits into, under any limit, is free of NUL bytes, and as C strings it is the same
arguments, each followed by its one terminator. So what is prepared for a launch fails only where the
line does not split. A line with a NUL byte anywhere does not split, and as a line of the script, with
the mark of the worker or without, it is rejected before anything is called. -/
theorem arguments_terminated (limit : Nat) (line : Bytes) :
    (∀ split, Arguments.splitWithin limit line = .ok split →
      (∀ argument ∈ split, Bytes.nul ∉ argument) ∧
      ∃ strings, split.terminated = .ok strings ∧ strings.length = split.length ∧
        (∀ string ∈ strings, ∃ text, Bytes.nul ∉ text ∧ string = text ++ [Bytes.nul]) ∧
        strings.map List.dropLast = split) ∧
    (∀ command : Command, Launch.arguments command = command.arguments) ∧
    (Bytes.nul ∈ line →
      (Arguments.splitWithin limit line = .error .nulByte ∨
        Arguments.splitWithin limit line = .error (.tooMany limit)) ∧
      ∀ rounds identities number script, ∃ cause,
        launch rounds identities (Command.parse number line) script =
          .done (.error (.malformedLine number cause))) := by
  refine ⟨fun split hsplit => ?_, arguments_eq, fun hnul => ?_⟩
  · have hfree : ∀ argument ∈ split, Bytes.nul ∉ argument :=
      (Arguments.line_of_splitWithin hsplit).1.nulFree
    refine ⟨hfree, _, Arguments.terminated_of_splitWithin hsplit, List.length_map _,
      fun string hstring => ?_, ?_⟩
    · obtain ⟨argument, hmem, rfl⟩ := List.mem_map.mp hstring
      exact ⟨argument, hfree argument hmem, rfl⟩
    · simp only [List.map_map, Function.comp_def, List.dropLast_concat, List.map_id']
  · exact ⟨Arguments.splitWithin_of_nul hnul limit, launch_of_nul hnul⟩

/-- The line `"\t" '' a\z` under its exact limit, and a NUL byte behind a backslash within quotes. -/
theorem arguments_terminated_escapes :
    let line : Bytes := [0x22, 0x5c, 0x74, 0x22, 0x20, 0x27, 0x27, 0x20, 0x61, 0x5c, 0x7a]
    let hidden : Bytes := [0x21, 0x61, 0x20, 0x22, 0x5c, 0x00, 0x22]
    (∃ strings, Arguments.terminated [[0x09], [], [0x61, 0x5c, 0x7a]] = .ok strings ∧
      strings.map List.dropLast = [[0x09], [], [0x61, 0x5c, 0x7a]]) ∧
    Arguments.splitWithin 3 line = .ok [[0x09], [], [0x61, 0x5c, 0x7a]] ∧
    Bytes.nul ∈ hidden ∧
    ∀ rounds identities, ∃ cause, launch rounds identities (Command.parse 7 hidden) none =
      .done (.error (.malformedLine 7 cause)) := by
  intro line hidden
  have hsplit : Arguments.splitWithin 3 line = .ok [[0x09], [], [0x61, 0x5c, 0x7a]] := rfl
  have hnul : Bytes.nul ∈ hidden := by decide
  obtain ⟨-, strings, hstrings, -, -, hback⟩ := (arguments_terminated 3 line).1 _ hsplit
  refine ⟨⟨strings, hstrings, hback⟩, hsplit, hnul, fun rounds identities => ?_⟩
  exact ((arguments_terminated 3 hidden).2.2 hnul).2 rounds identities 7 none

end Launch
end GuestInit
