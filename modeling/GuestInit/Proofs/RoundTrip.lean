import GuestInit.Proofs.Crew
import GuestInit.Proofs.Lines
import GuestInit.Proofs.Rendering

/-! Scripts that are written are run as they were meant. Every entry makes one line, and from that
line the reader, the marker, the tokenizer and the loop get the entry back. -/

namespace GuestInit

/-- What a line of a script is meant to say. -/
structure Entry where
  privilege : Privilege
  arguments : Arguments
deriving DecidableEq, Repr

namespace Entry

/-- What stands in front of the arguments. -/
def marker : Privilege → Bytes
  | .master => []
  | .worker => [0x21]

/-- The line of an entry, without a newline. -/
def line (entry : Entry) : Bytes := marker entry.privilege ++ Rendering.arguments entry.arguments

/-- A script of entries. -/
def script (entries : List Entry) : Bytes :=
  entries.flatMap fun entry => entry.line ++ [Bytes.newline]

@[simp] theorem script_nil : script [] = [] := rfl

theorem script_cons (entry : Entry) (entries : List Entry) :
    script (entry :: entries) = entry.line ++ Bytes.newline :: script entries := by
  simp [script]

/-- An entry that can be handed over: the kernel takes its arguments, they are not too many, and its
line is not too long. -/
structure Fits (entry : Entry) : Prop where
  nulFree : ∀ argument ∈ entry.arguments, Bytes.nul ∉ argument
  few : entry.arguments.length ≤ 100
  short : entry.line.length ≤ 4096

theorem newline_notMem_line (entry : Entry) : Bytes.newline ∉ entry.line := by
  have hmarker : Bytes.newline ∉ marker entry.privilege := by
    cases entry.privilege with
    | master => decide
    | worker => decide
  simp [line, hmarker, Rendering.newline_notMem_arguments]

/-- The marker comes off again, and where there is none, nothing else is taken for one. -/
theorem parse_line (entry : Entry) (number : Nat) :
    Command.parse number entry.line =
      ⟨number, entry.privilege, Rendering.arguments entry.arguments⟩ := by
  rcases entry with ⟨privilege, arguments⟩
  cases privilege with
  | worker => rfl
  | master =>
    have hquote : Grammar.doubleQuote ≠ Command.workerMarker := by decide
    show Command.parse number (Rendering.arguments arguments) = _
    rcases Rendering.arguments_begin arguments with hnone | ⟨rest, hbegin⟩
    · rw [hnone]
      rfl
    · rw [hbegin, Command.parse, if_neg hquote]

theorem arguments_parse_line {entry : Entry} (h : entry.Fits) (number : Nat) :
    (Command.parse number entry.line).arguments = .ok entry.arguments := by
  rw [parse_line, Command.arguments]
  dsimp only
  rw [Rendering.split_arguments h.nulFree h.few]
  rfl

end Entry

namespace ControlLoop

open Program

/-- What a launcher has seen of a command. -/
structure Sighting where
  line : Nat
  privilege : Privilege
  arguments : Arguments
deriving DecidableEq, Repr

/-- A launcher that splits every command, remembers what it has seen, and says that all went well. -/
def splitting : Launcher (List Sighting) := fun seen command _ =>
  match command.arguments with
  | .error fault => (.error fault, seen)
  | .ok arguments =>
    (.ok (.code 0), seen ++ [⟨command.line, command.privilege, arguments⟩])

/-- The sightings that entries should make, with consecutive line numbers. -/
def sightings (first : Nat) (entries : List Entry) : List Sighting :=
  (entries.zipIdx first).map fun (entry, line) => ⟨line, entry.privilege, entry.arguments⟩

@[simp] theorem sightings_nil (first : Nat) : sightings first [] = [] := rfl

@[simp] theorem sightings_cons (first : Nat) (entry : Entry) (entries : List Entry) :
    sightings first (entry :: entries) =
      ⟨first, entry.privilege, entry.arguments⟩ :: sightings (first + 1) entries := rfl

theorem splitting_line {entry : Entry} (h : entry.Fits) (seen : List Sighting) (number : Nat)
    (script : Option Int) :
    splitting seen (Command.parse number entry.line) script =
      (.ok (.code 0), seen ++ [⟨number, entry.privilege, entry.arguments⟩]) := by
  have harguments := Entry.arguments_parse_line h number
  have hparse := Entry.parse_line entry number
  rw [splitting, harguments]
  simp [hparse]

section

variable {ρ : Type} {reaper : Reaper ρ}

theorem runFrom_entries {entries : List Entry} (hfits : ∀ entry ∈ entries, entry.Fits)
    (hreaper : ∀ r, (reaper r).1 = .ok ()) (steps : Nat) (script : Script)
    (hsource : script.source.Delivers (Entry.script entries)) (seen : List Sighting) (r : ρ) :
    ∃ rest r', (runFrom steps script).run (.always (crew splitting reaper)) (seen, r) =
      (.returned (.ok (steps + entries.length), rest),
        (seen ++ sightings (script.lines + 1) entries, r')) := by
  induction entries generalizing steps script seen r with
  | nil =>
    rw [runFrom_of_end (Script.next_of_delivers_nil hsource)]
    exact ⟨script.next.2, r, by simp [run_note_bind, Program.run]⟩
  | cons entry entries ih =>
    obtain ⟨hentry, hentries⟩ := List.forall_mem_cons.mp hfits
    rw [Entry.script_cons] at hsource
    obtain ⟨hread, hrest, hlines⟩ :=
      Script.next_of_delivers_line hsource entry.newline_notMem_line hentry.short
    have hlaunch := splitting_line hentry seen (script.lines + 1) script.descriptor
    obtain ⟨rest, r', hrun⟩ := ih hentries (steps + 1) script.next.2 hrest
      (seen ++ [⟨script.lines + 1, entry.privilege, entry.arguments⟩]) (reaper r).2
    refine ⟨rest, r', ?_⟩
    rw [runFrom_of_command hread, run_step_bind (congrArg Prod.fst hlaunch) (.inr rfl), hreaper r,
      hlaunch]
    dsimp only
    rw [hrun, hlines]
    simp [Nat.add_assoc, Nat.add_comm 1]

end

/-- Every script that is written from entries, however it is delivered, makes a whole run: the loop
counts the entries, and the launcher gets their privileges and arguments back, in their order and
with the numbers of their lines. -/
theorem run_entries (entries : List Entry) (hfits : ∀ entry ∈ entries, entry.Fits) (source : Source)
    (hsource : source.Delivers (Entry.script entries)) (descriptor : Option Int) {ρ : Type}
    (reaper : Reaper ρ) (hreaper : ∀ r, (reaper r).1 = .ok ()) (r : ρ) :
    ∃ rest r', (run ⟨source, descriptor, 0⟩).run (.always (crew splitting reaper)) ([], r) =
      (.returned (.ok entries.length, rest), (sightings 1 entries, r')) := by
  simpa [ControlLoop.run] using
    runFrom_entries hfits hreaper 0 ⟨source, descriptor, 0⟩ hsource [] r

/-- A script in two pieces, with an interruption in an escape, an empty argument and an empty line. -/
theorem run_entries_interrupted :
    let entries : List Entry :=
      [⟨.worker, [Bytes.ofString "a\"\\b", [], Bytes.ofString "x\ny"]⟩, ⟨.master, []⟩,
        ⟨.master, [Bytes.ofString "!c d"]⟩]
    let source := Source.ofDeliveries
      [.data (Bytes.ofString "!\"a\\"), .failure (.errno Errno.interrupted), .data [],
        .data (Bytes.ofString "\"\\\\b\" \"\" \"x\\ny\"\n\n\"!c d\"\n")]
    let reaper : Reaper Nat := fun reaped => (.ok (), reaped + 1)
    (∀ entry ∈ entries, entry.Fits) ∧ source.Delivers (Entry.script entries) ∧
    (∀ r, (reaper r).1 = .ok ()) ∧
    ∃ rest r', (run ⟨source, none, 0⟩).run (.always (crew splitting reaper)) ([], 0) =
      (.returned (.ok entries.length, rest), (sightings 1 entries, r')) := by
  intro entries source reaper
  have hfits : ∀ entry ∈ entries, entry.Fits := by
    have hchecked : ∀ entry ∈ entries, (∀ argument ∈ entry.arguments, Bytes.nul ∉ argument) ∧
        entry.arguments.length ≤ 100 ∧ entry.line.length ≤ 4096 := by decide
    intro entry hentry
    obtain ⟨hnulFree, hfew, hshort⟩ := hchecked entry hentry
    exact ⟨hnulFree, hfew, hshort⟩
  have hsource : source.Delivers (Entry.script entries) := by
    refine ⟨?_, by decide, rfl⟩
    simp [source, Source.ofDeliveries, Delivery.Steady]
  have hreaper : ∀ r, (reaper r).1 = .ok () := fun _ => rfl
  exact ⟨hfits, hsource, hreaper, run_entries entries hfits source hsource none reaper hreaper 0⟩

end ControlLoop
end GuestInit
