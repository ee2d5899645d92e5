import GuestInit.Command
import GuestInit.Script.Source

/-! The control script: one command per line. -/

namespace GuestInit

structure Script where
  source : Source
  /-- The descriptor of the file the script is read from, if it is one. -/
  descriptor : Option Int
  /-- How many lines have been read. -/
  lines : Nat
deriving DecidableEq, Repr

namespace Script

/-- The most bytes a line may have, its newline not counted. -/
def longestLine : Nat := 4096

/-- A script that is not a file. -/
def ofSource (source : Source) : Script := ⟨source, none, 0⟩

def ofFile (descriptor : Int) (source : Source) : Script := ⟨source, some descriptor, 0⟩

/-- A line without the newline that ends it. -/
def withoutNewline (text : Bytes) : Bytes :=
  if text.getLast? = some Bytes.newline then text.dropLast else text

/-- Reads the next command, or nothing at the end of the script. A line that is too long counts as
a line; a failed read does not. -/
def next (script : Script) : Except Fault (Option Command) × Script :=
  match script.source.readLine (longestLine + 1) with
  | (.error cause, source) => (.error (.readScript cause), { script with source := source })
  | (.ok [], source) => (.ok none, { script with source := source })
  | (.ok text, source) =>
    let line := script.lines + 1
    let script := { script with source := source, lines := line }
    if (withoutNewline text).length > longestLine then
      (.error (.lineTooLong line longestLine), script)
    else (.ok (some (Command.parse line (withoutNewline text))), script)

/-- A command takes at least one byte of the source. -/
theorem size_next_lt {script : Script} {command : Command}
    (h : script.next.1 = .ok (some command)) : script.next.2.source.size < script.source.size := by
  unfold next at h ⊢
  rcases hread : script.source.readLine (longestLine + 1) with ⟨_ | (_ | ⟨byte, rest⟩), source⟩
  · simp [hread] at h
  · simp [hread] at h
  · have hsize := @Source.readLine_size _ _ (byte :: rest) (by rw [hread])
    simp only [hread, List.length_cons] at hsize h ⊢
    split at h
    · simp at h
    · rename_i hlength
      simp only [hlength, if_false]
      omega

end Script
end GuestInit
