import GuestInit.Console
import GuestInit.Fault
import GuestInit.Ipc.Class
import GuestInit.Program

/-! Enumerating and removing all objects of a class of System V IPC, through three questions to the
table of the class: the highest index in use, the identifier in a slot, and the removal of an
object. Whoever answers may let objects vanish in between. -/

namespace GuestInit.Ipc

inductive Request where
  | maxIndex
  | describe (index : Int)
  | remove (id : Int)
  | note (record : Record)
deriving DecidableEq, Repr

abbrev Answer : Request → Type
  | .maxIndex => Except IoError Int
  | .describe _ => Option Int
  | .remove _ => Except IoError Unit
  | .note _ => Unit

abbrev TableAccess : Interface := ⟨Request, Answer⟩

/-- Describes `count` slots from `index` on. The identifiers found go in front of `found`, the
latest one first. -/
def describeFrom : (count : Nat) → (index : Int) → (found : List Int) →
    Program TableAccess (List Int)
  | 0, _, found => .done found.reverse
  | count + 1, index, found => .ask (.describe index) fun
    | some id => describeFrom count (index + 1) (id :: found)
    | none => describeFrom count (index + 1) found

/-- The identifiers of all objects of a class, in the order of their slots. -/
def live (ipcClass : Class) : Program TableAccess (Except Fault (List Int)) :=
  .ask .maxIndex fun
    | .error cause => .done (.error (.ipcInfo ipcClass cause))
    | .ok most => do return .ok (← describeFrom (most + 1).toNat 0 [])

/-- Reports an object that could not be removed. -/
def refusalRecord (ipcClass : Class) (id : Int) (cause : IoError) : Record :=
  .debug s!"remove {ipcClass.name} {id}: {cause.message}"

/-- Removes objects one after the other and counts the removals. One that fails is reported, since
an object may have vanished after it was described. -/
def removeAll (ipcClass : Class) : List Int → (removed : Nat) → Program TableAccess Nat
  | [], removed => .done removed
  | id :: rest, removed => .ask (.remove id) fun
    | .ok () => removeAll ipcClass rest (removed + 1)
    | .error cause => .ask (.note (refusalRecord ipcClass id cause)) fun () =>
      removeAll ipcClass rest removed

/-- Removes every object of a class and says how many went away. -/
def sweep (ipcClass : Class) : Program TableAccess (Except Fault Nat) := do
  match ← live ipcClass with
  | .error fault => return .error fault
  | .ok ids => return .ok (← removeAll ipcClass ids 0)

end GuestInit.Ipc
