import GuestInit.Ipc.Sweep

/-! A table of System V IPC objects as a value, with objects that refuse to be removed and queries
that fail or answer a maximum of their own. -/

namespace GuestInit.Ipc

structure Table where
  /-- The slots in use: an index, and the identifier of the object there. -/
  slots : List (Int × Int)
  /-- Identifiers that cannot be removed, each with the error number that says so. -/
  refused : List (Int × Int)
  /-- The error number with which the query for the maximum fails, if it does. -/
  infoError : Option Int
  /-- What that query answers, if not the highest index in use. -/
  claimed : Option Int
deriving DecidableEq, Repr

namespace Table

def empty : Table := ⟨[], [], none, none⟩

def ofSlots (slots : List (Int × Int)) : Table := { empty with slots := slots }

def ids (table : Table) : List Int := table.slots.map Prod.snd

/-- The highest index in use, or 0 if there is none. -/
def highest (table : Table) : Int := (table.slots.map Prod.fst).max?.getD 0

def maxIndex (table : Table) : Except IoError Int :=
  match table.infoError with
  | some code => .error (.errno code)
  | none => .ok (table.claimed.getD table.highest)

def describe (table : Table) (index : Int) : Option Int := table.slots.lookup index

/-- Removes an object from every slot that holds it. -/
def remove (table : Table) (id : Int) : Except IoError Unit × Table :=
  match table.refused.lookup id with
  | some code => (.error (.errno code), table)
  | none =>
    if id ∈ table.ids then
      (.ok (), { table with slots := table.slots.filter fun slot => slot.2 ≠ id })
    else (.error (.errno Errno.invalidArgument), table)

/-- Puts an entry into a list ordered by index, in place of one with the same index. -/
def insertSlot (index id : Int) : List (Int × Int) → List (Int × Int)
  | [] => [(index, id)]
  | slot :: rest =>
    if index < slot.1 then (index, id) :: slot :: rest
    else if index = slot.1 then (index, id) :: rest
    else slot :: insertSlot index id rest

def put (table : Table) (index id : Int) : Table :=
  { table with slots := insertSlot index id table.slots }

def clear (table : Table) (index : Int) : Table :=
  { table with slots := table.slots.filter fun slot => slot.1 ≠ index }

/-- Makes the removal of an object fail from now on, or succeed again. -/
def refuse (table : Table) (id : Int) (code : Option Int) : Table :=
  let others := table.refused.filter fun entry => entry.1 ≠ id
  { table with refused := (code.map fun code => (id, code)).toList ++ others }

/-- Answers a sweep, and keeps what it notes, the latest record first. -/
def answer : Table × List Record → (q : Request) → Option (Answer q) × (Table × List Record)
  | (table, notes), .maxIndex => (some table.maxIndex, table, notes)
  | (table, notes), .describe index => (some (table.describe index), table, notes)
  | (table, notes), .remove id => (some (table.remove id).1, (table.remove id).2, notes)
  | (table, notes), .note record => (some (), table, record :: notes)

def machine : Machine TableAccess (Table × List Record) := ⟨answer⟩

end Table
end GuestInit.Ipc
