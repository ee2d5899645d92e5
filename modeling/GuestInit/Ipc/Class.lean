/-! The classes of System V IPC objects, and the control operations that enumerate and remove them. -/

namespace GuestInit.Ipc

inductive Class where
  | sharedMemory | semaphores | messageQueues
deriving DecidableEq, Repr

namespace Class

/-- The classes in the order in which they are swept. -/
def all : List Class := [sharedMemory, semaphores, messageQueues]

theorem mem_all (ipcClass : Class) : ipcClass ∈ all := by cases ipcClass <;> simp [all]

def name : Class → String
  | sharedMemory => "shared memory"
  | semaphores => "semaphores"
  | messageQueues => "message queues"

end Class

inductive Operation where
  /-- Answers the highest index in use in the table of the class. -/
  | info
  /-- Answers the identifier in the slot with a given index. -/
  | stat
  /-- Removes the object with a given identifier. -/
  | remove
deriving DecidableEq, Repr

/-- The number by which the kernel knows an operation of a class. -/
def Operation.number : Class → Operation → Nat
  | _, remove => 0
  | _, info => 3
  | .sharedMemory, stat => 13
  | .semaphores, stat => 18
  | .messageQueues, stat => 11

end GuestInit.Ipc
