/-! How a process ended. -/

namespace GuestInit

inductive ExitStatus where
  | code (value : Int)
  | signal (number : Int)
deriving DecidableEq, Repr

namespace ExitStatus

/-- Reads the word in which the kernel reports the end of a process: the low seven bits are the
signal that killed it, or zero, and then the next byte is the status it exited with. -/
def ofWord (word : UInt32) : ExitStatus :=
  if word &&& 0x7F = 0 then code ((word >>> 8) &&& 0xFF).toNat else signal (word &&& 0x7F).toNat

def isSuccess (status : ExitStatus) : Bool := status = code 0

@[simp] theorem isSuccess_iff (status : ExitStatus) : status.isSuccess = true ↔ status = code 0 := by
  simp [isSuccess]

def text : ExitStatus → String
  | code value => s!"exited with status {value}"
  | signal number => s!"was killed by signal {number}"

end ExitStatus
end GuestInit
