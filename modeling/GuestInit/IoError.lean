import GuestInit.Errno

/-! Why an input or output operation failed. -/

namespace GuestInit

inductive IoError where
  /-- The kernel refused, with this error number. -/
  | errno (code : Int)
  /-- A string for the kernel has a NUL byte in it. -/
  | nulInData
  | nulInPath
  /-- A source of its own kind says so in its own words. -/
  | other (text : String)
deriving DecidableEq, Repr

namespace IoError

def message : IoError → String
  | errno code => s!"{Errno.text code} (os error {code})"
  | nulInData => "data provided contains a nul byte"
  | nulInPath => "file name contained an unexpected NUL byte"
  | other text => text

/-- A signal came in before anything was done: trying again is no second attempt. -/
def isInterruption (cause : IoError) : Bool := cause = errno Errno.interrupted

@[simp] theorem isInterruption_errno (code : Int) :
    (errno code).isInterruption = decide (code = Errno.interrupted) := by
  simp [isInterruption]

/-- A cause for which nothing is tried again. -/
abbrev Lasting := { cause : IoError // cause.isInterruption = false }

end IoError
end GuestInit
