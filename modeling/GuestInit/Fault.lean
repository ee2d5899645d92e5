import GuestInit.Arguments
import GuestInit.ExitStatus
import GuestInit.IoError
import GuestInit.Ipc.Class
import GuestInit.Text.Quoted

/-! What ends the run. Whoever meets a fault halts the guest; what only concerns one command is no
fault and shows in its exit status. -/

namespace GuestInit

inductive Fault where
  | mount (target : Bytes) (cause : IoError)
  | resourceLimit (cause : IoError)
  | diskSizeTooLong (length limit : Nat)
  | diskSizeMalformed (value : String)
  | openFile (path : Bytes) (cause : IoError)
  | readScript (cause : IoError)
  | lineTooLong (line limit : Nat)
  | malformedLine (line : Nat) (cause : ArgumentError)
  | fork (cause : IoError)
  | wait (cause : IoError)
  /-- A command of the master did not exit with status 0. -/
  | masterStep (line : Nat) (program : String) (status : ExitStatus)
  | ipcInfo (ipcClass : Ipc.Class) (cause : IoError)
  | kill (cause : IoError)
deriving DecidableEq, Repr

namespace Fault

def message : Fault → String
  | mount target cause => s!"mount {Utf8.lossy target}: {cause.message}"
  | resourceLimit cause => s!"setrlimit: {cause.message}"
  | diskSizeTooLong length limit =>
    s!"disksize: parameter is too long ({length} > {limit} characters)"
  | diskSizeMalformed value => s!"disksize: malformed size parameter {Quoted.encode value}"
  | openFile path cause => s!"open {Utf8.lossy path}: {cause.message}"
  | readScript cause => s!"read control script: {cause.message}"
  | lineTooLong line limit => s!"control line {line} is longer than {limit} bytes"
  | malformedLine line cause => s!"control line {line}: {cause.message}"
  | fork cause => s!"fork: {cause.message}"
  | wait cause => s!"waitpid: {cause.message}"
  | masterStep line program status => s!"master step {line} ({program}) {status.text}"
  | ipcInfo ipcClass cause => s!"{ipcClass.name} info: {cause.message}"
  | kill cause => s!"kill stray processes: {cause.message}"

/-- The text of the error underneath, for the faults that say on what they happened. -/
def source? : Fault → Option String
  | mount _ cause | openFile _ cause | ipcInfo _ cause => some cause.message
  | malformedLine _ cause => some cause.message
  | _ => none

end Fault
end GuestInit
