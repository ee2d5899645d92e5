import GuestInit.Ipc.Table
import GuestInit.Kernel

/-! A kernel to rehearse on: it does nothing, answers from prepared results and from tables of IPC
objects, and remembers every call. -/

namespace GuestInit

/-- The name by which a level is known outside. -/
def Level.name : Level → String
  | error => "ERROR"
  | warn => "WARN"
  | info => "INFO"
  | debug => "DEBUG"
  | trace => "TRACE"

namespace Rehearsal

open Kernel

/-- The kinds of call that have prepared results of their own. -/
inductive Kind where
  | mount | setrlimit | openFile | dup2 | close | fork | geteuid | setgroups | setgid | setuid
  | execve
  /-- Waiting for one process. -/
  | waitpid
  /-- Waiting for any process. -/
  | waitAny
  | kill | reboot
deriving DecidableEq, Repr

namespace Kind

/-- The kind of a call, unless its result is fixed or comes from a table. -/
def ofCall : Call → Option Kind
  | .mount .. => some mount
  | .setrlimit .. => some setrlimit
  | .openFile .. => some openFile
  | .dup2 .. => some dup2
  | .close .. => some close
  | .fork => some fork
  | .geteuid => some geteuid
  | .setgroups _ => some setgroups
  | .setgid _ => some setgid
  | .setuid _ => some setuid
  | .execve .. => some execve
  | .waitpid pid => some (if pid = anyChild then waitAny else waitpid)
  | .kill .. => some kill
  | .reboot _ => some reboot
  | .umask _ | .ipcControl .. => none

end Kind

/-- The result of one call. -/
inductive Result where
  | value (value : Int)
  | failure (errno : Int)
  /-- A process that ended, with the word that reports how. -/
  | collected (pid : Int) (word : UInt32)
deriving DecidableEq, Repr

/-- What a call results in for which nothing is prepared: everything succeeds, no process is left
to be killed, and no child to be collected. -/
def Result.usual : Call → Result
  | .openFile .. => value 3
  | .dup2 _ target => value target
  | .fork => value 1000
  | .waitpid pid => if pid = anyChild then failure Errno.noChild else collected pid 0
  | .kill .. => failure Errno.noSuchProcess
  | _ => value 0

/-- How a run ended that did not return. -/
inductive End where
  | exited (status : Nat)
  /-- The process became another program. -/
  | executed
  | halted
deriving DecidableEq, Repr

/-- The exit status a run leaves behind. -/
def End.status : End → Nat
  | exited status => status
  | executed | halted => 0

structure Guest where
  prepared : List (Kind × List Result)
  tables : Ipc.Class → Ipc.Table
  /-- What comes of opening the control script. -/
  script : Except IoError (Int × Source)
  errno : Int
  /-- The traced requests, the latest one first. -/
  trace : List Request
  /-- What was written to the console, the latest line first. -/
  console : List String
  ended : Option End

namespace Guest

/-- A guest in which everything succeeds and there is nothing to be found. -/
def fresh : Guest where
  prepared := []
  tables _ := Ipc.Table.empty
  script := .ok (40, Source.ofBytes [])
  errno := 0
  trace := []
  console := []
  ended := none

/-- How many answers a loop can get before only the usual ones are left, and one more. -/
def patience (guest : Guest) : Nat :=
  guest.prepared.foldr (fun entry rounds => entry.2.length + rounds) 1

def traced (guest : Guest) (request : Request) : Guest :=
  { guest with trace := request :: guest.trace }

def written (guest : Guest) (lines : List String) : Guest :=
  { guest with console := lines.reverse ++ guest.console }

/-- Takes the first prepared result of a kind. -/
def takeResult (kind : Kind) : List (Kind × List Result) → Option Result × List (Kind × List Result)
  | [] => (none, [])
  | (other, results) :: rest =>
    if other = kind then
      match results with
      | [] => (none, (other, results) :: rest)
      | result :: results => (some result, (other, results) :: rest)
    else ((takeResult kind rest).1, (other, results) :: (takeResult kind rest).2)

/-- The result of a call to a table. A removal changes the table. -/
def control (guest : Guest) (ipcClass : Ipc.Class) (operation : Ipc.Operation) (operand : Int) :
    Result × Guest :=
  let table := guest.tables ipcClass
  let ofExcept : Except IoError Int → Result
    | .ok value => .value value
    | .error (.errno code) => .failure code
    | .error _ => .failure Errno.invalidArgument
  match operation with
  | .info => (ofExcept table.maxIndex, guest)
  | .stat =>
    (match table.describe operand with
      | some id => .value id
      | none => .failure Errno.invalidArgument, guest)
  | .remove =>
    (ofExcept ((table.remove operand).1.map fun () => 0),
      { guest with tables := fun other =>
          if other = ipcClass then (table.remove operand).2 else guest.tables other })

/-- The result of a call, prepared or usual. -/
def result (guest : Guest) (call : Call) : Result × Guest :=
  match call with
  | .ipcControl ipcClass operation operand => guest.control ipcClass operation operand
  | call =>
    match Kind.ofCall call with
    | none => (Result.usual call, guest)
    | some kind =>
      let (prepared, rest) := takeResult kind guest.prepared
      (prepared.getD (Result.usual call), { guest with prepared := rest })

/-- A failure sets the error number, any other result leaves it as it is. -/
def reply (guest : Guest) : Result → Reply × Guest
  | .value value => (⟨value, guest.errno, 0⟩, guest)
  | .failure errno => (⟨-1, errno, 0⟩, { guest with errno := errno })
  | .collected pid word => (⟨pid, guest.errno, word⟩, guest)

/-- The calls that do not return if they succeed. -/
def endOf (call : Call) (reply : Reply) : Option End :=
  match call with
  | .execve .. => if reply.value = 0 then some .executed else none
  | .reboot _ => if reply.value = 0 then some .halted else none
  | _ => none

def answerCall (guest : Guest) (call : Call) : Option Reply × Guest :=
  let (result, guest) := (guest.traced (.call call)).result call
  let (reply, guest) := guest.reply result
  match endOf call reply with
  | some ended => (none, { guest with ended := some ended })
  | none => (some reply, guest)

def answer (guest : Guest) : (q : Request) → Option (Answer q) × Guest
  | .call call => guest.answerCall call
  | .openScript path => (some guest.script, guest.traced (.openScript path))
  | .log record => (some (), guest.written (Console.recordLines record))
  | .complain text => (some (), guest.written (Console.lines text))
  | .exit status => (none, { guest.traced (.exit status) with ended := some (.exited status) })

def machine : Machine Surroundings Guest := ⟨answer⟩

end Guest

/-- Runs an action on a guest. -/
def perform {α : Type} (action : Action α) (guest : Guest) : Ending α × Guest :=
  action.run Guest.machine guest

end Rehearsal
end GuestInit
