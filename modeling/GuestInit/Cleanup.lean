import GuestInit.Ipc.Sweep
import GuestInit.Kernel

/-! What a command may leave behind is removed before the next one: every process but the
supervisor, then every System V IPC object of the guest, whoever created it. -/

namespace GuestInit.Cleanup

open GuestInit.Action

/-- That there was no process to signal is as good as having signalled all. -/
def signalled : Except IoError Int → Except IoError Unit
  | .ok _ => .ok ()
  | .error cause => if cause = .errno Errno.noSuchProcess then .ok () else .error cause

/-- Kills every other process and collects the dead, until no child is left. Orphans become
children of process 1, so then no process is left either. Each wait follows a fresh signal, which
catches what was forked while the one before was delivered. At most `rounds` times. -/
def killAll : (rounds : Nat) → (collected : Nat) → Action (Except IoError Nat)
  | 0, _ => .unfinished
  | rounds + 1, collected => do
    match signalled (← attempt (.kill Kernel.everyProcess Kernel.sigkill)) with
    | .error cause => return .error cause
    | .ok () =>
      match ← attempt (.waitpid Kernel.anyChild) with
      | .ok _ => killAll rounds (collected + 1)
      | .error cause =>
        if cause = .errno Errno.noChild then return .ok collected
        else if cause.isInterruption then killAll rounds collected
        else return .error cause

/-- Asks the kernel's table of a class. A slot that cannot be described is empty. -/
def askTable (ipcClass : Ipc.Class) : (q : Ipc.Request) → Action (Ipc.Answer q)
  | .maxIndex => attempt (.ipcControl ipcClass .info 0)
  | .describe index => do return (← attempt (.ipcControl ipcClass .stat index)).toOption
  | .remove id => do return (← attempt (.ipcControl ipcClass .remove id)).map fun _ => ()
  | .note record => log record

/-- Removes every object of a class from the kernel's table. -/
def sweep (ipcClass : Ipc.Class) : Action (Except Fault Nat) :=
  (Ipc.sweep ipcClass).interpret (askTable ipcClass)

/-- Sweeps classes in order and adds up the removals. -/
def sweepAll : List Ipc.Class → (removed : Nat) → Action (Except Fault Nat)
  | [], removed => return .ok removed
  | ipcClass :: rest, removed => do
    match ← sweep ipcClass with
    | .error fault => return .error fault
    | .ok more => sweepAll rest (removed + more)

def cleanupRecord (collected removed : Nat) : Record :=
  .info s!"cleanup: collected {collected} processes, removed {removed} IPC objects"

/-- Removes everything a command may have left behind, and reports it if there was anything. -/
def reap (rounds : Nat) : Action (Except Fault Unit) := do
  match ← killAll rounds 0 with
  | .error cause => return .error (.kill cause)
  | .ok collected =>
    match ← sweepAll Ipc.Class.all 0 with
    | .error fault => return .error fault
    | .ok removed =>
      if 0 < collected ∨ 0 < removed then log (cleanupRecord collected removed)
      return .ok ()

end GuestInit.Cleanup
