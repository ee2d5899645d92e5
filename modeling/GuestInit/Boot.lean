import GuestInit.Config
import GuestInit.Kernel

/-! Preparation of the guest, once, before the first command: the filesystems, the limit on
processes, and standard input. It stops at the first thing that fails. -/

namespace GuestInit

/-- A filesystem to be mounted. -/
structure Mount where
  source : Bytes
  target : Bytes
  fstype : String
  flags : UInt64
  data : Option String
deriving DecidableEq, Repr

namespace Mount

/-! Mount flags. -/

def readOnly : UInt64 := 1
def noSuid : UInt64 := 2
def noDevices : UInt64 := 4
def noExec : UInt64 := 8

/-- Flags of filesystems that hold no files of anyone's. -/
def pseudo : UInt64 := noDevices ||| noSuid ||| noExec

/-- The filesystems of the guest, in the order in which they are mounted. -/
def table (config : Config) : List Mount :=
  [⟨Bytes.ofString "proc", Bytes.ofString "/proc", "proc", pseudo, none⟩,
   ⟨Bytes.ofString "sys", Bytes.ofString "/sys", "sysfs", pseudo, none⟩,
   ⟨Bytes.ofString "none", Bytes.ofString "/tmp", "tmpfs", noDevices ||| noSuid,
    some config.diskSize.mountOptions⟩,
   ⟨config.taskDevice, config.taskMount, "squashfs", noDevices ||| noSuid ||| readOnly, none⟩]

/-- The strings that go to the kernel. -/
def strings (mount : Mount) : List Bytes :=
  [mount.source, mount.target, Bytes.ofString mount.fstype] ++
    (mount.data.map Bytes.ofString).toList

def call (mount : Mount) : Kernel.Call :=
  .mount mount.source mount.target (Bytes.ofString mount.fstype) mount.flags
    (mount.data.map Bytes.ofString)

/-- Mounts a filesystem. A string that cannot be handed over fails before the call. -/
def perform (mount : Mount) : Attempt Fault Unit :=
  if mount.strings.any Bytes.hasNul then throw (.mount mount.target .nulInData)
  else discard (Attempt.call (.mount mount.target) mount.call)

def mountedRecord (mount : Mount) : Record :=
  .debug s!"mounted {mount.fstype} on {Utf8.lossy mount.target}"

/-- Mounts filesystems in order and reports each. -/
def performAll : List Mount → Attempt Fault Unit
  | [] => pure ()
  | mount :: rest => do
    mount.perform
    Attempt.log mount.mountedRecord
    performAll rest

end Mount

namespace Boot

/-- Caps the processes of every single user. -/
def limitProcesses {ε : Type} (failed : IoError → ε) (most : UInt64) : Attempt ε Unit :=
  discard (Attempt.call failed (.setrlimit Kernel.processLimit most most))

/-- Moves an open descriptor to standard input. The old descriptor is closed whether or not that
succeeds, and what comes of the closing is nobody's concern. -/
def moveToInput (fd : Int) : Attempt IoError Unit :=
  if fd = Kernel.standardInput then pure ()
  else ExceptT.mk do
    let moved ← Action.attempt (.dup2 fd Kernel.standardInput)
    discard (Action.call (.close fd))
    return moved.map fun _ => ()

/-- Replaces standard input by a file. -/
def bindInput (path : Bytes) : Attempt IoError Unit :=
  if path.hasNul then throw .nulInData
  else do moveToInput (← Attempt.call id (.openFile path Kernel.readOnly))

/-- Mounts the filesystems, caps the number of processes and binds standard input. -/
def prepare (config : Config) : Attempt Fault Unit := do
  Mount.performAll (Mount.table config)
  limitProcesses .resourceLimit config.maxProcesses
  ExceptT.adapt (.openFile config.inputDevice) (bindInput config.inputDevice)

end Boot
end GuestInit
