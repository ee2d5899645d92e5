import GuestInit.Command
import GuestInit.DiskSize

/-! Who commands run as, and the layout of the guest. -/

namespace GuestInit

/-- What a program gets as standard input, output and error. -/
inductive Streams where
  /-- Those of the supervisor. -/
  | inherited
  /-- The null device for all three. -/
  | null
deriving DecidableEq, Repr

structure Identity where
  uid : UInt32
  gid : UInt32
  umask : UInt32
  streams : Streams
deriving DecidableEq, Repr

namespace Identity

/-- The grading side. What it writes is private to it. -/
def master : Identity := ⟨1, 0, 0o077, .inherited⟩

/-- The submission. What it writes is public, and it does not see the supervisor's streams. -/
def worker : Identity := ⟨2, 2, 0o000, .null⟩

end Identity

structure Identities where
  master : Identity
  worker : Identity
deriving DecidableEq, Repr

namespace Identities

def get (identities : Identities) : Privilege → Identity
  | .master => identities.master
  | .worker => identities.worker

@[simp] theorem get_master (identities : Identities) : identities.get .master = identities.master :=
  rfl
@[simp] theorem get_worker (identities : Identities) : identities.get .worker = identities.worker :=
  rfl

end Identities

structure Config where
  diskSize : DiskSize
  /-- The control script, on the task filesystem. -/
  controlPath : Bytes
  /-- The block device that holds the task filesystem. -/
  taskDevice : Bytes
  taskMount : Bytes
  /-- The block device that becomes standard input. -/
  inputDevice : Bytes
  /-- The most processes one user may own. -/
  maxProcesses : UInt64
  identities : Identities
deriving DecidableEq, Repr

namespace Config

def ofDiskSize (diskSize : DiskSize) : Config where
  diskSize := diskSize
  controlPath := Bytes.ofString "/task/control"
  taskDevice := Bytes.ofString "/dev/ubdb"
  taskMount := Bytes.ofString "/task"
  inputDevice := Bytes.ofString "/dev/ubdc"
  maxProcesses := 100
  identities := ⟨Identity.master, Identity.worker⟩

instance : Inhabited Config := ⟨ofDiskSize default⟩

/-- The configuration for a value of the environment variable. -/
def ofVariable (value : Option Bytes) : Except Fault Config :=
  (DiskSize.ofVariable value).map ofDiskSize

end Config
end GuestInit
