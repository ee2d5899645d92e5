import GuestInit.Fault
import GuestInit.Script

/-! Opening a control script by its path, on a machine with the usual directories. -/

namespace GuestInit.Host

inductive Node where
  | file (content : Bytes)
  | directory (entries : List (String × Node))

namespace Node

def emptyDirectory : Node := directory []

/-- A root directory with the directories of every system, and the null device. -/
def root : Node :=
  directory
    ([("dev", directory [("null", file [])]),
      ("usr", directory [("bin", emptyDirectory), ("lib", emptyDirectory)])] ++
      ["bin", "etc", "home", "lib", "proc", "root", "sys", "tmp", "var"].map
        fun name => (name, emptyDirectory))

/-- What can be read from an open file. -/
def source : Node → Source
  | file content => Source.ofBytes content
  | directory _ => Source.directory

end Node

/-- The most bytes a path may have, its final NUL counted. -/
def longestPath : Nat := 4096

/-- The most bytes a name in a directory may have. -/
def longestName : Nat := 255

def slash : UInt8 := 0x2F

/-- The names of a path, between its slashes. -/
def components (path : Bytes) : List Bytes := path.splitOn slash

/-- Follows the names of a path. An empty name and one dot stay where they are, two dots go back to
the directory before; all three need a directory to be in. -/
def walk : (before : List Node) → Node → List Bytes → Except Int Node
  | _, node, [] => .ok node
  | _, .file _, _ :: _ => .error Errno.notDirectory
  | before, .directory entries, name :: names =>
    if name = [] ∨ name = Bytes.ofString "." then walk before (.directory entries) names
    else if name = Bytes.ofString ".." then
      match before with
      | [] => walk [] (.directory entries) names
      | parent :: before => walk before parent names
    else if name.length > longestName then .error Errno.nameTooLong
    else
      match entries.find? fun entry => Bytes.ofString entry.1 = name with
      | none => .error Errno.noEntry
      | some (_, node) => walk (.directory entries :: before) node names

/-- What a path leads to. One without a slash in front starts in an empty working directory. -/
def resolve (path : Bytes) : Except Int Node :=
  if path = [] then .error Errno.noEntry
  else if path.length ≥ longestPath then .error Errno.nameTooLong
  else if path.head? = some slash then walk [] Node.root (components path)
  else walk [Node.root] Node.emptyDirectory (components path)

/-- The descriptor that an opened script gets. -/
def scriptDescriptor : Int := 3

/-- Opens a control script. -/
def openScript (path : Bytes) : Except Fault Script :=
  if path.hasNul then .error (.openFile path .nulInPath)
  else match resolve path with
    | .error code => .error (.openFile path (.errno code))
    | .ok node => .ok (.ofFile scriptDescriptor node.source)

end GuestInit.Host
