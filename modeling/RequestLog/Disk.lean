import RequestLog.Fault
import RequestLog.Text.Pieces

/-!
# Folders and files

A disk is a tree of folders and files below the working folder.  A file has an identity of its own:
whoever has it open keeps writing to it when it is renamed or its name is removed.  Steps on the
disk fail as the operating system makes them fail.
-/

namespace RequestLog

/-- Names from the working folder downwards. -/
abbrev FilePath := List String

/-- What a name in a folder stands for. -/
inductive Node where
  /-- A folder. -/
  | folder
  /-- A file, by its identity. -/
  | file (identity : Nat)
  deriving DecidableEq, Repr

/-- The tree of names and the contents of files. -/
structure Disk where
  /-- What each path stands for; the working folder itself is not listed. -/
  nodes : List (FilePath × Node)
  /-- The text of each file by identity. -/
  contents : List (Nat × String)
  /-- The identity of the next new file. -/
  fresh : Nat

namespace FilePath

/-- The parts of a written path, empty ones left out. -/
def parts (text : String) : List String :=
  ((Text.pieces '/' text.toList).filter fun part => !part.isEmpty).map String.ofList

/-- Resolve parts that stand for the folder itself or the folder above, by name alone. -/
def normalize (parts : List String) : FilePath :=
  parts.foldl (fun path part =>
    if part = "." then path else if part = ".." then path.dropLast else path ++ [part]) []

/-- A folder and a name in it; an absolute name stands for itself. -/
def join (folder name : String) : String :=
  if name.startsWith "/" then name
  else if folder.isEmpty || folder.endsWith "/" then folder ++ name
  else folder ++ "/" ++ name

/-- The text of a path. -/
def text (path : FilePath) : String :=
  String.intercalate "/" path

/-- The path with a suffix to its last name. -/
def addSuffix (path : FilePath) (suffix : String) : FilePath :=
  match path.getLast? with
  | some name => path.dropLast ++ [name ++ suffix]
  | none => path

end FilePath

namespace Disk

/-- The empty working folder. -/
def empty : Disk :=
  ⟨[], [], 0⟩

/-- What a path stands for. -/
def node? (disk : Disk) (path : FilePath) : Option Node :=
  if path = [] then some .folder else disk.nodes.lookup path

/-- The text of a file. -/
def contentOf (disk : Disk) (identity : Nat) : String :=
  (disk.contents.lookup identity).getD ""

/-- Longest name in a folder, in octets. -/
def nameLimit : Nat := 255

/-- The name is longer than folders hold. -/
def isLong (name : String) : Bool :=
  nameLimit < name.utf8ByteSize

/-- The text holds the null character. -/
def hasNull (text : String) : Bool :=
  text.toList.contains '\x00'

/-- The folder that a path leads to, part by part, from a folder. -/
def walk (disk : Disk) (shown : String) (path : FilePath) : List String → Except Fault FilePath
  | [] => .ok path
  | part :: rest =>
      if disk.node? path ≠ some .folder then .error (.pathNotFolder shown)
      else if part = "." then walk disk shown path rest
      else if part = ".." then walk disk shown path.dropLast rest
      else if isLong part then .error (.nameTooLong shown)
      else if (disk.node? (path ++ [part])).isSome then walk disk shown (path ++ [part]) rest
      else .error (.noSuchFile shown)

/-- The parts lead to a folder or a file. -/
def exists? (disk : Disk) (parts : List String) : Bool :=
  !parts.any hasNull && (disk.walk "" [] parts).isOk

/-- Add an entry. -/
def add (disk : Disk) (path : FilePath) (node : Node) : Disk :=
  { disk with nodes := disk.nodes ++ [(path, node)] }

/-- Make one folder in a folder that is there.  A folder that is there already is left as it is. -/
def makeFolder (disk : Disk) (folder : List String) (name : String) : Except Fault Disk :=
  let shown := FilePath.text (folder ++ [name])
  if hasNull shown then .error .nullInPath
  else
    match disk.walk shown [] folder with
    | .error fault => .error fault
    | .ok path =>
        if disk.node? path ≠ some .folder then .error (.pathNotFolder shown)
        else if name = "." ∨ name = ".." then .ok disk
        else if isLong name then .error (.nameTooLong shown)
        else
          match disk.node? (path ++ [name]) with
          | some .folder => .ok disk
          | some (.file _) => .error (.fileInPlace shown)
          | none => .ok (disk.add (path ++ [name]) .folder)

/-- Make the folder of the given parts, last part first, and the folders above it.  What was made
before a failure stays. -/
def makeFoldersUp (disk : Disk) : List String → Disk × Except Fault Unit
  | [] => (disk, .ok ())
  | name :: above =>
      let folder := above.reverse
      if folder ≠ [] ∧ !disk.exists? folder then
        let (disk, made) := makeFoldersUp disk above
        match made with
        | .error fault => (disk, .error fault)
        | .ok () =>
            if name = "." then (disk, .ok ())
            else
              match disk.makeFolder folder name with
              | .ok disk => (disk, .ok ())
              | .error fault => (disk, .error fault)
      else
        match disk.makeFolder folder name with
        | .ok disk => (disk, .ok ())
        | .error fault => (disk, .error fault)

/-- Make a folder and the folders above it. -/
def makeFolders (disk : Disk) (text : String) : Disk × Except Fault Unit :=
  if text.isEmpty then (disk, .error (.noSuchFile text))
  else disk.makeFoldersUp (FilePath.parts text).reverse

/-- The folder above a path is there. -/
def checkAbove (disk : Disk) (path : FilePath) : Except Fault Unit :=
  match disk.walk path.text [] path.dropLast with
  | .error fault => .error fault
  | .ok folder =>
      if disk.node? folder = some .folder then .ok () else .error (.pathNotFolder path.text)

/-- Open a file to append to it; a file that is not there is made. -/
def openFile (disk : Disk) (path : FilePath) : Except Fault (Nat × Disk) :=
  if hasNull path.text then .error .nullInPath
  else
    match disk.checkAbove path with
    | .error fault => .error fault
    | .ok () =>
        if path.getLast?.any isLong then .error (.nameTooLong path.text)
        else
          match disk.node? path with
          | some .folder => .error (.pathIsFolder path.text)
          | some (.file identity) => .ok (identity, disk)
          | none =>
              .ok (disk.fresh,
                { disk.add path (.file disk.fresh) with fresh := disk.fresh + 1 })

/-- Append to an open file. -/
def append (disk : Disk) (identity : Nat) (text : String) : Disk :=
  { disk with
    contents := (identity, disk.contentOf identity ++ text)
      :: disk.contents.filter fun entry => entry.1 != identity }

/-- Size of an open file in octets. -/
def size (disk : Disk) (identity : Nat) : Nat :=
  (disk.contentOf identity).utf8ByteSize

/-- Remove the name of a file. -/
def remove (disk : Disk) (path : FilePath) : Except Fault Disk :=
  match disk.node? path with
  | none => .error (.noSuchFile path.text)
  | some .folder => .error (.pathIsFolder path.text)
  | some (.file _) => .ok { disk with nodes := disk.nodes.filter fun entry => entry.1 != path }

/-- Give the entry of a path, and all below it, another path. -/
def rename (disk : Disk) (source target : FilePath) : Disk :=
  { disk with
    nodes := disk.nodes.map fun entry =>
      if source.isPrefixOf entry.1 then (target ++ entry.1.drop source.length, entry.2)
      else entry }

/-- Remove the name of a file, if it is there. -/
def removeIfThere (disk : Disk) (path : FilePath) : Except Fault Disk :=
  if (disk.node? path).isSome then disk.remove path else .ok disk

/-- Move the entry of a path to another path, if it is there; a file at the other path is
removed. -/
def moveIfThere (disk : Disk) (source target : FilePath) : Except Fault Disk :=
  if (disk.node? source).isNone then .ok disk
  else
    match disk.removeIfThere target with
    | .error fault => .error fault
    | .ok disk => .ok (disk.rename source target)

/-- Write a file anew, making the folders above it. -/
def write (disk : Disk) (text content : String) : Except Fault Disk :=
  let path := FilePath.normalize (FilePath.parts text)
  let (disk, made) := disk.makeFoldersUp path.dropLast.reverse
  match made with
  | .error fault => .error fault
  | .ok () =>
      match disk.openFile path with
      | .error fault => .error fault
      | .ok (identity, disk) =>
          .ok { disk with
            contents := (identity, content)
              :: disk.contents.filter fun entry => entry.1 != identity }

/-- Paths with the contents of files; the path of a folder ends with a slash.  They are sorted. -/
def listing (disk : Disk) : List (String × Option String) :=
  let entries := disk.nodes.map fun entry =>
    match entry.2 with
    | .folder => (entry.1.text ++ "/", none)
    | .file identity => (entry.1.text, some (disk.contentOf identity))
  entries.mergeSort fun left right => left.1 ≤ right.1

end Disk
end RequestLog
