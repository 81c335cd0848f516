import RequestLog.Disk
import RequestLog.Journal
import RequestLog.Logging.Layout

/-!
# Handlers

A handler lays out the entries of its level and above and hands them to its target: a file, the
console or the journal.  A file is rolled over when a line would bring it to its size: the full
files move up one number each, the file itself becomes number one, and a new file begins.  Whatever
fails on the way is contained in the handler, and the entry is lost.
-/

namespace RequestLog
namespace Logging

/-- Where the lines of all handlers end up. -/
structure Output where
  /-- Folders and files. -/
  disk : Disk
  /-- What has been written to the console. -/
  console : String
  /-- What has happened. -/
  journal : Journal

/-- A file with a limited size. -/
structure FileTarget where
  /-- Path of the file. -/
  path : FilePath
  /-- The file that is open. -/
  stream : Option Nat
  /-- Size in octets that the file stays below. -/
  maxSize : Int
  /-- How many full files are kept. -/
  backups : Int

/-- Where a handler puts its lines. -/
inductive Target where
  /-- A file with a limited size. -/
  | file (target : FileTarget)
  /-- The console. -/
  | console
  /-- The journal. -/
  | journal

/-- A level, a layout and a target. -/
structure Handler where
  /-- Entries below this level are left out. -/
  level : Int
  /-- How entries are laid out. -/
  layout : Layout
  /-- Where lines go. -/
  target : Target

namespace FileTarget

/-- Open a file for a target. -/
def create (disk : Disk) (path : FilePath) (maxSize backups : Int) :
    Except Fault (FileTarget × Disk) :=
  match disk.openFile path with
  | .error fault => .error fault
  | .ok (identity, disk) =>
      .ok ({ path := path, stream := some identity, maxSize := maxSize, backups := backups }, disk)

/-- The path of a full file. -/
def backupPath (target : FileTarget) (number : Nat) : FilePath :=
  target.path.addSuffix ("." ++ toString number)

/-- Move the full files up one number, from a number down to one. -/
def shiftBackups (target : FileTarget) : Nat → Disk → Disk × Except Fault Unit
  | 0, disk => (disk, .ok ())
  | number + 1, disk =>
      match disk.moveIfThere (target.backupPath (number + 1)) (target.backupPath (number + 2)) with
      | .error fault => (disk, .error fault)
      | .ok disk => shiftBackups target number disk

/-- Make the file itself the first full file. -/
def retire (target : FileTarget) (disk : Disk) : Disk × Except Fault Unit :=
  match disk.removeIfThere (target.backupPath 1) with
  | .error fault => (disk, .error fault)
  | .ok disk =>
      match disk.moveIfThere target.path (target.backupPath 1) with
      | .error fault => (disk, .error fault)
      | .ok disk => (disk, .ok ())

/-- The open file, opened if need be. -/
def opened (target : FileTarget) (disk : Disk) : Except Fault (Nat × FileTarget × Disk) :=
  match target.stream with
  | some identity => .ok (identity, target, disk)
  | none =>
      match disk.openFile target.path with
      | .error fault => .error fault
      | .ok (identity, disk) => .ok (identity, { target with stream := some identity }, disk)

/-- Close the file, move it and the full files up, and begin a new one. -/
def rollOver (target : FileTarget) (disk : Disk) : FileTarget × Disk × Except Fault Unit :=
  let closed := { target with stream := none }
  match closed.shiftBackups (target.backups - 1).toNat disk with
  | (disk, .error fault) => (closed, disk, .error fault)
  | (disk, .ok ()) =>
      match closed.retire disk with
      | (disk, .error fault) => (closed, disk, .error fault)
      | (disk, .ok ()) =>
          match closed.opened disk with
          | .error fault => (closed, disk, .error fault)
          | .ok (_, target, disk) => (target, disk, .ok ())

/-- A line of so many characters brings the file to its size. -/
def isFull (target : FileTarget) (disk : Disk) (identity : Nat) (line : String) : Bool :=
  target.maxSize ≤ (disk.size identity : Int) + line.length + 1

/-- Something other than a file stands at the path. -/
def isBlocked (target : FileTarget) (disk : Disk) : Bool :=
  disk.node? target.path = some .folder

/-- Append a line to the open file. -/
def append (target : FileTarget) (disk : Disk) (line : String) : FileTarget × Disk :=
  match target.opened disk with
  | .error _ => (target, disk)
  | .ok (identity, target, disk) => (target, disk.append identity (line ++ "\n"))

/-- Write a line, after rolling over if the file would be full. -/
def write (target : FileTarget) (disk : Disk) (line : String) : FileTarget × Disk :=
  if target.isBlocked disk then target.append disk line
  else
    match target.opened disk with
    | .error _ => (target, disk)
    | .ok (identity, target, disk) =>
        if target.isFull disk identity line then
          match target.rollOver disk with
          | (target, disk, .ok ()) => target.append disk line
          | (target, disk, .error _) => (target, disk)
        else target.append disk line

end FileTarget

namespace Handler

/-- A handler that puts the entries of a logger into the journal. -/
def watcher : Handler :=
  ⟨0, .text false, .journal⟩

/-- The handler puts its entries into the journal. -/
def keepsJournal (handler : Handler) : Bool :=
  match handler.target with
  | .journal => true
  | _ => false

/-- Handle an entry of the handler's level or above. -/
def emit (handler : Handler) (entry : Entry) (output : Output) : Handler × Output :=
  match handler.target with
  | .journal =>
      match entry.message with
      | .error _ => (handler, output)
      | .ok message =>
          (handler, { output with journal := output.journal ++ [.logged entry message] })
  | .console =>
      match handler.layout.format entry with
      | .error _ => (handler, output)
      | .ok line => (handler, { output with console := output.console ++ line ++ "\n" })
  | .file target =>
      match handler.layout.format entry with
      | .error _ => (handler, output)
      | .ok line =>
          let (target, disk) := target.write output.disk line
          ({ handler with target := .file target }, { output with disk := disk })

/-- Handle an entry unless it is below the handler's level. -/
def handle (handler : Handler) (entry : Entry) (output : Output) : Handler × Output :=
  if entry.level < handler.level then (handler, output) else handler.emit entry output

end Handler
end Logging
end RequestLog
