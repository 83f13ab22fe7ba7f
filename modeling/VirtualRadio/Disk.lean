import VirtualRadio.Text.Split

namespace VirtualRadio

/-!
# Files

A disk holds files and directories under a working directory.  Paths are
relative to it.  Only what the program does with files is modelled: looking
whether a path exists, reading a whole file and appending to one.
-/

/-- What a path leads to. -/
inductive DiskEntry where
  | file (contents : List UInt8)
  | directory
  deriving DecidableEq, Repr

/-- Named entries of a working directory; a name is a list of path components. -/
structure Disk where
  entries : List (List String × DiskEntry)
  deriving DecidableEq, Repr, Inhabited

/-- Why a file operation is refused. -/
inductive DiskFault where
  | notFound
  | notADirectory
  | isADirectory
  | invalidText
  deriving DecidableEq, Repr

/-- A refusal in the words of the operating system. -/
def DiskFault.message : DiskFault → String
  | notFound => "No such file or directory (os error 2)"
  | notADirectory => "Not a directory (os error 20)"
  | isADirectory => "Is a directory (os error 21)"
  | invalidText => "stream did not contain valid UTF-8"

namespace Disk

/-- The disk with nothing on it. -/
def empty : Disk := ⟨[]⟩

/-- The entry with a resolved name.  The working directory itself and every
directory that leads to an entry exist. -/
def entry? (disk : Disk) (name : List String) : Option DiskEntry :=
  match disk.entries.lookup name with
  | some found => some found
  | none =>
    if name.isEmpty || disk.entries.any (fun entry => name.isPrefixOf entry.1) then
      some .directory
    else
      none

/-- The components of a path, between its slashes. -/
def components (path : String) : List String :=
  (Text.splitAt (· = '/') path.toList).map String.ofList

/-- Follow the components of a path from a directory. -/
def walk (disk : Disk) (here : List String) : List String → Except DiskFault (List String)
  | [] => .ok here
  | component :: rest =>
    match disk.entry? here with
    | none => .error .notFound
    | some (.file _) => .error .notADirectory
    | some .directory =>
      if component = "" ∨ component = "." then
        disk.walk here rest
      else if component = ".." then
        disk.walk here.dropLast rest
      else
        disk.walk (here ++ [component]) rest

/-- The name that a path leads to if every component before the last is a
directory. -/
def plainName (path : String) : List String :=
  (components path).foldl (fun name component =>
    if component = "" ∨ component = "." then name
    else if component = ".." then name.dropLast
    else name ++ [component]) []

/-- The name that a path leads to, whether or not anything is there. -/
def resolve (disk : Disk) (path : String) : Except DiskFault (List String) :=
  if path = "" then
    .error .notFound
  else
    disk.walk [] (components path)

/-- What a path leads to. -/
def find (disk : Disk) (path : String) : Except DiskFault DiskEntry := do
  let name ← disk.resolve path
  match disk.entry? name with
  | some found => .ok found
  | none => .error .notFound

/-- Whether a path leads to something. -/
def pathExists (disk : Disk) (path : String) : Bool :=
  (disk.find path).isOk

/-- The bytes of a file. -/
def read (disk : Disk) (path : String) : Except DiskFault (List UInt8) := do
  match ← disk.find path with
  | .file contents => .ok contents
  | .directory => .error .isADirectory

/-- A file as text. -/
def readText (disk : Disk) (path : String) : Except DiskFault String := do
  let contents ← disk.read path
  match String.fromUTF8? ⟨contents.toArray⟩ with
  | some text => .ok text
  | none => .error .invalidText

/-- Store a file under a resolved name. -/
def put (disk : Disk) (name : List String) (contents : List UInt8) : Disk :=
  ⟨(name, .file contents) :: disk.entries.filter (fun entry => entry.1 ≠ name)⟩

/-- Open a file for appending.  It is made if the directory it belongs to
exists. -/
def openAppend (disk : Disk) (path : String) : Except DiskFault (List String × Disk) := do
  let name ← disk.resolve path
  match disk.entry? name with
  | some (.file _) => .ok (name, disk)
  | some .directory => .error .isADirectory
  | none =>
    match disk.entry? name.dropLast with
    | some .directory => .ok (name, disk.put name [])
    | some (.file _) => .error .notADirectory
    | none => .error .notFound

/-- Add bytes to the end of a file. -/
def append (disk : Disk) (name : List String) (bytes : List UInt8) : Disk :=
  match disk.entry? name with
  | some (.file contents) => disk.put name (contents ++ bytes)
  | _ => disk

end Disk
end VirtualRadio
