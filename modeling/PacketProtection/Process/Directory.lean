import PacketProtection.Process.Basic

/-!
# Running over a directory

A directory of files as a value, and the surroundings that it makes for a
program.  A folder is there when a file is in it.

*Paths.*  A path is names with slashes between them.  Each name but the last has
to lead to a folder, and the last one to what is to be read or written.  The way
starts at the directory, or at the root if a slash comes first.  Outside the
directory little is known: there is a folder above each folder, the root has the
folders that every system has, and some devices are there.  No other file is, and
what is written to a file outside is not kept.

*Ends of paths.*  A path that ends in a slash means a folder.  So it names no
file that could be read, and nothing can be written there, whether it exists or
not.

*Limits.*  Names and paths are limited in their number of bytes.  The limit of a
path counts before anything is looked up, the limit of a name when it is.
-/

namespace PacketProtection

/-- Files by their path, a list of names. -/
structure Directory where
  files : List (List String × Bytes)
deriving DecidableEq, Repr

namespace Directory

/-! ## Looking up -/

/-- A folder. -/
inductive Spot where
  /-- In the directory, by the path from there. -/
  | inside (path : List String)
  /-- Above the directory. -/
  | above
  /-- Below the root, by the path from there. -/
  | system (path : List String)
deriving DecidableEq, Repr

/-- A device that every system has. -/
inductive Device where
  /-- Holds nothing, whatever is written to it. -/
  | null
  /-- Has no room. -/
  | full
  /-- What is put in, which is nothing. -/
  | input
  /-- Where results are printed. -/
  | output
  /-- Where reports are printed. -/
  | errors
deriving DecidableEq, Repr

/-- The device of a name. -/
def Device.ofName? (name : String) : Option Device :=
  [("null", .null), ("full", .full), ("stdin", .input), ("stdout", .output),
   ("stderr", .errors)].lookup name

/-- What a path leads to. -/
inductive Place where
  | folder (spot : Spot)
  | file (path : List String)
  | device (device : Device)
  /-- Nothing, but a file of this path could be created. -/
  | vacant (path : List String)
  /-- Nothing, but a file could be created outside the directory. -/
  | vacantOutside
deriving DecidableEq, Repr

/-- The greatest number of bytes in a name. -/
def nameLimit : Nat := 255

/-- The greatest number of bytes in a path. -/
def pathLimit : Nat := 4095

/-- The folders at the root of every system. -/
def rootFolders : List String :=
  ["bin", "boot", "dev", "etc", "home", "lib", "media", "mnt", "opt", "proc", "root", "run",
   "sbin", "srv", "sys", "tmp", "usr", "var"]

/-- The folder around a folder; the root is around itself. -/
def Spot.parent : Spot → Spot
  | .inside [] => .above
  | .inside path => .inside path.dropLast
  | .above => .above
  | .system path => .system path.dropLast

/-- A directory of files in no folders. -/
def ofFiles (files : List (String × Bytes)) : Directory :=
  ⟨files.map fun (name, contents) => (name.splitOn "/", contents)⟩

/-- The contents of a file. -/
def contents? (directory : Directory) (path : List String) : Option Bytes :=
  directory.files.lookup path

/-- Is a file in a folder or below it? -/
def hasFolder (directory : Directory) (path : List String) : Bool :=
  directory.files.any fun (other, _) => path.isPrefixOf other && other ≠ path

/-- What a name means in a folder. -/
def lookUp (directory : Directory) (spot : Spot) (name : String) : Except FileFault Place :=
  if name = "." then .ok (.folder spot)
  else if name = ".." then .ok (.folder spot.parent)
  else if nameLimit < name.utf8ByteSize then .error .nameTooLong
  else
    match spot with
    | .inside path =>
        let path := path ++ [name]
        if (directory.contents? path).isSome then .ok (.file path)
        else if directory.hasFolder path then .ok (.folder (.inside path))
        else .ok (.vacant path)
    | .above => .ok .vacantOutside
    | .system path =>
        if path = [] && rootFolders.contains name then .ok (.folder (.system [name]))
        else if path = ["dev"] then .ok (((Device.ofName? name).map .device).getD .vacantOutside)
        else .ok .vacantOutside

/-- The folder that names lead to from a folder. -/
def enter (directory : Directory) : Spot → (names : List String) → Except FileFault Spot
  | spot, [] => .ok spot
  | spot, name :: names => do
      match ← directory.lookUp spot name with
      | .folder next => directory.enter next names
      | .file _ | .device _ => .error .notADirectory
      | .vacant _ | .vacantOutside => .error .notFound

/-- The folder in which the last name of a path is to be looked up, and the name.
A path of slashes has none. -/
def approach (directory : Directory) (path : String) : Except FileFault (Spot × Option String) := do
  if path.isEmpty then
    throw .notFound
  if pathLimit < path.utf8ByteSize then
    throw .nameTooLong
  let names := (path.splitOn "/").filter (· ≠ "")
  let start := if path.startsWith "/" then Spot.system [] else .inside []
  return (← directory.enter start names.dropLast, names.getLast?)

/-- What a path leads to. -/
def locate (directory : Directory) (path : String) : Except FileFault Place := do
  match ← directory.approach path with
  | (spot, none) => return .folder spot
  | (spot, some name) => directory.lookUp spot name

/-! ## Reading and writing -/

/-- Reads a file. -/
def read (directory : Directory) (path : String) : Except FileFault Bytes := do
  match ← directory.locate path with
  | .folder _ => throw .isADirectory
  | .vacant _ | .vacantOutside => throw .notFound
  | .file name =>
      if path.endsWith "/" then throw .notADirectory
      else return (directory.contents? name).getD []
  | .device _ => if path.endsWith "/" then throw .notADirectory else return []

/-- The directory with a file of this path. -/
def put (directory : Directory) (path : List String) (contents : Bytes) : Directory :=
  ⟨directory.files.filter (fun (other, _) => other ≠ path) ++ [(path, contents)]⟩

/-- What a file to be written is: it exists, or could be created. -/
def target (directory : Directory) (path : String) : Except FileFault Place := do
  match ← directory.approach path with
  | (_, none) => throw .isADirectory
  | (spot, some name) =>
      if path.endsWith "/" then
        throw .isADirectory
      match ← directory.lookUp spot name with
      | .folder _ => throw .isADirectory
      | place => return place

/-- Does a path lead to a folder? -/
def isFolder (directory : Directory) (path : String) : Bool :=
  match directory.locate path with
  | .ok (.folder _) => true
  | _ => false

/-- The files that are not the same in an earlier directory. -/
def changesSince (directory before : Directory) : List (String × Bytes) :=
  (directory.files.filter fun (path, contents) => before.contents? path ≠ some contents).map
    fun (path, contents) => ("/".intercalate path, contents)

end Directory

/-! ## Sessions -/

/-- A run over a directory: its files, what was printed, and the random bytes. -/
structure Session where
  directory : Directory
  printed : String := ""
  reported : String := ""
  /-- The random bytes, and how many were drawn. -/
  random : Nat → UInt8
  drawn : Nat := 0

namespace Session

/-- Writes a file or to a device. -/
def writeFile (session : Session) (path : String) (contents : Bytes) :
    Except FileFault Session := do
  let text := (String.fromUTF8? ⟨contents.toArray⟩).getD ""
  match ← session.directory.target path with
  | .file path | .vacant path =>
      return { session with directory := session.directory.put path contents }
  | .device .full => if contents.isEmpty then return session else throw .noSpace
  | .device .output => return { session with printed := session.printed ++ text }
  | .device .errors => return { session with reported := session.reported ++ text }
  | _ => return session

/-- What the acts of a program do in a session.  A timed text stands behind a
mark. -/
def surroundings (mark : String) : Process.Surroundings (StateM Session) where
  readFile path := do return (← get).directory.read path
  writeFile path contents := do
    match (← get).writeFile path contents with
    | .ok session =>
        set session
        return .ok ()
    | .error fault => return .error fault
  isDirectory path := do return (← get).directory.isFolder path
  random count := do
    let session ← get
    set { session with drawn := session.drawn + count }
    return ⟨(List.range count).map fun i => session.random (session.drawn + i), by simp⟩
  print text := modify fun session => { session with printed := session.printed ++ text }
  report timed text := modify fun session =>
    { session with reported := session.reported ++ (if timed then mark else "") ++ text }

/-- Runs a program in a session. -/
def run {α : Type} (mark : String) (program : Process α) (session : Session) : α × Session :=
  StateT.run (program.run (surroundings mark)) session

end Session

end PacketProtection
