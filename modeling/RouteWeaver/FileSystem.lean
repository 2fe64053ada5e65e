import RouteWeaver.FileSystem.Path

/-!
Files and directories as a value. Operations follow a path piece by piece and fail with the first
obstacle; a directory that has been made stays when a later step fails.
-/

namespace RouteWeaver

/-- The names on the way from the root, innermost first. -/
abbrev Location := List String

inductive Entry where
  | file (content : ByteArray)
  | directory
deriving Inhabited

instance : DecidableEq Entry
  | .file a, .file b =>
    decidable_of_iff (a.data = b.data)
      ⟨fun same => congrArg Entry.file (ByteArray.ext same), fun same =>
        congrArg ByteArray.data (Entry.file.inj same)⟩
  | .directory, .directory => .isTrue rfl
  | .file _, .directory | .directory, .file _ => .isFalse nofun

structure FileSystem where
  /-- At most one entry a location; the root needs none. -/
  entries : List (Location × Entry) := []
  workingDirectory : Location := []
deriving Inhabited

inductive FileFault where
  | absent
  | occupied
  | notDirectory
  | isDirectory
  | notText
deriving DecidableEq, Repr, Inhabited

def FileFault.message : FileFault → String
  | absent => "No such file or directory (os error 2)"
  | occupied => "File exists (os error 17)"
  | notDirectory => "Not a directory (os error 20)"
  | isDirectory => "Is a directory (os error 21)"
  | notText => "stream did not contain valid UTF-8"

structure FileError where
  path : String
  fault : FileFault
deriving DecidableEq, Repr, Inhabited

def FileError.message (e : FileError) : String :=
  "I/O error on " ++ e.path ++ ": " ++ e.fault.message

namespace FileSystem

def entry? (fs : FileSystem) (place : Location) : Option Entry :=
  if place = [] then some .directory else fs.entries.lookup place

/-- Puts an entry in the place of whatever is there. -/
def insert (fs : FileSystem) (place : Location) (e : Entry) : FileSystem :=
  { fs with entries := fs.entries.filter (·.1 ≠ place) ++ [(place, e)] }

/-- Where a piece leads from a directory. The root is its own parent. -/
def step (place : Location) (piece : String) : Location :=
  if Path.staysPut piece then place else if piece = ".." then place.tail else piece :: place

/-- Where pieces lead. All but the last have to lead to directories. -/
def follow (fs : FileSystem) : Location → List String → Except FileFault Location
  | place, [] => .ok place
  | place, piece :: rest =>
    match fs.entry? place with
    | some .directory => fs.follow (step place piece) rest
    | some (.file _) => .error .notDirectory
    | none => .error .absent

def start (fs : FileSystem) (p : Path) : Location :=
  if p.fromRoot then [] else fs.workingDirectory

/-- Where a path leads. The empty path leads nowhere. -/
def locate (fs : FileSystem) (p : Path) : Except FileFault Location :=
  if p.text = "" then .error .absent else fs.follow (fs.start p) p.pieces

def find (fs : FileSystem) (p : Path) : Except FileFault Entry := do
  match fs.entry? (← fs.locate p) with
  | some e => return e
  | none => throw .absent

def isDirectory (fs : FileSystem) (p : Path) : Bool :=
  match fs.find p with
  | .ok .directory => true
  | _ => false

def read (fs : FileSystem) (p : Path) : Except FileFault ByteArray := do
  match ← fs.find p with
  | .file content => return content
  | .directory => throw .isDirectory

def readText (fs : FileSystem) (p : Path) : Except FileFault String := do
  match String.fromUTF8? (← fs.read p) with
  | some text => return text
  | none => throw .notText

/-- The last piece that is not empty, whether separators follow it, and the pieces before. -/
structure Target where
  before : List String
  name : String
  isClosed : Bool
deriving Repr

def target? (p : Path) : Option Target :=
  match p.pieces.reverse.dropWhile (· = "") with
  | [] => none
  | name :: before => some ⟨before.reverse, name, p.pieces.getLast? = some ""⟩

def within (fs : FileSystem) (p : Path) (t : Target) : Except FileFault Location := do
  let place ← fs.follow (fs.start p) t.before
  match fs.entry? place with
  | some .directory => return place
  | some (.file _) => throw .notDirectory
  | none => throw .absent

def isName (piece : String) : Bool :=
  piece ≠ "." && piece ≠ ".."

def write (fs : FileSystem) (p : Path) (content : ByteArray) : Except FileFault FileSystem :=
  if p.text = "" then .error .absent
  else
    match target? p with
    | none => .error .isDirectory
    | some t => do
      let place ← fs.within p t
      if t.isClosed || !isName t.name then throw .isDirectory
      match fs.entry? (t.name :: place) with
      | some .directory => throw .isDirectory
      | _ => return fs.insert (t.name :: place) (.file content)

def makeDirectory (fs : FileSystem) (p : Path) : Except FileFault FileSystem :=
  if p.text = "" then .error .absent
  else
    match target? p with
    | none => .error .occupied
    | some t => do
      let place ← fs.within p t
      if !isName t.name || (fs.entry? (t.name :: place)).isSome then throw .occupied
      return fs.insert (t.name :: place) .directory

/-- A directory that is there already counts as made. -/
def granting (fs : FileSystem) (p : Path) (fault : FileFault) : FileSystem × Option FileFault :=
  (fs, if fs.isDirectory p then none else some fault)

/-- Makes a directory and those around it that are missing; the pieces come innermost first. -/
def makeDirectoriesFrom (fs : FileSystem) (fromRoot : Bool) :
    List String → FileSystem × Option FileFault
  | [] => (fs, none)
  | piece :: outer =>
    let p : Path := ⟨fromRoot, (piece :: outer).reverse⟩
    match fs.makeDirectory p with
    | .ok made => (made, none)
    | .error .absent =>
      match fs.makeDirectoriesFrom fromRoot outer with
      | (fs, some fault) => (fs, some fault)
      | (fs, none) =>
        match fs.makeDirectory p with
        | .ok made => (made, none)
        | .error fault => fs.granting p fault
    | .error fault => fs.granting p fault

def makeDirectories (fs : FileSystem) (p : Path) : FileSystem × Option FileFault :=
  fs.makeDirectoriesFrom p.fromRoot p.pieces.reverse

def directoryOf? (p : Path) : Option Path :=
  p.parent?.filter fun d => d.text ≠ ""

def deliver (fs : FileSystem) (path : String) (content : ByteArray) :
    FileSystem × Option FileError :=
  let p := Path.ofText path
  let (fs, fault) :=
    match directoryOf? p with
    | some d => ((fs.makeDirectories d).1, (fs.makeDirectories d).2.map (FileError.mk d.text))
    | none => (fs, none)
  match fault with
  | some e => (fs, some e)
  | none =>
    match fs.write p content with
    | .ok written => (written, none)
    | .error fault => (fs, some ⟨path, fault⟩)

end FileSystem
end RouteWeaver
