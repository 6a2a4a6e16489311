import Bindery.Files.System

/-!
# File trees

A `FileTree` is a file system as a value: which files and directories there are, and what the files
hold.  It is what statements about files are made for.

A place is the list of names on the way to it, and the empty list is the directory where one stands.
Names behind `..` or `/` lie outside that directory (`FileTree.isOutside`); nothing is known about
them but that the directories around exist.  `FileTree.find` follows a path to its place.  Every
place before the last has to be a directory, and a name may only be so long.

There are no links, so a file has one place, and no permissions, so whatever is found can be read
and changed.
-/

namespace Bindery

/-- A file or a directory. -/
inductive Entry where
  | directory
  /-- A file that holds a text. -/
  | text (contents : String)
  /-- A file whose bytes are no text. -/
  | bytes (contents : List UInt8)
  deriving DecidableEq, Repr

/-- The files and directories by their places. -/
structure FileTree where
  entries : List (List String × Entry) := []
  deriving DecidableEq, Repr

namespace FileTree

/-- The place at which absolute paths begin. -/
def rootPlace : List String := ["/"]

/-- Whether a place lies beyond the directory where one stands. -/
def isOutside (place : List String) : Bool := place.head? == some ".." || place.head? == some "/"

/-- Whether a place is the directory where one stands, or one of those around it. -/
def isAround (place : List String) : Bool := place.all (· == "..") || place == rootPlace

/-- What is at a place. -/
def get? (t : FileTree) (place : List String) : Option Entry :=
  if isAround place then some .directory else t.entries.lookup place

/-- Entries with one more, or with one replaced. -/
def replace (place : List String) (entry : Entry) :
    List (List String × Entry) → List (List String × Entry)
  | [] => [(place, entry)]
  | (other, old) :: entries =>
    if place = other then (place, entry) :: entries else (other, old) :: replace place entry entries

/-- The tree with an entry at a place. -/
def put (t : FileTree) (place : List String) (entry : Entry) : FileTree :=
  ⟨replace place entry t.entries⟩

/-- The tree without a place and all below it. -/
def remove (t : FileTree) (place : List String) : FileTree :=
  ⟨t.entries.filter fun entry => !place.isPrefixOf entry.1⟩

/-- A place inside which one can go on. -/
def checkDirectory (t : FileTree) (place : List String) : Except FileFault Unit :=
  match t.get? place with
  | some .directory => .ok ()
  | some _ => .error .notDirectory
  | none => .error .absent

/-- The place around a place; there is none around the root. -/
def outward (place : List String) : List String :=
  if place == rootPlace then place
  else if isAround place then place ++ [".."]
  else place.dropLast

/-- How many bytes a name may have. -/
def nameLimit : Nat := 255

/-- How many bytes a path may have, with the one that ends it. -/
def pathLimit : Nat := 4096

/-- The place that names lead to from another place; a dot stays there and two dots lead outward. -/
def follow (t : FileTree) (place : List String) : List String → Except FileFault (List String)
  | [] => .ok place
  | name :: names => do
    t.checkDirectory place
    if name = "." then follow t place names
    else if name = ".." then follow t (outward place) names
    else if nameLimit < name.utf8ByteSize then throw .nameTooLong
    else follow t (place ++ [name]) names

/-- The place at which a path begins. -/
def start (p : Path) : Except FileFault (List String) :=
  if p.hasStrayEnd then .error .strayEnd
  else if p.text.isEmpty then .error .absent
  else if pathLimit ≤ p.text.utf8ByteSize then .error .nameTooLong
  else .ok (if p.isAbsolute then rootPlace else [])

/-- The place that a path leads to. -/
def find (t : FileTree) (p : Path) : Except FileFault (List String) := do
  t.follow (← start p) p.pieces

/-- The directory around the place that a path leads to. -/
def findAround (t : FileTree) (p : Path) : Except FileFault (List String) := do
  let around ← t.follow (← start p) p.pieces.dropLast
  t.checkDirectory around
  return around

/-- What a path leads to. -/
def entryAt? (t : FileTree) (p : Path) : Option Entry :=
  match t.find p with
  | .ok place => t.get? place
  | .error _ => none

/-- The text of a file. -/
def readText (t : FileTree) (p : Path) : Except FileFault String := do
  match t.get? (← t.find p) with
  | none => throw .absent
  | some .directory => throw .isDirectory
  | some (.text contents) => if p.endsInStroke then throw .notDirectory else return contents
  | some (.bytes _) => throw (if p.endsInStroke then .notDirectory else .notText)

/-- The tree with a new directory. -/
def makeDirectory (t : FileTree) (p : Path) : Except FileFault FileTree := do
  let place ← t.find p
  match t.get? place with
  | some _ => throw .present
  | none => return t.put place .directory

/-- The tree with a text in a file.  A path that ends in a stroke asks for a directory, whatever its last
name is. -/
def writeText (t : FileTree) (p : Path) (contents : String) : Except FileFault FileTree := do
  let _ ← t.findAround p
  if p.endsInStroke then throw .isDirectory
  let place ← t.find p
  match t.get? place with
  | some .directory => throw .isDirectory
  | _ => return t.put place (.text contents)

/-- Whether a path leads to a directory. -/
def isDirectory (t : FileTree) (p : Path) : Bool := t.entryAt? p == some .directory

/-- Whether a path leads to a file. -/
def isFile (t : FileTree) (p : Path) : Bool :=
  match t.entryAt? p with
  | some (.text _) | some (.bytes _) => !p.endsInStroke
  | _ => false

end FileTree

/-- What becomes of a tree: it stays as it was where there is a fault. -/
def updateTree (change : FileTree → Except FileFault FileTree) : StateM FileTree (Except FileFault Unit) :=
  fun t =>
    match change t with
    | .ok t => (.ok (), t)
    | .error fault => (.error fault, t)

/-- File trees are a file system. -/
instance : FileSystem (StateM FileTree) where
  readText p := fun t => (t.readText p, t)
  makeDirectory p := updateTree (·.makeDirectory p)
  writeText p contents := updateTree (·.writeText p contents)
  isDirectory p := fun t => (t.isDirectory p, t)
  isFile p := fun t => (t.isFile p, t)

end Bindery
