import Bindery.Files.System
import Bindery.Run

/-!
# Writing artifacts

Every artifact goes into a file below a root, in directories for its package; its place there is
`Artifact.relativePath`.  A file that holds the right text already is left alone, so that whatever
depends on it is not rebuilt.  `writeArtifacts` goes through the artifacts in order and stops at the
first that cannot be written; its report tells the written ones from those that were left alone.
-/

namespace Bindery

/-- The place of an artifact below the root: directories for its package, then the file. -/
def Artifact.relativePath (a : Artifact) : Path :=
  let segments := (Text.splitOn '.' a.package.toList).filter fun segment => !segment.isEmpty
  ((segments.map String.ofList).foldl Path.push .here).push a.fileName

/-- Which files were written, and which held the right text already. -/
structure WriteReport where
  written : List Path := []
  unchanged : List Path := []
  deriving DecidableEq, Repr

/-- Why an artifact could not be written. -/
inductive WriteFault where
  /-- A directory could not be made. -/
  | directory (path : Path) (fault : FileFault)
  /-- A file could not be written. -/
  | file (path : Path) (fault : FileFault)
  deriving DecidableEq, Repr

namespace WriteFault

/-- The number of a kind of fault. -/
def code : WriteFault → Nat
  | .directory _ _ => 3
  | .file _ _ => 4

/-- The wording of a fault. -/
def message : WriteFault → String
  | .directory path fault => s!"failed to create directory {path.text}: {fault.message}"
  | .file path fault => s!"failed to write {path.text}: {fault.message}"

/-- What caused a fault. -/
def cause : WriteFault → FileFault
  | .directory _ fault | .file _ fault => fault

end WriteFault

section

variable {m : Type → Type} [Monad m] [FileSystem m]

/-- The directory around a path, with all those around it. -/
def makeParent (path : Path) : m (Except WriteFault Unit) :=
  match path.parent? with
  | none => return .ok ()
  | some around => do
    match ← FileSystem.makeDirectories around with
    | .ok () => return .ok ()
    | .error fault => return .error (.directory around fault)

/-- A text in a file, and whether it had to be written. -/
def placeText (path : Path) (contents : String) : m (Except WriteFault Bool) := do
  match ← FileSystem.readText path with
  | .ok existing => if existing = contents then return .ok false else write
  | .error _ => write
where
  /-- The text written into the file. -/
  write : m (Except WriteFault Bool) := do
    match ← makeParent path with
    | .error fault => return .error fault
    | .ok () =>
      match ← FileSystem.writeText path contents with
      | .ok () => return .ok true
      | .error fault => return .error (.file path fault)

/-- The report with one more file. -/
def WriteReport.add (report : WriteReport) (path : Path) (isWritten : Bool) : WriteReport :=
  if isWritten then { report with written := path :: report.written }
  else { report with unchanged := path :: report.unchanged }

/-- The artifacts written below a root, one after the other until one cannot be. -/
def writeArtifacts (root : Path) : List Artifact → m (Except WriteFault WriteReport)
  | [] => return .ok {}
  | a :: rest => do
    let path := root.push a.relativePath.text
    match ← placeText path a.contents with
    | .error fault => return .error fault
    | .ok isWritten =>
      match ← writeArtifacts root rest with
      | .error fault => return .error fault
      | .ok report => return .ok (report.add path isWritten)

end

end Bindery
