import Bindery.Files.Fault
import Bindery.Files.Path

/-!
# File systems

What the library needs of a file system, whichever it is: a `FileSystem` is a monad in which texts
are read and written and single directories are made.  `FileSystem.makeDirectories` makes a
directory with all those around it, by trying from the innermost outwards as long as something
around is missing.
-/

namespace Bindery

/-- The operations of a file system with effects in `m`. -/
class FileSystem (m : Type → Type) where
  /-- The text of a file. -/
  readText : Path → m (Except FileFault String)
  /-- A new directory inside one that exists. -/
  makeDirectory : Path → m (Except FileFault Unit)
  /-- A file with a text, new or in place of what it held before. -/
  writeText : Path → String → m (Except FileFault Unit)
  /-- Whether a directory is there. -/
  isDirectory : Path → m Bool
  /-- Whether a file is there. -/
  isFile : Path → m Bool

namespace FileSystem

variable {m : Type → Type} [Monad m] [FileSystem m]

/-- A new directory, which may be there already. -/
def ensureDirectory (path : Path) : m (Except FileFault Unit) := do
  match ← makeDirectory path with
  | .error .present => if ← isDirectory path then return .ok () else return .error .present
  | result => return result

/-- The first of the paths as a directory; the others are those around it. -/
def makeFirst : List Path → m (Except FileFault Unit)
  | [] => return .ok ()
  | path :: around => do
    if path.text.isEmpty then return .ok ()
    match ← ensureDirectory path with
    | .error .absent =>
      match ← makeFirst around with
      | .error fault => return .error fault
      | .ok () => ensureDirectory path
    | result => return result

/-- A directory with all those around it, of which any may be there already. -/
def makeDirectories (path : Path) : m (Except FileFault Unit) := makeFirst (path :: path.ancestors)

end FileSystem

end Bindery
