import Bindery.Command.Basic

/-!
# The program

The commands in the file system of the machine.  Its errors are told apart by their numbers as far
as a file tree has a name for them; all others keep their own wording.
-/

namespace Bindery

/-- The cause behind an error of the machine. -/
def FileFault.ofError : IO.Error → FileFault
  | .noFileOrDirectory .. => .absent
  | .alreadyExists .. => .present
  | .inappropriateType _ 20 _ => .notDirectory
  | .inappropriateType _ 21 _ => .isDirectory
  | .inappropriateType none 0 _ => .notDirectory
  | .invalidArgument _ 36 _ => .nameTooLong
  | error => .other (toString error)

/-- An action of the machine on a path, with the cause of its failing. -/
def attempt {α : Type} (p : Path) (action : IO α) : IO (Except FileFault α) := do
  if p.hasStrayEnd then return .error .strayEnd
  try
    return .ok (← action)
  catch error => return .error (.ofError error)

/-- Files of the machine. -/
instance : FileSystem IO where
  readText p := do
    match ← attempt p (IO.FS.readBinFile p.text) with
    | .error fault => return .error fault
    | .ok bytes =>
      match String.fromUTF8? bytes with
      | some text => return .ok text
      | none => return .error .notText
  makeDirectory p := attempt p (IO.FS.createDir p.text)
  writeText p contents := attempt p (IO.FS.writeFile p.text contents)
  isDirectory p := do
    match ← attempt p (System.mkFilePath [p.text]).metadata with
    | .ok found => return found.type == .dir
    | .error _ => return false
  isFile p := do
    match ← attempt p (System.mkFilePath [p.text]).metadata with
    | .ok found => return found.type == .file
    | .error _ => return false

end Bindery

/-- The program. -/
def main (arguments : List String) : IO UInt32 := do
  let response ← Bindery.respond (m := IO) arguments
  IO.print response.output
  IO.eprint response.ending.text
  return response.ending.exitCode.toUInt32
