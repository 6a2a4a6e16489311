/-!
# Faults of files

Why a file or directory could not be read, made or written.  The causes that a file tree knows are
listed one by one, and a world that has others words them itself.
-/

namespace Bindery

/-- Why something could not be done with a path. -/
inductive FileFault where
  /-- Nothing is there. -/
  | absent
  /-- Something is there already. -/
  | present
  /-- A file stands where a directory is needed. -/
  | notDirectory
  /-- A directory stands where a file is needed. -/
  | isDirectory
  /-- A name, or a whole path, is longer than names and paths may be. -/
  | nameTooLong
  /-- A path contains the character that ends paths. -/
  | strayEnd
  /-- The bytes of a file are no text. -/
  | notText
  /-- Any other cause, in the words of the system. -/
  | other (wording : String)
  deriving DecidableEq, Repr

/-- The wording of a cause, with the number that the system gives it. -/
def FileFault.message : FileFault → String
  | .absent => "No such file or directory (os error 2)"
  | .present => "File exists (os error 17)"
  | .notDirectory => "Not a directory (os error 20)"
  | .isDirectory => "Is a directory (os error 21)"
  | .nameTooLong => "File name too long (os error 36)"
  | .strayEnd => "file name contained an unexpected NUL byte"
  | .notText => "stream did not contain valid UTF-8"
  | .other wording => wording

end Bindery
