import Bindery.Document.Decoder
import Bindery.Failure
import Bindery.Text.Split

/-!
# Levels of the log

How much a run tells about itself, from everything to nothing.  A `Level` is named twice: exactly,
in settings, and by what a user writes, which `Level.ofText` takes in any case and with one more
word for warnings.
-/

namespace Bindery

/-- The levels of the log, each telling less than those before it. -/
inductive Level where
  | trace
  | debug
  | info
  | warn
  | error
  | off
  deriving DecidableEq, Repr

namespace Level

/-- The levels by their names. -/
def names : List (String × Level) :=
  [("trace", .trace), ("debug", .debug), ("info", .info), ("warn", .warn), ("error", .error),
    ("off", .off)]

/-- The name of a level in settings and in filters. -/
def name : Level → String
  | .trace => "trace"
  | .debug => "debug"
  | .info => "info"
  | .warn => "warn"
  | .error => "error"
  | .off => "off"

/-- The label of a level in output. -/
def label (l : Level) : String := String.ofList (l.name.toList.map Char.toUpper)

/-- The place of a level in the order of the levels. -/
def rank : Level → Nat
  | .trace => 0
  | .debug => 1
  | .info => 2
  | .warn => 3
  | .error => 4
  | .off => 5

/-- The level that a text names, in any case and with blanks around it. -/
def ofText (text : String) : Except SettingsFault Level :=
  let written := String.ofList ((Text.trim text.toList).map Char.toLower)
  if written = "warning" then .ok .warn
  else
    match names.lookup written with
    | some level => .ok level
    | none => .error (.unknownLevel written)

/-- The level of an event, if events can have it: nothing is logged at the level that logs nothing. -/
def event? : Level → Option Level
  | .off => none
  | level => some level

/-- A level from a document. -/
def decode : Decoder Level := Decoder.variant names

/-- A level as a document. -/
def document (l : Level) : Document := .str l.name

end Level

end Bindery
