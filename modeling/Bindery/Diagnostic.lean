import Bindery.Document.Shape

/-!
# Diagnostics

What a run has to say about single declarations.  A `Diagnostic` names the declaration, has a
`Severity`, and is shown as one line.  A `Tally` counts them by severity.
-/

namespace Bindery

/-- How bad a diagnostic is. -/
inductive Severity where
  | warning
  | error
  deriving DecidableEq, Repr

namespace Severity

/-- The severities by their names. -/
def names : List (String × Severity) := [("warning", .warning), ("error", .error)]

/-- The name of a severity. -/
def name : Severity → String
  | .warning => "warning"
  | .error => "error"

/-- A severity from a document. -/
def decode : Decoder Severity := Decoder.variant names

/-- A severity as a document. -/
def document (s : Severity) : Document := .str s.name

end Severity

/-- A message about a declaration. -/
structure Diagnostic where
  severity : Severity
  message : String
  /-- The display name of the declaration. -/
  location : String
  deriving DecidableEq, Repr

namespace Diagnostic

/-- A message about something that keeps a declaration from getting its module. -/
def error (location message : String) : Diagnostic := ⟨.error, message, location⟩

/-- Whether the diagnostic is an error. -/
def isError (d : Diagnostic) : Bool := d.severity == .error

/-- The line that shows a diagnostic. -/
def text (d : Diagnostic) : String := s!"{d.location}: {d.severity.name}: {d.message}"

/-- The fields of a diagnostic. -/
def shape : Shape Diagnostic :=
  (((Shape.done Diagnostic.mk).required "severity" Severity.decode).required "message"
    Decoder.string).required "location" Decoder.string

/-- A diagnostic from a document. -/
def decode : Decoder Diagnostic := shape.decode "Diagnostic"

/-- A diagnostic as a document. -/
def document (d : Diagnostic) : Document :=
  .record [("severity", d.severity.document), ("message", .str d.message), ("location", .str d.location)]

end Diagnostic

/-- How many diagnostics of each severity were reported. -/
structure Tally where
  errors : Nat := 0
  warnings : Nat := 0
  deriving DecidableEq, Repr

/-- The tally after one more diagnostic. -/
def Tally.count (t : Tally) (d : Diagnostic) : Tally :=
  match d.severity with
  | .error => { t with errors := t.errors + 1 }
  | .warning => { t with warnings := t.warnings + 1 }

end Bindery
