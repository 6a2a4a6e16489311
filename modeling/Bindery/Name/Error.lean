/-!
# Names that cannot be read

A text that should name a class or a type is refused for exactly one reason, its `NameFault`.  The
reason is kept apart from its wording, `NameError.message`, which shows the refused text as well.
-/

namespace Bindery

/-- Why a text names no class and no type. -/
inductive NameFault where
  /-- Two dots meet, or a dot stands at an end. -/
  | emptySegment
  /-- A piece between dots is no identifier. -/
  | notIdentifier (segment : String)
  /-- Two dollar signs meet in a class segment, or one stands at its end. -/
  | emptyNestedName
  /-- Every segment belongs to the package. -/
  | noClassName
  /-- A list of simple names is empty or holds an empty name. -/
  | emptyClassName
  /-- Nothing but blanks stands where a type should. -/
  | emptyType
  /-- The angle brackets do not match. -/
  | unbalancedArguments
  /-- Nothing but blanks stands between two commas of an argument list. -/
  | emptyArgument
  deriving DecidableEq, Repr

/-- The wording of a fault. -/
def NameFault.reason : NameFault → String
  | .emptySegment => "empty name segment"
  | .notIdentifier segment => s!"'{segment}' is not a valid identifier"
  | .emptyNestedName => "empty nested class name"
  | .noClassName => "no class name found (class names start with an uppercase letter)"
  | .emptyClassName => "class names must be non-empty"
  | .emptyType => "empty type"
  | .unbalancedArguments => "unbalanced type arguments"
  | .emptyArgument => "empty type argument"

/-- A refused text and the fault found in it. -/
structure NameError where
  name : String
  fault : NameFault
  deriving DecidableEq, Repr

/-- The wording of a refusal. -/
def NameError.message (e : NameError) : String :=
  s!"invalid type name '{e.name}': {e.fault.reason}"

end Bindery
