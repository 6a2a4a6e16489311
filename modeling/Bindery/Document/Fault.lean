import Bindery.Decimal.Width
import Bindery.Document.Basic
import Bindery.Name.Error
import Bindery.Text.Quoted

/-!
# Faults of documents

Why a document does not hold what is asked of it.  Most faults are mismatches: `Document.mismatch`
sets what stands there (`Found`) against what should (`Expectation`), and `Fault.message?` words
both as a reader of the text would.  A text that is not well written at all has a fault without a
message.
-/

namespace Bindery

open Decimal

/-- What stands where something else should. -/
inductive Found where
  | null
  | bool (b : Bool)
  | int (i : Int)
  | real (shown : String)
  | str (s : String)
  | list
  | record
  deriving DecidableEq, Repr

/-- The wording of what was found; integers beyond sixty-four bits name their width. -/
def Found.wording : Found → String
  | .null => "null"
  | .bool true => "boolean `true`"
  | .bool false => "boolean `false`"
  | .int i =>
    if -(capacity 63 : Int) ≤ i && i < capacity 64 then s!"integer `{i}`"
    else if i < capacity 127 then s!"integer `{i}` as i128"
    else s!"integer `{i}` as u128"
  | .real shown => s!"floating point `{shown}`"
  | .str s => "string " ++ Text.quote s
  | .list => "sequence"
  | .record => "map"

/-- What should stand in a document. -/
inductive Expectation where
  | string
  | boolean
  | sequence
  | map
  | record (name : String)
  | path
  | tagged (name : String)
  | variant
  | unit
  | stringOrMap
  deriving DecidableEq, Repr

/-- The wording of what was expected. -/
def Expectation.wording : Expectation → String
  | .string => "a string"
  | .boolean => "a boolean"
  | .sequence => "a sequence"
  | .map => "a map"
  | .record name => s!"struct {name}"
  | .path => "path string"
  | .tagged name => s!"internally tagged enum {name}"
  | .variant => "variant identifier"
  | .unit => "unit"
  | .stringOrMap => "string or map"

/-- Why a document does not hold what is asked of it. -/
inductive Fault where
  /-- The text is not well written, or holds more than there is room for. -/
  | unreadable
  /-- Something else stands there. -/
  | mismatch (found : Found) (expected : Expectation)
  /-- A record written as a sequence ends before a field that it needs. -/
  | tooShort (length : Nat) (record : String) (size : Nat)
  /-- A record written as a sequence goes on behind its last field. -/
  | tooLong (length : Nat) (size : Nat)
  /-- A variant written as a record has no member or several. -/
  | notSingleKey
  /-- A variant has a name that is not known. -/
  | unknownVariant (variant : String) (known : List String)
  /-- A field that has no default is absent. -/
  | missingField (field : String)
  /-- A field is given twice. -/
  | duplicateField (field : String)
  /-- A text that should name a class or type does not. -/
  | badName (error : NameError)
  deriving DecidableEq, Repr

namespace Fault

/-- The known variants, as a message lists them. -/
def alternatives (known : List String) : String :=
  match known.map fun name => s!"`{name}`" with
  | [first, second] => s!"expected {first} or {second}"
  | names => "expected one of " ++ ", ".intercalate names

/-- The wording of a fault, if it has one. -/
def message? : Fault → Option String
  | .unreadable => none
  | .mismatch found expected =>
    some s!"invalid type: {found.wording}, expected {expected.wording}"
  | .tooShort length record size =>
    some s!"invalid length {length}, expected struct {record} with {size} elements"
  | .tooLong length size =>
    let noun := if size = 1 then "element" else "elements"
    some s!"invalid length {length}, expected {size} {noun} in sequence"
  | .notSingleKey => some "invalid value: map, expected map with a single key"
  | .unknownVariant variant known =>
    some s!"unknown variant `{variant}`, {alternatives known}"
  | .missingField field => some s!"missing field `{field}`"
  | .duplicateField field => some s!"duplicate field `{field}`"
  | .badName error => some error.message

/-- The wording of a fault. -/
def message (fault : Fault) : String := fault.message?.getD "the text is not well written"

end Fault

/-- The fault of a document that holds something other than expected. -/
def Document.mismatch (expected : Expectation) : Document → Fault
  | .null => .mismatch .null expected
  | .bool b => .mismatch (.bool b) expected
  | .int i => .mismatch (.int i) expected
  | .real shown => .mismatch (.real shown) expected
  | .str s => .mismatch (.str s) expected
  | .list _ => .mismatch .list expected
  | .record _ | .moment | .cutRecord _ _ => .mismatch .record expected
  | .unusable | .torn => .unreadable

end Bindery
