import Bindery.Document.Decoder

/-!
# Shapes of records

A record with known fields is described by its `Shape`: what is built from the fields, and for each
field, in the order of declaration, its name, its decoder and what stands for it when it is absent.
`Shape.decode` reads from one shape both a record written with names, in any order, and one written
as a sequence of its fields.

The difficulty is the order of faults.  Every field is decoded on its own and its fault carries its
place in the text, so that the earliest can be reported.  Fields that are missing count as standing
behind all that are present, and among each other in the order of declaration; a member that is
given twice or cannot be passed over (`Shape.stray?`) has a place as well.
-/

namespace Bindery

/-- The fields of a record, in the order of declaration, and what is built from them. -/
inductive Shape : Type → Type 1 where
  /-- No field is left. -/
  | done {α : Type} (value : α) : Shape α
  /-- One more field, with the value that stands for it when it is absent. -/
  | field {α β : Type} (before : Shape (β → α)) (name : String) (absent : Option β)
      (read : Decoder β) : Shape α

/-- A value, or a fault with its place in the text. -/
abbrev Placed (α : Type) := Except (Nat × Fault) α

/-- A function applied to its argument; of two faults the earlier counts. -/
def Placed.apply {α β : Type} : Placed (β → α) → Placed β → Placed α
  | .ok f, .ok x => .ok (f x)
  | .ok _, .error fault => .error fault
  | .error fault, .ok _ => .error fault
  | .error first, .error second => .error (if second.1 < first.1 then second else first)

/-- A value unless a fault was found; of two faults the earlier counts. -/
def Placed.unless {α : Type} (result : Placed α) (found : Option (Nat × Fault)) : Placed α :=
  match found with
  | none => result
  | some fault => Placed.apply (.error fault : Placed (α → α)) result

namespace Shape

variable {α β : Type}

/-- A further field that has to be present. -/
def required (before : Shape (β → α)) (name : String) (read : Decoder β) : Shape α :=
  .field before name none read

/-- A further field that may be absent. -/
def optional (before : Shape (β → α)) (name : String) (absent : β) (read : Decoder β) : Shape α :=
  .field before name (some absent) read

/-- How many fields there are. -/
def size : {α : Type} → Shape α → Nat
  | _, .done _ => 0
  | _, .field before _ _ _ => before.size + 1

/-- The names of the fields. -/
def names : {α : Type} → Shape α → List String
  | _, .done _ => []
  | _, .field before name _ _ => before.names ++ [name]

/-- What the fields found by name among the members give. -/
def fromMembers (origin : Origin) (members : List (String × Document)) :
    {α : Type} → Shape α → Placed α
  | _, .done value => .ok value
  | _, .field before name absent read =>
    let value :=
      match Document.member? name members, absent with
      | some (place, document), _ => (read origin document).mapError ((place, ·))
      | none, some value => .ok value
      | none, none => .error (members.length + 1, .missingField name)
    Placed.apply (before.fromMembers origin members) value

/-- What the fields found by position among the items give. -/
def fromItems (record : String) (size : Nat) (origin : Origin) (items : List Document) :
    {α : Type} → Shape α → Placed α
  | _, .done value => .ok value
  | _, .field before _ absent read =>
    let place := before.size
    let value :=
      match items[place]?, absent with
      | some document, _ => (read origin document).mapError ((place, ·))
      | none, some value => .ok value
      | none, none => .error (place, .tooShort place record size)
    Placed.apply (before.fromItems record size origin items) value

/-- The first member that repeats a known field, or that cannot be passed over. -/
def stray? (known seen : List String) (place : Nat) :
    List (String × Document) → Option (Nat × Fault)
  | [] => none
  | (key, value) :: members =>
    if known.contains key then
      if seen.contains key then some (place, .duplicateField key)
      else stray? known (key :: seen) (place + 1) members
    else if value.isWhole then stray? known seen (place + 1) members
    else some (place, .unreadable)

/-- What the items behind the last field mean: settings pass over them. -/
def excess? (size : Nat) (origin : Origin) (items : List Document) : Option (Nat × Fault) :=
  if items.length ≤ size then none
  else
    match origin with
    | .text => some (size, .unreadable)
    | .held => some (size, .tooLong items.length size)
    | .settings => none

/-- The decoder of a record. -/
def decode (name : String) (shape : Shape α) : Decoder α := fun origin document =>
  let settle (placed : Placed α) : Except Fault α := placed.mapError (·.2)
  let named (members : List (String × Document)) : Placed α :=
    (shape.fromMembers origin members).unless (stray? shape.names [] 0 members)
  match document with
  | .record members => settle (named members)
  | .moment => settle (named [])
  | .cutRecord members _ =>
    settle ((named members).unless (some (members.length, .unreadable)))
  | .list items =>
    settle ((shape.fromItems name shape.size origin items).unless
      (excess? shape.size origin items))
  | other => .error (other.mismatch (.record name))

end Shape

end Bindery
