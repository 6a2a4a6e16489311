/-!
# Documents

A `Document` is what a structured text holds: scalars, lists, and records whose members keep their
order.  Manifests and settings are decoded from documents, whatever notation they were written in.

## Texts that break off

A text may stop making sense half-way.  What stands before that place still counts, because the
first fault in the text is the one to report, and that may be a fault of what stands there.  So the
place where a text breaks off is part of the document: a record may be cut, and a value may be torn
or have no value at all.

Two predicates tell how much of a document can be relied on.  `Document.isWhole` says that no text
broke off inside, which is enough to pass over it.  `Document.isUsable` says moreover that every
part has a value, which is needed to keep it for later.
-/

namespace Bindery

/-- What a structured text holds. -/
inductive Document where
  /-- The empty value. -/
  | null
  /-- A truth value. -/
  | bool (b : Bool)
  /-- An integer. -/
  | int (i : Int)
  /-- A number that is no integer, by the text it is shown with. -/
  | real (shown : String)
  /-- A text. -/
  | str (s : String)
  /-- A sequence of values. -/
  | list (items : List Document)
  /-- Named members in the order of the text. -/
  | record (members : List (String × Document))
  /-- A date or a time of day, which counts as a record without members that are known anywhere. -/
  | moment
  /-- A part that is well written and can be passed over, but has no value. -/
  | unusable
  /-- No value can be read here. -/
  | torn
  /-- A record that can be made out only as far as these members go.  `closed` tells whether its text
  goes on to the end of the record all the same. -/
  | cutRecord (members : List (String × Document)) (closed : Bool)
  deriving Repr, Inhabited

namespace Document

mutual

/-- Whether no text broke off inside, so that the part can be passed over. -/
def isWhole : Document → Bool
  | .list items => isWholeList items
  | .record members => isWholeMembers members
  | .torn => false
  | .cutRecord _ closed => closed
  | _ => true

/-- Whether all items are whole. -/
def isWholeList : List Document → Bool
  | [] => true
  | item :: items => item.isWhole && isWholeList items

/-- Whether the values of all members are whole. -/
def isWholeMembers : List (String × Document) → Bool
  | [] => true
  | (_, value) :: members => value.isWhole && isWholeMembers members

end

mutual

/-- Whether every part inside has a value, so that the part can be kept for later. -/
def isUsable : Document → Bool
  | .list items => isUsableList items
  | .record members => isUsableMembers members
  | .unusable | .torn | .cutRecord _ _ => false
  | _ => true

/-- Whether all items are usable. -/
def isUsableList : List Document → Bool
  | [] => true
  | item :: items => item.isUsable && isUsableList items

/-- Whether the values of all members are usable. -/
def isUsableMembers : List (String × Document) → Bool
  | [] => true
  | (_, value) :: members => value.isUsable && isUsableMembers members

end

/-- The value of the first member with a name, with its place among the members. -/
def member? (name : String) : List (String × Document) → Option (Nat × Document)
  | [] => none
  | (key, value) :: members =>
    if key = name then some (0, value)
    else (member? name members).map fun (place, found) => (place + 1, found)

end Document

end Bindery
