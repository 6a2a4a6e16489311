import Bindery.Document.Fault

/-!
# Decoding documents

A `Decoder` asks a document for one kind of value and reports the first fault, in the order of the
text, that keeps the document from holding it.  The decoders here are those for scalars, lists, maps
and names (`Decoder.string`, `Decoder.sequence`, `Decoder.table`, `Decoder.name`), for one of
several names (`Decoder.variant`), and for a record whose other members depend on the value of one
of them (`Decoder.tagged`).  Records with known fields are decoded by their shape, in a module of
its own.

How a variant may be spelled, and what a sequence with too many items means, depends on where the
document comes from: directly from a text, from a text that was kept until its tag was known, or
from settings.  A document cannot know this, so a decoder is told by an `Origin`.
-/

namespace Bindery

/-- Where a document comes from. -/
inductive Origin where
  /-- From a text that is decoded as it is read. -/
  | text
  /-- From a record that was kept whole until its tag was known. -/
  | held
  /-- From settings, which are read as a whole before they are decoded. -/
  | settings
  deriving DecidableEq, Repr

/-- A way to get a value out of a document. -/
abbrev Decoder (α : Type) := Origin → Document → Except Fault α

namespace Decoder

variable {α β : Type}

/-- A text. -/
def string : Decoder String := fun _ document =>
  match document with
  | .str s => .ok s
  | other => .error (other.mismatch .string)

/-- A text that names a path. -/
def path : Decoder String := fun _ document =>
  match document with
  | .str s => .ok s
  | other => .error (other.mismatch .path)

/-- A truth value. -/
def boolean : Decoder Bool := fun _ document =>
  match document with
  | .bool b => .ok b
  | other => .error (other.mismatch .boolean)

/-- A text that names something. -/
def name (read : String → Except NameError α) : Decoder α := fun origin document => do
  match read (← string origin document) with
  | .ok value => return value
  | .error refusal => throw (.badName refusal)

/-- A sequence of values, the first fault among its items counting. -/
def sequence (item : Decoder α) : Decoder (List α) := fun origin document =>
  match document with
  | .list items => items.mapM (item origin)
  | other => .error (other.mismatch .sequence)

/-- A value that may be empty. -/
def nullable (value : Decoder α) : Decoder (Option α) := fun origin document =>
  match document with
  | .null => .ok none
  | other => (value origin other).map some

/-- A record whose keys are not known beforehand. -/
def table (value : Decoder α) : Decoder (List (String × α)) := fun origin document =>
  let entry (member : String × Document) : Except Fault (String × α) :=
    (value origin member.2).map (member.1, ·)
  match document with
  | .record members => members.mapM entry
  | .cutRecord members _ => do
    let _ ← members.mapM entry
    throw .unreadable
  | other => .error (other.mismatch .map)

/-- The value a variant's name stands for. -/
def variantNamed (variants : List (String × α)) (name : String) : Except Fault α :=
  match variants.lookup name with
  | some value => .ok value
  | none => .error (.unknownVariant name (variants.map (·.1)))

/-- What may stand behind the name of a variant that carries nothing. -/
def checkUnit (origin : Origin) (document : Document) : Except Fault Unit :=
  match origin, document with
  | .text, .null | .held, .null | .held, .record [] => .ok ()
  | .settings, .list [] | .settings, .record [] => .ok ()
  | .settings, _ => .error .unreadable
  | _, other => .error (other.mismatch .unit)

/-- One of several variants that carry nothing: its name as a text, or a record with that name as its
only key. -/
def variant (variants : List (String × α)) : Decoder α := fun origin document =>
  let keyed (key : String) (value : Document) : Except Fault α := do
    let chosen ← variantNamed variants key
    checkUnit origin value
    return chosen
  match origin, document with
  | _, .str key => variantNamed variants key
  | _, .record [(key, value)] => keyed key value
  | .text, .record ((key, value) :: _) | .text, .cutRecord ((key, value) :: _) _ => do
    let _ ← keyed key value
    throw .unreadable
  | .held, .record _ => .error .notSingleKey
  | .held, other => .error (other.mismatch .stringOrMap)
  | _, _ => .error .unreadable

/-! ### Tagged records -/

/-- A part is kept for later only when all of it has a value. -/
def hold (document : Document) : Except Fault Document :=
  if document.isUsable then .ok document else .error .unreadable

/-- The value of a tag, which is the name of a variant. -/
def tagValue (variants : List (String × α)) : Document → Except Fault α
  | .str key => variantNamed variants key
  | other => .error (other.mismatch .variant)

/-- The tag of a record with the other members in their order. -/
def splitTag (tag : String) (variants : List (String × α)) (found : Option α) :
    List (String × Document) → Except Fault (Option α × List (String × Document))
  | [] => .ok (found, [])
  | (key, value) :: members =>
    if key = tag then
      if found.isSome then .error (.duplicateField tag)
      else do
        let chosen ← tagValue variants value
        splitTag tag variants (some chosen) members
    else do
      let kept ← hold value
      let (chosen, others) ← splitTag tag variants found members
      return (chosen, (key, kept) :: others)

/-- A record whose member `tag` says what the others are.  The others are kept until the tag is known,
so a bad tag is reported before them.  Written as a sequence, the record has its tag first. -/
def tagged (tag : String) (name : String) (variants : List (String × Decoder α)) : Decoder α :=
  fun _ document =>
    match document with
    | .record members => do
      match ← splitTag tag variants none members with
      | (some decode, others) => decode .held (.record others)
      | (none, _) => throw (.missingField tag)
    | .cutRecord members _ => do
      let _ ← splitTag tag variants none members
      throw .unreadable
    | .list [] => .error (.missingField tag)
    | .list (first :: rest) => do
      let decode ← tagValue variants first
      let kept ← rest.mapM hold
      decode .held (.list kept)
    | other => .error (other.mismatch (.tagged name))

end Decoder

end Bindery
