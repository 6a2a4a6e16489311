import Bindery.Document.Toml.Layout
import Bindery.Document.Toml.Scalar
import Bindery.Document.Toml.Table

/-!
# Reading TOML

Once the lines of a text are known, their terms are given their meaning from the first to the last
(`Term.key`, `Term.document`, `Written.node`), and the first that cannot have one is why the text
holds no document.  The entries below a header make a `Section`, and `readDocument` adds the
sections to the table of the text one after the other.
-/

namespace Bindery.Toml

/-! ### Terms -/

/-- The characters of a key without marks around it. -/
def isBare (c : Char) : Bool := c.isAlphanum || c == '_' || c == '-'

/-- What a term means as a key.  Keys have no tripled marks. -/
def Term.key : Term → Except Obstacle String
  | .word letters =>
    if letters.isEmpty || !letters.all isBare then .error .malformed else .ok (String.ofList letters)
  | .quoted q body =>
    match q.content? body with
    | some content => if q.tripled then .error .malformed else .ok (String.ofList content)
    | none => .error .malformed

/-- What a term means as a value. -/
def Term.document : Term → Except Obstacle Document
  | .word letters =>
    match scalar? letters with
    | some document => .ok document
    | none => .error .malformed
  | .quoted q body =>
    match q.content? body with
    | some content => .ok (.str (String.ofList content))
    | none => .error .malformed

/-! ### Values -/

/-- How many terms a dotted key may have. -/
def keyLimit : Nat := 80

/-- The keys of a dotted key: those on the way, and the last. -/
def keysOf (path : List Term) : Except Obstacle (List String × String) := do
  let keys ← path.mapM Term.key
  if keyLimit < keys.length then throw .deepKey
  return (keys.dropLast, keys.getLastD "")

mutual

/-- What a value means. -/
def Written.node : Written → Except Obstacle Node
  | .plain t => return .value (← t.document)
  | .list items => return .value (.list (← itemsOf items))
  | .table entries => return .table .enclosed (← insertAll entries ⟨.headed, []⟩).members

/-- What the items of a list mean. -/
def itemsOf : List Written → Except Obstacle (List Document)
  | [] => return []
  | item :: items => do
    let node ← item.node
    return node.document :: (← itemsOf items)

/-- A table with entries put in, one after the other. -/
def insertAll : List (List Term × Written) → Table → Except Obstacle Table
  | [], t => return t
  | (path, value) :: entries, t => do
    let (way, key) ← keysOf path
    insertAll entries (← t.insert way key (← value.node))

end

/-! ### Documents -/

/-- A header with the entries below it. -/
structure Section where
  path : List Term
  /-- The header adds a table to a list. -/
  isListed : Bool
  entries : List (List Term × Written)

/-- The entries before the first header, and the sections that headers begin. -/
def sections : List Line → List (List Term × Written) × List Section
  | [] => ([], [])
  | .entry path value :: rest =>
    let (entries, others) := sections rest
    ((path, value) :: entries, others)
  | .header path isListed :: rest =>
    let (entries, others) := sections rest
    ([], ⟨path, isListed, entries⟩ :: others)

/-- The outermost table with a section added.  A table for a list takes its place only when its section is
complete. -/
def Table.addSection (t : Table) (s : Section) : Except Obstacle Table := do
  let (way, key) ← keysOf s.path
  if s.isListed then t.append way key (← insertAll s.entries ⟨.headed, []⟩)
  else t.openTable way key (insertAll s.entries)

/-- The document of a text, whose first character may be a byte-order mark. -/
def readDocument (text : List Char) : Except Obstacle Document :=
  match lines? (if text.head? = some '\uFEFF' then text.tail else text) with
  | none => .error .malformed
  | some ls => do
    let (entries, others) := sections ls
    let whole ← others.foldlM Table.addSection (← insertAll entries ⟨.headed, []⟩)
    return whole.document

end Bindery.Toml
