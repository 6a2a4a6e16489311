import Bindery.Document.Basic

/-!
# Tables in TOML

A text in TOML builds one table by adding to it.  How a table came about decides what may still be
added, so every `Table` keeps its `Making`: a table that was only passed on the way to another may
get a header of its own later, one that dotted keys made may get more dotted keys, and a table in
braces gets nothing more.

All additions are changes at the end of a path, and `Table.changeAt` is where the path is followed
and where an `Obstacle` on it is found.  What happens at the end is `Table.insert`,
`Table.openTable` or `Table.append`.  Members are kept in the order of their names, which is the
order in which they are decoded.
-/

namespace Bindery.Toml

/-- Why a text holds no document. -/
inductive Obstacle where
  /-- It is not well written, or it says two things about one key. -/
  | malformed
  /-- A dotted key has more terms than there is room for. -/
  | deepKey
  deriving DecidableEq, Repr

/-- How a table came about. -/
inductive Making where
  /-- A header passed it. -/
  | passed
  /-- A dotted key passed it. -/
  | dotted
  /-- It has a header of its own, or it is the outermost table. -/
  | headed
  /-- It stands in braces. -/
  | enclosed
  deriving DecidableEq, Repr

/-- What a key stands for while tables are built. -/
inductive Node where
  /-- A value to which nothing can be added. -/
  | value (document : Document)
  /-- A table with its members. -/
  | table (making : Making) (members : List (String × Node))
  /-- A list of tables, each under a header of its own; only the last may grow. -/
  | tables (earlier : List Document) (last : List (String × Node))

/-- A table while it is built. -/
structure Table where
  making : Making
  members : List (String × Node)

/-! ### Members in order -/

/-- Members with one more, or with one replaced. -/
def put (key : String) (node : Node) : List (String × Node) → List (String × Node)
  | [] => [(key, node)]
  | (other, old) :: members =>
    if key = other then (key, node) :: members
    else if key < other then (key, node) :: (other, old) :: members
    else (other, old) :: put key node members

mutual

/-- What a finished node holds. -/
def Node.document : Node → Document
  | .value document => document
  | .table _ members => .record (documents members)
  | .tables earlier last => .list (earlier ++ [.record (documents last)])

/-- What finished members hold. -/
def documents : List (String × Node) → List (String × Document)
  | [] => []
  | (key, node) :: members => (key, node.document) :: documents members

end

namespace Table

/-- What a finished table holds. -/
def document (t : Table) : Document := .record (documents t.members)

/-- The table with a node put in. -/
def put (t : Table) (key : String) (node : Node) : Table :=
  { t with members := Toml.put key node t.members }

/-- What a key stands for. -/
def get? (t : Table) (key : String) : Option Node := t.members.lookup key

/-- A change of the table at the end of a path.  A header may pass every table that is not in braces, a
dotted key only those that no header made; missing tables are made on the way. -/
def changeAt (making : Making) (change : Table → Except Obstacle Table) :
    List String → Table → Except Obstacle Table
  | [], t => change t
  | key :: path, t =>
    match t.get? key with
    | none => do
      let inner ← changeAt making change path ⟨making, []⟩
      return t.put key (.table inner.making inner.members)
    | some (.table old members) =>
      if old = .enclosed ∨ (making = .dotted ∧ old = .headed) then .error .malformed
      else do
        let inner ← changeAt making change path ⟨old, members⟩
        return t.put key (.table inner.making inner.members)
    | some (.tables earlier last) => do
      let inner ← changeAt making change path ⟨.headed, last⟩
      return t.put key (.tables earlier inner.members)
    | some (.value _) => .error .malformed

/-- The table with a new key and its value.  A dotted key adds only to tables that dotted keys made. -/
def insert (t : Table) (path : List String) (key : String) (node : Node) : Except Obstacle Table :=
  changeAt .dotted (fun around =>
    if (around.making = .dotted) = path.isEmpty then .error .malformed
    else if (around.get? key).isSome then .error .malformed
    else .ok (around.put key node)) path t

/-- The table with a header for a table inside it, which `fill` fills.  A table that a header only passed
keeps its members; any other table that already exists may not get a header again. -/
def openTable (t : Table) (path : List String) (key : String) (fill : Table → Except Obstacle Table) :
    Except Obstacle Table :=
  changeAt .passed (fun around =>
    match around.get? key with
    | none => do
      let opened ← fill ⟨.headed, []⟩
      return around.put key (.table .headed opened.members)
    | some (.table .passed members) => do
      let opened ← fill ⟨.headed, members⟩
      return around.put key (.table .headed opened.members)
    | _ => .error .malformed) path t

/-- The table with a further table in a list of tables, which it may begin. -/
def append (t : Table) (path : List String) (key : String) (added : Table) : Except Obstacle Table :=
  changeAt .passed (fun around =>
    match around.get? key with
    | none => .ok (around.put key (.tables [] added.members))
    | some (.tables earlier last) =>
      .ok (around.put key (.tables (earlier ++ [.record (documents last)]) added.members))
    | _ => .error .malformed) path t

end Table

end Bindery.Toml
