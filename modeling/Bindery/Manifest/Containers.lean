import Bindery.Document.Decoder

/-!
# Containers

What is known about the classes, objects and files that declare functions: the kind of each, listed
by name.  `Containers` carry the proof that their names are in order, which makes the list of
entries unique.  So what is known does not depend on the order in which it was put in, as long as no
name was used twice; `Containers.insert` replaces an entry that is there already.
-/

namespace Bindery

/-- What kind of declaration a container is. -/
inductive ContainerKind where
  | plainClass
  | interface
  /-- An object with a name of its own, of which there is one instance. -/
  | object
  /-- The object that accompanies a class. -/
  | companion
  /-- The class that holds the functions of a file. -/
  | file
  deriving DecidableEq, Repr

namespace ContainerKind

/-- The kinds by their names. -/
def names : List (String × ContainerKind) :=
  [("class", .plainClass), ("interface", .interface), ("object", .object), ("companion", .companion),
    ("file_facade", .file)]

/-- The name of a kind. -/
def name : ContainerKind → String
  | .plainClass => "class"
  | .interface => "interface"
  | .object => "object"
  | .companion => "companion"
  | .file => "file_facade"

/-- Objects and companions have a single instance. -/
def isSingle : ContainerKind → Bool
  | .object | .companion => true
  | _ => false

/-- A kind from a document. -/
def decode : Decoder ContainerKind := Decoder.variant names

/-- A kind as a document. -/
def document (k : ContainerKind) : Document := .str k.name

end ContainerKind

/-! ### Entries in order -/

/-- Entries with one more, or with one replaced, in the order of their names. -/
def insertEntry {α : Type} (name : String) (value : α) : List (String × α) → List (String × α)
  | [] => [(name, value)]
  | (other, old) :: entries =>
    if name = other then (name, value) :: entries
    else if name < other then (name, value) :: (other, old) :: entries
    else (other, old) :: insertEntry name value entries

/-- Entries are sorted when each name comes before all later ones. -/
def IsSorted {α : Type} (entries : List (String × α)) : Prop :=
  entries.Pairwise fun a b => a.1 < b.1

instance {α : Type} (entries : List (String × α)) : Decidable (IsSorted entries) :=
  inferInstanceAs (Decidable (entries.Pairwise fun a b => a.1 < b.1))

theorem fst_of_mem_insertEntry {α : Type} {name : String} {value : α} {entries : List (String × α)}
    {entry : String × α} (h : entry ∈ insertEntry name value entries) :
    entry.1 = name ∨ entry ∈ entries := by
  induction entries with
  | nil => simp_all [insertEntry]
  | cons first rest ih =>
    obtain ⟨other, old⟩ := first
    unfold insertEntry at h
    split at h
    · rcases List.mem_cons.mp h with rfl | hmem
      · exact .inl rfl
      · exact .inr (List.mem_cons_of_mem _ hmem)
    · split at h
      · rcases List.mem_cons.mp h with rfl | hmem
        · exact .inl rfl
        · exact .inr hmem
      · rcases List.mem_cons.mp h with rfl | hmem
        · exact .inr (List.mem_cons_self ..)
        · exact (ih hmem).imp id (List.mem_cons_of_mem _)

theorem isSorted_insertEntry {α : Type} (name : String) (value : α) {entries : List (String × α)}
    (h : IsSorted entries) : IsSorted (insertEntry name value entries) := by
  induction entries with
  | nil => simp [insertEntry, IsSorted]
  | cons first rest ih =>
    obtain ⟨other, old⟩ := first
    have hrest := List.pairwise_cons.mp h
    unfold insertEntry
    split
    · next heq =>
      subst heq
      exact List.pairwise_cons.mpr ⟨hrest.1, hrest.2⟩
    · next hne =>
      split
      · next hlt =>
        refine List.pairwise_cons.mpr ⟨fun entry hmem => ?_, h⟩
        rcases List.mem_cons.mp hmem with rfl | hmem
        · exact hlt
        · exact String.lt_trans hlt (hrest.1 entry hmem)
      · next hge =>
        refine List.pairwise_cons.mpr ⟨fun entry hmem => ?_, ih hrest.2⟩
        rcases fst_of_mem_insertEntry hmem with heq | hmem
        · rw [heq]
          have hle : other ≤ name := String.not_lt.mp hge
          apply String.not_le.mp
          intro hle'
          exact hne (String.le_antisymm hle' hle)
        · exact hrest.1 entry hmem

theorem lookup_insertEntry {α : Type} (name : String) (value : α) (entries : List (String × α))
    (other : String) :
    (insertEntry name value entries).lookup other =
      if other = name then some value else entries.lookup other := by
  induction entries with
  | nil =>
    simp only [insertEntry, List.lookup_cons, List.lookup_nil]
    split <;> simp_all
  | cons first rest ih =>
    obtain ⟨key, old⟩ := first
    unfold insertEntry
    split
    · next heq =>
      subst heq
      simp only [List.lookup_cons]
      split <;> simp_all
    · split
      · simp only [List.lookup_cons]
        split <;> simp_all
      · simp only [List.lookup_cons, ih]
        split <;> split <;> simp_all

/-! ### Containers -/

/-- Kinds of containers by name, in the order of the names. -/
structure Containers where
  entries : List (String × ContainerKind) := []
  isSorted : IsSorted entries := by decide

namespace Containers

instance : DecidableEq Containers := fun a b =>
  decidable_of_iff (a.entries = b.entries) (by cases a; cases b; simp)

instance : Repr Containers := ⟨fun c n => reprPrec c.entries n⟩

/-- Containers are their entries. -/
theorem ext_entries {a b : Containers} (h : a.entries = b.entries) : a = b := by
  cases a
  cases b
  simp_all

/-- Nothing is known. -/
def empty : Containers := {}

/-- The containers with one more, or with the kind of one replaced. -/
def insert (c : Containers) (name : String) (kind : ContainerKind) : Containers :=
  ⟨insertEntry name kind c.entries, isSorted_insertEntry name kind c.isSorted⟩

/-- The containers without a name. -/
def erase (c : Containers) (name : String) : Containers :=
  ⟨c.entries.filter (·.1 ≠ name), c.isSorted.filter _⟩

/-- The kind under a name. -/
def get? (c : Containers) (name : String) : Option ContainerKind := c.entries.lookup name

/-- The containers of entries in any order, the last of those with one name counting. -/
def ofList (entries : List (String × ContainerKind)) : Containers :=
  entries.foldl (fun c entry => c.insert entry.1 entry.2) empty

/-- An entry is found under its own name, and all others stay. -/
theorem get?_insert (c : Containers) (name other : String) (kind : ContainerKind) :
    (c.insert name kind).get? other = if other = name then some kind else c.get? other :=
  lookup_insertEntry name kind c.entries other

/-- Containers from a document. -/
def decode : Decoder Containers := fun origin document =>
  (Decoder.table ContainerKind.decode origin document).map ofList

/-- Containers as a document. -/
def document (c : Containers) : Document :=
  .record (c.entries.map fun entry => (entry.1, entry.2.document))

end Containers

end Bindery
