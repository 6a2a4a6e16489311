import Mathlib.Data.List.Basic
import Mathlib.Data.List.Nodup

/-!
# Looking up entries by name

Members of records, containers and imports are lists of entries, in which the first entry of a name
counts.  Where no name is listed twice, an entry is found exactly where it is listed
(`lookup_eq_some_iff_of_nodup`).
-/

namespace Bindery

section Cons

variable {κ α : Type} [BEq κ] [LawfulBEq κ] {key other : κ}

/-- An entry in front counts for its own key only. -/
theorem lookup_cons_of_ne (value : α) (entries : List (κ × α)) (h : other ≠ key) :
    ((key, value) :: entries).lookup other = entries.lookup other := by
  rw [List.lookup_cons, beq_false_of_ne h]

/-- With one more entry in front it is found under its key, and all others as before. -/
theorem lookup_cons_eq [DecidableEq κ] (value : α) (entries : List (κ × α)) :
    ((key, value) :: entries).lookup other =
      if other = key then some value else entries.lookup other := by
  by_cases h : other = key
  · rw [h, List.lookup_cons_self, if_pos rfl]
  · rw [lookup_cons_of_ne value entries h, if_neg h]

/-- Entries that are made from items are found by finding the item. -/
theorem lookup_map {ι : Type} (name : ι → κ) (value : ι → α) (items : List ι) (key : κ) :
    (items.map fun item => (name item, value item)).lookup key =
      (items.find? (name · == key)).map value := by
  induction items with
  | nil => rfl
  | cons item items ih =>
      rw [List.map_cons, List.lookup_cons, List.find?_cons, ih, BEq.comm]
      cases name item == key <;> rfl

end Cons

variable {α : Type} {entries : List (String × α)} {name : String} {value : α}

/-- What is listed under no name is not found under it. -/
theorem lookup_eq_none_iff_not_mem : entries.lookup name = none ↔ name ∉ entries.map (·.1) := by
  rw [List.lookup_eq_none_iff, List.mem_map]
  simp only [bne_iff_ne, not_exists, not_and]
  exact forall₂_congr fun entry _ => ne_comm

/-- **What is listed is found**, unless a name is listed twice. -/
theorem lookup_eq_some_iff_of_nodup (h : (entries.map (·.1)).Nodup) :
    entries.lookup name = some value ↔ (name, value) ∈ entries := by
  induction entries with
  | nil => simp
  | cons entry entries ih =>
      obtain ⟨other, old⟩ := entry
      obtain ⟨hfresh, hrest⟩ := List.nodup_cons.mp h
      rw [lookup_cons_eq, List.mem_cons, Prod.mk.injEq]
      by_cases hname : name = other
      · subst hname
        have hnot : (name, value) ∉ entries := fun hmem =>
          hfresh (List.mem_map.mpr ⟨_, hmem, rfl⟩)
        simp [hnot, eq_comm]
      · rw [if_neg hname, ih hrest]
        simp [hname]

/-- Entries that are kept by their names are found as before, and the others are not. -/
theorem lookup_filter (keep : String → Bool) (entries : List (String × α)) (name : String) :
    (entries.filter fun entry => keep entry.1).lookup name =
      if keep name then entries.lookup name else none := by
  induction entries with
  | nil => rw [List.filter_nil, List.lookup_nil, ite_self]
  | cons entry entries ih =>
      obtain ⟨other, value⟩ := entry
      rw [List.filter_cons]
      by_cases hname : name = other
      · subst hname
        cases hkeep : keep name <;> simp [ih, hkeep]
      · split <;> simp only [lookup_cons_of_ne _ _ hname, ih]

end Bindery
