import Bindery.Files.Tree
import Bindery.Proofs.Result
import Bindery.Proofs.Text.Splitting
import Mathlib.Data.List.Induction

/-!
# Paths of plain pieces

A path is a text, and what it leads to depends on how the text is taken apart again: a piece may be
absolute, lead outward or lead nowhere.  A *plain* piece does none of this.  So a path put together
from plain pieces is taken apart into these pieces (`Path.pieces_push`), and a file below a
directory stays there: in whatever tree the path is followed, it leads from the place of the
directory to the place that the pieces name inside it (`FileTree.find_push`).
-/

namespace Bindery

open Text

namespace Path

/-! ### Plain pieces -/

/-- A plain piece names a file or directory inside the one that it is looked for in. -/
structure IsPlain (piece : List Char) : Prop where
  nonempty : piece ≠ []
  noStroke : '/' ∉ piece
  notHere : piece ≠ ['.']
  notOutward : piece ≠ ['.', '.']

instance (piece : List Char) : Decidable (IsPlain piece) :=
  decidable_of_iff (piece ≠ [] ∧ '/' ∉ piece ∧ piece ≠ ['.'] ∧ piece ≠ ['.', '.'])
    ⟨fun h => ⟨h.1, h.2.1, h.2.2.1, h.2.2.2⟩,
      fun h => ⟨h.nonempty, h.noStroke, h.notHere, h.notOutward⟩⟩

/-- Plain pieces joined by strokes are taken apart into the pieces. -/
theorem splitOn_plain {pieces : List String} (hne : pieces ≠ [])
    (h : ∀ piece ∈ pieces, IsPlain piece.toList) :
    splitOn '/' (joinNames '/' pieces).toList = pieces.map String.toList :=
  splitOn_joinNames hne fun piece hpiece => (h piece hpiece).noStroke

theorem joinNames_ne_empty {pieces : List String} (hne : pieces ≠ [])
    (h : ∀ piece ∈ pieces, IsPlain piece.toList) : joinNames '/' pieces ≠ "" := by
  intro hempty
  have hsplit := splitOn_plain hne h
  obtain ⟨first, rest, rfl⟩ := List.exists_cons_of_ne_nil hne
  rw [hempty, List.map_cons] at hsplit
  exact (h first (by simp)).nonempty (List.cons.inj hsplit).1.symm

/-- A path of plain pieces does not begin with a stroke. -/
theorem not_isAbsolute_joinNames {pieces : List String}
    (h : ∀ piece ∈ pieces, IsPlain piece.toList) :
    (Path.mk (joinNames '/' pieces)).isAbsolute = false := by
  cases pieces with
  | nil => rfl
  | cons first rest =>
      have hsplit := splitOn_plain (List.cons_ne_nil first rest) h
      rw [isAbsolute]
      -- before a stroke at the beginning stands an empty piece
      cases htext : (joinNames '/' (first :: rest)).toList with
      | nil => rfl
      | cons c text =>
          rw [List.head?_cons]
          refine beq_eq_false_iff_ne.mpr fun hc => ?_
          cases hc
          rw [htext, splitOn, if_pos rfl, List.map_cons] at hsplit
          exact (h first (by simp)).nonempty (List.cons.inj hsplit).1.symm

/-- A path of plain pieces does not end with a stroke. -/
theorem not_endsInStroke_joinNames {pieces : List String}
    (h : ∀ piece ∈ pieces, IsPlain piece.toList) :
    (Path.mk (joinNames '/' pieces)).endsInStroke = false := by
  rw [endsInStroke]
  refine beq_eq_false_iff_ne.mpr fun hlast => ?_
  obtain ⟨before, htext⟩ := List.getLast?_eq_some_iff.mp hlast
  cases pieces with
  | nil => cases hlast
  | cons first rest =>
      have hsplit := splitOn_plain (List.cons_ne_nil first rest) h
      -- behind a stroke at the end stands an empty piece
      rw [htext, splitOn_append_cons] at hsplit
      have hempty : [] ∈ (first :: rest).map String.toList := by
        rw [← hsplit]
        simp [splitOn]
      obtain ⟨piece, hpiece, hnil⟩ := List.mem_map.mp hempty
      exact (h piece hpiece).nonempty hnil

/-- A plain piece is no absolute path. -/
theorem IsPlain.not_isAbsolute {piece : String} (h : IsPlain piece.toList) :
    (Path.mk piece).isAbsolute = false := by
  have hsingle : joinNames '/' [piece] = piece := by simp [joinNames, joinWith]
  rw [← hsingle]
  exact not_isAbsolute_joinNames (by simpa using h)

/-- **Plain pieces pushed one after the other are joined by strokes.** -/
theorem foldl_push {pieces : List String} (h : ∀ piece ∈ pieces, IsPlain piece.toList) :
    pieces.foldl push here = ⟨joinNames '/' pieces⟩ := by
  induction pieces using List.reverseRecOn with
  | nil => rfl
  | append_singleton pieces last ih =>
      rw [List.forall_mem_append, List.forall_mem_singleton] at h
      obtain ⟨hpieces, hlast⟩ := h
      rw [List.foldl_append, List.foldl_cons, List.foldl_nil, ih hpieces, push,
        if_neg (by simp [hlast.not_isAbsolute])]
      cases pieces with
      | nil =>
          show (⟨"" ++ last⟩ : Path) = _
          simp [joinNames, joinWith]
      | cons first rest =>
          have hne := joinNames_ne_empty (List.cons_ne_nil first rest) hpieces
          rw [if_neg (by
            simp [not_endsInStroke_joinNames hpieces, String.isEmpty_iff, hne])]
          rw [joinNames_concat '/' (List.cons_ne_nil first rest)]

/-! ### Pieces of paths -/

/-- The pieces of a path of plain pieces are these. -/
theorem pieces_joinNames {pieces : List String} (h : ∀ piece ∈ pieces, IsPlain piece.toList) :
    (Path.mk (joinNames '/' pieces)).pieces = pieces := by
  cases pieces with
  | nil => rfl
  | cons first rest =>
      have hkept : ((first :: rest).map String.toList).filter (fun piece => !piece.isEmpty) =
          (first :: rest).map String.toList := by
        refine List.filter_eq_self.mpr fun piece hpiece => ?_
        obtain ⟨name, hname, rfl⟩ := List.mem_map.mp hpiece
        simpa using (h name hname).nonempty
      rw [Path.pieces, splitOn_plain (List.cons_ne_nil first rest) h, hkept, List.map_map]
      simp [Function.comp_def]

/-- A path that is not absolute is followed from where it is pushed onto. -/
theorem isAbsolute_push (root : Path) {inside : Path} (h : inside.isAbsolute = false) :
    (root.push inside.text).isAbsolute = root.isAbsolute := by
  rw [push, if_neg (by simp [h])]
  cases htext : root.text.toList with
  | nil =>
      have hempty : root.text = "" := String.toList_inj.mp htext
      simpa [hempty, isAbsolute] using h
  | cons c text => split <;> simp [isAbsolute, htext]

/-- **The pieces of a path inside a directory come behind those of the directory.** -/
theorem pieces_push (root : Path) {inside : Path} (h : inside.isAbsolute = false) :
    (root.push inside.text).pieces = root.pieces ++ inside.pieces := by
  rw [push, if_neg (by simp [h])]
  split
  · next hend =>
      rw [Bool.or_eq_true] at hend
      rcases hend with hempty | hstroke
      · simp [pieces, String.isEmpty_iff.mp hempty, splitOn]
      · rw [endsInStroke, beq_iff_eq] at hstroke
        obtain ⟨before, htext⟩ := List.getLast?_eq_some_iff.mp hstroke
        simp only [pieces, String.toList_append, htext, List.append_assoc, List.singleton_append,
          splitOn_append_cons]
        simp [splitOn]
  · have hstroke : "/".toList = ['/'] := rfl
    simp only [pieces, String.toList_append, hstroke, List.append_assoc, List.singleton_append,
      splitOn_append_cons, List.filter_append, List.map_append]

end Path

/-! ### Following plain pieces -/

namespace FileTree

variable {t : FileTree}

/-- One can go on inside a place exactly when it is a directory. -/
theorem checkDirectory_eq_ok_iff {place : List String} :
    t.checkDirectory place = .ok () ↔ t.get? place = some .directory := by
  rw [checkDirectory]
  split <;> simp_all

/-- Names are followed one after the other. -/
theorem follow_append (place : List String) (names others : List String) :
    t.follow place (names ++ others) =
      (t.follow place names).bind fun found => t.follow found others := by
  induction names generalizing place with
  | nil => rfl
  | cons name names ih =>
      rw [List.cons_append, follow, follow]
      cases t.checkDirectory place with
      | error fault => rfl
      | ok _ =>
          show (if _ then _ else _) = (Except.bind (if _ then _ else _) _ : Except _ _)
          split
          · exact ih place
          · split
            · exact ih (outward place)
            · split
              · rfl
              · exact ih (place ++ [name])

/-- **Plain names lead to the place that they name.** -/
theorem follow_of_isPlain {place found names : List String}
    (hplain : ∀ name ∈ names, Path.IsPlain name.toList) (h : t.follow place names = .ok found) :
    found = place ++ names := by
  induction names generalizing place with
  | nil =>
      cases h
      simp
  | cons name names ih =>
      rw [List.forall_mem_cons] at hplain
      obtain ⟨hname, hnames⟩ := hplain
      have hhere : name ≠ "." := fun heq => hname.notHere (congrArg String.toList heq)
      have houtward : name ≠ ".." := fun heq => hname.notOutward (congrArg String.toList heq)
      rw [follow] at h
      obtain ⟨_, -, h⟩ := bind_eq_ok h
      rw [if_neg hhere, if_neg houtward] at h
      split at h
      · cases h
      · rw [ih hnames h, List.append_assoc, List.singleton_append]

/-- The place at which a path begins to be followed. -/
def origin (p : Path) : List String := if p.isAbsolute then rootPlace else []

/-- Paths begin at their origins, if at all. -/
theorem start_eq_ok {p : Path} {place : List String} (h : start p = .ok place) :
    place = origin p := by
  rw [start] at h
  split at h
  · cases h
  · split at h
    · cases h
    · split at h
      · cases h
      · cases h
        rfl

/-- **A path of plain pieces does not leave the directory that it was pushed onto.**  It leads to
the place that the pieces name inside the one of the directory. -/
theorem find_push {root : Path} {pieces place : List String}
    (hplain : ∀ piece ∈ pieces, Path.IsPlain piece.toList)
    (h : t.find (root.push (joinNames '/' pieces)) = .ok place) :
    ∃ base, t.follow (origin root) root.pieces = .ok base ∧ place = base ++ pieces := by
  have habsolute := Path.not_isAbsolute_joinNames hplain
  obtain ⟨first, hstart, h⟩ := bind_eq_ok h
  have hfirst : first = origin root := by
    rw [start_eq_ok hstart, origin, origin, Path.isAbsolute_push root habsolute]
  rw [hfirst, Path.pieces_push root habsolute, Path.pieces_joinNames hplain,
    follow_append] at h
  obtain ⟨base, hbase, h⟩ := bind_eq_ok h
  exact ⟨base, hbase, follow_of_isPlain hplain h⟩

end FileTree

end Bindery
