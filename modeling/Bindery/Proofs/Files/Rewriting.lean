import Bindery.Proofs.Files.Parents
import Bindery.Proofs.Files.Written

/-!
# Writing artifacts a second time

Where files are there already, writing artifacts puts texts in the place of texts: around a path
that leads to a file no directory is missing, and no other place is touched.  Of two texts for one
place the later stays, so what a list of artifacts makes of a tree with all their files is decided
by the last artifact of each place.  After the artifacts were written once these are just the texts
that the files hold.  So writing them again gives the same tree, whatever is rewritten in between.

The tree that comes out is written down as `FileTree.refill`, a fold over the artifacts without any
monad.  `run_writeArtifacts_of_isTextAt` says that the action computes it, and the rest is about the
fold.
-/

namespace Bindery

/-- The path of the file for an artifact that is written below a root. -/
def Artifact.pathBelow (root : Path) (a : Artifact) : Path := root.push a.relativePath.text

/-! ### Texts in the place of texts -/

namespace FileTree

variable {t : FileTree} {p q : Path} {place other : List String} {entry : Entry}

/-- An entry that is listed is replaced by itself. -/
theorem replace_of_lookup {entries : List (List String × Entry)}
    (h : entries.lookup place = some entry) : replace place entry entries = entries := by
  induction entries with
  | nil => cases h
  | cons head entries ih =>
      obtain ⟨first, old⟩ := head
      rw [lookup_cons_eq] at h
      rw [replace]
      split_ifs at h ⊢ with hfirst
      · cases h
        rw [hfirst]
      · rw [ih h]

/-- Of two entries that replace one the later is kept. -/
theorem replace_replace (old : Entry) (entries : List (List String × Entry)) :
    replace place entry (replace place old entries) = replace place entry entries := by
  induction entries with
  | nil => simp [replace]
  | cons head entries ih =>
      obtain ⟨first, found⟩ := head
      simp only [replace]
      split_ifs with hfirst
      · rw [replace, if_pos rfl]
      · rw [replace, if_neg hfirst, ih]

/-- Entries for two places replace what is there in either order.  One of the places has to be listed:
otherwise both entries come at the end, in this order. -/
theorem replace_comm {entries : List (List String × Entry)} {old : Entry} (entry' : Entry)
    (hne : place ≠ other) (h : entries.lookup place = some old) :
    replace other entry' (replace place entry entries) =
      replace place entry (replace other entry' entries) := by
  induction entries with
  | nil => cases h
  | cons head entries ih =>
      obtain ⟨first, found⟩ := head
      rw [lookup_cons_eq] at h
      simp only [replace]
      by_cases hplace : place = first
      · have hother : other ≠ first := fun heq => hne (hplace.trans heq.symm)
        simp [replace, hplace, hother]
      · rw [if_neg hplace] at h
        by_cases hother : other = first
        · simp [replace, hplace, hother]
        · simp [replace, hplace, hother, ih h]

/-- What is at a place and no directory is listed. -/
theorem lookup_of_get? (hget : t.get? place = some entry) (hne : entry ≠ .directory) :
    t.entries.lookup place = some entry := by
  have haround : isAround place = false := by
    refine isAround_eq_false (t := t) fun hdirectory => hne ?_
    rw [hget] at hdirectory
    exact Option.some.inj hdirectory
  rwa [get?, haround] at hget

/-- What is there is put there without a change. -/
theorem put_of_get? (hget : t.get? place = some entry) (hne : entry ≠ .directory) :
    t.put place entry = t := by
  rw [put, replace_of_lookup (lookup_of_get? hget hne)]

/-- Of two entries for one place the later is kept. -/
theorem put_put (t : FileTree) (old : Entry) :
    (t.put place old).put place entry = t.put place entry := by
  simp only [put, replace_replace]

/-- Entries for two places are put there in either order, if there is something at one of them. -/
theorem put_comm {old : Entry} (entry' : Entry) (hne : place ≠ other)
    (hget : t.get? place = some old) (hold : old ≠ .directory) :
    (t.put place entry).put other entry' = (t.put other entry').put place entry := by
  simp only [put, replace_comm entry' hne (lookup_of_get? hget hold)]

/-! ### Files that are there -/

/-- A path leads to a file with a text. -/
structure IsTextAt (t : FileTree) (p : Path) (place : List String) : Prop where
  noStroke : p.endsInStroke = false
  find : t.find p = .ok place
  text : ∃ contents, t.get? place = some (.text contents)

theorem exists_isTextAt {contents : String} (h : t.readText p = .ok contents) :
    ∃ place, t.IsTextAt p place := by
  obtain ⟨hstroke, place, hfind, hget⟩ := readText_eq_ok_iff.mp h
  exact ⟨place, hstroke, hfind, contents, hget⟩

namespace IsTextAt

theorem ne_directory (h : t.IsTextAt p place) : t.get? place ≠ some .directory := by
  obtain ⟨contents, hget⟩ := h.text
  simp [hget]

/-- The text of a file is what is at its place. -/
theorem readText_eq_ok_iff {contents : String} (h : t.IsTextAt p place) :
    t.readText p = .ok contents ↔ t.get? place = some (.text contents) := by
  rw [FileTree.readText_eq_ok_iff, h.find]
  simp [h.noStroke]

/-- A file is still there when some file has got another text. -/
theorem put (h : t.IsTextAt p place) (h' : t.IsTextAt q other) (contents : String) :
    (t.put other (.text contents)).IsTextAt p place := by
  refine ⟨h.noStroke, find_eq_of_directory (keepsAround_put _ h'.ne_directory).directory h.find, ?_⟩
  by_cases hplace : place = other
  · subst hplace
    exact ⟨contents, get?_put_self _ h.ne_directory⟩
  · rw [get?_put_of_ne t _ hplace]
    exact h.text

/-- A text can be written into a file that is there. -/
theorem writeText_eq (h : t.IsTextAt p place) (contents : String) :
    t.writeText p contents = .ok (t.put place (.text contents)) := by
  obtain ⟨around, haround⟩ := findAround_of_find h.find
  obtain ⟨old, hget⟩ := h.text
  rw [writeText, haround, h.find]
  simp only [bind, Except.bind, h.noStroke, hget]
  rfl

end IsTextAt

end FileTree

/-- **A file that is there gets its text**, and nothing else happens. -/
theorem run_placeText_of_isTextAt {t : FileTree} {p : Path} {place : List String}
    (h : t.IsTextAt p place) (contents : String) :
    ∃ isWritten, (placeText (m := StateM FileTree) p contents).run t =
      (.ok isWritten, t.put place (.text contents)) := by
  rw [run_placeText]
  split
  · next hread =>
    exact ⟨false, by rw [FileTree.put_of_get? (h.readText_eq_ok_iff.mp hread) nofun]⟩
  · refine ⟨true, ?_⟩
    rw [run_placeText_write, run_makeParent_of_find h.find]
    simp only [h.writeText_eq]

/-! ### Files that are filled again -/

namespace FileTree

variable {t : FileTree} {place : Artifact → List String} {artifacts : List Artifact}

/-- The tree with the texts of artifacts at their places, one after the other. -/
def refill (t : FileTree) (place : Artifact → List String) (artifacts : List Artifact) : FileTree :=
  artifacts.foldl (fun t a => t.put (place a) (.text a.contents)) t

/-- **A text that is replaced later makes no difference.** -/
theorem refill_put {here : List String} {old : String} (contents : String)
    (hget : t.get? here = some (.text old)) (hmem : ∃ a ∈ artifacts, place a = here) :
    (t.put here (.text contents)).refill place artifacts = t.refill place artifacts := by
  induction artifacts generalizing t old with
  | nil => simp at hmem
  | cons a rest ih =>
      show ((t.put here _).put (place a) _).refill place rest = (t.put (place a) _).refill place rest
      by_cases hplace : place a = here
      · rw [hplace, put_put]
      · have hrest : ∃ b ∈ rest, place b = here := by
          obtain ⟨b, hb, hhere⟩ := hmem
          rcases List.mem_cons.mp hb with rfl | hb
          · exact absurd hhere hplace
          · exact ⟨b, hb, hhere⟩
        rw [put_comm _ (Ne.symm hplace) hget nofun]
        exact ih (by rw [get?_put_of_ne t _ (Ne.symm hplace), hget]) hrest

/-- **A tree whose files hold the last texts for them stays as it is.** -/
theorem refill_eq_self (htext : ∀ a ∈ artifacts, ∃ old, t.get? (place a) = some (.text old))
    (hlast : ∀ before a after, artifacts = before ++ a :: after →
      (∀ b ∈ after, place b ≠ place a) → t.get? (place a) = some (.text a.contents)) :
    t.refill place artifacts = t := by
  induction artifacts with
  | nil => rfl
  | cons a rest ih =>
      have hrest : t.refill place rest = t :=
        ih (fun b hb => htext b (List.mem_cons_of_mem a hb)) fun before b after hsplit =>
          hlast (a :: before) b after (by rw [hsplit]; rfl)
      show (t.put (place a) _).refill place rest = t
      by_cases hmem : ∃ b ∈ rest, place b = place a
      · obtain ⟨old, hget⟩ := htext a List.mem_cons_self
        rw [refill_put a.contents hget hmem, hrest]
      · have hget := hlast [] a rest rfl fun b hb heq => hmem ⟨b, hb, heq⟩
        rw [put_of_get? hget nofun, hrest]

end FileTree

section Runs

variable {t t₁ : FileTree} {root : Path} {artifacts : List Artifact} {report : WriteReport}

/-- **Writing artifacts whose files are there** fills these again. -/
theorem run_writeArtifacts_of_isTextAt {place : Artifact → List String}
    (h : ∀ a ∈ artifacts, t.IsTextAt (a.pathBelow root) (place a)) :
    ∃ report, (writeArtifacts (m := StateM FileTree) root artifacts).run t =
      (.ok report, t.refill place artifacts) := by
  induction artifacts generalizing t with
  | nil => exact ⟨{}, rfl⟩
  | cons a rest ih =>
      rw [List.forall_mem_cons] at h
      obtain ⟨ha, hrest⟩ := h
      obtain ⟨isWritten, hplaced⟩ := run_placeText_of_isTextAt ha a.contents
      obtain ⟨others, hothers⟩ := ih fun b hb => (hrest b hb).put ha a.contents
      refine ⟨others.add (a.pathBelow root) isWritten, ?_⟩
      rw [run_writeArtifacts_cons, ← Artifact.pathBelow, hplaced]
      simp only [hothers]
      rfl

/-- **Where all files hold their texts**, nothing is written. -/
theorem run_writeArtifacts_of_readText
    (h : ∀ a ∈ artifacts, t.readText (a.pathBelow root) = .ok a.contents) :
    (writeArtifacts (m := StateM FileTree) root artifacts).run t =
      (.ok { unchanged := artifacts.map (Artifact.pathBelow root) }, t) := by
  induction artifacts with
  | nil => rfl
  | cons a rest ih =>
      rw [List.forall_mem_cons] at h
      rw [run_writeArtifacts_cons, ← Artifact.pathBelow, run_placeText, if_pos h.1]
      simp only [ih h.2]
      rfl

end Runs

end Bindery
