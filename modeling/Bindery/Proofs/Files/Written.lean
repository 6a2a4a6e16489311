import Bindery.Files.Tree
import Bindery.Files.Write
import Bindery.Proofs.Files.Segments
import Bindery.Proofs.Lookup

/-!
# What written files hold

Artifacts are written one after the other, and a later one may be written to the place of an earlier
one.  Besides that, nothing is lost: directories are made only where there is nothing yet, and files
take the place of files only.  So after artifacts were written, each of their files holds the
artifact that it was written for or another one with the same place below the root.

Every action is described by how the tree may change in it.  `FileTree.GainsDirectories` is for a
tree with further directories and nothing else, and `FileTree.KeepsAround` for one that has lost at
most the text at one place; `makesDirectories_makeParent` and `readText_of_placeText` bring the
actions under these two, and `readText_of_writeArtifacts` is an induction on the artifacts with
them.
-/

namespace Bindery

/-- A path is inner if it is put together from plain pieces. -/
def Path.IsInner (p : Path) : Prop :=
  ∃ pieces, (∀ piece ∈ pieces, IsPlain piece.toList) ∧ p = ⟨Text.joinNames '/' pieces⟩

namespace FileTree

variable {t t₁ t₂ : FileTree} {p q : Path} {place other : List String}

/-! ### Trees with one more entry -/

/-- An entry is looked up where it was put, and all others are left. -/
theorem lookup_replace (entry : Entry) (entries : List (List String × Entry)) :
    (replace place entry entries).lookup other =
      if other = place then some entry else entries.lookup other := by
  induction entries with
  | nil => exact lookup_cons_eq entry []
  | cons head entries ih =>
      obtain ⟨first, old⟩ := head
      rw [replace, lookup_cons_eq]
      split
      · next hfirst =>
        subst hfirst
        rw [lookup_cons_eq]
        split_ifs <;> rfl
      · next hfirst =>
        rw [lookup_cons_eq, ih]
        split_ifs with hold hnew
        · exact absurd (hnew.symm.trans hold) hfirst
        all_goals rfl

/-- What is at a place that is not around where one stands, in a tree with one more entry. -/
theorem get?_put (entry : Entry) (hother : isAround other = false) :
    (t.put place entry).get? other = if other = place then some entry else t.get? other := by
  simp [get?, put, lookup_replace, hother]

/-- Whatever is around where one stands is a directory. -/
theorem get?_of_isAround (h : isAround place = true) : t.get? place = some .directory := by
  rw [get?, if_pos h]

/-! ### Trees that keep what they have -/

/-- What is at a place stays there; where nothing was, a directory may be made. -/
def StaysAt (place : List String) (t t' : FileTree) : Prop :=
  t'.get? place = t.get? place ∨ t.get? place = none ∧ t'.get? place = some .directory

/-- A tree that has got nothing but directories, each where nothing was. -/
def GainsDirectories (t t' : FileTree) : Prop := ∀ place, StaysAt place t t'

/-- A tree keeps what is around a place if it has lost at most the text at this place and has got
nothing elsewhere but directories. -/
structure KeepsAround (place : List String) (t t' : FileTree) : Prop where
  directory : ∀ other, t.get? other = some .directory → t'.get? other = some .directory
  stays : ∀ other, other ≠ place → StaysAt other t t'

theorem StaysAt.trans (h : StaysAt place t t₁) (h' : StaysAt place t₁ t₂) : StaysAt place t t₂ := by
  unfold StaysAt at *
  grind

/-- What is at a place is still there if it stays. -/
theorem StaysAt.get?_eq {entry : Entry} (h : StaysAt place t t₁) (hget : t.get? place = some entry) :
    t₁.get? place = some entry := by
  rcases h with hsame | ⟨hnone, -⟩
  · rw [hsame, hget]
  · rw [hget] at hnone
    cases hnone

theorem GainsDirectories.refl (t : FileTree) : t.GainsDirectories t := fun _ => .inl rfl

theorem GainsDirectories.trans (h : t.GainsDirectories t₁) (h' : t₁.GainsDirectories t₂) :
    t.GainsDirectories t₂ :=
  fun place => (h place).trans (h' place)

theorem GainsDirectories.keepsAround (h : t.GainsDirectories t₁) (place : List String) :
    KeepsAround place t t₁ :=
  ⟨fun other => (h other).get?_eq, fun other _ => h other⟩

theorem KeepsAround.of_gainsDirectories (h : t.GainsDirectories t₁) (h' : KeepsAround place t₁ t₂) :
    KeepsAround place t t₂ :=
  ⟨fun other hother => h'.directory other ((h other).get?_eq hother),
    fun other hne => (h other).trans (h'.stays other hne)⟩

/-- An entry at one place leaves what is at the others. -/
theorem get?_put_of_ne (t : FileTree) (entry : Entry) (h : other ≠ place) :
    (t.put place entry).get? other = t.get? other := by
  cases haround : isAround other with
  | true => rw [get?_of_isAround haround, get?_of_isAround haround]
  | false => rw [get?_put entry haround, if_neg h]

/-- A place where something may be put is not around where one stands. -/
theorem isAround_eq_false (h : t.get? place ≠ some .directory) : isAround place = false :=
  Bool.eq_false_iff.mpr fun haround => h (get?_of_isAround haround)

/-- What was put somewhere is there. -/
theorem get?_put_self (entry : Entry) (h : t.get? place ≠ some .directory) :
    (t.put place entry).get? place = some entry := by
  rw [get?_put entry (isAround_eq_false h), if_pos rfl]

/-- A directory where nothing was. -/
theorem gainsDirectories_put (h : t.get? place = none) :
    t.GainsDirectories (t.put place .directory) := by
  intro other
  by_cases hother : other = place
  · subst hother
    exact .inr ⟨h, get?_put_self .directory (by simp [h])⟩
  · exact .inl (get?_put_of_ne t .directory hother)

/-- An entry where there was no directory. -/
theorem keepsAround_put (entry : Entry) (h : t.get? place ≠ some .directory) :
    KeepsAround place t (t.put place entry) := by
  refine ⟨fun other hother => ?_, fun other hne => .inl (get?_put_of_ne t entry hne)⟩
  rw [get?_put_of_ne t entry, hother]
  rintro rfl
  exact h hother

/-- Where directories are kept, names lead to the same place. -/
theorem follow_eq_of_directory {names base found : List String}
    (h : ∀ other, t.get? other = some .directory → t₁.get? other = some .directory)
    (hfollow : t.follow base names = .ok found) : t₁.follow base names = .ok found := by
  induction names generalizing base with
  | nil => exact hfollow
  | cons name names ih =>
      rw [follow] at hfollow ⊢
      obtain ⟨⟨⟩, hdirectory, hfollow⟩ := bind_eq_ok hfollow
      have hkept : t₁.checkDirectory base = .ok () :=
        checkDirectory_eq_ok_iff.mpr (h _ (checkDirectory_eq_ok_iff.mp hdirectory))
      rw [hkept]
      change (if _ then _ else _) = Except.ok found at hfollow
      show (if _ then _ else _) = Except.ok found
      split_ifs at hfollow ⊢
      all_goals exact ih hfollow

/-- **Where directories are kept, paths lead to the same place.** -/
theorem find_eq_of_directory {found : List String}
    (h : ∀ other, t.get? other = some .directory → t₁.get? other = some .directory)
    (hfind : t.find p = .ok found) : t₁.find p = .ok found := by
  obtain ⟨first, hstart, hfollow⟩ := bind_eq_ok hfind
  rw [find, hstart]
  exact follow_eq_of_directory h hfollow

/-! ### Reading and writing -/

/-- A text is read from the place that the path leads to. -/
theorem readText_eq_ok_iff {contents : String} :
    t.readText p = .ok contents ↔
      p.endsInStroke = false ∧ ∃ place, t.find p = .ok place ∧
        t.get? place = some (.text contents) := by
  constructor
  · intro h
    obtain ⟨place, hfind, h⟩ := bind_eq_ok h
    split at h
    · cases h
    · cases h
    · next hget =>
      split at h
      · cases h
      · next hstroke =>
        cases h
        exact ⟨by simpa using hstroke, place, hfind, hget⟩
    · cases h
  · rintro ⟨hstroke, place, hfind, hget⟩
    rw [readText, hfind]
    simp only [bind, Except.bind, hget]
    exact if_neg (by simp [hstroke])

/-- **A text is kept unless its path leads to the place where something is lost.** -/
theorem KeepsAround.readText_eq {contents : String} (h : KeepsAround place t t₁)
    (hread : t.readText q = .ok contents) :
    t₁.readText q = .ok contents ∨ t₁.find q = .ok place := by
  obtain ⟨hstroke, found, hfind, hget⟩ := readText_eq_ok_iff.mp hread
  by_cases hplace : found = place
  · exact .inr (find_eq_of_directory h.directory (hplace ▸ hfind))
  · exact .inl (readText_eq_ok_iff.mpr ⟨hstroke, found,
      find_eq_of_directory h.directory hfind, (h.stays _ hplace).get?_eq hget⟩)

/-- What it means that a text was written. -/
theorem put_of_writeText {contents : String} (h : t.writeText p contents = .ok t₁) :
    p.endsInStroke = false ∧ ∃ place, t.find p = .ok place ∧ t.get? place ≠ some .directory ∧
      t₁ = t.put place (.text contents) := by
  obtain ⟨_, -, h⟩ := bind_eq_ok h
  split at h
  · cases h
  · next hstroke =>
    obtain ⟨place, hfind, h⟩ := bind_eq_ok h
    split at h
    · cases h
    · next hget =>
      cases h
      exact ⟨by simpa using hstroke, place, hfind, hget, rfl⟩

/-- A text that was written is read back, and only what was at its place is lost. -/
theorem readText_of_writeText {contents : String} (h : t.writeText p contents = .ok t₁) :
    t₁.readText p = .ok contents ∧ ∃ place, t₁.find p = .ok place ∧ KeepsAround place t t₁ := by
  obtain ⟨hstroke, place, hfind, hget, rfl⟩ := put_of_writeText h
  have hkeeps := keepsAround_put (.text contents) hget
  have hfind' := find_eq_of_directory hkeeps.directory hfind
  exact ⟨readText_eq_ok_iff.mpr ⟨hstroke, place, hfind', get?_put_self _ hget⟩, place, hfind', hkeeps⟩

end FileTree

/-! ### Actions that make directories -/

section Actions

variable {α β : Type}

/-- An action makes directories if a tree gets nothing else by it and loses nothing. -/
def MakesDirectories (action : StateM FileTree α) : Prop :=
  ∀ t : FileTree, t.GainsDirectories (action.run t).2

theorem MakesDirectories.pure (value : α) : MakesDirectories (Pure.pure value) := FileTree.GainsDirectories.refl

theorem MakesDirectories.bind {action : StateM FileTree α} {next : α → StateM FileTree β}
    (h : MakesDirectories action) (hnext : ∀ value, MakesDirectories (next value)) :
    MakesDirectories (action >>= next) :=
  fun t => (h t).trans (hnext _ _)

theorem makesDirectories_isDirectory (p : Path) :
    MakesDirectories (FileSystem.isDirectory p : StateM FileTree Bool) := FileTree.GainsDirectories.refl

/-- A directory is made only where there was nothing. -/
theorem makesDirectories_makeDirectory (p : Path) :
    MakesDirectories (FileSystem.makeDirectory p : StateM FileTree _) := by
  intro t
  show t.GainsDirectories (updateTree (·.makeDirectory p) t).2
  rw [updateTree]
  split
  · next made hmade =>
    obtain ⟨place, -, hmade⟩ := bind_eq_ok hmade
    split at hmade
    · cases hmade
    · next hnone =>
      cases hmade
      exact FileTree.gainsDirectories_put hnone
  · exact .refl t

theorem makesDirectories_ensureDirectory (p : Path) :
    MakesDirectories (FileSystem.ensureDirectory p : StateM FileTree _) := by
  refine (makesDirectories_makeDirectory p).bind fun result => ?_
  split
  · refine (makesDirectories_isDirectory p).bind fun present => ?_
    split <;> exact .pure _
  · exact .pure _

theorem makesDirectories_makeFirst (paths : List Path) :
    MakesDirectories (FileSystem.makeFirst paths : StateM FileTree _) := by
  induction paths with
  | nil => exact .pure _
  | cons p around ih =>
      -- where the innermost directory is missing, those around it are made before it is tried again
      rw [FileSystem.makeFirst]
      split
      · exact .pure _
      · refine (makesDirectories_ensureDirectory p).bind fun result => ?_
        split
        · refine ih.bind fun result => ?_
          split
          · exact .pure _
          · exact makesDirectories_ensureDirectory p
        · exact .pure _

/-- **Making the directories around a path** changes nothing that is there. -/
theorem makesDirectories_makeParent (p : Path) : MakesDirectories (makeParent p : StateM FileTree _) := by
  rw [makeParent]
  split
  · exact .pure _
  · refine (makesDirectories_makeFirst _).bind fun result => ?_
    split <;> exact .pure _

end Actions

/-! ### Writing artifacts -/

section Artifacts

variable {t t₁ : FileTree} {path root : Path} {contents : String}

/-- A text is written into a file after the directories around it were made. -/
theorem run_placeText_write (path : Path) (contents : String) (t : FileTree) :
    (placeText.write (m := StateM FileTree) path contents).run t =
      match (makeParent (m := StateM FileTree) path).run t with
      | (.error fault, t') => (.error fault, t')
      | (.ok (), t') =>
        match t'.writeText path contents with
        | .ok t' => (.ok true, t')
        | .error fault => (.error (.file path fault), t') := by
  rw [placeText.write, StateT.run_bind]
  generalize (makeParent (m := StateM FileTree) path).run t = parent
  obtain ⟨fault | ⟨⟨⟩⟩, t'⟩ := parent
  · rfl
  · have hwrite : StateT.run (FileSystem.writeText path contents) t' =
        updateTree (·.writeText path contents) t' := rfl
    show StateT.run (FileSystem.writeText path contents >>= _) t' = match t'.writeText _ _ with
      | .ok t' => _
      | .error fault => _
    rw [StateT.run_bind, hwrite, updateTree]
    cases t'.writeText path contents <;> rfl

/-- A text is put into a file unless the file holds it already. -/
theorem run_placeText (path : Path) (contents : String) (t : FileTree) :
    (placeText (m := StateM FileTree) path contents).run t =
      if t.readText path = .ok contents then (.ok false, t)
      else (placeText.write (m := StateM FileTree) path contents).run t := by
  have hread : (FileSystem.readText path : StateM FileTree _).run t = (t.readText path, t) := rfl
  rw [placeText, StateT.run_bind, hread]
  cases t.readText path with
  | error fault => rfl
  | ok existing =>
      simp only [Except.ok.injEq]
      show StateT.run (if existing = contents then _ else _) t = _
      split <;> rfl

/-- **A text that was put into a file** is read back, and only what was at its place is lost. -/
theorem readText_of_placeText {isWritten : Bool}
    (h : (placeText (m := StateM FileTree) path contents).run t = (.ok isWritten, t₁)) :
    t₁.readText path = .ok contents ∧
      ∃ place, t₁.find path = .ok place ∧ FileTree.KeepsAround place t t₁ := by
  rw [run_placeText] at h
  split at h
  · next hread =>
    cases h
    obtain ⟨-, place, hfind, -⟩ := FileTree.readText_eq_ok_iff.mp hread
    exact ⟨hread, place, hfind, (FileTree.GainsDirectories.refl t).keepsAround place⟩
  · rw [run_placeText_write] at h
    have hgains := makesDirectories_makeParent path t
    split at h
    · cases h
    · next t' hparent =>
      rw [hparent] at hgains
      split at h
      · next hwritten =>
        cases h
        obtain ⟨hread, place, hfind, hkeeps⟩ := FileTree.readText_of_writeText hwritten
        exact ⟨hread, place, hfind, hkeeps.of_gainsDirectories hgains⟩
      · cases h

/-- Artifacts are written one after the other until one cannot be. -/
theorem run_writeArtifacts_cons (root : Path) (a : Artifact) (rest : List Artifact) (t : FileTree) :
    (writeArtifacts (m := StateM FileTree) root (a :: rest)).run t =
      match (placeText (m := StateM FileTree) (root.push a.relativePath.text) a.contents).run t with
      | (.error fault, t') => (.error fault, t')
      | (.ok isWritten, t') =>
        match (writeArtifacts (m := StateM FileTree) root rest).run t' with
        | (.error fault, t') => (.error fault, t')
        | (.ok report, t') => (.ok (report.add (root.push a.relativePath.text) isWritten), t') := by
  rw [writeArtifacts, StateT.run_bind]
  generalize (placeText (m := StateM FileTree) _ _).run t = placed
  obtain ⟨fault | isWritten, t'⟩ := placed
  · rfl
  · show StateT.run (writeArtifacts root rest >>= _) t' =
      match (writeArtifacts (m := StateM FileTree) root rest).run t' with
        | (.error fault, t') => _
        | (.ok report, t') => _
    rw [StateT.run_bind]
    generalize (writeArtifacts (m := StateM FileTree) root rest).run t' = written
    obtain ⟨fault | others, t''⟩ := written <;> rfl

/-- When artifacts were written, the first and the others were. -/
theorem exists_of_writeArtifacts_cons {a : Artifact} {rest : List Artifact} {report : WriteReport}
    (h : (writeArtifacts (m := StateM FileTree) root (a :: rest)).run t = (.ok report, t₁)) :
    ∃ isWritten t' others,
      (placeText (m := StateM FileTree) (root.push a.relativePath.text) a.contents).run t =
        (.ok isWritten, t') ∧
      (writeArtifacts (m := StateM FileTree) root rest).run t' = (.ok others, t₁) ∧
      report = others.add (root.push a.relativePath.text) isWritten := by
  rw [run_writeArtifacts_cons] at h
  split at h
  · cases h
  · next isWritten t' hplaced =>
    split at h
    · cases h
    · next others t'' hothers =>
      cases h
      exact ⟨isWritten, t', others, hplaced, hothers, rfl⟩

/-- Paths of plain pieces that lead to one place from one root are the same. -/
theorem Path.IsInner.eq_of_find_eq {p q : Path} {place : List String} (hp : p.IsInner)
    (hq : q.IsInner) (hfind : t.find (root.push p.text) = .ok place)
    (hfind' : t.find (root.push q.text) = .ok place) : p = q := by
  obtain ⟨pieces, hplain, rfl⟩ := hp
  obtain ⟨pieces', hplain', rfl⟩ := hq
  obtain ⟨base, hbase, rfl⟩ := FileTree.find_push hplain hfind
  obtain ⟨base', hbase', hplace⟩ := FileTree.find_push hplain' hfind'
  rw [hbase] at hbase'
  cases hbase'
  rw [List.append_cancel_left hplace]

/-- **A file keeps its text while artifacts are written**, or it gets that of an artifact with its
place. -/
theorem readText_of_writeArtifacts_of_readText {artifacts : List Artifact} {report : WriteReport}
    {p : Path} (hinner : ∀ a ∈ artifacts, a.relativePath.IsInner) (hp : p.IsInner)
    (h : (writeArtifacts (m := StateM FileTree) root artifacts).run t = (.ok report, t₁))
    (hread : t.readText (root.push p.text) = .ok contents) :
    t₁.readText (root.push p.text) = .ok contents ∨
      ∃ a ∈ artifacts, a.relativePath = p ∧ t₁.readText (root.push p.text) = .ok a.contents := by
  induction artifacts generalizing t contents report with
  | nil =>
      cases h
      exact .inl hread
  | cons a rest ih =>
      rw [List.forall_mem_cons] at hinner
      obtain ⟨ha, hrest⟩ := hinner
      obtain ⟨isWritten, t', others, hplaced, hothers, -⟩ := exists_of_writeArtifacts_cons h
      obtain ⟨hown, place, hfind, hkeeps⟩ := readText_of_placeText hplaced
      rcases hkeeps.readText_eq hread with hkept | hlost
      · rcases ih hrest hothers hkept with hlast | ⟨b, hb, hplace, hlast⟩
        · exact .inl hlast
        · exact .inr ⟨b, List.mem_cons_of_mem a hb, hplace, hlast⟩
      · -- only an artifact with the same place takes the text away
        obtain rfl := ha.eq_of_find_eq hp hfind hlost
        rcases ih hrest hothers hown with hlast | ⟨b, hb, hplace, hlast⟩
        · exact .inr ⟨a, List.mem_cons_self, rfl, hlast⟩
        · exact .inr ⟨b, List.mem_cons_of_mem a hb, hplace, hlast⟩

/-- **What the files hold after artifacts were written**: every file holds its artifact, or another
one that was written to the same place below the root. -/
theorem readText_of_writeArtifacts {artifacts : List Artifact} {report : WriteReport}
    (hinner : ∀ a ∈ artifacts, a.relativePath.IsInner)
    (h : (writeArtifacts (m := StateM FileTree) root artifacts).run t = (.ok report, t₁)) :
    ∀ a ∈ artifacts, ∃ b ∈ artifacts, b.relativePath = a.relativePath ∧
      t₁.readText (root.push a.relativePath.text) = .ok b.contents := by
  induction artifacts generalizing t report with
  | nil => simp
  | cons a rest ih =>
      rw [List.forall_mem_cons] at hinner
      obtain ⟨ha, hrest⟩ := hinner
      obtain ⟨isWritten, t', others, hplaced, hothers, -⟩ := exists_of_writeArtifacts_cons h
      obtain ⟨hown, -⟩ := readText_of_placeText hplaced
      rw [List.forall_mem_cons]
      constructor
      · rcases readText_of_writeArtifacts_of_readText hrest ha hothers hown with
          hlast | ⟨b, hb, hplace, hlast⟩
        · exact ⟨a, List.mem_cons_self, rfl, hlast⟩
        · exact ⟨b, List.mem_cons_of_mem a hb, hplace, hlast⟩
      · intro b hb
        obtain ⟨c, hc, hplace, hlast⟩ := ih hrest hothers b hb
        exact ⟨c, List.mem_cons_of_mem a hc, hplace, hlast⟩

end Artifacts

end Bindery
