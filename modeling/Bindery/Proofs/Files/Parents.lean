import Bindery.Proofs.Files.Written
import Mathlib.Data.List.DropRight

/-!
# The directories around a path

The directory around a path is found in the text of the path: idle pieces at the end are dropped,
then the last piece that is left, then the idle ones before it.  What remains is the beginning of
the path (`Path.pieces_of_parent?`), and following the path goes through the place that this
beginning leads to.  So where a path leads anywhere, the directory around it is there, and making it
changes nothing (`run_makeParent_of_find`).
-/

namespace Bindery

open Text

namespace Path

variable {p q : Path}

/-! ### The text of the directory around a path -/

/-- The innermost directory around a path in pieces is made up of the first of them, and a piece
that is not idle stands behind it. -/
theorem exists_behind_of_enclosing {first : List Char} {rest : List (List Char)}
    (h : (enclosing first rest).head? = some q) :
    q = here ∨ ∃ around behind, rest = around ++ behind ∧ (∃ piece ∈ behind, piece ≠ []) ∧
      q = ofPieces first around := by
  rw [enclosing] at h
  split at h
  · left
    split at h <;> cases h
    rfl
  · next last others hkept =>
    right
    cases h
    obtain ⟨behind, hrest⟩ : dropIdle rest <+: rest := List.rdropWhile_prefix isIdle _
    obtain ⟨before, haround⟩ : dropIdle (last :: others).dropLast <+: (last :: others).dropLast :=
      List.rdropWhile_prefix isIdle _
    have hlast : ∀ hne : dropIdle rest ≠ [], ¬ isIdle ((dropIdle rest).getLast hne) = true :=
      List.rdropWhile_last_not isIdle rest
    simp only [hkept] at hlast
    have hne := List.cons_ne_nil last others
    refine ⟨dropIdle (last :: others).dropLast, before ++ [(last :: others).getLast hne] ++ behind,
      ?_, ⟨(last :: others).getLast hne, ?_, ?_⟩, rfl⟩
    · rw [← List.append_assoc, ← List.append_assoc, haround, List.dropLast_append_getLast hne,
        ← hkept, hrest]
    · exact List.mem_append_left _ (List.mem_append_right _ (List.mem_singleton_self _))
    · intro hempty
      exact hlast hne (by rw [hempty]; rfl)

/-- A path that is put together from pieces is these pieces joined, and the root is a stroke. -/
theorem toList_ofPieces (first : List Char) (around : List (List Char)) :
    (ofPieces first around).text.toList = joinWith ['/'] (first :: around) ∧
        joinWith ['/'] (first :: around) ≠ [] ∨
      (ofPieces first around).text.toList = ['/'] ∧ first = [] ∧ around = [] := by
  cases first with
  | cons c first =>
      left
      rw [ofPieces, if_neg (by simp), String.toList_ofList]
      exact ⟨rfl, by simp [joinWith_cons_cons]⟩
  | nil =>
      cases around with
      | nil => exact .inr ⟨rfl, rfl, rfl⟩
      | cons next around => exact .inl ⟨by simp [ofPieces, joinWith], by simp [joinWith]⟩

theorem ofPieces_ne_nil (first : List Char) (around : List (List Char)) :
    (ofPieces first around).text.toList ≠ [] := by
  rcases toList_ofPieces first around with ⟨hjoined, hne⟩ | ⟨hroot, -, -⟩
  · rwa [hjoined]
  · rw [hroot]
    exact List.cons_ne_nil '/' []

/-- Where further pieces stand behind a path, its text is a beginning of the whole. -/
theorem ofPieces_prefix (first : List Char) (around : List (List Char))
    {behind : List (List Char)} (hbehind : behind ≠ []) :
    (ofPieces first around).text.toList <+: joinWith ['/'] (first :: around ++ behind) := by
  rw [joinWith_append '/' (List.cons_ne_nil first around) hbehind]
  rcases toList_ofPieces first around with ⟨hjoined, -⟩ | ⟨hroot, rfl, rfl⟩
  · rw [hjoined]
    exact List.prefix_append _ _
  · rw [hroot]
    exact ⟨_, rfl⟩

/-- The names in a path that is put together from pieces are those that are not empty, in the root as
well. -/
theorem pieces_ofPieces {first : List Char} {around : List (List Char)}
    (h : ∀ piece ∈ first :: around, '/' ∉ piece) :
    (ofPieces first around).pieces =
      ((first :: around).filter fun piece => !piece.isEmpty).map String.ofList := by
  rw [pieces]
  rcases toList_ofPieces first around with ⟨hjoined, -⟩ | ⟨hroot, rfl, rfl⟩
  · rw [hjoined, splitOn_joinWith (List.cons_ne_nil first around) h]
  · rw [hroot]
    rfl

/-- **A path begins with the directory around it**, unless this is where one stands: the text of the
directory is a beginning of that of the path, and further names come behind its pieces. -/
theorem pieces_of_parent? (h : p.parent? = some q) :
    q = here ∨ q.text.toList ≠ [] ∧ q.text.toList <+: p.text.toList ∧
      ∃ name names, p.pieces = q.pieces ++ name :: names := by
  rw [parent?, ancestors] at h
  split at h
  · cases h
  · next first rest hsplit =>
    refine (exists_behind_of_enclosing h).imp_right ?_
    rintro ⟨around, behind, rfl, ⟨piece, hpiece, hne⟩, rfl⟩
    rw [← List.cons_append] at hsplit
    refine ⟨ofPieces_ne_nil first around, ?_, ?_⟩
    · rw [← joinWith_splitOn '/' p.text.toList, hsplit]
      exact ofPieces_prefix first around (List.ne_nil_of_mem hpiece)
    · have hmore : (behind.filter fun piece => !piece.isEmpty).map String.ofList ≠ [] :=
        List.ne_nil_of_mem (List.mem_map_of_mem (List.mem_filter.mpr ⟨hpiece, by simpa using hne⟩))
      obtain ⟨name, names, hnames⟩ := List.exists_cons_of_ne_nil hmore
      refine ⟨name, names, ?_⟩
      rw [pieces_ofPieces fun piece hpiece =>
          not_mem_of_mem_splitOn (hsplit ▸ List.mem_append_left behind hpiece),
        ← hnames, pieces, hsplit, List.filter_append, List.map_append]

end Path

/-! ### Following a path through the directory around it -/

namespace FileTree

variable {t : FileTree} {p q : Path} {place : List String}

/-- A path that can be followed can be followed from its beginning. -/
theorem start_of_prefix (hne : q.text.toList ≠ []) (hbegins : q.text.toList <+: p.text.toList)
    (h : start p = .ok place) : start q = .ok place := by
  obtain ⟨behind, hbehind⟩ := hbegins
  have htext : p.text = q.text ++ String.ofList behind := by
    rw [← String.toList_inj, String.toList_append, String.toList_ofList, hbehind]
  have habsolute : q.isAbsolute = p.isAbsolute := by
    rw [Path.isAbsolute, Path.isAbsolute, ← hbehind, List.head?_append_of_ne_nil _ hne]
  rw [start] at h
  split at h
  · cases h
  · next hstray =>
    split at h
    · cases h
    · split at h
      · cases h
      · next hlong =>
        have hstray' : ¬ q.hasStrayEnd = true := fun hq => hstray (by
          rw [Path.hasStrayEnd, List.contains_iff_mem] at hq ⊢
          rw [← hbehind]
          exact List.mem_append_left behind hq)
        have hempty : ¬ q.text.isEmpty = true := fun hq =>
          hne (by rw [String.isEmpty_iff.mp hq]; rfl)
        have hlong' : ¬ pathLimit ≤ q.text.utf8ByteSize := by
          rw [htext, String.utf8ByteSize_append] at hlong
          omega
        rw [start, if_neg hstray', if_neg hempty, if_neg hlong', habsolute, h]

/-- **A path leads through the directory around it.** -/
theorem find_of_parent? (h : p.parent? = some q) (hfind : t.find p = .ok place) :
    q = .here ∨ ∃ base, t.find q = .ok base ∧ t.get? base = some .directory := by
  refine (Path.pieces_of_parent? h).imp_right ?_
  rintro ⟨hne, hbegins, name, names, hpieces⟩
  obtain ⟨first, hstart, hfollow⟩ := bind_eq_ok hfind
  rw [hpieces, follow_append] at hfollow
  obtain ⟨base, hbase, hfollow⟩ := bind_eq_ok hfollow
  refine ⟨base, ?_, ?_⟩
  · rw [find, start_of_prefix hne hbegins hstart]
    exact hbase
  · rw [follow] at hfollow
    obtain ⟨⟨⟩, hdirectory, -⟩ := bind_eq_ok hfollow
    exact checkDirectory_eq_ok_iff.mp hdirectory

/-- A place at which a path begins is a directory. -/
theorem get?_origin (p : Path) : t.get? (origin p) = some .directory := by
  refine get?_of_isAround ?_
  rw [origin]
  split <;> rfl

/-- A path that leads anywhere leads through a directory. -/
theorem findAround_of_find (h : t.find p = .ok place) : ∃ around, t.findAround p = .ok around := by
  obtain ⟨first, hstart, hfollow⟩ := bind_eq_ok h
  suffices haround : ∃ around, t.follow first p.pieces.dropLast = .ok around ∧
      t.get? around = some .directory by
    obtain ⟨around, hfound, hget⟩ := haround
    refine ⟨around, ?_⟩
    rw [findAround, hstart]
    show (t.follow first p.pieces.dropLast).bind _ = _
    rw [hfound]
    show (t.checkDirectory around).bind _ = _
    rw [checkDirectory_eq_ok_iff.mpr hget]
    rfl
  rcases List.eq_nil_or_concat' p.pieces with hnil | ⟨names, name, hnames⟩
  · rw [hnil]
    exact ⟨first, rfl, start_eq_ok hstart ▸ get?_origin p⟩
  · rw [hnames, follow_append] at hfollow
    obtain ⟨base, hbase, hfollow⟩ := bind_eq_ok hfollow
    rw [follow] at hfollow
    obtain ⟨⟨⟩, hdirectory, -⟩ := bind_eq_ok hfollow
    rw [hnames, List.dropLast_concat]
    exact ⟨base, hbase, checkDirectory_eq_ok_iff.mp hdirectory⟩

end FileTree

/-! ### Making the directories around a path -/

section Actions

variable {t : FileTree} {p q : Path} {place base : List String}

/-- A directory that is there does not have to be made. -/
theorem run_ensureDirectory_of_find (hfind : t.find q = .ok base)
    (hget : t.get? base = some .directory) :
    (FileSystem.ensureDirectory (m := StateM FileTree) q).run t = (.ok (), t) := by
  have hmade : t.makeDirectory q = .error .present := by
    rw [FileTree.makeDirectory, hfind]
    simp only [bind, Except.bind, hget]
    rfl
  have hmake : (FileSystem.makeDirectory q : StateM FileTree _).run t = (.error .present, t) := by
    show updateTree (·.makeDirectory q) t = _
    rw [updateTree, hmade]
  have hthere : t.isDirectory q = true := by
    rw [FileTree.isDirectory, FileTree.entryAt?, hfind]
    simp [hget]
  rw [FileSystem.ensureDirectory, StateT.run_bind, hmake]
  show StateT.run (if t.isDirectory q = true then _ else _) t = _
  rw [if_pos hthere]
  rfl

/-- **Around a path that leads anywhere** no directory has to be made. -/
theorem run_makeParent_of_find (h : t.find p = .ok place) :
    (makeParent (m := StateM FileTree) p).run t = (.ok (), t) := by
  rw [makeParent]
  split
  · rfl
  · next around hparent =>
    have hmade : (FileSystem.makeDirectories (m := StateM FileTree) around).run t = (.ok (), t) := by
      rw [FileSystem.makeDirectories, FileSystem.makeFirst]
      rcases FileTree.find_of_parent? hparent h with rfl | ⟨base, hfind, hget⟩
      · rfl
      · split
        · rfl
        · rw [StateT.run_bind, run_ensureDirectory_of_find hfind hget]
          rfl
    rw [StateT.run_bind, hmade]
    rfl

end Actions

end Bindery
