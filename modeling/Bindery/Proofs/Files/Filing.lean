import Bindery.Proofs.Files.Rewriting

/-!
# Artifacts in their files

Writing artifacts ends in one of two ways.  Either every artifact is in its file, or the file for
one of them cannot be written, and then those before it are in their files and those after it were
not looked at.  Apart from the files that are written, directories are all that a tree gets.

Two artifacts may have one place.  The file then holds the later one (`readText_of_last`), while the
report has a line for each, in order (`exists_marked_of_writeArtifacts`).  Writing the same
artifacts again leaves the tree as it is, and where each has a path of its own it reports all of
them as unchanged.  `artifacts_are_filed` says all of this for every root and every tree.
-/

namespace Bindery

open Text
open FileTree (StaysAt)

/-! ### Plain artifacts -/

namespace Artifact

/-- An artifact is plain if the segments of its package and its file name are plain pieces.  Empty
segments are not part of a path. -/
structure IsPlain (a : Artifact) : Prop where
  package : ∀ segment ∈ splitOn '.' a.package.toList, segment ≠ [] → Path.IsPlain segment
  fileName : Path.IsPlain a.fileName.toList

instance (a : Artifact) : Decidable a.IsPlain :=
  decidable_of_iff ((∀ segment ∈ splitOn '.' a.package.toList, segment ≠ [] → Path.IsPlain segment) ∧
      Path.IsPlain a.fileName.toList)
    ⟨fun h => ⟨h.1, h.2⟩, fun h => ⟨h.package, h.fileName⟩⟩

/-- The place of a plain artifact is put together from plain pieces. -/
theorem IsPlain.isInner {a : Artifact} (h : a.IsPlain) : a.relativePath.IsInner := by
  let segments := (splitOn '.' a.package.toList).filter fun segment => !segment.isEmpty
  have hplain : ∀ piece ∈ segments.map String.ofList ++ [a.fileName], Path.IsPlain piece.toList := by
    rw [List.forall_mem_append, List.forall_mem_singleton]
    refine ⟨fun piece hpiece => ?_, h.fileName⟩
    obtain ⟨segment, hsegment, rfl⟩ := List.mem_map.mp hpiece
    obtain ⟨hmem, hne⟩ := List.mem_filter.mp hsegment
    rw [String.toList_ofList]
    exact h.package segment hmem (by simpa using hne)
  refine ⟨segments.map String.ofList ++ [a.fileName], hplain, ?_⟩
  rw [← Path.foldl_push hplain, List.foldl_append]
  rfl

end Artifact

section Runs

variable {t t₁ : FileTree} {root : Path} {artifacts : List Artifact} {report : WriteReport}
  {fault : WriteFault}

/-! ### What is reported -/

/-- **Every artifact is reported once, in order**: each is marked as written or as unchanged, and the
report has two lists of those with one mark. -/
theorem exists_marked_of_writeArtifacts
    (h : (writeArtifacts (m := StateM FileTree) root artifacts).run t = (.ok report, t₁)) :
    ∃ marked : List (Artifact × Bool), marked.map (·.1) = artifacts ∧
      report.written = (marked.filter (·.2)).map (·.1.pathBelow root) ∧
      report.unchanged = (marked.filter (!·.2)).map (·.1.pathBelow root) := by
  induction artifacts generalizing t report with
  | nil =>
      cases h
      exact ⟨[], rfl, rfl, rfl⟩
  | cons a rest ih =>
      obtain ⟨isWritten, t', others, -, hothers, rfl⟩ := exists_of_writeArtifacts_cons h
      obtain ⟨marked, rfl, hwritten, hunchanged⟩ := ih hothers
      refine ⟨(a, isWritten) :: marked, rfl, ?_⟩
      cases isWritten with
      | true => exact ⟨congrArg (a.pathBelow root :: ·) hwritten, hunchanged⟩
      | false => exact ⟨hwritten, congrArg (a.pathBelow root :: ·) hunchanged⟩

/-! ### What the files hold -/

/-- **A file holds the last artifact with its path.** -/
theorem readText_of_last (hinner : ∀ a ∈ artifacts, a.relativePath.IsInner)
    (h : (writeArtifacts (m := StateM FileTree) root artifacts).run t = (.ok report, t₁))
    {before after : List Artifact} {a : Artifact} (hsplit : artifacts = before ++ a :: after)
    (hlast : ∀ b ∈ after, b.pathBelow root ≠ a.pathBelow root) :
    t₁.readText (a.pathBelow root) = .ok a.contents := by
  subst hsplit
  induction before generalizing t report with
  | nil =>
      rw [List.nil_append, List.forall_mem_cons] at hinner
      obtain ⟨isWritten, t', others, hplaced, hothers, -⟩ := exists_of_writeArtifacts_cons h
      obtain ⟨hread, -⟩ := readText_of_placeText hplaced
      rcases readText_of_writeArtifacts_of_readText hinner.2 hinner.1 hothers hread with
        hkept | ⟨b, hb, hplace, -⟩
      · exact hkept
      · exact absurd (by rw [Artifact.pathBelow, hplace, Artifact.pathBelow]) (hlast b hb)
  | cons b before ih =>
      obtain ⟨isWritten, t', others, -, hothers, -⟩ := exists_of_writeArtifacts_cons h
      rw [List.cons_append, List.forall_mem_cons] at hinner
      exact ih hinner.2 hothers

/-- Every file holds its artifact if each has a path of its own. -/
theorem readText_of_nodup (hinner : ∀ a ∈ artifacts, a.relativePath.IsInner)
    (h : (writeArtifacts (m := StateM FileTree) root artifacts).run t = (.ok report, t₁))
    (hnodup : (artifacts.map (·.pathBelow root)).Nodup) :
    ∀ a ∈ artifacts, t₁.readText (a.pathBelow root) = .ok a.contents := by
  intro a ha
  obtain ⟨before, after, hsplit⟩ := List.append_of_mem ha
  rw [hsplit, List.map_append, List.map_cons] at hnodup
  have hfresh := (List.nodup_cons.mp (List.nodup_append.mp hnodup).2.1).1
  exact readText_of_last hinner h hsplit fun b hb heq => hfresh (heq ▸ List.mem_map_of_mem hb)

/-! ### What stays -/

/-- Directories are kept while artifacts are written. -/
theorem directory_of_writeArtifacts
    (h : (writeArtifacts (m := StateM FileTree) root artifacts).run t = (.ok report, t₁)) :
    ∀ place, t.get? place = some .directory → t₁.get? place = some .directory := by
  induction artifacts generalizing t report with
  | nil =>
      cases h
      exact fun _ hget => hget
  | cons a rest ih =>
      obtain ⟨isWritten, t', others, hplaced, hothers, -⟩ := exists_of_writeArtifacts_cons h
      obtain ⟨-, own, -, hkeeps⟩ := readText_of_placeText hplaced
      exact fun place hget => ih hothers place (hkeeps.directory place hget)

/-- **Nothing changes but the files of the artifacts and missing directories.** -/
theorem staysAt_of_writeArtifacts {place : List String}
    (h : (writeArtifacts (m := StateM FileTree) root artifacts).run t = (.ok report, t₁))
    (hplace : ∀ a ∈ artifacts, t₁.find (a.pathBelow root) ≠ .ok place) : StaysAt place t t₁ := by
  induction artifacts generalizing t report with
  | nil =>
      cases h
      exact .inl rfl
  | cons a rest ih =>
      rw [List.forall_mem_cons] at hplace
      obtain ⟨isWritten, t', others, hplaced, hothers, -⟩ := exists_of_writeArtifacts_cons h
      obtain ⟨-, own, hfind, hkeeps⟩ := readText_of_placeText hplaced
      have hne : place ≠ own := by
        rintro rfl
        exact hplace.1 (FileTree.find_eq_of_directory (directory_of_writeArtifacts hothers) hfind)
      exact (hkeeps.stays place hne).trans (ih hothers hplace.2)

/-! ### When an artifact cannot be written -/

/-- Where a text cannot be put into a file, directories are all that a tree gets. -/
theorem gainsDirectories_of_placeText {path : Path} {contents : String}
    (h : (placeText (m := StateM FileTree) path contents).run t = (.error fault, t₁)) :
    t.GainsDirectories t₁ := by
  rw [run_placeText] at h
  split at h
  · cases h
  · rw [run_placeText_write] at h
    have hgains := makesDirectories_makeParent path t
    split at h
    · next hparent =>
      cases h
      rwa [hparent] at hgains
    · next hparent =>
      rw [hparent] at hgains
      split at h <;> cases h
      exact hgains

/-- **When artifacts cannot all be written**, one of them cannot after those before it were, and
those behind it do not matter. -/
theorem exists_prefix_of_writeArtifacts_error
    (h : (writeArtifacts (m := StateM FileTree) root artifacts).run t = (.error fault, t₁)) :
    ∃ before a after report t₀, artifacts = before ++ a :: after ∧
      (writeArtifacts (m := StateM FileTree) root before).run t = (.ok report, t₀) ∧
      (placeText (m := StateM FileTree) (a.pathBelow root) a.contents).run t₀ = (.error fault, t₁) ∧
      ∀ later, (writeArtifacts (m := StateM FileTree) root (before ++ a :: later)).run t =
        (.error fault, t₁) := by
  induction artifacts generalizing t with
  | nil => cases h
  | cons a rest ih =>
      rw [run_writeArtifacts_cons] at h
      split at h
      · next hplaced =>
        cases h
        refine ⟨[], a, rest, {}, t, rfl, rfl, hplaced, fun later => ?_⟩
        rw [List.nil_append, run_writeArtifacts_cons, hplaced]
      · next isWritten t' hplaced =>
        split at h
        · next hrest =>
          cases h
          obtain ⟨before, b, after, report, t₀, rfl, hbefore, hb, hlater⟩ := ih hrest
          refine ⟨a :: before, b, after, report.add (a.pathBelow root) isWritten, t₀, rfl, ?_, hb,
            fun later => ?_⟩
          · rw [run_writeArtifacts_cons, hplaced]
            simp only [hbefore]
            rfl
          · rw [List.cons_append, run_writeArtifacts_cons, hplaced]
            simp only [hlater later]
        · cases h

/-! ### Writing again -/

/-- When artifacts were written, the files hold the last texts for them. -/
theorem refill_of_writeArtifacts (hinner : ∀ a ∈ artifacts, a.relativePath.IsInner)
    (h : (writeArtifacts (m := StateM FileTree) root artifacts).run t = (.ok report, t₁))
    {place : Artifact → List String}
    (hplace : ∀ a ∈ artifacts, t₁.IsTextAt (a.pathBelow root) (place a)) :
    t₁.refill place artifacts = t₁ := by
  refine FileTree.refill_eq_self (fun a ha => (hplace a ha).text) fun before a after hsplit hne => ?_
  have ha : a ∈ artifacts := by simp [hsplit]
  refine (hplace a ha).readText_eq_ok_iff.mp (readText_of_last hinner h hsplit fun b hb heq => ?_)
  -- one path leads to one place
  have hfind := (hplace b (by simp [hsplit, hb])).find
  rw [heq, (hplace a ha).find] at hfind
  exact hne b hb (Except.ok.inj hfind).symm

/-- **Where artifacts were written, writing them again changes nothing**, and writes nothing if each
has a path of its own. -/
theorem exists_again_of_writeArtifacts (hinner : ∀ a ∈ artifacts, a.relativePath.IsInner)
    (h : (writeArtifacts (m := StateM FileTree) root artifacts).run t = (.ok report, t₁)) :
    ∃ again, (writeArtifacts (m := StateM FileTree) root artifacts).run t₁ = (.ok again, t₁) ∧
      ((artifacts.map (·.pathBelow root)).Nodup →
        again = { unchanged := artifacts.map (·.pathBelow root) }) := by
  have htext : ∀ a ∈ artifacts, ∃ place, t₁.IsTextAt (a.pathBelow root) place := by
    intro a ha
    obtain ⟨b, -, -, hread⟩ := readText_of_writeArtifacts hinner h a ha
    exact FileTree.exists_isTextAt hread
  choose! place hplace using htext
  obtain ⟨again, hagain⟩ := run_writeArtifacts_of_isTextAt hplace
  rw [refill_of_writeArtifacts hinner h hplace] at hagain
  refine ⟨again, hagain, fun hnodup => ?_⟩
  rw [run_writeArtifacts_of_readText (readText_of_nodup hinner h hnodup)] at hagain
  exact (Except.ok.inj (Prod.mk.inj hagain).1).symm

end Runs

/-- **What writing artifacts does.**  Take any root, any list of plain artifacts and any tree of
files.  If the artifacts are all written, then

* each of them is reported as written or as unchanged, and both are reported in order,
* a file holds the last artifact with its path,
* every other place is as it was before, up to directories where nothing was, and
* writing the same artifacts again gives the same tree, with all of them unchanged if each has a path
  of its own.

If one of them cannot be written, then those before it were.  For this one directories were made at
most, and whatever comes after it does not matter.

A `FileTree` leaves out what a file system has beyond files and directories in the way: there are no
links, so two places never share a file; there are no permissions; a disk is never full, and nobody
else changes the tree in between.  The causes of failure are those of `FileFault` other than
`FileFault.other`. -/
theorem artifacts_are_filed (root : Path) (artifacts : List Artifact) (t : FileTree)
    (hplain : ∀ a ∈ artifacts, a.IsPlain) :
    (∀ report t₁,
      (writeArtifacts (m := StateM FileTree) root artifacts).run t = (.ok report, t₁) →
        (∃ marked : List (Artifact × Bool), marked.map (·.1) = artifacts ∧
          report.written = (marked.filter (·.2)).map (·.1.pathBelow root) ∧
          report.unchanged = (marked.filter (!·.2)).map (·.1.pathBelow root)) ∧
        (∀ before a after, artifacts = before ++ a :: after →
          (∀ b ∈ after, b.pathBelow root ≠ a.pathBelow root) →
            t₁.readText (a.pathBelow root) = .ok a.contents) ∧
        (∀ place, (∀ a ∈ artifacts, t₁.find (a.pathBelow root) ≠ .ok place) →
          StaysAt place t t₁) ∧
        ∃ again, (writeArtifacts (m := StateM FileTree) root artifacts).run t₁ = (.ok again, t₁) ∧
          ((artifacts.map (·.pathBelow root)).Nodup →
            again = { unchanged := artifacts.map (·.pathBelow root) })) ∧
      ∀ fault t₁,
        (writeArtifacts (m := StateM FileTree) root artifacts).run t = (.error fault, t₁) →
          ∃ before a after report t₀, artifacts = before ++ a :: after ∧
            (writeArtifacts (m := StateM FileTree) root before).run t = (.ok report, t₀) ∧
            (placeText (m := StateM FileTree) (a.pathBelow root) a.contents).run t₀ =
              (.error fault, t₁) ∧
            t₀.GainsDirectories t₁ ∧
            ∀ later, (writeArtifacts (m := StateM FileTree) root (before ++ a :: later)).run t =
              (.error fault, t₁) := by
  have hinner : ∀ a ∈ artifacts, a.relativePath.IsInner := fun a ha => (hplain a ha).isInner
  constructor
  · intro report t₁ h
    exact ⟨exists_marked_of_writeArtifacts h, fun before a after => readText_of_last hinner h,
      fun place => staysAt_of_writeArtifacts h, exists_again_of_writeArtifacts hinner h⟩
  · intro fault t₁ h
    obtain ⟨before, a, after, report, t₀, hsplit, hbefore, hplaced, hlater⟩ :=
      exists_prefix_of_writeArtifacts_error h
    exact ⟨before, a, after, report, t₀, hsplit, hbefore, hplaced,
      gainsDirectories_of_placeText hplaced, hlater⟩

/-! ### Two artifacts for one file -/

/-- An artifact with any contents. -/
def hostFile (contents : String) : Artifact := ⟨"app.io", "Host", "Host.java", contents⟩

/-- An artifact outside of packages. -/
def portFile : Artifact := ⟨"", "Port", "Port.java", "port"⟩

/-- Two artifacts for one file and one for another. -/
def sharing : List Artifact := [hostFile "first", hostFile "second", portFile]

/-- An artifact whose package has the name of a file among its directories. -/
def blocked : Artifact := ⟨"note", "Lost", "Lost.java", "lost"⟩

/-- A tree with the other file and with one that no artifact is written to. -/
def halfFilled : FileTree :=
  ⟨[(["out"], .directory), (["out", "Port.java"], .text "port"), (["out", "note"], .text "kept")]⟩

/-- The file for two artifacts is written twice and holds the second, and writing all of them again
gives the same tree.  An artifact below a file cannot be written, and then some of the artifacts
before it were. -/
theorem artifacts_are_filed_sharing :
    (∀ a ∈ sharing ++ [blocked], a.IsPlain) ∧
    (∃ report t₁,
      (writeArtifacts (m := StateM FileTree) ⟨"out"⟩ sharing).run halfFilled = (.ok report, t₁) ∧
      report = ⟨[⟨"out/app/io/Host.java"⟩, ⟨"out/app/io/Host.java"⟩], [⟨"out/Port.java"⟩]⟩ ∧
      t₁.readText ⟨"out/app/io/Host.java"⟩ = .ok "second" ∧
      StaysAt ["out", "note"] halfFilled t₁ ∧
      ∃ again, (writeArtifacts (m := StateM FileTree) ⟨"out"⟩ sharing).run t₁ = (.ok again, t₁)) ∧
    ∃ fault t₁,
      (writeArtifacts (m := StateM FileTree) ⟨"out"⟩ (sharing ++ [blocked])).run halfFilled =
        (.error fault, t₁) ∧
      ∃ before a after report t₀, sharing ++ [blocked] = before ++ a :: after ∧
        (writeArtifacts (m := StateM FileTree) ⟨"out"⟩ before).run halfFilled = (.ok report, t₀) ∧
        t₀.GainsDirectories t₁ := by
  have hplain : ∀ a ∈ sharing ++ [blocked], a.IsPlain := by decide +kernel
  refine ⟨hplain, ?_, ?_⟩
  · have hok : ((writeArtifacts (m := StateM FileTree) ⟨"out"⟩ sharing).run
        halfFilled).1.toOption =
          some ⟨[⟨"out/app/io/Host.java"⟩, ⟨"out/app/io/Host.java"⟩], [⟨"out/Port.java"⟩]⟩ := by
      decide +kernel
    have hother : ∀ a ∈ sharing, (((writeArtifacts (m := StateM FileTree) ⟨"out"⟩ sharing).run
        halfFilled).2.find (a.pathBelow ⟨"out"⟩)).toOption ≠ some ["out", "note"] := by
      decide +kernel
    generalize hrun : (writeArtifacts (m := StateM FileTree) ⟨"out"⟩ sharing).run halfFilled = reached
      at hok hother
    obtain ⟨result, t₁⟩ := reached
    obtain rfl := toOption_eq_some.mp hok
    obtain ⟨-, hholds, hstays, again, hagain, -⟩ := (artifacts_are_filed ⟨"out"⟩ sharing halfFilled
      fun a ha => hplain a (List.mem_append_left _ ha)).1 _ t₁ hrun
    refine ⟨_, t₁, rfl, rfl, ?_, hstays _ ?_, again, hagain⟩
    · have hpath : (hostFile "second").pathBelow ⟨"out"⟩ = ⟨"out/app/io/Host.java"⟩ := by decide +kernel
      rw [← hpath]
      exact hholds [hostFile "first"] (hostFile "second") [portFile] rfl (by decide +kernel)
    · exact fun a ha hfind => hother a ha (toOption_eq_some.mpr hfind)
  · have hfails : ((writeArtifacts (m := StateM FileTree) ⟨"out"⟩ (sharing ++ [blocked])).run
        halfFilled).1.toOption = none := by decide +kernel
    generalize hrun : (writeArtifacts (m := StateM FileTree) ⟨"out"⟩ (sharing ++ [blocked])).run
      halfFilled = reached at hfails
    obtain ⟨result, t₁⟩ := reached
    obtain ⟨fault, rfl⟩ := toOption_eq_none.mp hfails
    obtain ⟨before, a, after, report, t₀, hsplit, hbefore, -, hgains, -⟩ :=
      (artifacts_are_filed ⟨"out"⟩ (sharing ++ [blocked]) halfFilled hplain).2 fault t₁ hrun
    exact ⟨fault, t₁, rfl, before, a, after, report, t₀, hsplit, hbefore, hgains⟩

end Bindery
