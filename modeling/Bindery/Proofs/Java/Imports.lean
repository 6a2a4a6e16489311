import Bindery.Proofs.Java.Receiver
import Bindery.Proofs.Java.Rendering

/-!
# The import block of a file

A file is written twice, and the imports come from the first pass while the second pass uses them.
The first class of another package to ask for a simple name is imported, unless a reference anywhere
in the file needs the name for a class of the file's own package
(`SourceFile.mem_importedClasses_iff`).  So no import is idle: the reference that asked for it first
is written by the short name that the import gives it.

`SourceFile.imports_are_exact` puts together what a reader of the file can check: the block holds
what it has to and nothing else, in order, every import is used, and the block stands between the
package and the declared class, whose references are spelled out behind it.
-/

namespace Bindery.Java

/-! ### Names of imports -/

section Offers

variable {imports : Imports}

/-- No name is given to two classes. -/
theorem nodup_offer (h : (imports.map (·.1)).Nodup) (c : ClassName) :
    ((imports.offer c).map (·.1)).Nodup := by
  unfold Imports.offer
  split
  next => exact h
  next hfree =>
    rw [Option.not_isSome_iff_eq_none, lookup_eq_none_iff_not_mem] at hfree
    rw [List.map_append, List.nodup_append]
    refine ⟨h, List.nodup_singleton _, fun name hname other hother => ?_⟩
    obtain rfl := List.mem_singleton.mp hother
    exact ne_of_mem_of_not_mem hname hfree

theorem nodup_foldl_offer (imports : Imports) (h : (imports.map (·.1)).Nodup)
    (classes : List ClassName) : ((classes.foldl Imports.offer imports).map (·.1)).Nodup := by
  induction classes generalizing imports with
  | nil => exact h
  | cons c classes ih => exact ih _ (nodup_offer h c)

end Offers

namespace SourceFile

variable {f : SourceFile} {c : ClassName}

/-- A file imports one class by a name. -/
theorem nodup_imports (f : SourceFile) : (f.imports.map (·.1)).Nodup :=
  (nodup_foldl_offer [] List.nodup_nil _).sublist (List.filter_sublist.map _)

/-- A class is imported as the top-level class around a class that the file mentions. -/
theorem exists_of_mem_imports {name : String} (h : (name, c) ∈ f.imports) :
    ∃ d ∈ f.classes, d.outermost = name ∧ d.topLevel = c := by
  have hcollected := (List.mem_filter.mp h).1
  rw [← lookup_eq_some_iff_of_nodup (nodup_foldl_offer [] List.nodup_nil _),
    Imports.lookup_foldl_offer, List.lookup_nil, Option.none_or] at hcollected
  obtain ⟨d, hd, htop⟩ := Option.map_eq_some_iff.mp hcollected
  obtain ⟨r, hr, rfl⟩ := List.mem_map.mp (List.mem_of_find?_eq_some hd)
  have hasked := List.find?_some hd
  exact ⟨r.2, mem_classes_of_mem_references (List.mem_filter.mp hr).1, by simpa using hasked, htop⟩

/-! ### Imported classes -/

/-- **The imported classes**, in the order of their import lines. -/
def importedClasses (f : SourceFile) : List ClassName :=
  (f.imports.map (·.2)).mergeSort fun c d => decide (c.canonicalName ≤ d.canonicalName)

theorem importNames_eq (f : SourceFile) :
    f.importNames = f.importedClasses.map ClassName.canonicalName := by
  have hsort := List.map_mergeSort (r := fun c d => decide (c.canonicalName ≤ d.canonicalName))
    (s := fun a b => decide (a ≤ b)) (l := f.imports.map (·.2)) fun _ _ _ _ => rfl
  rw [importNames, importedClasses, hsort, List.map_map]
  rfl

theorem mem_importedClasses : c ∈ f.importedClasses ↔ ∃ name, (name, c) ∈ f.imports := by
  rw [importedClasses, List.mem_mergeSort, List.mem_map]
  constructor
  · rintro ⟨entry, hentry, rfl⟩
    exact ⟨entry.1, hentry⟩
  · rintro ⟨name, hentry⟩
    exact ⟨_, hentry, rfl⟩

section Sound

variable (hpackage : IsPackage f.package) (hproper : ∀ c ∈ f.classes, c.IsProper)

include hproper

theorem isSound_imports : f.imports.IsSound :=
  isSound_suggestedImports (isProper_of_mem_references hproper)

/-- Classes are imported under the names that they have. -/
theorem outermost_of_mem_imports {name : String} (h : (name, c) ∈ f.imports) :
    c.outermost = name :=
  congrArg ClassName.outermost (isSound_imports hproper _ h).2

/-- A class is imported where its name is found. -/
theorem mem_importedClasses_iff_lookup :
    c ∈ f.importedClasses ↔ f.imports.lookup c.outermost = some c := by
  rw [mem_importedClasses, lookup_eq_some_iff_of_nodup f.nodup_imports]
  constructor
  · rintro ⟨name, hentry⟩
    rwa [outermost_of_mem_imports hproper hentry]
  · exact fun hentry => ⟨_, hentry⟩

theorem isProper_of_mem_importedClasses (h : c ∈ f.importedClasses) :
    c.IsProper ∧ c.simpleName = c.outermost := by
  obtain ⟨name, hentry⟩ := mem_importedClasses.mp h
  obtain ⟨hc, htop⟩ := isSound_imports hproper _ hentry
  have hnested : c.nested = [] := congrArg ClassName.nested htop
  exact ⟨hc, by rw [ClassName.simpleName, hnested, List.getLastD_nil]⟩

/-- No two imports share a simple name. -/
theorem nodup_importedClasses : (f.importedClasses.map ClassName.simpleName).Nodup := by
  have hnames : f.importedClasses.map ClassName.simpleName =
      f.importedClasses.map ClassName.outermost :=
    List.map_congr_left fun c hc => (isProper_of_mem_importedClasses hproper hc).2
  have hkeys : (f.imports.map (·.2)).map ClassName.outermost = f.imports.map (·.1) := by
    rw [List.map_map]
    exact List.map_congr_left fun entry hentry => outermost_of_mem_imports hproper hentry
  have hperm : (f.importedClasses.map ClassName.outermost).Perm (f.imports.map (·.1)) := by
    rw [← hkeys]
    exact (List.mergeSort_perm _ _).map _
  rw [hnames, hperm.nodup_iff]
  exact f.nodup_imports

/-- **The import lines increase strictly.** -/
theorem pairwise_importedClasses :
    f.importedClasses.Pairwise fun c d => c.canonicalName < d.canonicalName := by
  have hsorted : f.importedClasses.Pairwise fun c d => c.canonicalName ≤ d.canonicalName := by
    rw [← List.pairwise_map, ← importNames_eq]
    exact pairwise_importNames f
  have hdistinct : f.importedClasses.Pairwise (· ≠ ·) := (nodup_importedClasses hproper).of_map
  refine (hsorted.and hdistinct).imp_of_mem fun hc hd hboth => ?_
  have hne := fun heq => hboth.2 (ClassName.canonicalName_inj
    (isProper_of_mem_importedClasses hproper hc).1
    (isProper_of_mem_importedClasses hproper hd).1 heq)
  exact Std.lt_of_le_of_ne hboth.1 hne

include hpackage

/-- **A class is imported** if the first class of another package to ask for its name is nested in
it or is the class itself, and the file does not need the name for its own package. -/
theorem mem_importedClasses_iff (hname : ∀ c ∈ f.classes, c.outermost ≠ f.name) :
    c ∈ f.importedClasses ↔ ¬ f.Needs c.outermost ∧
      ∃ first, f.classes.find? (f.asksFor c.outermost) = some first ∧ first.topLevel = c := by
  rw [mem_importedClasses_iff_lookup hproper, ← Option.map_eq_some_iff]
  by_cases hown : c.outermost = f.name
  · -- nothing is called like the declared type, so neither side holds
    have hnone : f.classes.find? (f.asksFor c.outermost) = none := by
      refine List.find?_eq_none.mpr fun d hd hasks => hname d hd ?_
      rw [asksFor, decide_eq_true_eq] at hasks
      exact hasks.1.trans hown
    have hfree : f.imports.lookup c.outermost = none := by
      rw [Option.eq_none_iff_forall_ne_some]
      intro d hlookup
      rw [lookup_eq_some_iff_of_nodup f.nodup_imports] at hlookup
      obtain ⟨e, he, houter, -⟩ := exists_of_mem_imports hlookup
      exact hname e he (houter.trans hown)
    simp [hfree, hnone]
  · obtain ⟨hneeded, hfree⟩ := lookup_imports hpackage hproper hown
    by_cases hneeds : f.Needs c.outermost
    · simp [hneeded hneeds, hneeds]
    · rw [hfree hneeds]
      simp [hneeds]

/-- An imported class is used by its short name where it was asked for. -/
theorem exists_spelling_of_mem_importedClasses (hname : ∀ c ∈ f.classes, c.outermost ≠ f.name)
    (h : c ∈ f.importedClasses) :
    ∃ w ∈ f.spellings, w.1.topLevel = c ∧ w.2 = w.1.relativeName := by
  obtain ⟨-, first, hfirst, rfl⟩ := (mem_importedClasses_iff hpackage hproper hname).mp h
  rw [mem_importedClasses_iff_lookup hproper] at h
  have hmem : first ∈ f.spellings.map (·.1) := by
    rw [f.spellings_map_fst]
    exact List.mem_of_find?_eq_some hfirst
  obtain ⟨w, hw, rfl⟩ := List.mem_map.mp hmem
  obtain ⟨-, -, -, -, hspelled⟩ := spelling_eq hpackage hproper hname hw
  refine ⟨w, hw, rfl, ?_⟩
  rw [hspelled, if_pos]
  exact congrArg (Option.getD · _) h

end Sound

/-! ### The text of a file -/

/-- **The text of a file** is its package, its imports and the declared class with every reference
spelled out. -/
theorem text_eq_append (hpackage : IsFlat f.package) (hnames : ∀ name ∈ f.importNames, IsFlat name) :
    f.text = Layout.packageLines f.package ++ Layout.importLines f.importNames ++
      textOf (spellOut (f.spellings.map (·.2)) f.bodyMarks) := by
  have hspellings : f.spellings = Java.spellings f.scope f.bodyMarks := by
    rw [spellings_eq_map, spellings_eq]
    rfl
  have hwritten := writes_headMarks (s := f.scope) hpackage hnames f.bodyMarks
  rw [glyphs_fresh_file f (begins_marks f), glyphs_fresh_file f (begins_bodyMarks f)] at hwritten
  rw [text, hwritten, textOf, hspellings, glyphs_spellOut, String.ofList_append,
    String.ofList_toList]

/-- **The import block is exact.**  Let the package of a file be empty or that of a class that can
be read, and let every class which the file mentions be one that can be read and not be called like
the declared type.  Then behind the package stand the lines of the imported classes and nothing
else.  For every simple name, the top-level class around the first class that asks for it, being of
a named package other than that of the file, is imported, unless the file mentions a class of its
own package by that name.  The lines increase strictly, no two imports share a simple name, and
every imported class is used by its short name. -/
theorem imports_are_exact (f : SourceFile)
    (hpackage : f.package = "" ∨ ∃ c : ClassName, c.IsRead ∧ c.package = f.package)
    (hclasses : ∀ c ∈ f.classes, c.IsRead ∧ c.outermost ≠ f.name) :
    f.text = Layout.packageLines f.package ++
        Layout.importLines (f.importedClasses.map ClassName.canonicalName) ++
        textOf (spellOut (f.spellings.map (·.2)) f.bodyMarks) ∧
      f.spellings.map (·.1) = f.classes ∧
      (∀ c, c ∈ f.importedClasses ↔ ¬ f.Needs c.outermost ∧
        ∃ first, f.classes.find? (f.asksFor c.outermost) = some first ∧ first.topLevel = c) ∧
      f.importedClasses.Pairwise (fun c d => c.canonicalName < d.canonicalName) ∧
      (f.importedClasses.map ClassName.simpleName).Nodup ∧
      ∀ c ∈ f.importedClasses, ∃ w ∈ f.spellings, w.1.topLevel = c ∧ w.2 = w.1.relativeName := by
  have hproper : ∀ c ∈ f.classes, c.IsProper := fun c hc =>
    ClassName.isProper_iff_isRead.mpr (hclasses c hc).1
  have hname : ∀ c ∈ f.classes, c.outermost ≠ f.name := fun c hc => (hclasses c hc).2
  have hpackage := isPackage_of_isRead hpackage
  have htext := text_eq_append (isFlat_package hpackage) (isFlat_importNames hproper)
  rw [importNames_eq] at htext
  exact ⟨htext, f.spellings_map_fst, fun c => mem_importedClasses_iff hpackage hproper hname,
    pairwise_importedClasses hproper, nodup_importedClasses hproper,
    fun c hc => exists_spelling_of_mem_importedClasses hpackage hproper hname hc⟩

/-- In `twoMaps` the first `Map` is imported for the class nested in it, and the second is not.
`Row` is not imported, as the class of the package needs its name. -/
theorem imports_are_exact_twoMaps :
    (∃ c : ClassName, c.IsRead ∧ c.package = twoMaps.package) ∧
      (∀ c ∈ twoMaps.classes, c.IsRead ∧ c.outermost ≠ twoMaps.name) ∧
      twoMaps.text = Layout.packageLines "app" ++
        Layout.importLines (twoMaps.importedClasses.map ClassName.canonicalName) ++
        textOf (spellOut (twoMaps.spellings.map (·.2)) twoMaps.bodyMarks) ∧
      ⟨"a", "Map", []⟩ ∈ twoMaps.importedClasses ∧ ⟨"b", "Map", []⟩ ∉ twoMaps.importedClasses ∧
      ⟨"b", "Row", []⟩ ∉ twoMaps.importedClasses ∧
      ∃ w ∈ twoMaps.spellings, w.1.topLevel = ⟨"a", "Map", []⟩ ∧ w.2 = w.1.relativeName := by
  have hpackage : ∃ c : ClassName, c.IsRead ∧ c.package = twoMaps.package :=
    ⟨⟨"app", "Row", []⟩, ClassName.isProper_iff_isRead.mp (by decide), rfl⟩
  have hproper : ∀ c ∈ twoMaps.classes, c.IsProper ∧ c.outermost ≠ twoMaps.name := by
    decide
  have hclasses : ∀ c ∈ twoMaps.classes, c.IsRead ∧ c.outermost ≠ twoMaps.name :=
    fun c hc => ⟨ClassName.isProper_iff_isRead.mp (hproper c hc).1, (hproper c hc).2⟩
  obtain ⟨htext, -, himported, -, -, hused⟩ := imports_are_exact twoMaps (.inr hpackage) hclasses
  have hmap : twoMaps.classes.find? (twoMaps.asksFor "Map") = some ⟨"a", "Map", ["Entry"]⟩ := by
    decide
  have hneeds : ¬ twoMaps.Needs "Map" := by
    unfold Needs
    decide
  have hfirst := (himported ⟨"a", "Map", []⟩).mpr ⟨hneeds, _, hmap, rfl⟩
  refine ⟨hpackage, hclasses, htext, hfirst, fun hsecond => ?_, fun hrow => ?_, hused _ hfirst⟩
  · obtain ⟨-, first, hfind, htop⟩ := (himported _).mp hsecond
    rw [hmap] at hfind
    cases hfind
    exact absurd htop (by decide)
  · exact ((himported _).mp hrow).1 ⟨⟨"app", "Row", []⟩, by decide, rfl, rfl⟩

end SourceFile

end Bindery.Java
