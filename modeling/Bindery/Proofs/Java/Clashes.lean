import Bindery.Proofs.Java.Imports
import Bindery.Proofs.Java.Placement

/-!
# Imports by the name of the declared type

In its own body the name of the declared type means the type, so no reference there asks to be
imported by that name.  The annotations of the type stand in front of the body, where the name still
means nothing: a class of another package that goes by it is imported like any other, and the file
then declares and imports the same name.

Of the classes in the annotations of a generated module only the component comes from outside.  The
others are those of the annotations themselves, and no generated module is called like them.  So the
component alone decides whether an import clashes with the module (`clashing_import_iff`), and with
a component of that name one does (`not_imports_avoid_declared`).
-/

namespace Bindery.Java

/-! ### References by the name of the declared type -/

/-- In front of the body, without imports, a class stands to a file as its package says. -/
theorem standingOf_outside (package : String) (c : ClassName) :
    standingOf package (none, c) = if c.package = package then .neighbour else .foreign := by
  have hmeaning (name : String) : (⟨package, none, []⟩ : Scope).meaning? name = none := by
    simp [Scope.meaning?]
  have hvisible : c.chain.find? (⟨package, none, []⟩ : Scope).isVisible = none := by
    refine List.find?_eq_none.mpr fun around _ => ?_
    simp [Scope.isVisible, hmeaning]
  simp [standingOf, Scope.standing, hvisible, hmeaning]

/-- Inside the body a class by the name of the declared type is neither imported nor taken for a
class of the package. -/
theorem standingOf_declared (package : String) (c : ClassName) :
    standingOf package (some c.outermost, c) ≠ .foreign ∧
      standingOf package (some c.outermost, c) ≠ .neighbour := by
  have hmeaning : ((⟨package, some c.outermost, []⟩ : Scope).meaning? c.outermost).isSome = true := by
    simp [Scope.meaning?]
  rw [standingOf, Scope.standing]
  split
  · simp
  · simp [hmeaning]

namespace SourceFile

variable {f : SourceFile} {c : ClassName} {name : String}

/-- **The import by a simple name** is what is found under the name. -/
theorem mem_importedClasses_and_simpleName_iff :
    c ∈ f.importedClasses ∧ c.simpleName = name ↔ f.imports.lookup name = some c := by
  rw [mem_importedClasses, lookup_eq_some_iff_of_nodup f.nodup_imports]
  constructor
  · rintro ⟨⟨key, hentry⟩, rfl⟩
    obtain ⟨d, -, rfl, rfl⟩ := exists_of_mem_imports hentry
    exact hentry
  · intro hentry
    obtain ⟨d, -, rfl, rfl⟩ := exists_of_mem_imports hentry
    exact ⟨⟨_, hentry⟩, rfl⟩

/-- The name of the declared type is kept for a class of the package exactly if one goes by it in
front of the body. -/
theorem mem_reserved_declared_iff (f : SourceFile) :
    f.name ∈ reserved f.package f.references ↔
      ∃ c ∈ f.outerClasses, c.outermost = f.name ∧ c.package = f.package := by
  rw [mem_reserved_iff]
  constructor
  · rintro ⟨r, hr, hstanding, hname⟩
    rw [references_eq, List.mem_append] at hr
    rcases hr with houter | hinner
    · obtain ⟨c, hc, rfl⟩ := List.mem_map.mp houter
      refine ⟨c, hc, hname, ?_⟩
      by_contra hother
      simp [standingOf_outside, hother] at hstanding
    · obtain ⟨c, -, rfl⟩ := List.mem_map.mp hinner
      have hneighbour := (standingOf_declared f.package c).2
      rw [show c.outermost = f.name from hname] at hneighbour
      exact absurd hstanding hneighbour
  · rintro ⟨c, hc, hname, hown⟩
    refine ⟨(none, c), ?_, by rw [standingOf_outside, if_pos hown], hname⟩
    rw [references_eq]
    exact List.mem_append_left _ (List.mem_map_of_mem hc)

/-- Inside the body nothing asks for an import by the name of the declared type. -/
theorem find?_importable_declared (f : SourceFile) :
    (importable f.package f.references).find? (·.outermost == f.name) =
      f.outerClasses.find? (f.asksFor f.name) := by
  have hinner : (importable f.package (f.innerClasses.map fun c => (some f.name, c))).find?
      (·.outermost == f.name) = none := by
    refine List.find?_eq_none.mpr fun c hc hname => ?_
    obtain ⟨r, hr, rfl⟩ := List.mem_map.mp hc
    obtain ⟨hmem, hasks⟩ := List.mem_filter.mp hr
    obtain ⟨c, -, rfl⟩ := List.mem_map.mp hmem
    have hforeign := (standingOf_declared f.package c).1
    rw [beq_iff_eq.mp hname] at hforeign
    simp [hforeign] at hasks
  rw [references_eq, importable, List.filter_append, List.map_append, List.find?_append]
  rw [importable] at hinner
  rw [hinner, Option.or_none]
  simp only [List.filter_map, List.map_map, Function.comp_def, List.map_id', List.find?_filter]
  refine List.find?_congr fun c _ => ?_
  rw [standingOf_outside]
  by_cases hown : c.package = f.package <;> simp [asksFor, hown, and_comm]

/-- **The class imported under the name of the declared type** is the first in front of the body
that asks for it, unless a class of the package goes by the name there. -/
theorem lookup_imports_declared (f : SourceFile) :
    ((∃ c ∈ f.outerClasses, c.outermost = f.name ∧ c.package = f.package) →
        f.imports.lookup f.name = none) ∧
      ((∀ c ∈ f.outerClasses, c.outermost = f.name → c.package ≠ f.package) →
        f.imports.lookup f.name =
          (f.outerClasses.find? (f.asksFor f.name)).map ClassName.topLevel) := by
  rw [← mem_reserved_declared_iff, imports, lookup_suggestedImports, find?_importable_declared]
  refine ⟨fun hreserved => if_pos hreserved, fun hother => if_neg ?_⟩
  rw [mem_reserved_declared_iff]
  rintro ⟨c, hc, hname, hown⟩
  exact hother c hc hname hown

end SourceFile

/-- An import has its line among the lines of the imports. -/
theorem exists_importLines_eq {names : List String} {name : String} (h : name ∈ names) :
    ∃ before behind, Layout.importLines names =
      before ++ line 0 ("import " ++ name ++ ";") ++ behind := by
  obtain ⟨first, others, rfl⟩ := List.append_of_mem h
  rw [Layout.importLines, List.map_append, List.map_cons, String.join_append, String.join_cons,
    ← String.append_assoc]
  exact ⟨_, _, String.append_assoc⟩

/-! ### Generated modules -/

section Modules

variable {settings : GeneratorSettings} {p : Plan} {f : SourceFile} {m : Method} {c : ClassName}

/-- The name of a generated module has an underscore in it. -/
theorem IsFileOf.underscore_mem_name (h : IsFileOf settings p f m) : '_' ∈ f.name.toList := by
  have hsuffix : '_' ∈ moduleSuffix.toList := by decide
  rw [h.name_eq]
  cases p.source <;>
    simp only [moduleName, classModuleName, functionModuleName, String.toList_append,
      List.mem_append, hsuffix, or_true]

/-- The annotations of a module mention their own types and the component. -/
theorem IsFileOf.outerClasses_eq (h : IsFileOf settings p f m) :
    f.outerClasses = (if settings.annotated then [generatedType] else []) ++ [moduleType] ++
      if p.install then p.target.toList.flatMap fun target => [installType, target] else [] := by
  rw [SourceFile.outerClasses, h.annotations, moduleUses, List.flatMap_append, List.flatMap_append,
    classes_generatedUse, classes_installUse]
  rfl

/-- **In front of the body only the component can go by the name of the module.** -/
theorem IsFileOf.mem_outerClasses_and_outermost_iff (h : IsFileOf settings p f m) :
    c ∈ f.outerClasses ∧ c.outermost = f.name ↔
      p.install = true ∧ c ∈ p.target ∧ c.outermost = f.name := by
  have hfixed {d : ClassName} (hd : '_' ∉ d.outermost.toList) : d.outermost ≠ f.name :=
    fun heq => hd (heq ▸ h.underscore_mem_name)
  have hgenerated : generatedType.outermost ≠ f.name := hfixed (by decide)
  have hmodule : moduleType.outermost ≠ f.name := hfixed (by decide)
  have hinstall : installType.outermost ≠ f.name := hfixed (by decide)
  rw [h.outerClasses_eq, List.mem_append, List.mem_append]
  constructor
  · rintro ⟨(hc | hc) | hc, hname⟩
    · split at hc
      · obtain rfl := List.mem_singleton.mp hc
        exact absurd hname hgenerated
      · cases hc
    · obtain rfl := List.mem_singleton.mp hc
      exact absurd hname hmodule
    · split at hc
      next hinstalled =>
        obtain ⟨target, htarget, hc⟩ := List.mem_flatMap.mp hc
        rcases List.mem_cons.mp hc with rfl | hc
        · exact absurd hname hinstall
        · obtain rfl := List.mem_singleton.mp hc
          exact ⟨hinstalled, Option.mem_toList.mp htarget, hname⟩
      next => cases hc
  · rintro ⟨hinstalled, htarget, hname⟩
    refine ⟨.inr ?_, hname⟩
    rw [if_pos hinstalled]
    exact List.mem_flatMap.mpr ⟨c, Option.mem_toList.mpr htarget, by simp⟩

/-- A class by the name of the module is imported for the component and for nothing else. -/
theorem IsFileOf.lookup_imports_name_iff (h : IsFileOf settings p f m) :
    f.imports.lookup f.name = some c ↔ p.install = true ∧ ∃ target ∈ p.target,
      target.topLevel = c ∧ target.outermost = f.name ∧ target.package ≠ f.package ∧
        target.package ≠ "" := by
  obtain ⟨hneeded, hfree⟩ := f.lookup_imports_declared
  constructor
  · intro hlookup
    have hother : ∀ d ∈ f.outerClasses, d.outermost = f.name → d.package ≠ f.package := by
      intro d hd hname hown
      rw [hneeded ⟨d, hd, hname, hown⟩] at hlookup
      cases hlookup
    rw [hfree hother] at hlookup
    obtain ⟨first, hfirst, rfl⟩ := Option.map_eq_some_iff.mp hlookup
    have hasks := List.find?_some hfirst
    rw [SourceFile.asksFor, decide_eq_true_eq] at hasks
    obtain ⟨hinstalled, htarget, -⟩ :=
      h.mem_outerClasses_and_outermost_iff.mp ⟨List.mem_of_find?_eq_some hfirst, hasks.1⟩
    exact ⟨hinstalled, first, htarget, rfl, hasks⟩
  · rintro ⟨hinstalled, target, htarget, rfl, hname, hpackage, hnamed⟩
    -- the component is the only class to go by the name
    have honly : ∀ d ∈ f.outerClasses, d.outermost = f.name → d = target := by
      intro d hd hd'
      obtain ⟨-, htarget', -⟩ := h.mem_outerClasses_and_outermost_iff.mp ⟨hd, hd'⟩
      exact Option.mem_unique htarget' htarget
    rw [hfree fun d hd hd' => honly d hd hd' ▸ hpackage]
    have hmem := (h.mem_outerClasses_and_outermost_iff.mpr ⟨hinstalled, htarget, hname⟩).1
    have hasks : f.asksFor f.name target = true := decide_eq_true ⟨hname, hpackage, hnamed⟩
    obtain ⟨first, hfirst⟩ := Option.isSome_iff_exists.mp
      (List.find?_isSome.mpr ⟨target, hmem, hasks⟩)
    have hfound := List.find?_some hfirst
    rw [SourceFile.asksFor, decide_eq_true_eq] at hfound
    rw [hfirst, honly first (List.mem_of_find?_eq_some hfirst) hfound.1]
    rfl

end Modules

/-- **A generated file imports a class by the name of the module** exactly when the module is
installed in a component of that name, or nested in a class of that name, from another named package.
Then the file has an import of the name that it declares. -/
theorem clashing_import_iff {settings : GeneratorSettings} {b : Binding} {artifact : Artifact}
    (h : renderModule settings b = .ok artifact) :
    ∃ f, sourceFile settings b.toPlan = .ok f ∧ artifact = f.artifact ∧
      ((∀ c ∈ b.classes, c.IsRead) →
        artifact.contents = Layout.packageLines artifact.package ++
          Layout.importLines (f.importedClasses.map ClassName.canonicalName) ++
          textOf (spellOut (f.spellings.map (·.2)) f.bodyMarks)) ∧
      ∀ c, c ∈ f.importedClasses ∧ c.simpleName = artifact.typeName ↔
        b.install = true ∧ ∃ target ∈ b.target, target.topLevel = c ∧
          target.outermost = artifact.typeName ∧ target.package ≠ artifact.package ∧
          target.package ≠ "" := by
  obtain ⟨f, hf, rfl⟩ := renderModule_eq_ok_iff.mp h
  obtain ⟨m, hfile⟩ := exists_isFileOf hf
  refine ⟨f, hf, rfl, fun hclasses => ?_, fun c => ?_⟩
  · have hproper : b.toPlan.IsProper := fun c hc =>
      ClassName.isProper_iff_isRead.mpr (hclasses c hc)
    have hpackage : IsPackage f.package := by
      rw [hfile.package, Source.package_eq]
      exact hproper.owner.package
    rw [← SourceFile.importNames_eq]
    exact SourceFile.text_eq_append (isFlat_package hpackage)
      (isFlat_importNames (isProper_of_mem_classes hfile hproper))
  · exact SourceFile.mem_importedClasses_and_simpleName_iff.trans hfile.lookup_imports_name_iff

/-- A module that is installed in a class nested in one with the name of the module. -/
def nestedClash : Binding where
  source := .call ⟨"test", "ClockKt", []⟩ "utc" "ClockKt"
  exposed := .plain ⟨"java.time", "Clock", []⟩
  strategy := .provides
  target := some ⟨"other", "ClockKt_utc_SoloModule", ["Component"]⟩
  sound := by decide

theorem clashing_import_iff_nestedClash : ∃ artifact, renderModule {} nestedClash = .ok artifact ∧
    artifact.typeName = "ClockKt_utc_SoloModule" ∧
    ∃ f : SourceFile, artifact = f.artifact ∧
      ⟨"other", "ClockKt_utc_SoloModule", []⟩ ∈ f.importedClasses := by
  have hfile : (sourceFile {} nestedClash.toPlan).toOption.map (·.name) =
      some "ClockKt_utc_SoloModule" := by
    decide
  obtain ⟨f, hf, hname⟩ := Option.map_eq_some_iff.mp hfile
  have hf := toOption_eq_some.mp hf
  have hrendered := renderModule_eq_ok_iff.mpr ⟨f, hf, rfl⟩
  obtain ⟨m, hfile⟩ := exists_isFileOf hf
  have hpackage : f.package = "test" := hfile.package
  obtain ⟨g, hg, hartifact, -, himported⟩ := clashing_import_iff hrendered
  have htarget : nestedClash.install = true ∧ ∃ target ∈ nestedClash.target,
      target.topLevel = ⟨"other", "ClockKt_utc_SoloModule", []⟩ ∧
      target.outermost = f.artifact.typeName ∧ target.package ≠ f.artifact.package ∧
      target.package ≠ "" := by
    refine ⟨rfl, _, rfl, rfl, hname.symm, ?_, by decide⟩
    show "other" ≠ f.package
    rw [hpackage]
    decide
  exact ⟨f.artifact, hrendered, hname, g, hartifact, ((himported _).mpr htarget).1⟩

/-- A function whose module is installed in a class with the name of the module. -/
def clashingFunction : FunctionDeclaration where
  container := ⟨"test", "ClockKt", []⟩
  name := "utc"
  isStatic := true
  returnType := .plain ⟨"java.time", "Clock", []⟩
  marker := { installIn := some ⟨"other", "ClockKt_utc_SoloModule", []⟩ }

/-- The file for `clashingFunction`. -/
def clashingFile : SourceFile where
  package := "test"
  name := "ClockKt_utc_SoloModule"
  annotations := moduleUses {} (clashingFunction.plan {} .file)
  modifiers := [.publicUse, .abstractBody]
  methods := [{
    name := "provides_test_ClockKt_utc"
    annotations := [⟨providesType, []⟩]
    modifiers := [.publicUse, .staticUse]
    returnType := .plain ⟨"java.time", "Clock", []⟩
    body := callStatement (Fragment.ofText "ClockKt.utc") [] }]

/-- **There are generated files that import a class by the name of the module.** -/
theorem not_imports_avoid_declared :
    (∀ c ∈ (Declaration.ofFunction clashingFunction).classes, c.IsRead) ∧
      ((Declaration.ofFunction clashingFunction).process (renderModule {}) {}
        (fun _ => .ok .file) {}).1 =
        .ok ⟨"test.ClockKt.utc", .generated clashingFile.artifact⟩ ∧
      clashingFile.artifact.typeName = "ClockKt_utc_SoloModule" ∧
      ∃ before behind, clashingFile.artifact.contents =
        before ++ "import other.ClockKt_utc_SoloModule;\n" ++ behind := by
  have hproper : ∀ c ∈ (Declaration.ofFunction clashingFunction).classes, c.IsProper := by
    decide
  have hfile : sourceFile {} (clashingFunction.plan {} .file) = .ok clashingFile := by
    decide
  have hmentioned : ∀ c ∈ clashingFile.classes, c.IsProper := by
    decide
  have himported : "other.ClockKt_utc_SoloModule" ∈ clashingFile.importNames := by
    rw [SourceFile.importNames, List.mem_mergeSort]
    decide +kernel
  have htext := SourceFile.text_eq_append (by decide) (isFlat_importNames hmentioned)
  obtain ⟨before, behind, hlines⟩ := exists_importLines_eq himported
  have hline : line 0 ("import " ++ "other.ClockKt_utc_SoloModule" ++ ";") =
      "import other.ClockKt_utc_SoloModule;\n" := by
    decide
  rw [hlines, hline] at htext
  refine ⟨fun c hc => ClassName.isProper_iff_isRead.mp (hproper c hc),
    process_of_sourceFile rfl rfl (by decide) hfile, rfl, ?_⟩
  refine ⟨Layout.packageLines "test" ++ before,
    behind ++ textOf (spellOut (clashingFile.spellings.map (·.2)) clashingFile.bodyMarks), ?_⟩
  simp only [SourceFile.artifact, htext, String.append_assoc]
  rfl

end Bindery.Java
