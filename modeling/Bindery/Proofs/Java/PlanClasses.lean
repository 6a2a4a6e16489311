import Bindery.Proofs.Java.Annotations
import Bindery.Proofs.Java.Resolution
import Bindery.Proofs.Result

/-!
# The classes of generated files

The file for a plan mentions no class besides those of the plan and the types of its own
annotations.  So it refers to proper classes only, and its imports are proper as well.  `IsWritable`
adds to this that the texts of the plan stay on their lines, and is what writing by the template
asks of a plan.
-/

namespace Bindery

/-- The classes that an argument mentions. -/
def Argument.mentioned (a : Argument) : List ClassName :=
  (a.qualifier.map (·.type)).toList ++ a.type.classes

/-! ### Plans of proper classes -/

/-- A plan is proper when its classes are. -/
def Plan.IsProper (p : Plan) : Prop := ∀ c ∈ p.classes, c.IsProper

namespace Plan.IsProper

variable {p : Plan}

theorem owner (h : p.IsProper) : p.source.owner.IsProper := h _ (by simp [Plan.classes])

theorem exposed (h : p.IsProper) : ∀ c ∈ p.exposed.classes, c.IsProper := by
  intro c hc
  exact h c (by simp [Plan.classes, hc])

theorem target (h : p.IsProper) : ∀ c ∈ p.target, c.IsProper := by
  intro c hc
  exact h c (by simp [Plan.classes, Option.mem_def.mp hc])

theorem forwarded (h : p.IsProper) {a : Annotation} (ha : a ∈ p.forwarded) :
    a.type.IsProper := by
  have htype : a.type ∈ p.forwarded.map (·.type) := List.mem_map_of_mem ha
  refine h _ ?_
  simp only [Plan.classes, List.mem_append]
  exact .inl (.inr htype)

theorem argumentType (h : p.IsProper) {a : Argument} (ha : a ∈ p.arguments) :
    ∀ c ∈ a.type.classes, c.IsProper := by
  intro c hc
  refine h c ?_
  have hmem : c ∈ p.arguments.flatMap (·.type.classes) := List.mem_flatMap.mpr ⟨a, ha, hc⟩
  simp only [Plan.classes, List.mem_append]
  exact .inr hmem

end Plan.IsProper

theorem Plan.mem_forwarded_of_scope {p : Plan} {a : Annotation} (h : p.scope = some a) :
    a ∈ p.forwarded := by
  simp [forwarded, h]

theorem Plan.mem_forwarded_of_qualifier {p : Plan} {a : Annotation} (h : p.qualifier = some a) :
    a ∈ p.forwarded := by
  simp [forwarded, h]

theorem Plan.mem_forwarded_of_argument {p : Plan} {a : Argument} {q : Annotation}
    (ha : a ∈ p.arguments) (hq : a.qualifier = some q) : q ∈ p.forwarded := by
  have hmem : q ∈ p.arguments.flatMap (·.qualifier.toList) :=
    List.mem_flatMap.mpr ⟨a, ha, by simp [hq]⟩
  simp only [forwarded, List.mem_append]
  exact .inr hmem

namespace Java

/-! ### Plans and their files -/

/-- An annotation that can be repeated: its members stay on their lines. -/
structure IsRepeatable (a : Annotation) : Prop where
  type : a.type.IsProper
  members : ∀ m ∈ a.members, IsFlat m.name ∧ IsFlat m.value

/-- What the lines of a function need of its plan. -/
structure IsWritable (p : Plan) : Prop where
  classes : ∀ c ∈ p.classes, c.IsProper
  forwarded : ∀ a ∈ p.forwarded, ∀ m ∈ a.members, IsFlat m.name ∧ IsFlat m.value
  receiver : IsFlat p.source.receiver

namespace IsWritable

variable {p : Plan}

theorem isProper (h : IsWritable p) : p.IsProper := h.classes

theorem isRepeatable (h : IsWritable p) {a : Annotation} (ha : a ∈ p.forwarded) :
    IsRepeatable a :=
  ⟨h.isProper.forwarded ha, h.forwarded a ha⟩

theorem scope (h : IsWritable p) : ∀ a ∈ p.scope, IsRepeatable a :=
  fun _ ha => h.isRepeatable (Plan.mem_forwarded_of_scope ha)

theorem qualifier (h : IsWritable p) : ∀ a ∈ p.qualifier, IsRepeatable a :=
  fun _ ha => h.isRepeatable (Plan.mem_forwarded_of_qualifier ha)

theorem argumentQualifier (h : IsWritable p) {a : Argument} (ha : a ∈ p.arguments) :
    ∀ q ∈ a.qualifier, IsRepeatable q :=
  fun _ hq => h.isRepeatable (Plan.mem_forwarded_of_argument ha hq)

end IsWritable

/-! ### Functions and files of plans -/

section Entries

variable {p : Plan} {name : String} {m : Method}

/-- A provider has the parameters for the arguments of its plan. -/
theorem exists_of_provider {fragment : Fragment} (h : provider name fragment p = .ok m) :
    ∃ entries, p.arguments.mapM parameterOf = .ok entries ∧
      m = ⟨name, entryUses providesType p, [.publicUse, .staticUse], p.exposed, entries,
        callStatement fragment p.arguments⟩ := by
  obtain ⟨entries, hentries, heq⟩ := bind_eq_ok h
  cases heq
  exact ⟨entries, hentries, rfl⟩

/-- A binder has one parameter, whose name was checked. -/
theorem eq_of_binder {c : ClassName} (h : binder c p = .ok m) :
    isName (parameterName c) = true ∧
      m = ⟨binderName c, entryUses bindsType p, [.publicUse, .abstractBody], p.exposed,
        [⟨[], .plain c, parameterName c⟩], .empty⟩ := by
  rw [binder] at h
  split at h
  next => cases h
  next =>
    obtain ⟨_, hparameter, heq⟩ := bind_eq_ok h
    cases heq
    exact ⟨isName_of_checkName hparameter, rfl⟩

/-- **The function of a plan** provides an instance or the result of a function, or binds a
class. -/
theorem entryPoint_cases (h : entryPoint p = .ok (name, m)) :
    (∃ c, p.source = .instance c ∧ p.strategy = .provides ∧ name = classModuleName c ∧
      provider (providerName c) ((Fragment.ofText "new ").type (.plain c)) p = .ok m) ∨
    (∃ c, p.source = .instance c ∧ p.strategy = .binds ∧ name = classModuleName c ∧
      binder c p = .ok m) ∨
    ∃ container function receiver, p.source = .call container function receiver ∧
      p.strategy = .provides ∧ name = functionModuleName container function ∧
      isName function = true ∧ provider (functionProviderName container function)
        (Fragment.ofText (receiver ++ "." ++ function)) p = .ok m := by
  rw [entryPoint] at h
  split at h
  next c hsource hstrategy =>
    obtain ⟨m, hm, heq⟩ := map_eq_ok h
    cases heq
    exact .inl ⟨c, hsource, hstrategy, rfl, hm⟩
  next c hsource hstrategy =>
    obtain ⟨m, hm, heq⟩ := map_eq_ok h
    cases heq
    exact .inr (.inl ⟨c, hsource, hstrategy, rfl, hm⟩)
  next => cases h
  next container function receiver hsource hstrategy =>
    obtain ⟨_, hfunction, h⟩ := bind_eq_ok h
    obtain ⟨m, hm, heq⟩ := bind_eq_ok h
    cases heq
    exact .inr (.inr ⟨container, function, receiver, hsource, hstrategy, rfl,
      isName_of_checkName hfunction, hm⟩)

end Entries

/-- A module is rendered when there is a file for its plan, and then it is that file. -/
theorem renderModule_eq_ok_iff {settings : GeneratorSettings} {b : Binding} {artifact : Artifact} :
    renderModule settings b = .ok artifact ↔
      ∃ f, sourceFile settings b.toPlan = .ok f ∧ artifact = f.artifact := by
  rw [renderModule]
  cases sourceFile settings b.toPlan with
  | error fault => simp
  | ok f => simp [eq_comm]

/-- What is known of the file for a plan. -/
structure IsFileOf (settings : GeneratorSettings) (p : Plan) (f : SourceFile) (m : Method) :
    Prop where
  entry : entryPoint p = .ok (f.name, m)
  isName : isName f.name = true
  isMethodName : Java.isName m.name = true
  package : f.package = p.source.package
  annotations : f.annotations = moduleUses settings p
  modifiers : f.modifiers = [.publicUse, .abstractBody]
  methods : f.methods = [m]

theorem exists_isFileOf {settings : GeneratorSettings} {p : Plan} {f : SourceFile}
    (h : sourceFile settings p = .ok f) : ∃ m, IsFileOf settings p f m := by
  obtain ⟨⟨name, m⟩, hentry, h⟩ := bind_eq_ok h
  obtain ⟨_, hname, h⟩ := bind_eq_ok h
  obtain ⟨_, hmethod, heq⟩ := bind_eq_ok h
  cases heq
  exact ⟨m, hentry, isName_of_checkName hname, isName_of_checkName hmethod, rfl, rfl, rfl, rfl⟩

/-! ### The classes of a file -/

theorem Fragment.classes_append (f g : Fragment) :
    (f.append g).classes = f.classes ++ g.classes := by
  simp [Fragment.append, Fragment.classes]

theorem Fragment.classes_text (f : Fragment) (t : String) : (f.text t).classes = f.classes := by
  rw [Fragment.text]
  split
  next => rfl
  next => simp [Fragment.classes, Part.classes]

theorem Fragment.classes_ofText (t : String) : (Fragment.ofText t).classes = [] :=
  Fragment.classes_text _ t

theorem Fragment.classes_join {separator : String} {fragments : List Fragment}
    (h : ∀ f ∈ fragments, f.classes = []) : (join separator fragments).classes = [] := by
  induction fragments with
  | nil => rfl
  | cons f fragments ih =>
      rw [List.forall_mem_cons] at h
      cases fragments with
      | nil => exact h.1
      | cons g others => rw [join, classes_append, classes_text, h.1, ih h.2, List.append_nil]

theorem classes_callStatement (callee : Fragment) (arguments : List Argument) :
    (callStatement callee arguments).classes = callee.classes := by
  have hstatement (f : Fragment) : f.statement.classes = f.classes := by
    simp [Fragment.statement, Fragment.classes, Part.classes]
  have hjoin : (Fragment.join ",\n" (arguments.map fun a => Fragment.ofText a.name)).classes =
      [] := by
    refine Fragment.classes_join fun f hf => ?_
    obtain ⟨a, -, rfl⟩ := List.mem_map.mp hf
    exact Fragment.classes_ofText a.name
  rw [callStatement, hstatement, Fragment.classes_text, Fragment.classes_append, hjoin,
    List.append_nil, Fragment.classes_text, Fragment.classes_append, Fragment.classes_ofText,
    List.nil_append]

theorem AnnotationUse.classes_repeating (a : Annotation) : (repeating a).classes = [a.type] := by
  rw [AnnotationUse.classes, repeating, List.flatMap_map]
  simp [Fragment.classes_ofText]

theorem classes_repeating (a : Option Annotation) :
    (a.map AnnotationUse.repeating).toList.flatMap AnnotationUse.classes =
      (a.map (·.type)).toList := by
  cases a <;> simp [AnnotationUse.classes_repeating]

theorem isProper_of_mem_repeating {a : Option Annotation} (h : ∀ b ∈ a, b.type.IsProper) :
    ∀ c ∈ (a.map AnnotationUse.repeating).toList.flatMap AnnotationUse.classes, c.IsProper := by
  rw [classes_repeating]
  cases a with
  | none => simp
  | some a => simpa using h a rfl

theorem classes_parameters {arguments : List Argument} {entries : List ParameterEntry}
    (h : arguments.mapM parameterOf = .ok entries) :
    entries.flatMap ParameterEntry.classes = arguments.flatMap Argument.mentioned := by
  have hentries := forall₂_of_mapM h
  clear h
  induction hentries with
  | nil => rfl
  | @cons a entry arguments entries hentry _ ih =>
      obtain ⟨_, -, heq⟩ := bind_eq_ok hentry
      cases heq
      rw [List.flatMap_cons, List.flatMap_cons, ih, ParameterEntry.classes, classes_repeating]
      rfl

section Plans

variable {p : Plan}

theorem isProper_of_mem_entryUses (h : p.IsProper) {kind : ClassName} (hkind : kind.IsProper) :
    ∀ c ∈ (entryUses kind p).flatMap AnnotationUse.classes, c.IsProper := by
  rw [entryUses, List.flatMap_append, List.flatMap_append, List.forall_mem_append,
    List.forall_mem_append]
  refine ⟨⟨?_, isProper_of_mem_repeating fun a ha => ?_⟩, isProper_of_mem_repeating fun a ha => ?_⟩
  · simpa [AnnotationUse.classes] using hkind
  · exact h.forwarded (Plan.mem_forwarded_of_scope ha)
  · exact h.forwarded (Plan.mem_forwarded_of_qualifier ha)

theorem isProper_of_mem_parameters (h : p.IsProper) {entries : List ParameterEntry}
    (hentries : p.arguments.mapM parameterOf = .ok entries) :
    ∀ c ∈ entries.flatMap ParameterEntry.classes, c.IsProper := by
  rw [classes_parameters hentries]
  intro c hc
  obtain ⟨a, ha, hc⟩ := List.mem_flatMap.mp hc
  rw [Argument.mentioned, List.mem_append] at hc
  rcases hc with hqualifier | htype
  · rw [Option.mem_toList, Option.map_eq_some_iff] at hqualifier
    obtain ⟨q, hq, rfl⟩ := hqualifier
    exact h.forwarded (Plan.mem_forwarded_of_argument ha hq)
  · exact h.argumentType ha c htype

theorem isProper_of_mem_provider (h : p.IsProper) {name : String} {fragment : Fragment}
    {m : Method} (hm : provider name fragment p = .ok m)
    (hfragment : ∀ c ∈ fragment.classes, c.IsProper) : ∀ c ∈ m.classes, c.IsProper := by
  obtain ⟨entries, hentries, rfl⟩ := exists_of_provider hm
  have huses := isProper_of_mem_entryUses h (show providesType.IsProper by decide)
  have hbody : ∀ c ∈ (callStatement fragment p.arguments).classes, c.IsProper := by
    rw [classes_callStatement]
    exact hfragment
  rw [Method.classes, List.forall_mem_append, List.forall_mem_append, List.forall_mem_append]
  exact ⟨⟨⟨huses, h.exposed⟩, isProper_of_mem_parameters h hentries⟩, hbody⟩

theorem isProper_of_mem_binder (h : p.IsProper) {c : ClassName} (hc : c.IsProper) {m : Method}
    (hm : binder c p = .ok m) : ∀ d ∈ m.classes, d.IsProper := by
  obtain ⟨-, rfl⟩ := eq_of_binder hm
  have huses := isProper_of_mem_entryUses h (show bindsType.IsProper by decide)
  have hbody : ∀ d ∈ Fragment.empty.classes, d.IsProper := by
    intro d hd
    cases hd
  rw [Method.classes, List.forall_mem_append, List.forall_mem_append, List.forall_mem_append]
  refine ⟨⟨⟨huses, h.exposed⟩, ?_⟩, ?_⟩
  · simpa [ParameterEntry.classes, TypeName.classes] using hc
  · split
    · simp
    · exact hbody

theorem isProper_of_mem_entryPoint (h : p.IsProper) {name : String} {m : Method}
    (hentry : entryPoint p = .ok (name, m)) : ∀ c ∈ m.classes, c.IsProper := by
  have howner := h.owner
  rcases entryPoint_cases hentry with ⟨c, hsource, -, -, hm⟩ | ⟨c, hsource, -, -, hm⟩ |
    ⟨container, function, receiver, -, -, -, -, hm⟩
  · rw [hsource] at howner
    refine isProper_of_mem_provider h hm ?_
    show ∀ d ∈ [c], d.IsProper
    rw [List.forall_mem_singleton]
    exact howner
  · rw [hsource] at howner
    exact isProper_of_mem_binder h howner hm
  · refine isProper_of_mem_provider h hm ?_
    rw [Fragment.classes_ofText]
    simp

end Plans

theorem classes_generatedUse (settings : GeneratorSettings) :
    (generatedUse settings).flatMap AnnotationUse.classes =
      if settings.annotated then [generatedType] else [] := by
  have hliteral (text : String) : (Fragment.empty.literal text).classes = [] :=
    Fragment.classes_ofText (literal text)
  rw [generatedUse]
  split <;> simp [AnnotationUse.classes, hliteral]

theorem classes_installUse (p : Plan) :
    (installUse p).flatMap AnnotationUse.classes =
      if p.install then p.target.toList.flatMap fun target => [installType, target] else [] := by
  have hvalue (target : ClassName) :
      ((Fragment.empty.className target).text ".class").classes = [target] := by
    rw [Fragment.classes_text]
    rfl
  rw [installUse]
  cases p.install <;> cases p.target <;> simp [AnnotationUse.classes, hvalue]

theorem isProper_of_mem_moduleUses (settings : GeneratorSettings) {p : Plan}
    (h : ∀ c ∈ p.target, c.IsProper) :
    ∀ c ∈ (moduleUses settings p).flatMap AnnotationUse.classes, c.IsProper := by
  rw [moduleUses, List.flatMap_append, List.flatMap_append, classes_generatedUse,
    classes_installUse, List.forall_mem_append, List.forall_mem_append]
  refine ⟨⟨fun c hc => ?_, ?_⟩, fun c hc => ?_⟩
  · split at hc
    · rw [List.mem_singleton.mp hc]
      decide
    · cases hc
  · simp only [AnnotationUse.classes, List.flatMap_singleton, List.flatMap_nil,
      List.forall_mem_singleton]
    decide
  · split at hc
    · obtain ⟨target, hmem, hc⟩ := List.mem_flatMap.mp hc
      rcases List.mem_cons.mp hc with rfl | hc
      · decide
      · rw [List.mem_singleton.mp hc]
        exact h target (Option.mem_toList.mp hmem)
    · cases hc

/-- **Every class that the file of a plan mentions is proper.** -/
theorem isProper_of_mem_classes {settings : GeneratorSettings} {p : Plan} {f : SourceFile}
    {m : Method} (h : IsFileOf settings p f m) (hp : p.IsProper) :
    ∀ c ∈ f.classes, c.IsProper := by
  have hfunction := isProper_of_mem_entryPoint hp h.entry
  rw [SourceFile.classes, List.forall_mem_append, SourceFile.outerClasses, h.annotations,
    SourceFile.innerClasses, h.methods, List.flatMap_singleton]
  exact ⟨isProper_of_mem_moduleUses settings hp.target, hfunction⟩

/-- The imported names stay on their lines. -/
theorem isFlat_importNames {f : SourceFile} (h : ∀ c ∈ f.classes, c.IsProper) :
    ∀ name ∈ f.importNames, IsFlat name := by
  intro name hname
  rw [SourceFile.importNames, List.mem_mergeSort] at hname
  obtain ⟨entry, hentry, rfl⟩ := List.mem_map.mp hname
  have hsound : f.imports.IsSound :=
    isSound_suggestedImports (SourceFile.isProper_of_mem_references h)
  exact (hsound entry hentry).1.not_mem_canonicalName not_isNameChar_newline

end Java

end Bindery
