import Bindery.Proofs.Declaration.Proper
import Bindery.Proofs.Java.PlanClasses
import Bindery.Proofs.Review.Rules
import Mathlib.Data.List.Find

/-!
# The receivers of generated calls

A module for a function calls the function on its container.  The container is written as text, so
the file does not refer to it: it asks for no import, and it does not keep its name from being
imported either.  Whether its outermost name means the container depends on the classes that the
file mentions besides (`Plan.mentioned`).

A name means a class of the package of the file as soon as the file mentions such a class.
Otherwise the first class of another package that asks for the name gets it, and then the call goes
to that class.  `SourceFile.topLevelNamed_eq_iff` says this of any file and
`receiver_means_container_iff` of generated calls; `not_receiver_means_container` has a call that
misses its container.
-/

namespace Bindery

open Text

namespace Java

/-! ### Classes imported under a name -/

namespace SourceFile

variable {f : SourceFile} {name : String}

/-- A class that the file mentions by a name of its own package. -/
def Needs (f : SourceFile) (name : String) : Prop :=
  ∃ c ∈ f.classes, c.outermost = name ∧ c.package = f.package

/-- Whether a class can be imported under a name. -/
def asksFor (f : SourceFile) (name : String) (c : ClassName) : Bool :=
  decide (c.outermost = name ∧ c.package ≠ f.package ∧ c.package ≠ "")

/-- Without imports a class stands to a file as its package says, unless it goes by the name of the
declared type. -/
theorem standingOf_eq (hpackage : IsPackage f.package) (hproper : ∀ c ∈ f.classes, c.IsProper)
    {r : Option String × ClassName} (hr : r ∈ f.references) (hname : r.2.outermost ≠ f.name) :
    standingOf f.package r = if r.2.package = f.package then .neighbour else .foreign := by
  have hbare : Scope.IsSound ⟨f.package, r.1, []⟩ := ⟨hpackage, by simp [Imports.IsSound]⟩
  have hdeclared := declared_ne_of_mem_references hr hname
  rw [standingOf, hbare.standing_eq (isProper_of_mem_references hproper r hr)]
  simp [Scope.meaning?, hdeclared]

/-- The names that the file needs for its own package are those of the classes that it mentions. -/
theorem mem_reserved_iff_needs (hpackage : IsPackage f.package)
    (hproper : ∀ c ∈ f.classes, c.IsProper) (hname : name ≠ f.name) :
    name ∈ reserved f.package f.references ↔ f.Needs name := by
  rw [mem_reserved_iff]
  constructor
  · rintro ⟨r, hr, hstanding, rfl⟩
    rw [standingOf_eq hpackage hproper hr hname] at hstanding
    refine ⟨r.2, mem_classes_of_mem_references hr, rfl, ?_⟩
    by_contra hother
    simp [hother] at hstanding
  · rintro ⟨c, hc, rfl, hown⟩
    rw [← references_map_snd] at hc
    obtain ⟨r, hr, rfl⟩ := List.mem_map.mp hc
    exact ⟨r, hr, by rw [standingOf_eq hpackage hproper hr hname, if_pos hown], rfl⟩

/-- The first class to be importable by a name is the first to ask for it. -/
theorem find?_importable (hpackage : IsPackage f.package)
    (hproper : ∀ c ∈ f.classes, c.IsProper) (hname : name ≠ f.name) :
    (importable f.package f.references).find? (·.outermost == name) =
      f.classes.find? (f.asksFor name) := by
  rw [importable, ← references_map_snd, List.find?_map, List.find?_map, List.find?_filter]
  congr 1
  refine List.find?_congr fun r hr => ?_
  by_cases houter : r.2.outermost = name
  · have hstanding := standingOf_eq hpackage hproper hr (houter ▸ hname)
    by_cases hown : r.2.package = f.package <;> simp [asksFor, houter, hstanding, hown]
  · simp [asksFor, houter]

/-- **The class imported under a name** is the first of another package that asks for it, unless
the file needs the name for its own package. -/
theorem lookup_imports (hpackage : IsPackage f.package) (hproper : ∀ c ∈ f.classes, c.IsProper)
    (hname : name ≠ f.name) :
    (f.Needs name → f.imports.lookup name = none) ∧
      (¬ f.Needs name →
        f.imports.lookup name = (f.classes.find? (f.asksFor name)).map ClassName.topLevel) := by
  rw [← mem_reserved_iff_needs hpackage hproper hname, imports, lookup_suggestedImports,
    find?_importable hpackage hproper hname]
  exact ⟨fun hreserved => if_pos hreserved, fun hreserved => if_neg hreserved⟩

/-- **A name means the class of the package of the file** exactly when the file mentions such a
class, or mentions no class of another package by that name. -/
theorem topLevelNamed_eq_iff (hpackage : IsPackage f.package)
    (hproper : ∀ c ∈ f.classes, c.IsProper) (hname : name ≠ f.name) :
    f.topLevelNamed name = ⟨f.package, name, []⟩ ↔
      f.Needs name ∨ ∀ c ∈ f.classes, c.outermost = name → c.package = "" := by
  obtain ⟨hneeded, hfree⟩ := lookup_imports hpackage hproper hname
  rw [topLevelNamed]
  by_cases hneeds : f.Needs name
  · rw [hneeded hneeds]
    exact iff_of_true rfl (.inl hneeds)
  · rw [hfree hneeds]
    cases hfind : f.classes.find? (f.asksFor name) with
    | none =>
        refine iff_of_true rfl (.inr fun c hc houter => ?_)
        have hasks := List.find?_eq_none.mp hfind c hc
        have hother : c.package ≠ f.package := fun hown => hneeds ⟨c, hc, houter, hown⟩
        simpa [asksFor, houter, hother] using hasks
    | some c =>
        have hasks := List.find?_some hfind
        rw [asksFor, decide_eq_true_eq] at hasks
        refine iff_of_false (fun hown => ?_) ?_
        · -- the imported class belongs to another package
          have hpackages : c.package = f.package := congrArg ClassName.package hown
          exact hasks.2.1 hpackages
        · rintro (hneeds' | hnone)
          · exact hneeds hneeds'
          · exact hasks.2.2 (hnone c (List.mem_of_find?_eq_some hfind) hasks.1)

end SourceFile

end Java

/-! ### The classes in the file for a call -/

/-- **The classes that the file for a call mentions**, in the order of writing.  The container of
the function is not among them. -/
def Plan.mentioned (settings : GeneratorSettings) (p : Plan) : List ClassName :=
  (if settings.annotated then [Java.generatedType] else []) ++ [Java.moduleType] ++
    (if p.install then p.target.toList.flatMap fun target => [Java.installType, target] else []) ++
    [Java.providesType] ++ (p.scope.map (·.type)).toList ++ (p.qualifier.map (·.type)).toList ++
    p.exposed.classes ++ p.arguments.flatMap Argument.mentioned

namespace Java

section Calls

variable {settings : GeneratorSettings} {p : Plan} {f : SourceFile} {m : Method}
    {container : ClassName} {function receiver : String}

/-- The file for a call has one function, which returns the call. -/
theorem IsFileOf.exists_of_call (h : IsFileOf settings p f m)
    (hsource : p.source = .call container function receiver) :
    f.name = functionModuleName container function ∧
      ∃ entries, p.arguments.mapM parameterOf = .ok entries ∧
        m = ⟨functionProviderName container function, entryUses providesType p,
          [.publicUse, .staticUse], p.exposed, entries,
          callStatement (Fragment.ofText (receiver ++ "." ++ function)) p.arguments⟩ := by
  rcases entryPoint_cases h.entry with ⟨c, hinstance, -⟩ | ⟨c, hinstance, -⟩ |
    ⟨container', function', receiver', hcall, -, hname, -, hm⟩
  · rw [hsource] at hinstance
    cases hinstance
  · rw [hsource] at hinstance
    cases hinstance
  · rw [hsource] at hcall
    cases hcall
    exact ⟨hname, exists_of_provider hm⟩

/-- The file for a call mentions the classes of its plan and of its own annotations. -/
theorem IsFileOf.classes_eq (h : IsFileOf settings p f m)
    (hsource : p.source = .call container function receiver) :
    f.classes = p.mentioned settings := by
  obtain ⟨-, entries, hentries, rfl⟩ := h.exists_of_call hsource
  have hbody : (callStatement (Fragment.ofText (receiver ++ "." ++ function))
      p.arguments).classes = [] := by
    rw [classes_callStatement, Fragment.classes_ofText]
  have hkind : [(⟨providesType, []⟩ : AnnotationUse)].flatMap AnnotationUse.classes =
      [providesType] := rfl
  have hmodule : [(⟨moduleType, []⟩ : AnnotationUse)].flatMap AnnotationUse.classes =
      [moduleType] := rfl
  rw [SourceFile.classes, SourceFile.outerClasses, SourceFile.innerClasses, h.annotations,
    h.methods, List.flatMap_singleton, Method.classes, hbody, ite_self, moduleUses, entryUses]
  simp only [List.flatMap_append, classes_generatedUse, classes_installUse, classes_repeating,
    classes_parameters hentries, hkind, hmodule, List.append_nil, List.append_assoc,
    Plan.mentioned]

end Calls

end Java

/-! ### The classes of a declared function -/

section Functions

variable {components : Components} {function : FunctionDeclaration}

/-- A component is stated, built in, or that of the application. -/
theorem isProper_of_mem_targetOf {annotations : List Annotation} {marker : Marker}
    (happlication : components.application.IsProper)
    (hmarker : ∀ c ∈ marker.installIn, c.IsProper) :
    ∀ c ∈ targetOf components annotations marker, c.IsProper := by
  intro c hc
  rw [targetOf] at hc
  cases hstated : marker.installIn with
  | some component =>
      rw [hstated] at hc hmarker
      exact hmarker c hc
  | none =>
      rw [hstated] at hc
      cases hscope : firstScope? annotations with
      | none =>
          rw [hscope] at hc
          cases hc
          exact happlication
      | some scope =>
          rw [hscope] at hc
          obtain ⟨builtin, -, rfl⟩ := Option.map_eq_some_iff.mp hc
          cases builtin with
          | singleton => exact happlication
          | _ =>
              show (BuiltinScope.androidComponent _).IsProper
              decide

/-- The type of an annotation that is found is among the classes of all annotations. -/
theorem mem_classes_of_find {annotations : List Annotation} {p : Annotation → Bool}
    {a : Annotation} (h : annotations.find? p = some a) :
    a.type ∈ annotations.flatMap Annotation.classes :=
  List.mem_flatMap.mpr ⟨a, List.mem_of_find?_eq_some h, List.mem_cons_self ..⟩

/-- An annotation that is forwarded stands on the function or on one of its parameters. -/
theorem mem_classes_of_mem_forwarded {kind : ContainerKind} {a : Annotation}
    (h : a ∈ (function.plan components kind).forwarded) :
    a.type ∈ function.annotations.flatMap Annotation.classes ∨
      a.type ∈ function.parameters.flatMap Parameter.classes := by
  simp only [Plan.forwarded, List.mem_append, Option.mem_toList, List.mem_flatMap] at h
  rcases h with (hscope | hqualifier) | ⟨argument, hargument, hqualifier⟩
  · exact .inl (mem_classes_of_find hscope)
  · exact .inl (mem_classes_of_find hqualifier)
  · obtain ⟨p, hp, rfl⟩ := List.mem_map.mp hargument
    right
    refine List.mem_flatMap.mpr ⟨p, hp, List.mem_append_right _ ?_⟩
    exact mem_classes_of_find hqualifier

/-- The exposed type is stated, or the one that the function returns. -/
theorem mem_classes_of_mem_exposed {kind : ContainerKind} {c : ClassName}
    (h : c ∈ (function.plan components kind).exposed.classes) :
    c ∈ function.returnType.classes ∨ c ∈ function.marker.classes := by
  have hplan : (function.plan components kind).exposed =
      function.marker.bindingClass.getD function.returnType := rfl
  rw [hplan] at h
  cases hbinding : function.marker.bindingClass with
  | none =>
      rw [hbinding] at h
      exact .inl h
  | some type =>
      rw [hbinding] at h
      right
      rw [Marker.classes, hbinding]
      simp only [Option.toList_some, List.flatMap_singleton, List.mem_append]
      exact .inl h

/-- **The plan of a function is proper** if the classes that its declaration names are, and the
component of the application. -/
theorem isProper_plan (kind : ContainerKind) (happlication : components.application.IsProper)
    (hclasses : ∀ c ∈ function.classes, c.IsProper) :
    (function.plan components kind).IsProper := by
  simp only [FunctionDeclaration.classes, List.forall_mem_cons, List.forall_mem_append] at hclasses
  obtain ⟨hcontainer, ⟨⟨hparameters, hreturn⟩, hannotations⟩, hmarker⟩ := hclasses
  rw [Plan.IsProper]
  simp only [Plan.classes, List.forall_mem_append, List.forall_mem_singleton]
  refine ⟨⟨⟨⟨hcontainer, ?exposed⟩, ?target⟩, ?forwarded⟩, ?arguments⟩
  case exposed =>
    intro c hc
    rcases mem_classes_of_mem_exposed hc with hc | hc
    · exact hreturn c hc
    · exact hmarker c hc
  case target =>
    intro c hc
    refine isProper_of_mem_targetOf happlication (fun c hc => hmarker c ?_) c
      (Option.mem_toList.mp hc)
    simp [Marker.classes, Option.mem_def.mp hc]
  case forwarded =>
    intro c hc
    obtain ⟨a, ha, rfl⟩ := List.mem_map.mp hc
    rcases mem_classes_of_mem_forwarded ha with ha | ha
    · exact hannotations _ ha
    · exact hparameters _ ha
  case arguments =>
    intro c hc
    obtain ⟨a, ha, hc⟩ := List.mem_flatMap.mp hc
    obtain ⟨p, hp, rfl⟩ := List.mem_map.mp ha
    exact hparameters c (List.mem_flatMap.mpr ⟨p, hp, List.mem_append_left _ hc⟩)

end Functions

/-- The classes of a declaration are those of the function that is called for it. -/
theorem Declaration.classes_eq_of_function? {d : Declaration} {function : FunctionDeclaration}
    (h : d.function? = some function) : d.classes = function.classes := by
  cases d with
  | ofClass d => cases h
  | ofFunction d => cases h; rfl
  | ofProperty d => cases h; rfl

namespace Java

/-! ### Receivers -/

/-- The receiver of a call begins with the outermost name of the container. -/
theorem head?_splitOn_receiverOf {container : ClassName} (h : container.IsProper)
    (kind : ContainerKind) :
    (splitOn '.' (receiverOf container kind).toList).head? = some container.outermost.toList := by
  have hnames : splitOn '.' (joinNames '.' container.simpleNames).toList =
      container.outermost.toList :: container.nested.map String.toList := by
    rw [joinNames, String.toList_ofList, splitOn_joinWith (by simp [ClassName.simpleNames])
      fun name hname => dot_not_mem (h.simpleNames name hname).isIdentifierPart]
    rfl
  cases kind with
  | object =>
      have hinstance : (receiverOf container .object).toList =
          (joinNames '.' container.simpleNames).toList ++ '.' :: "INSTANCE".toList := by
        simp [receiverOf, String.toList_append]
      rw [hinstance, splitOn_append_cons, hnames]
      rfl
  | _ =>
      show (splitOn '.' (joinNames '.' container.simpleNames).toList).head? = _
      rw [hnames]
      rfl

section Processing

variable {settings : GeneratorSettings} {components : Components} {source : KindSource}
    {cache : KindCache} {kind : ContainerKind} {d : Declaration} {function : FunctionDeclaration}

/-- A function is accepted with the binding of its plan. -/
theorem toPlan_of_review {binding : Binding}
    (h : function.review components kind = .ok (.accepted binding)) :
    binding.toPlan = function.plan components kind :=
  Verdict.toPlan_of_accepted h

/-- What becomes of a function is settled by its review and by the renderer. -/
theorem fst_process_of_function? (render : Renderer) (hfunction : d.function? = some function) :
    (d.process render components source cache).1 =
      (((d.review components source cache).1).bind (Verdict.outcome render d.displayName)).map
        (⟨d.displayName, ·⟩) := by
  have hskipped : d.isSkipped = false := by
    cases d with
    | ofClass d => cases hfunction
    | _ => rfl
  rw [Declaration.process, hskipped]
  rfl

/-- A module that was generated for a function is written from its plan. -/
theorem exists_file_of_process {artifact : Artifact} (hfunction : d.function? = some function)
    (h : (d.process (renderModule settings) components source cache).1 =
      .ok ⟨d.displayName, .generated artifact⟩) :
    ∃ kind f, (cache.lookup source function.container).1 = .ok kind ∧
      sourceFile settings (function.plan components kind) = .ok f ∧ artifact = f.artifact := by
  rw [fst_process_of_function? _ hfunction] at h
  obtain ⟨outcome, houtcome, heq⟩ := map_eq_ok h
  cases heq
  obtain ⟨verdict, hverdict, houtcome⟩ := bind_eq_ok houtcome
  rw [Declaration.fst_review_of_function? hfunction] at hverdict
  cases hlookup : (cache.lookup source function.container).1 with
  | error fault =>
      rw [hlookup] at hverdict
      cases hverdict
  | ok kind =>
      rw [hlookup] at hverdict
      cases verdict with
      | rejected diagnostics => cases houtcome
      | accepted binding =>
          rw [Verdict.outcome, renderModule, toPlan_of_review hverdict] at houtcome
          cases hf : sourceFile settings (function.plan components kind) with
          | error fault =>
              rw [hf] at houtcome
              cases houtcome
          | ok f =>
              rw [hf] at houtcome
              cases houtcome
              exact ⟨kind, f, rfl, hf, rfl⟩

/-- Without complaints the file of the plan is generated. -/
theorem process_of_sourceFile {f : SourceFile} (hfunction : d.function? = some function)
    (hkind : (cache.lookup source function.container).1 = .ok kind)
    (hcomplaints : function.complaints components kind = [])
    (hf : sourceFile settings (function.plan components kind) = .ok f) :
    (d.process (renderModule settings) components source cache).1 =
      .ok ⟨d.displayName, .generated f.artifact⟩ := by
  obtain ⟨b, hb⟩ := Binding.exists_ofPlan (FunctionDeclaration.flaw?_plan hcomplaints)
  have hreview : (d.review components source cache).1 = .ok (.accepted b) := by
    rw [Declaration.fst_review_of_function? hfunction, hkind]
    show Verdict.of _ (function.complaints components kind) _ = _
    rw [hcomplaints, Verdict.of]
    show (Binding.ofPlan _).map _ = _
    rw [hb]
    rfl
  have hrendered : renderModule settings b = .ok f.artifact := by
    rw [renderModule, Binding.toPlan_of_ofPlan hb, hf]
  rw [fst_process_of_function? _ hfunction, hreview]
  show (Verdict.outcome _ _ (.accepted b)).map _ = _
  rw [Verdict.outcome, hrendered]
  rfl

end Processing

/-- A module for a function never has the name of the container. -/
theorem outermost_ne_functionModuleName (container : ClassName) (function : String) :
    container.outermost ≠ functionModuleName container function := by
  intro heq
  have hlength := congrArg (fun name => name.toList.length) heq
  have hjoined : container.outermost.toList.length ≤
      (joinNames '_' container.simpleNames).toList.length := by
    rw [joinNames, String.toList_ofList, ClassName.simpleNames, List.map_cons]
    cases container.nested <;> simp [joinWith]
  have hsuffix : moduleSuffix.toList.length = 11 := rfl
  simp only [functionModuleName, String.toList_append, List.length_append, hsuffix] at hlength
  omega

/-- **The receiver of a generated call means the container** exactly when the file mentions a class
of the package of the container by the outermost name of the container, or mentions no class of
another package by that name.  The receiver itself does not count as a mention. -/
theorem receiver_means_container_iff {settings : GeneratorSettings} {components : Components}
    {source : KindSource} {cache : KindCache} {d : Declaration} {function : FunctionDeclaration}
    {artifact : Artifact} (hfunction : d.function? = some function)
    (hclasses : ∀ c ∈ d.classes, c.IsRead) (happlication : components.application.IsRead)
    (hprocess : (d.process (renderModule settings) components source cache).1 =
      .ok ⟨d.displayName, .generated artifact⟩) :
    ∃ kind f, (cache.lookup source function.container).1 = .ok kind ∧
      sourceFile settings (function.plan components kind) = .ok f ∧ artifact = f.artifact ∧
      f.methods.map (·.body) = [callStatement
        (Fragment.ofText (receiverOf function.container kind ++ "." ++ function.name))
        (function.plan components kind).arguments] ∧
      (splitOn '.' (receiverOf function.container kind).toList).head? =
        some function.container.outermost.toList ∧
      (f.topLevelNamed function.container.outermost = function.container.topLevel ↔
        (∃ c ∈ (function.plan components kind).mentioned settings,
          c.outermost = function.container.outermost ∧
            c.package = function.container.package) ∨
        ∀ c ∈ (function.plan components kind).mentioned settings,
          c.outermost = function.container.outermost → c.package = "") := by
  have hproper : ∀ c ∈ function.classes, c.IsProper := by
    intro c hc
    rw [← Declaration.classes_eq_of_function? hfunction] at hc
    exact ClassName.isProper_iff_isRead.mpr (hclasses c hc)
  have hcontainer : function.container.IsProper := hproper _ (List.mem_cons_self ..)
  obtain ⟨kind, f, hkind, hf, rfl⟩ := exists_file_of_process hfunction hprocess
  obtain ⟨m, hfile⟩ := exists_isFileOf hf
  have hmentioned : f.classes = (function.plan components kind).mentioned settings :=
    hfile.classes_eq rfl
  have hfileProper : ∀ c ∈ f.classes, c.IsProper := by
    refine isProper_of_mem_classes hfile (isProper_plan kind ?_ hproper)
    exact ClassName.isProper_iff_isRead.mpr happlication
  have hpackage : f.package = function.container.package := hfile.package
  obtain ⟨hname, entries, -, hmethod⟩ := hfile.exists_of_call rfl
  have hbodies : f.methods.map (·.body) = [callStatement
      (Fragment.ofText (receiverOf function.container kind ++ "." ++ function.name))
      (function.plan components kind).arguments] := by
    rw [hfile.methods, hmethod]
    rfl
  refine ⟨kind, f, hkind, hf, rfl, hbodies, head?_splitOn_receiverOf hcontainer kind, ?_⟩
  have hother : function.container.outermost ≠ f.name := by
    rw [hname]
    exact outermost_ne_functionModuleName function.container function.name
  have howned : IsPackage f.package := hpackage ▸ hcontainer.package
  have hmeans := SourceFile.topLevelNamed_eq_iff howned hfileProper hother
  rw [SourceFile.Needs, hpackage, hmentioned] at hmeans
  exact hmeans

/-- A function of a file that returns a class of another package with the name of the file. -/
def facadeFunction : FunctionDeclaration where
  container := ⟨"test", "SourceKt", []⟩
  name := "baseUrl"
  isStatic := true
  returnType := .plain ⟨"other", "SourceKt", []⟩

/-- A function like `facadeFunction` that takes an argument of the class of the file. -/
def neighbourFunction : FunctionDeclaration :=
  { facadeFunction with parameters := [⟨"source", .plain ⟨"test", "SourceKt", []⟩, []⟩] }

/-- The file for `facadeFunction`. -/
def facadeFile : SourceFile where
  package := "test"
  name := "SourceKt_baseUrl_SoloModule"
  annotations := moduleUses {} (facadeFunction.plan {} .file)
  modifiers := [.publicUse, .abstractBody]
  methods := [{
    name := "provides_test_SourceKt_baseUrl"
    annotations := [⟨providesType, []⟩]
    modifiers := [.publicUse, .staticUse]
    returnType := .plain ⟨"other", "SourceKt", []⟩
    body := callStatement (Fragment.ofText "SourceKt.baseUrl") [] }]

/-- The receiver in the module for `neighbourFunction` means the class of the file. -/
theorem receiver_means_container_iff_neighbour :
    (∀ c ∈ (Declaration.ofFunction neighbourFunction).classes, c.IsRead) ∧
      ({} : Components).application.IsRead ∧
      ∃ artifact : Artifact,
        ((Declaration.ofFunction neighbourFunction).process (renderModule {}) {}
          (fun _ => .ok .file) {}).1 = .ok ⟨"test.SourceKt.baseUrl", .generated artifact⟩ ∧
        ∃ f : SourceFile, artifact = f.artifact ∧
          f.topLevelNamed "SourceKt" = ⟨"test", "SourceKt", []⟩ := by
  have hproper : ∀ c ∈ (Declaration.ofFunction neighbourFunction).classes, c.IsProper := by
    decide
  have hclasses : ∀ c ∈ (Declaration.ofFunction neighbourFunction).classes, c.IsRead := by
    intro c hc
    exact ClassName.isProper_iff_isRead.mp (hproper c hc)
  have happlication : ({} : Components).application.IsRead :=
    ClassName.isProper_iff_isRead.mp (by decide)
  have hfile : (sourceFile {} (neighbourFunction.plan {} .file)).toOption.isSome = true := by
    decide
  obtain ⟨f, hf⟩ := Option.isSome_iff_exists.mp hfile
  have hprocess : ((Declaration.ofFunction neighbourFunction).process (renderModule {}) {}
      (fun _ => .ok .file) {}).1 = .ok ⟨"test.SourceKt.baseUrl", .generated f.artifact⟩ :=
    process_of_sourceFile rfl rfl (by decide) (toOption_eq_some.mp hf)
  obtain ⟨kind, g, hkind, -, hartifact, -, -, hmeans⟩ :=
    receiver_means_container_iff rfl hclasses happlication hprocess
  cases hkind
  exact ⟨hclasses, happlication, f.artifact, hprocess, g, hartifact,
    hmeans.mpr (.inl (by decide))⟩

/-- **There are containers that the receiver does not mean.**  In the module for `facadeFunction`
the call is written as one on `SourceKt`, but that name is imported from the other package. -/
theorem not_receiver_means_container :
    (∀ c ∈ (Declaration.ofFunction facadeFunction).classes, c.IsRead) ∧
      ((Declaration.ofFunction facadeFunction).process (renderModule {}) {}
        (fun _ => .ok .file) {}).1 = .ok ⟨"test.SourceKt.baseUrl", .generated facadeFile.artifact⟩ ∧
      facadeFile.methods.map (·.body) = [callStatement (Fragment.ofText "SourceKt.baseUrl") []] ∧
      "other.SourceKt" ∈ facadeFile.importNames ∧
      facadeFile.topLevelNamed facadeFunction.container.outermost ≠
        facadeFunction.container.topLevel := by
  have hproper : ∀ c ∈ (Declaration.ofFunction facadeFunction).classes, c.IsProper := by
    decide
  have hfile : sourceFile {} (facadeFunction.plan {} .file) = .ok facadeFile := by
    decide
  have himported : "other.SourceKt" ∈ facadeFile.imports.map fun entry => entry.2.canonicalName := by
    decide +kernel
  refine ⟨fun c hc => ClassName.isProper_iff_isRead.mp (hproper c hc),
    process_of_sourceFile rfl rfl (by decide) hfile, rfl, ?_, by decide +kernel⟩
  rw [SourceFile.importNames, List.mem_mergeSort]
  exact himported

end Java

end Bindery
