import Bindery.Proofs.Declaration.Proper
import Bindery.Proofs.Lookup
import Bindery.Proofs.Review.Rules

/-!
# What accepted declarations are bound as

An accepted declaration is bound as it was declared.  Nothing in its binding is made up: the exposed
type is the stated one or is chosen among the supertypes, the arguments are those of the constructor
or the function in their order, and the annotations that count are the first of their kind.

Which type a class exposes is a matter of precedence.  `ClassDeclaration.Exposes` has a case for
each step, and in each case it says that the earlier ones do not apply.  As a class is only accepted
without conflicts, there is never more than one supertype to choose from
(`ClassDeclaration.Exposes.unique`).

What a binding should be is said in terms of the declaration itself: `Binding.IsOfClass` reads the
fields of the class, `Binding.IsOfFunction` and `Binding.IsOfProperty` those of the function and of
the property, and all three share `Binding.Carries`, where scope, qualifier and place come from the
annotations and the marker.  That a property is bound through the function that reads it is part of
the proof of `Declaration.accepted_as_declared`, not of its statement.
-/

namespace Bindery

open Text

/-! ### Exposed types -/

/-- Where no type is exposed there is a conflict. -/
theorem Ancestry.exposed_ne_error_nil (a : Ancestry) : a.exposed ≠ .error [] := by
  intro h
  rw [exposed] at h
  split at h
  next => cases h
  next => cases h
  next =>
    split at h
    next => cases h
    next hsome =>
      have hnone : a.conflicts = [] := Except.error.inj h
      exact hsome (List.isEmpty_iff.mpr hnone)

namespace ClassDeclaration

/-- **Which type a class exposes.**  A stated type comes first, then the class itself if nothing is
to be inferred from supertypes, then its only interface, then its superclass, and at last the class
itself. -/
inductive Exposes (d : ClassDeclaration) : TypeName → Prop where
  | stated {t : TypeName} (h : d.marker.bindingClass = some t) : Exposes d t
  | itself (h : d.marker.bindingClass = none) (hinferred : d.marker.bindSuperType = false) :
      Exposes d (.plain d.name)
  | interface {t : TypeName} (h : d.marker.bindingClass = none)
      (hinferred : d.marker.bindSuperType = true) (hinterfaces : d.interfaces = [t])
      (hsuperclass : ∀ s ∈ d.superclass, s.IsTop) : Exposes d t
  | superclass {t : TypeName} (h : d.marker.bindingClass = none)
      (hinferred : d.marker.bindSuperType = true) (hinterfaces : d.interfaces = [])
      (hsuperclass : d.superclass = some t) (htop : ¬ t.IsTop) : Exposes d t
  | alone (h : d.marker.bindingClass = none) (hinferred : d.marker.bindSuperType = true)
      (hinterfaces : d.interfaces = []) (hsuperclass : ∀ s ∈ d.superclass, s.IsTop) :
      Exposes d (.plain d.name)

variable {d : ClassDeclaration} {s t : TypeName}

/-- A superclass does not count if it is at the top. -/
theorem realSuperclass?_eq_none_iff : d.realSuperclass? = none ↔ ∀ s ∈ d.superclass, s.IsTop := by
  rw [realSuperclass?, Option.filter_eq_none_iff]
  simp only [Bool.not_eq_true', Bool.not_eq_false, TypeName.isRoot_iff]
  exact Iff.rfl

/-- Any other superclass counts. -/
theorem realSuperclass?_eq_some_iff :
    d.realSuperclass? = some t ↔ d.superclass = some t ∧ ¬ t.IsTop := by
  rw [realSuperclass?, Option.filter_eq_some_iff, ← TypeName.isRoot_iff]
  simp

/-- There is no conflict where there is at most one supertype. -/
theorem conflicts_eq_nil_iff : d.ancestry.conflicts = [] ↔
    d.interfaces.length ≤ 1 ∧ (d.interfaces = [] ∨ d.realSuperclass? = none) := by
  have hinterfaces : d.ancestry.interfaces = d.interfaces := rfl
  have hsuperclass : d.ancestry.superclass = d.realSuperclass? := rfl
  rw [Ancestry.conflicts, hinterfaces, hsuperclass, List.append_eq_nil_iff]
  refine and_congr ?_ ?_
  · simp
  · cases d.realSuperclass? <;> simp

/-- Where a type is inferred without conflicts, it is the only supertype, or else the class. -/
theorem exposed_of_conflicts_eq_nil (h : d.marker.bindingClass = none)
    (hinferred : d.marker.bindSuperType = true) (hconflicts : d.ancestry.conflicts = []) :
    d.ancestry.exposed = .ok ((d.interfaces.head? <|> d.realSuperclass?).getD (.plain d.name)) := by
  have hstated : d.ancestry.stated = none := h
  have hsought : d.ancestry.inferred = true := hinferred
  rw [Ancestry.exposed, hstated, hsought, hconflicts]
  rfl

/-- In every case of the precedence the exposed type is the one that is chosen. -/
theorem Exposes.exposed_eq (h : d.Exposes t) : d.ancestry.exposed = .ok t := by
  cases h with
  | stated h =>
      have hstated : d.ancestry.stated = some t := h
      rw [Ancestry.exposed, hstated]
  | itself h hinferred =>
      have hstated : d.ancestry.stated = none := h
      have hsought : d.ancestry.inferred = false := hinferred
      rw [Ancestry.exposed, hstated, hsought]
      rfl
  | interface h hinferred hinterfaces hsuperclass =>
      have hnone := realSuperclass?_eq_none_iff.mpr hsuperclass
      have hconflicts := conflicts_eq_nil_iff.mpr ⟨by simp [hinterfaces], .inr hnone⟩
      rw [exposed_of_conflicts_eq_nil h hinferred hconflicts, hinterfaces]
      rfl
  | superclass h hinferred hinterfaces hsuperclass htop =>
      have hsome := realSuperclass?_eq_some_iff.mpr ⟨hsuperclass, htop⟩
      have hconflicts := conflicts_eq_nil_iff.mpr ⟨by simp [hinterfaces], .inl hinterfaces⟩
      rw [exposed_of_conflicts_eq_nil h hinferred hconflicts, hinterfaces, hsome]
      rfl
  | alone h hinferred hinterfaces hsuperclass =>
      have hnone := realSuperclass?_eq_none_iff.mpr hsuperclass
      have hconflicts := conflicts_eq_nil_iff.mpr ⟨by simp [hinterfaces], .inr hnone⟩
      rw [exposed_of_conflicts_eq_nil h hinferred hconflicts, hinterfaces, hnone]
      rfl

/-- What is inferred without conflicts is exposed by one of the last three steps. -/
theorem exposes_of_conflicts_eq_nil (h : d.marker.bindingClass = none)
    (hinferred : d.marker.bindSuperType = true) (hconflicts : d.ancestry.conflicts = []) :
    d.Exposes ((d.interfaces.head? <|> d.realSuperclass?).getD (.plain d.name)) := by
  obtain ⟨hfew, halone⟩ := conflicts_eq_nil_iff.mp hconflicts
  rcases hinterfaces : d.interfaces with _ | ⟨type, _ | ⟨next, others⟩⟩
  · -- without an interface the superclass counts, if there is one
    cases hsuperclass : d.realSuperclass? with
    | none => exact .alone h hinferred hinterfaces (realSuperclass?_eq_none_iff.mp hsuperclass)
    | some type =>
        obtain ⟨hstated, htop⟩ := realSuperclass?_eq_some_iff.mp hsuperclass
        exact .superclass h hinferred hinterfaces hstated htop
  · have hnone := halone.resolve_left (by simp [hinterfaces])
    exact .interface h hinferred hinterfaces (realSuperclass?_eq_none_iff.mp hnone)
  · simp [hinterfaces] at hfew

/-- **The exposed type is the one that is chosen**, and none is where there is a conflict. -/
theorem exposes_iff : d.Exposes t ↔ d.ancestry.exposed = .ok t := by
  refine ⟨Exposes.exposed_eq, fun h => ?_⟩
  rw [Ancestry.exposed] at h
  split at h
  next hstated =>
    cases h
    exact .stated hstated
  next hstated hsought =>
    cases h
    exact .itself hstated hsought
  next hstated hsought =>
    split at h
    next hconflicts =>
      cases h
      exact exposes_of_conflicts_eq_nil hstated hsought (List.isEmpty_iff.mp hconflicts)
    next => cases h

/-- **A class exposes one type.** -/
theorem Exposes.unique (hs : d.Exposes s) (ht : d.Exposes t) : s = t := by
  rw [exposes_iff] at hs ht
  exact Except.ok.inj (hs.symm.trans ht)

end ClassDeclaration

/-! ### Bindings of declarations -/

/-- A qualifier: one by name, or an annotation whose type is marked as a qualifier. -/
def Annotation.IsQualifier (a : Annotation) : Prop :=
  a.type.canonicalName = "javax.inject.Named" ∨
    ∃ c ∈ a.metaTypes, c.canonicalName = "javax.inject.Qualifier"

instance (a : Annotation) : Decidable a.IsQualifier := inferInstanceAs (Decidable (_ ∨ _))

theorem Annotation.isQualifier_iff {a : Annotation} : a.isQualifier = true ↔ a.IsQualifier := by
  rw [isQualifier, Bool.or_eq_true, IsQualifier, or_comm]
  simp [isMarked, isNamed, qualifierMark, namedQualifier]

/-- The qualifier that counts among annotations is the first. -/
def qualifierAmong? (annotations : List Annotation) : Option Annotation :=
  annotations.find? fun a => decide a.IsQualifier

theorem firstQualifier?_eq (annotations : List Annotation) :
    firstQualifier? annotations = qualifierAmong? annotations := by
  have hqualifier : Annotation.isQualifier = fun a => decide a.IsQualifier :=
    funext fun a => by rw [Bool.eq_iff_iff, Annotation.isQualifier_iff, decide_eq_true_eq]
  rw [firstQualifier?, hqualifier]
  rfl

/-- The argument for a parameter, with the first qualifier on it. -/
def Parameter.expected (p : Parameter) : Argument := ⟨p.name, p.type, qualifierAmong? p.annotations⟩

theorem Parameter.argument_eq_expected (p : Parameter) : p.argument = p.expected := by
  rw [argument, expected, firstQualifier?_eq]

/-- **What a binding takes over from the annotations and the marker**: the first scope, the first
qualifier, and where to install the module.  That is the stated component, or else that of the
scope, or without a scope that of the application. -/
structure Binding.Carries (components : Components) (annotations : List Annotation)
    (marker : Marker) (b : Binding) : Prop where
  scope : b.scope = scopeAmong? annotations
  qualifier : b.qualifier = qualifierAmong? annotations
  install : b.install = marker.install
  stated : ∀ c, marker.installIn = some c → b.target = some c
  unscoped : marker.installIn = none → scopeAmong? annotations = none →
    b.target = some components.application
  singleton : marker.installIn = none → ∀ a, scopeAmong? annotations = some a →
    a.type.canonicalName = "javax.inject.Singleton" → b.target = some components.application
  android : marker.installIn = none → ∀ a, scopeAmong? annotations = some a →
    a.type.canonicalName ≠ "javax.inject.Singleton" →
      b.target = androidScopes.lookup a.type.canonicalName

/-- **The binding of a class**, by its one constructor to inject through. -/
structure Binding.IsOfClass (components : Components) (d : ClassDeclaration) (b : Binding) :
    Prop where
  source : b.source = .instance d.name
  exposed : d.Exposes b.exposed
  provides_iff : b.strategy = .provides ↔ b.exposed = .plain d.name
  arguments : ∃ c, d.constructors.filter (·.injectable) = [c] ∧
    b.arguments = if b.strategy = .provides then c.parameters.map Parameter.expected else []
  carries : b.Carries components d.annotations d.marker

/-- **The binding of what is called** by a name on a container of a kind, with arguments for its
parameters. -/
structure Binding.IsOfCall (components : Components) (kind : ContainerKind) (container : ClassName)
    (name : String) (parameters : List Parameter) (returnType : TypeName)
    (annotations : List Annotation) (marker : Marker) (b : Binding) : Prop where
  source : b.source = .call container name (joinNames '.' container.simpleNames ++
    if kind = .object then ".INSTANCE" else "")
  exposed : b.exposed = marker.bindingClass.getD returnType
  strategy : b.strategy = .provides
  arguments : b.arguments = parameters.map Parameter.expected
  carries : b.Carries components annotations marker

/-- The binding of a function. -/
def Binding.IsOfFunction (components : Components) (kind : ContainerKind)
    (d : FunctionDeclaration) : Binding → Prop :=
  IsOfCall components kind d.container d.name d.parameters d.returnType d.annotations d.marker

/-- The binding of a property, whose getter is called without arguments. -/
def Binding.IsOfProperty (components : Components) (kind : ContainerKind)
    (d : PropertyDeclaration) : Binding → Prop :=
  IsOfCall components kind d.container d.accessorName [] d.returnType d.annotations d.marker

/-! ### Accepted declarations -/

/-- What is accepted is bound as planned, and nothing was in the way. -/
theorem Verdict.complaints_of_accepted {location : String} {complaints : List Complaint} {p : Plan}
    {b : Binding} (h : Verdict.of location complaints p = .ok (.accepted b)) :
    complaints = [] := by
  rw [Verdict.of] at h
  split at h
  next hnone => exact List.isEmpty_iff.mp hnone
  next => cases h

/-- A built-in scope has its component from the table. -/
theorem Annotation.component_builtinScope? (application : ClassName) (a : Annotation) :
    a.builtinScope?.map (·.component application) =
      if a.type.canonicalName = "javax.inject.Singleton" then some application
      else androidScopes.lookup a.type.canonicalName := by
  have htable : androidScopes =
      [BuiltinScope.activityRetained, .activity, .fragment, .service, .view].map fun scope =>
        (scope.annotationName, scope.component application) := rfl
  rw [builtinScope?, BuiltinScope.ofAnnotationName?, BuiltinScope.all, List.find?_cons, htable,
    lookup_map]
  by_cases hname : a.type.canonicalName = "javax.inject.Singleton"
  · rw [hname]
    rfl
  · have hother : (BuiltinScope.singleton.annotationName == a.type.canonicalName) = false :=
      beq_false_of_ne (Ne.symm hname)
    rw [if_neg hname, hother]

/-- A binding that has its target from the annotations and the marker carries them. -/
theorem Binding.carries_of {components : Components} {annotations : List Annotation}
    {marker : Marker} {b : Binding} (hscope : b.scope = firstScope? annotations)
    (hqualifier : b.qualifier = firstQualifier? annotations) (hinstall : b.install = marker.install)
    (htarget : b.target = targetOf components annotations marker) :
    b.Carries components annotations marker := by
  rw [firstScope?_eq] at hscope
  rw [firstQualifier?_eq] at hqualifier
  rw [targetOf, firstScope?_eq] at htarget
  have hscoped (hnone : marker.installIn = none) {a : Annotation}
      (ha : scopeAmong? annotations = some a) :
      b.target = if a.type.canonicalName = "javax.inject.Singleton" then some components.application
        else androidScopes.lookup a.type.canonicalName := by
    rw [htarget, hnone, ha, ← Annotation.component_builtinScope?]
    rfl
  refine ⟨hscope, hqualifier, hinstall, fun c hstated => ?_, fun hnone hscope => ?_,
    fun hnone a ha hsingleton => ?_, fun hnone a ha hother => ?_⟩
  · rw [htarget, hstated]
    rfl
  · rw [htarget, hnone, hscope]
    rfl
  · rw [hscoped hnone ha, if_pos hsingleton]
  · rw [hscoped hnone ha, if_neg hother]

namespace ClassDeclaration

variable {components : Components} {d : ClassDeclaration} {b : Binding}

/-- Without complaints there is one constructor to inject through, and a type to expose. -/
theorem exists_of_complaints (h : d.complaints components = []) :
    (∃ c, d.injectableConstructors = [c]) ∧ ∃ t, d.ancestry.exposed = .ok t := by
  simp only [complaints, List.append_eq_nil_iff] at h
  obtain ⟨⟨⟨-, hconstructors⟩, hconflicts⟩, -⟩ := h
  constructor
  · rw [constructorComplaints] at hconstructors
    split at hconstructors
    next c hone => exact ⟨c, hone⟩
    next => cases hconstructors
  · rw [conflictComplaints] at hconflicts
    cases hexposed : d.ancestry.exposed with
    | ok t => exact ⟨t, rfl⟩
    | error conflicts =>
        rw [hexposed] at hconflicts
        obtain rfl : conflicts = [] := List.map_eq_nil_iff.mp hconflicts
        exact absurd hexposed (Ancestry.exposed_ne_error_nil _)

/-- **An accepted class is bound as it was declared.** -/
theorem isOfClass_of_accepted (h : d.review components = .ok (.accepted b)) :
    b.IsOfClass components d := by
  rw [review] at h
  split at h
  next => cases h
  next first others hconstructors =>
    obtain ⟨⟨c, hone⟩, t, hexposed⟩ :=
      exists_of_complaints (Verdict.complaints_of_accepted h)
    obtain ⟨rfl, rfl⟩ := List.cons.inj (hconstructors.symm.trans hone)
    have hplan : b.toPlan = d.plan components first t := by
      rw [Verdict.toPlan_of_accepted h, hexposed]
      rfl
    have hself : (d.plan components first t).strategy = .provides ↔ t = .plain d.name := by
      show (if t = d.ownType then Strategy.provides else .binds) = .provides ↔ t = d.ownType
      split
      next heq => exact iff_of_true rfl heq
      next hne => exact iff_of_false (by simp) hne
    refine ⟨?source, ?exposed, ?provides, ⟨first, hone, ?arguments⟩, ?carries⟩
    case source => rw [hplan]; rfl
    case exposed =>
      rw [hplan]
      exact exposes_iff.mpr hexposed
    case provides =>
      rw [hplan]
      exact hself
    case arguments =>
      have harguments : first.parameters.map Parameter.argument =
          first.parameters.map Parameter.expected :=
        List.map_congr_left fun p _ => p.argument_eq_expected
      rw [hplan, ← harguments]
      exact if_congr hself.symm rfl rfl
    case carries =>
      refine Binding.carries_of ?_ ?_ ?_ ?_ <;> rw [hplan] <;> rfl

end ClassDeclaration

/-- **An accepted function is bound as it was declared.** -/
theorem FunctionDeclaration.isOfFunction_of_accepted {components : Components}
    {f : FunctionDeclaration} {kind : ContainerKind} {b : Binding}
    (h : f.review components kind = .ok (.accepted b)) : b.IsOfFunction components kind f := by
  have hplan : b.toPlan = f.plan components kind := Verdict.toPlan_of_accepted h
  have hreceiver : receiverOf f.container kind = joinNames '.' f.container.simpleNames ++
      if kind = .object then ".INSTANCE" else "" := by
    cases kind <;> simp [receiverOf]
  refine ⟨?source, ?exposed, ?strategy, ?arguments, ?carries⟩
  case source =>
    rw [hplan, ← hreceiver]
    rfl
  case exposed => rw [hplan]; rfl
  case strategy => rw [hplan]; rfl
  case arguments =>
    rw [hplan]
    exact List.map_congr_left fun p _ => p.argument_eq_expected
  case carries =>
    refine Binding.carries_of ?_ ?_ ?_ ?_ <;> rw [hplan] <;> rfl

namespace Declaration

variable {components : Components} {source : KindSource} {cache : KindCache}

/-- A function or a property is accepted for the kind that its container has. -/
theorem isOfFunction_of_accepted {d : Declaration} {f : FunctionDeclaration} {b : Binding}
    (hfunction : d.function? = some f)
    (h : (d.review components source cache).1 = .ok (.accepted b)) :
    ∃ kind, (cache.lookup source f.container).1 = .ok kind ∧ b.IsOfFunction components kind f := by
  rw [fst_review_of_function? hfunction] at h
  split at h
  next kind hkind => exact ⟨kind, hkind, f.isOfFunction_of_accepted h⟩
  next => cases h

/-- **Accepted declarations are bound as they were declared.**  Let a declaration be accepted, with
whatever is known about the containers.  The binding of a class exposes the type that its stated
type, its interface, its superclass or the class itself gives it, in this order; it provides an
instance by the one constructor to inject through exactly if that is the class itself.  The binding
of a function exposes the stated type or the one that the function returns, and calls the function
on its container, with all of its arguments; the one of a property has none.  Every binding carries
the first scope and the first qualifier, and is installed as the marker says.  And no marker that
was read states a placeholder. -/
theorem accepted_as_declared (components : Components) (source : KindSource) (cache : KindCache) :
    (∀ (d : ClassDeclaration) (b : Binding),
      ((ofClass d).review components source cache).1 = .ok (.accepted b) →
        b.IsOfClass components d) ∧
      (∀ (d : FunctionDeclaration) (b : Binding),
        ((ofFunction d).review components source cache).1 = .ok (.accepted b) →
          ∃ kind, (cache.lookup source d.container).1 = .ok kind ∧
            b.IsOfFunction components kind d) ∧
      (∀ (d : PropertyDeclaration) (b : Binding),
        ((ofProperty d).review components source cache).1 = .ok (.accepted b) →
          ∃ kind, (cache.lookup source d.container).1 = .ok kind ∧
            b.IsOfProperty components kind d) ∧
      ∀ (origin : Origin) (document : Document) (marker : Marker),
        Marker.decode origin document = .ok marker →
          ∀ c, marker.bindingClass = some (.plain c) →
            c.canonicalName ∉ ["java.lang.Void", "java.lang.Object", "kotlin.Nothing"] := by
  refine ⟨fun d b h => ClassDeclaration.isOfClass_of_accepted h,
    fun d b h => isOfFunction_of_accepted rfl h, fun d b h => isOfFunction_of_accepted rfl h,
    fun origin document marker h c hstated hplaceholder => ?_⟩
  have hkept := (Marker.yields_decode.of_ok h).stated
  have hlisted : placeholderNames.contains c.canonicalName = true :=
    List.contains_iff_mem.mpr hplaceholder
  rw [hstated, statedBinding?, if_pos hlisted] at hkept
  cases hkept

/-- A class with one interface and two scopes, whose one constructor to inject through comes
second. -/
def runner : ClassDeclaration where
  name := ⟨"app", "Worker", []⟩
  superclass := some (.plain ⟨"kotlin", "Any", []⟩)
  interfaces := [.plain ⟨"app", "Runner", []⟩]
  constructors := [⟨.publicUse, false, []⟩,
    ⟨.publicUse, true, [⟨"clock", .plain ⟨"java.time", "Clock", []⟩, []⟩]⟩]
  annotations := [⟨⟨"javax.inject", "Singleton", []⟩, [], []⟩,
    ⟨⟨"app", "PerRequest", []⟩, [], [⟨"javax.inject", "Scope", []⟩]⟩]

/-- A function of an object, with two qualifiers on its parameter. -/
def utcClock : FunctionDeclaration where
  container := ⟨"app", "Hosts", ["Clocks"]⟩
  name := "utc"
  parameters := [⟨"zone", .plain ⟨"java.time", "ZoneId", []⟩,
    [⟨⟨"javax.inject", "Named", []⟩, [⟨"value", "\"utc\""⟩], []⟩,
      ⟨⟨"javax.inject", "Named", []⟩, [⟨"value", "\"local\""⟩], []⟩]⟩]
  returnType := .plain ⟨"java.time", "Clock", []⟩

/-- A property of an object with a scope of Android, bound as what its type extends. -/
def localClock : PropertyDeclaration where
  container := ⟨"app", "Clocks", []⟩
  property := "local"
  returnType := .plain ⟨"app", "LocalClock", []⟩
  annotations := [⟨⟨"javax.inject", "Named", []⟩, [⟨"value", "\"local\""⟩], []⟩,
    ⟨⟨"dagger.hilt.android.scopes", "ActivityRetainedScoped", []⟩, [], []⟩,
    ⟨⟨"app", "Spare", []⟩, [], [⟨"javax.inject", "Qualifier", []⟩]⟩]
  marker := { bindingClass := some (.plain ⟨"java.time", "Clock", []⟩) }

/-- `runner` is bound as its interface, and the clocks are called on their objects. -/
theorem accepted_as_declared_clocks :
    (∃ b, ((ofClass runner).review {} (fun _ => .ok .object) {}).1 = .ok (.accepted b) ∧
      b.exposed = .plain ⟨"app", "Runner", []⟩ ∧ b.strategy = .binds ∧ b.arguments = [] ∧
      b.scope = some ⟨⟨"javax.inject", "Singleton", []⟩, [], []⟩) ∧
    (∃ b, ((ofFunction utcClock).review {} (fun _ => .ok .object) {}).1 = .ok (.accepted b) ∧
      b.source = .call ⟨"app", "Hosts", ["Clocks"]⟩ "utc" "Hosts.Clocks.INSTANCE" ∧
      b.exposed = .plain ⟨"java.time", "Clock", []⟩ ∧
      b.arguments = [⟨"zone", .plain ⟨"java.time", "ZoneId", []⟩,
        some ⟨⟨"javax.inject", "Named", []⟩, [⟨"value", "\"utc\""⟩], []⟩⟩] ∧
      b.target = some ⟨"dagger.hilt.components", "SingletonComponent", []⟩) ∧
    (∃ b, ((ofProperty localClock).review {} (fun _ => .ok .object) {}).1 = .ok (.accepted b) ∧
      b.source = .call ⟨"app", "Clocks", []⟩ "getLocal" "Clocks.INSTANCE" ∧
      b.exposed = .plain ⟨"java.time", "Clock", []⟩ ∧ b.strategy = .provides ∧ b.arguments = [] ∧
      b.scope = some ⟨⟨"dagger.hilt.android.scopes", "ActivityRetainedScoped", []⟩, [], []⟩ ∧
      b.qualifier = some ⟨⟨"javax.inject", "Named", []⟩, [⟨"value", "\"local\""⟩], []⟩ ∧
      b.install = true ∧
      b.target = some ⟨"dagger.hilt.android.components", "ActivityRetainedComponent", []⟩) ∧
    ∃ marker, Marker.decode .text (.record [("binding_class", .str "app.Runner")]) = .ok marker ∧
      marker.bindingClass = some (.plain ⟨"app", "Runner", []⟩) ∧
      (⟨"app", "Runner", []⟩ : ClassName).canonicalName ∉
        ["java.lang.Void", "java.lang.Object", "kotlin.Nothing"] := by
  obtain ⟨hclass, hfunction, hproperty, hmarker⟩ :=
    accepted_as_declared {} (fun _ => .ok .object) {}
  refine ⟨?runner, ?function, ?property, ?marker⟩
  case runner =>
    obtain ⟨b, hb⟩ : ∃ b, ((ofClass runner).review {} (fun _ => .ok .object) {}).1 =
        .ok (.accepted b) := ⟨_, rfl⟩
    have hbinding := hclass runner b hb
    have htop : ∀ s ∈ runner.superclass, s.IsTop := by
      rintro s ⟨⟩
      exact ⟨⟨"kotlin", "Any", []⟩, rfl, .inr (by decide)⟩
    have hexposed := hbinding.exposed.unique (.interface rfl rfl rfl htop)
    have hother : ¬ b.strategy = .provides := by
      rw [hbinding.provides_iff, hexposed]
      decide
    obtain ⟨c, -, harguments⟩ := hbinding.arguments
    rw [if_neg hother] at harguments
    have hbinds : b.strategy = .binds := by
      cases hstrategy : b.strategy with
      | provides => exact absurd hstrategy hother
      | binds => rfl
    exact ⟨b, hb, hexposed, hbinds, harguments, hbinding.carries.scope⟩
  case function =>
    obtain ⟨b, hb⟩ : ∃ b, ((ofFunction utcClock).review {} (fun _ => .ok .object) {}).1 =
        .ok (.accepted b) := ⟨_, rfl⟩
    obtain ⟨kind, hkind, hbinding⟩ := hfunction utcClock b hb
    cases hkind
    exact ⟨b, hb, hbinding.source, hbinding.exposed, hbinding.arguments,
      hbinding.carries.unscoped rfl rfl⟩
  case property =>
    obtain ⟨b, hb⟩ : ∃ b, ((ofProperty localClock).review {} (fun _ => .ok .object) {}).1 =
        .ok (.accepted b) := ⟨_, rfl⟩
    obtain ⟨kind, hkind, hbinding⟩ := hproperty localClock b hb
    cases hkind
    have hcarries := hbinding.carries
    have hscope : scopeAmong? localClock.annotations =
        some ⟨⟨"dagger.hilt.android.scopes", "ActivityRetainedScoped", []⟩, [], []⟩ := by
      decide +kernel
    have htarget := hcarries.android rfl _ hscope (by decide)
    exact ⟨b, hb, hbinding.source, hbinding.exposed, hbinding.strategy, hbinding.arguments,
      hcarries.scope.trans hscope, hcarries.qualifier.trans (by decide +kernel),
      hcarries.install, htarget.trans (by decide +kernel)⟩
  case marker =>
    have hread : Marker.decode .text (.record [("binding_class", .str "app.Runner")]) =
        .ok { bindingClass := some (.plain ⟨"app", "Runner", []⟩) } := by
      decide +kernel
    exact ⟨_, hread, rfl, hmarker _ _ _ hread _ rfl⟩

end Declaration

end Bindery
