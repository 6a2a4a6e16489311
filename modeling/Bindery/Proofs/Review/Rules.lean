import Bindery.Proofs.Result
import Bindery.Review

/-!
# The rules of reviews

A review gathers its complaints in several places: at the declaration itself, at its constructors,
where the exposed type is chosen, and where the component is.  This module states the rules once, as
a table for each kind of declaration that has the condition for breaking a rule next to the message
about it.  A review reports the broken rules of the table, all of them and in order
(`Declaration.review_reports_broken_rules`).

The conditions are about the fields of a declaration and about the annotations as they are written.
In particular `Annotation.IsScope` knows the built-in scopes by their names (`androidScopes`), and
the table for properties reads the property, although it is reviewed as a function.

A declaration that breaks no rule is accepted.  The parts of its plan cannot contradict each other
(`ClassDeclaration.flaw?_plan`, `FunctionDeclaration.flaw?_plan`), so the last check of a binding
never ends a run.
-/

namespace Bindery

/-! ### Tables of rules -/

/-- A rule: whether a declaration breaks it, and the message if so. -/
structure Rule where
  isBroken : Bool
  message : String

namespace Rule

/-- The messages about the broken rules of a table, in order. -/
def broken (rules : List Rule) : List String := (rules.filter (·.isBroken)).map (·.message)

theorem broken_append (rules others : List Rule) :
    broken (rules ++ others) = broken rules ++ broken others := by
  simp [broken]

theorem broken_cons (rule : Rule) (rules : List Rule) :
    broken (rule :: rules) = broken [rule] ++ broken rules :=
  broken_append [rule] rules

/-- A complaint under a condition is a rule. -/
theorem map_message_when (holds : Bool) (c : Complaint) :
    (Complaint.when holds c).map Complaint.message = broken [⟨holds, c.message⟩] := by
  cases holds <;> rfl

end Rule

/-! ### Scopes and supertypes -/

/-- The scopes of Android with their components, by the names of their annotations. -/
def androidScopes : List (String × ClassName) :=
  [("dagger.hilt.android.scopes.ActivityRetainedScoped",
      ⟨"dagger.hilt.android.components", "ActivityRetainedComponent", []⟩),
    ("dagger.hilt.android.scopes.ActivityScoped",
      ⟨"dagger.hilt.android.components", "ActivityComponent", []⟩),
    ("dagger.hilt.android.scopes.FragmentScoped",
      ⟨"dagger.hilt.android.components", "FragmentComponent", []⟩),
    ("dagger.hilt.android.scopes.ServiceScoped",
      ⟨"dagger.hilt.android.components", "ServiceComponent", []⟩),
    ("dagger.hilt.android.scopes.ViewScoped",
      ⟨"dagger.hilt.android.components", "ViewComponent", []⟩)]

namespace Annotation

/-- A scope that has a component of its own. -/
def IsBuiltinScope (a : Annotation) : Prop :=
  a.type.canonicalName = "javax.inject.Singleton" ∨ a.type.canonicalName ∈ androidScopes.map (·.1)

/-- A scope: one with a component of its own, or an annotation whose type is marked as a scope. -/
def IsScope (a : Annotation) : Prop :=
  a.IsBuiltinScope ∨ ∃ c ∈ a.metaTypes, c.canonicalName = "javax.inject.Scope"

instance (a : Annotation) : Decidable a.IsBuiltinScope := inferInstanceAs (Decidable (_ ∨ _))

instance (a : Annotation) : Decidable a.IsScope := inferInstanceAs (Decidable (_ ∨ _))

theorem builtinScope?_eq_none_iff {a : Annotation} : a.builtinScope? = none ↔ ¬ a.IsBuiltinScope := by
  rw [builtinScope?, BuiltinScope.ofAnnotationName?, List.find?_eq_none, IsBuiltinScope]
  generalize a.type.canonicalName = name
  simp [BuiltinScope.all, BuiltinScope.annotationName, androidScopes, @eq_comm _ name]

theorem isScope_iff {a : Annotation} : a.isScope = true ↔ a.IsScope := by
  have hbuiltin : a.builtinScope?.isSome = true ↔ a.IsBuiltinScope := by
    rw [Option.isSome_iff_ne_none, Ne, builtinScope?_eq_none_iff, not_not]
  rw [isScope, Bool.or_eq_true, hbuiltin, IsScope, or_comm]
  simp [isMarked, scopeMark]

end Annotation

/-- The scope that counts among annotations is the first. -/
def scopeAmong? (annotations : List Annotation) : Option Annotation :=
  annotations.find? fun a => decide a.IsScope

theorem firstScope?_eq (annotations : List Annotation) :
    firstScope? annotations = scopeAmong? annotations := by
  have hscope : Annotation.isScope = fun a => decide a.IsScope :=
    funext fun a => by rw [Bool.eq_iff_iff, Annotation.isScope_iff, decide_eq_true_eq]
  rw [firstScope?, hscope]
  rfl

/-- A type at the top of every hierarchy, which nobody binds. -/
def TypeName.IsTop (t : TypeName) : Prop :=
  ∃ c, t.rawClass? = some c ∧
    (c.canonicalName = "java.lang.Object" ∨ c.canonicalName = "kotlin.Any")

theorem TypeName.isRoot_iff {t : TypeName} : t.isRoot = true ↔ t.IsTop := by
  rw [isRoot, IsTop]
  cases t.rawClass? with
  | none => simp
  | some c => simp [rootNames]

instance (t : TypeName) : Decidable t.IsTop := decidable_of_iff _ TypeName.isRoot_iff

/-! ### The tables -/

/-- A module to be installed needs a component: a stated one, or that of the first scope. -/
def scopeRule (annotations : List Annotation) (marker : Marker) : Rule where
  isBroken := decide (marker.install = true ∧ marker.installIn = none ∧
    ∃ scope ∈ scopeAmong? annotations, ¬ scope.IsBuiltinScope)
  message :=
    "@SoloModule does not support custom scopes--use recognized scope markers or disable installation"

namespace ClassDeclaration

/-- Whether the exposed type is inferred from supertypes. -/
def isInferred (d : ClassDeclaration) : Bool :=
  decide (d.marker.bindingClass = none ∧ d.marker.bindSuperType = true)

/-- **The rules for classes** that have a constructor to inject through. -/
def rules (d : ClassDeclaration) : List Rule :=
  [⟨decide (d.visibility ≠ .publicUse), "Types marked with @SoloModule must be public"⟩,
    ⟨decide (d.name.nested ≠ [] ∧ d.isStatic = false),
      "Nested types marked with @SoloModule must be static"⟩,
    ⟨decide (1 < (d.constructors.filter Constructor.injectable).length),
      "Multiple constructors marked with @Inject annotated found."⟩,
    ⟨decide ((d.constructors.filter Constructor.injectable).length = 1 ∧
        ∃ c ∈ d.constructors.filter Constructor.injectable, c.visibility = .privateUse),
      "@Inject constructor must not be private."⟩,
    ⟨decide (d.isInferred = true ∧ 1 < d.interfaces.length),
      "Multiple interfaces found. Binding type must be specified: " ++
        TypeName.textList d.interfaces⟩,
    ⟨decide (d.isInferred = true ∧ d.interfaces ≠ [] ∧ ∃ t ∈ d.superclass, ¬ t.IsTop),
      "Multiple super classes found. Binding type must be specified: " ++
        TypeName.textList (d.superclass.toList ++ d.interfaces)⟩,
    scopeRule d.annotations d.marker]

end ClassDeclaration

/-- **The rules for what is called on a container** of a kind, a function or the getter of a
property. -/
def callableRules (visibility : Visibility) (isStatic : Bool) (annotations : List Annotation)
    (marker : Marker) (kind : ContainerKind) : List Rule :=
  [⟨decide (visibility ≠ .publicUse), "Functions marked with @SoloModule must be public"⟩,
    ⟨decide (isStatic = false ∧ kind ≠ .object ∧ kind ≠ .companion),
      "Functions marked with @SoloModule must be top level or enclosed in an object or companion class"⟩,
    scopeRule annotations marker]

/-- The rules for a function. -/
def FunctionDeclaration.rules (d : FunctionDeclaration) : ContainerKind → List Rule :=
  callableRules d.visibility d.isStatic d.annotations d.marker

/-- The rules for a property. -/
def PropertyDeclaration.rules (d : PropertyDeclaration) : ContainerKind → List Rule :=
  callableRules d.visibility d.isStatic d.annotations d.marker

/-- The function that is called for a declaration: for a property, the one that reads it. -/
def Declaration.function? : Declaration → Option FunctionDeclaration
  | .ofClass _ => none
  | .ofFunction d => some d
  | .ofProperty d => some d.getter

/-! ### Complaints are about broken rules -/

/-- A module has no component when a scope without one is all that asks for it. -/
theorem isNone_targetOf (components : Components) (annotations : List Annotation)
    (marker : Marker) : (targetOf components annotations marker).isNone =
      decide (marker.installIn = none ∧
        ∃ scope ∈ scopeAmong? annotations, ¬ scope.IsBuiltinScope) := by
  rw [targetOf, firstScope?_eq]
  cases marker.installIn with
  | some component => simp [Components.target?]
  | none =>
      cases scopeAmong? annotations with
      | none => simp [Components.target?]
      | some scope =>
          cases hscope : scope.builtinScope? <;>
            simp [Components.target?, ← Annotation.builtinScope?_eq_none_iff, hscope]

theorem map_message_scopeComplaints (components : Components) (annotations : List Annotation)
    (marker : Marker) : (scopeComplaints components annotations marker).map Complaint.message =
      Rule.broken [scopeRule annotations marker] := by
  rw [scopeComplaints, Rule.map_message_when, isNone_targetOf, scopeRule]
  congr 3
  simp

/-- Without a complaint about it, a module to be installed has a component. -/
theorem isInstalled_of_scopeComplaints {components : Components} {annotations : List Annotation}
    {marker : Marker} (h : scopeComplaints components annotations marker = []) :
    (marker.install && (targetOf components annotations marker).isNone) = false := by
  rw [scopeComplaints, Complaint.when] at h
  split at h
  · cases h
  · next hnone => exact Bool.eq_false_iff.mpr hnone

theorem bne_publicUse (v : Visibility) : (v != .publicUse) = decide (v ≠ .publicUse) := by
  cases v <;> rfl

namespace ClassDeclaration

variable {d : ClassDeclaration}

theorem map_message_constructorComplaints (h : d.injectableConstructors ≠ []) :
    d.constructorComplaints.map Complaint.message =
      Rule.broken [⟨decide (1 < d.injectableConstructors.length),
          Complaint.severalConstructors.message⟩,
        ⟨decide (d.injectableConstructors.length = 1 ∧
          ∃ c ∈ d.injectableConstructors, c.visibility = .privateUse),
          Complaint.privateConstructor.message⟩] := by
  rw [constructorComplaints]
  match hconstructors : d.injectableConstructors with
  | [] => exact absurd hconstructors h
  | [c] =>
      rw [Rule.map_message_when]
      simp [Rule.broken, List.filter_cons, beq_eq_decide]
  | _ :: _ :: _ => simp [Rule.broken]

/-- Where the exposed type is inferred, every conflict among supertypes is complained about. -/
theorem conflictComplaints_eq (d : ClassDeclaration) :
    d.conflictComplaints = if d.isInferred then d.ancestry.conflicts.map .conflict else [] := by
  have hstated : d.ancestry.stated = d.marker.bindingClass := rfl
  have hinference : d.ancestry.inferred = d.marker.bindSuperType := rfl
  rw [conflictComplaints, Ancestry.exposed, hstated, hinference]
  cases hbinding : d.marker.bindingClass with
  | some type => simp [isInferred, hbinding]
  | none =>
      cases hinferred : d.marker.bindSuperType with
      | false => simp [isInferred, hinferred]
      | true =>
          cases hconflicts : d.ancestry.conflicts <;> simp [isInferred, hbinding, hinferred]

theorem map_message_conflictComplaints (d : ClassDeclaration) :
    d.conflictComplaints.map Complaint.message =
      Rule.broken [⟨decide (d.isInferred = true ∧ 1 < d.interfaces.length),
          (Conflict.interfaces d.interfaces).message⟩,
        ⟨decide (d.isInferred = true ∧ d.interfaces ≠ [] ∧ ∃ t ∈ d.superclass, ¬ t.IsTop),
          "Multiple super classes found. Binding type must be specified: " ++
            TypeName.textList (d.superclass.toList ++ d.interfaces)⟩] := by
  have hinterfaces : d.ancestry.interfaces = d.interfaces := rfl
  have hsuperclass : d.ancestry.superclass = d.superclass.filter (!·.isRoot) := rfl
  rw [conflictComplaints_eq, Ancestry.conflicts, hinterfaces, hsuperclass]
  cases d.isInferred with
  | false => simp [Rule.broken]
  | true =>
      rw [if_pos rfl, List.map_append, List.map_append, Rule.broken_cons]
      congr 1
      · by_cases hseveral : 1 < d.interfaces.length <;>
          simp [Rule.broken, hseveral, Complaint.message]
      · cases d.superclass with
        | none => simp [Rule.broken]
        | some type =>
            have hmessage : "Multiple super classes found. Binding type must be specified: " ++
                TypeName.textList ((some type).toList ++ d.interfaces) =
                  (Conflict.superclass type d.interfaces).message := rfl
            rw [hmessage, Option.filter_some]
            cases hroot : type.isRoot <;> cases d.interfaces <;>
              simp [Rule.broken, ← TypeName.isRoot_iff, hroot, Complaint.message]

/-- **The complaints about a class are about the broken rules.** -/
theorem map_message_complaints (components : Components) (h : d.injectableConstructors ≠ []) :
    (d.complaints components).map Complaint.message = Rule.broken d.rules := by
  have hnested : (d.name.isNested && !d.isStatic) =
      decide (d.name.nested ≠ [] ∧ d.isStatic = false) := by
    cases hnames : d.name.nested <;> simp [ClassName.isNested, hnames]
  simp only [complaints, bne_publicUse, hnested, List.map_append, Rule.map_message_when,
    map_message_constructorComplaints h, map_message_conflictComplaints,
    map_message_scopeComplaints, ← Rule.broken_append]
  rfl

/-- **Without complaints the plan of a class has no flaw**, whichever type it exposes. -/
theorem flaw?_plan {components : Components} (h : d.complaints components = []) (c : Constructor)
    (exposed : TypeName) : (d.plan components c exposed).flaw? = none := by
  rw [complaints, List.append_eq_nil_iff] at h
  have hinstalled : ((d.plan components c exposed).install &&
      (d.plan components c exposed).target.isNone) = false :=
    isInstalled_of_scopeComplaints h.2
  rw [Plan.flaw?, hinstalled]
  -- the way of binding is chosen by whether the class exposes itself
  by_cases hself : exposed = d.ownType
  · simp [plan, hself, ownType]
  · have hother : exposed ≠ .plain d.name := hself
    simp [plan, hself, hother]

end ClassDeclaration

namespace FunctionDeclaration

variable {d : FunctionDeclaration}

/-- **The complaints about a function are about the broken rules.** -/
theorem map_message_complaints (components : Components) (kind : ContainerKind) :
    (d.complaints components kind).map Complaint.message = Rule.broken (d.rules kind) := by
  have hkind : (!d.isStatic && !kind.isSingle) =
      decide (d.isStatic = false ∧ kind ≠ .object ∧ kind ≠ .companion) := by
    cases kind <;> simp [ContainerKind.isSingle]
  simp only [complaints, bne_publicUse, hkind, List.map_append, Rule.map_message_when,
    map_message_scopeComplaints, ← Rule.broken_append]
  rfl

/-- **Without complaints the plan of a function has no flaw.** -/
theorem flaw?_plan {components : Components} {kind : ContainerKind}
    (h : d.complaints components kind = []) : (d.plan components kind).flaw? = none := by
  rw [complaints, List.append_eq_nil_iff] at h
  have hinstalled : ((d.plan components kind).install &&
      (d.plan components kind).target.isNone) = false :=
    isInstalled_of_scopeComplaints h.2
  rw [Plan.flaw?, hinstalled]
  rfl

end FunctionDeclaration

/-! ### Verdicts -/

/-- A plan without flaws gives a binding. -/
theorem Binding.exists_ofPlan {p : Plan} (h : p.flaw? = none) :
    ∃ b, Binding.ofPlan p = .ok b := by
  refine ⟨⟨p, h⟩, ?_⟩
  rw [Binding.ofPlan]
  split
  · rfl
  · next flaw hflaw => simp [h] at hflaw

/-- A binding has the plan that it was made from. -/
theorem Binding.toPlan_of_ofPlan {p : Plan} {b : Binding} (h : Binding.ofPlan p = .ok b) :
    b.toPlan = p := by
  rw [Binding.ofPlan] at h
  split at h
  · cases h
    rfl
  · cases h

/-- What is accepted is bound as planned. -/
theorem Verdict.toPlan_of_accepted {location : String} {complaints : List Complaint} {p : Plan}
    {b : Binding} (h : Verdict.of location complaints p = .ok (.accepted b)) : b.toPlan = p := by
  rw [Verdict.of] at h
  split at h
  · obtain ⟨b, hb, heq⟩ := map_eq_ok h
    cases heq
    exact Binding.toPlan_of_ofPlan hb
  · cases h

/-- **The verdict that a table of rules calls for**: a declaration is accepted exactly when it
breaks no rule, and otherwise rejected with an error for every broken rule, in order. -/
structure Verdict.FollowsFrom (rules : List Rule) (location : String)
    (result : Except Failure Verdict) : Prop where
  accepted : (∃ binding, result = .ok (.accepted binding)) ↔ Rule.broken rules = []
  rejected : Rule.broken rules ≠ [] →
    result = .ok (.rejected ((Rule.broken rules).map (Diagnostic.error location)))

/-- **The verdict on what is called on a container.**  Whether there is one depends on whether the
kind of the container is known, and the verdict follows from the table for this kind. -/
structure Verdict.FollowsFromKind (kind? : Except HostFault ContainerKind)
    (rules : ContainerKind → List Rule) (location : String) (result : Except Failure Verdict) :
    Prop where
  unknown : (∃ fault, result = .error (.host fault)) ↔ ∃ fault, kind? = .error fault
  known : ∀ kind, kind? = .ok kind → FollowsFrom (rules kind) location result

/-- A verdict follows from a table if the complaints are about its broken rules and without
complaints the plan has no flaw. -/
theorem Verdict.followsFrom_of {rules : List Rule} {complaints : List Complaint} {p : Plan}
    (location : String) (hbroken : complaints.map Complaint.message = Rule.broken rules)
    (hplan : complaints = [] → p.flaw? = none) :
    FollowsFrom rules location (Verdict.of location complaints p) := by
  rw [Verdict.of]
  cases complaints with
  | nil =>
      obtain ⟨b, hb⟩ := Binding.exists_ofPlan (hplan rfl)
      have hnone : Rule.broken rules = [] := hbroken.symm
      show FollowsFrom rules location ((Binding.ofPlan p).map .accepted)
      rw [hb]
      exact ⟨iff_of_true ⟨b, rfl⟩ hnone, fun hsome => absurd hnone hsome⟩
  | cons c complaints =>
      have hsome : Rule.broken rules ≠ [] := by
        rw [← hbroken]
        exact List.cons_ne_nil _ _
      rw [if_neg (by simp)]
      refine ⟨iff_of_false (fun ⟨b, hb⟩ => by cases hb) hsome, fun _ => ?_⟩
      rw [← hbroken, List.map_map]
      rfl

/-- Where a table calls for a verdict, there is one. -/
theorem Verdict.FollowsFrom.exists_verdict {rules : List Rule} {location : String}
    {result : Except Failure Verdict} (h : FollowsFrom rules location result) :
    ∃ verdict, result = .ok verdict := by
  by_cases hbroken : Rule.broken rules = []
  · obtain ⟨b, hb⟩ := h.accepted.mpr hbroken
    exact ⟨_, hb⟩
  · exact ⟨_, h.rejected hbroken⟩

/-! ### Reviews -/

namespace ClassDeclaration

variable {d : ClassDeclaration}

/-- There is no constructor to inject through when no constructor is marked so. -/
theorem injectableConstructors_eq_nil_iff :
    d.injectableConstructors = [] ↔ ∀ c ∈ d.constructors, c.injectable = false := by
  simp [injectableConstructors]

theorem review_of_nil (components : Components) (h : d.injectableConstructors = []) :
    d.review components = .error (.invariant d.name.canonicalName .noConstructor) := by
  rw [review, h]

/-- The verdict on a class that has a constructor to inject through follows from the table. -/
theorem followsFrom_review (components : Components) (h : d.injectableConstructors ≠ []) :
    Verdict.FollowsFrom d.rules d.name.canonicalName (d.review components) := by
  obtain ⟨c, others, hconstructors⟩ := List.exists_cons_of_ne_nil h
  rw [review, hconstructors]
  exact Verdict.followsFrom_of _ (map_message_complaints components h) fun hnone =>
    flaw?_plan hnone c _

end ClassDeclaration

/-- The verdict on a function follows from the table for the kind of its container. -/
theorem FunctionDeclaration.followsFrom_review (d : FunctionDeclaration) (components : Components)
    (kind : ContainerKind) :
    Verdict.FollowsFrom (d.rules kind) d.displayName (d.review components kind) :=
  Verdict.followsFrom_of _ (map_message_complaints components kind) flaw?_plan

namespace Declaration

variable {components : Components} {source : KindSource} {cache : KindCache}

/-- The review of a function or a property is settled by the kind of the container. -/
theorem fst_review_of_function? {d : Declaration} {f : FunctionDeclaration}
    (h : d.function? = some f) : (d.review components source cache).1 =
      match (cache.lookup source f.container).1 with
      | .ok kind => f.review components kind
      | .error fault => .error (.host fault) := by
  have hlookup (container : ClassName) (next : ContainerKind → Except Failure Verdict) :
      (Asking.withKind source container next cache).1 =
        match (cache.lookup source container).1 with
        | .ok kind => next kind
        | .error fault => .error (.host fault) := by
    rw [Asking.withKind]
    rcases cache.lookup source container with ⟨answer, after⟩
    cases answer <;> rfl
  cases d with
  | ofClass d => cases h
  | ofFunction d => cases h; exact hlookup _ _
  | ofProperty d => cases h; exact hlookup _ _

/-- The verdict on a function or a property goes by the kind of the container. -/
theorem followsFromKind_review {d : Declaration} {f : FunctionDeclaration}
    (h : d.function? = some f) :
    Verdict.FollowsFromKind (cache.lookup source f.container).1 f.rules f.displayName
      (d.review components source cache).1 := by
  rw [fst_review_of_function? h]
  cases hlookup : (cache.lookup source f.container).1 with
  | error fault => exact ⟨by simp, fun kind hkind => by cases hkind⟩
  | ok kind =>
      have hfollows := f.followsFrom_review components kind
      obtain ⟨verdict, hverdict⟩ := hfollows.exists_verdict
      refine ⟨by simp [hverdict], fun other hother => ?_⟩
      cases hother
      exact hfollows

/-- **A review reports exactly the broken rules, in order.**  A class cannot be reviewed if it has
no constructor to inject through, and a function or a property if the kind of its container cannot
be looked up.  Otherwise the verdict is the one that the table of rules calls for: rejected with an
error for every broken rule, or accepted where none is broken.  A property is held to the rules of
functions by its own visibility, annotations and marker, and messages name its getter. -/
theorem review_reports_broken_rules (components : Components) (source : KindSource)
    (cache : KindCache) :
    (∀ d : ClassDeclaration,
      ((∃ name flaw, ((ofClass d).review components source cache).1 =
          .error (.invariant name flaw)) ↔ ∀ c ∈ d.constructors, c.injectable = false) ∧
        ((∃ c ∈ d.constructors, c.injectable = true) →
          Verdict.FollowsFrom d.rules d.name.canonicalName
            ((ofClass d).review components source cache).1)) ∧
      (∀ d : FunctionDeclaration,
        Verdict.FollowsFromKind (cache.lookup source d.container).1 d.rules
          (d.container.canonicalName ++ "." ++ d.name)
          ((ofFunction d).review components source cache).1) ∧
      ∀ d : PropertyDeclaration,
        Verdict.FollowsFromKind (cache.lookup source d.container).1 d.rules
          (d.container.canonicalName ++ "." ++ d.accessorName)
          ((ofProperty d).review components source cache).1 := by
  refine ⟨fun d => ?_, fun d => followsFromKind_review (d := .ofFunction d) (f := d) rfl,
    fun d => followsFromKind_review (d := .ofProperty d) (f := d.getter) rfl⟩
  show ((∃ name flaw, d.review components = .error (.invariant name flaw)) ↔ _) ∧
    (_ → Verdict.FollowsFrom _ _ (d.review components))
  rw [← ClassDeclaration.injectableConstructors_eq_nil_iff]
  refine ⟨⟨fun ⟨name, flaw, herror⟩ => ?_, fun hnone =>
    ⟨_, _, d.review_of_nil components hnone⟩⟩, fun ⟨c, hc, hinjectable⟩ => ?_⟩
  · by_contra hsome
    obtain ⟨verdict, hverdict⟩ := (d.followsFrom_review components hsome).exists_verdict
    rw [hverdict] at herror
    cases herror
  · refine d.followsFrom_review components fun hnone => ?_
    rw [ClassDeclaration.injectableConstructors_eq_nil_iff.mp hnone c hc] at hinjectable
    cases hinjectable

/-- A nested class that breaks every rule except the one about several constructors. -/
def tangled : ClassDeclaration where
  name := ⟨"app", "Outer", ["Tangled"]⟩
  visibility := .internalUse
  superclass := some (.plain ⟨"app", "Base", []⟩)
  interfaces := [.plain ⟨"app", "First", []⟩, .plain ⟨"app", "Second", []⟩]
  constructors := [⟨.publicUse, false, []⟩, ⟨.privateUse, true, []⟩]
  annotations := [⟨⟨"app", "PerRequest", []⟩, [], [⟨"javax.inject", "Scope", []⟩]⟩]

/-- A class with two constructors to inject through, of which the private one does not count. -/
def undecided : ClassDeclaration where
  name := ⟨"app", "Undecided", []⟩
  constructors := [⟨.publicUse, true, []⟩, ⟨.privateUse, true, []⟩]

/-- A function of a companion, which need not be static. -/
def companionFunction : FunctionDeclaration where
  container := ⟨"app", "Hosts", ["Companion"]⟩
  name := "host"
  returnType := .primitive .int

/-- The same function of the class around it. -/
def memberFunction : FunctionDeclaration :=
  { companionFunction with container := ⟨"app", "Hosts", []⟩ }

/-- A property that breaks every rule. -/
def hiddenPort : PropertyDeclaration where
  container := ⟨"app", "Hosts", []⟩
  property := "port"
  visibility := .internalUse
  returnType := .primitive .int
  annotations := [⟨⟨"app", "PerRequest", []⟩, [], [⟨"javax.inject", "Scope", []⟩]⟩]

/-- Companions are told by their name. -/
def companionSource : KindSource := fun c =>
  .ok (if c.nested = ["Companion"] then .companion else .plainClass)

/-- `tangled` is rejected with six errors, `undecided` and `memberFunction` with one, and
`hiddenPort` with three; `companionFunction` is accepted. -/
theorem review_reports_broken_rules_tangled :
    (∃ c ∈ tangled.constructors, c.injectable = true) ∧
      ((ofClass tangled).review {} companionSource {}).1 =
        .ok (.rejected (["Types marked with @SoloModule must be public",
          "Nested types marked with @SoloModule must be static",
          "@Inject constructor must not be private.",
          "Multiple interfaces found. Binding type must be specified: app.First, app.Second",
          "Multiple super classes found. Binding type must be specified: app.Base, app.First, app.Second",
          "@SoloModule does not support custom scopes--use recognized scope markers or disable installation"].map
            (Diagnostic.error "app.Outer.Tangled"))) ∧
      (∃ c ∈ undecided.constructors, c.injectable = true) ∧
      ((ofClass undecided).review {} companionSource {}).1 =
        .ok (.rejected [Diagnostic.error "app.Undecided"
          "Multiple constructors marked with @Inject annotated found."]) ∧
      (KindCache.lookup companionSource companionFunction.container {}).1 = .ok .companion ∧
      (∃ b, ((ofFunction companionFunction).review {} companionSource {}).1 = .ok (.accepted b)) ∧
      (KindCache.lookup companionSource ⟨"app", "Hosts", []⟩ {}).1 = .ok .plainClass ∧
      ((ofFunction memberFunction).review {} companionSource {}).1 =
        .ok (.rejected [Diagnostic.error "app.Hosts.host"
          "Functions marked with @SoloModule must be top level or enclosed in an object or companion class"]) ∧
      ((ofProperty hiddenPort).review {} companionSource {}).1 =
        .ok (.rejected (["Functions marked with @SoloModule must be public",
          "Functions marked with @SoloModule must be top level or enclosed in an object or companion class",
          "@SoloModule does not support custom scopes--use recognized scope markers or disable installation"].map
            (Diagnostic.error "app.Hosts.getPort"))) := by
  have htangled : ∃ c ∈ tangled.constructors, c.injectable = true := by decide
  have hundecided : ∃ c ∈ undecided.constructors, c.injectable = true := by decide
  have hcompanion : (KindCache.lookup companionSource companionFunction.container {}).1 =
      .ok .companion := rfl
  have hplain : (KindCache.lookup companionSource ⟨"app", "Hosts", []⟩ {}).1 = .ok .plainClass := rfl
  obtain ⟨hclass, hfunction, hproperty⟩ := review_reports_broken_rules {} companionSource {}
  refine ⟨htangled, ?tangled, hundecided, ?undecided, hcompanion, ?companion, hplain, ?member,
    ?port⟩
  case tangled =>
    have hrejected := ((hclass tangled).2 htangled).rejected (by decide +kernel)
    exact hrejected.trans (by decide +kernel)
  case undecided =>
    have hrejected := ((hclass undecided).2 hundecided).rejected (by decide +kernel)
    exact hrejected.trans (by decide +kernel)
  case companion =>
    exact ((hfunction companionFunction).known _ hcompanion).accepted.mpr (by decide +kernel)
  case member =>
    have hrejected := ((hfunction memberFunction).known _ hplain).rejected (by decide +kernel)
    exact hrejected.trans (by decide +kernel)
  case port =>
    have hrejected := ((hproperty hiddenPort).known _ hplain).rejected (by decide +kernel)
    exact hrejected.trans (by decide +kernel)

end Declaration

end Bindery
