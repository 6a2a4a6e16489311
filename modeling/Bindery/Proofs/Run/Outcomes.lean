import Bindery.Java.Module
import Bindery.Proofs.Manifest.Containers
import Bindery.Proofs.Review.Rules
import Bindery.Proofs.Run.Alone

/-!
# What becomes of a declaration

A declaration can fail in many places: at its review, when its binding is put together, when its
kind is looked up and when its module is rendered.  Only one of these failures ever ends a run.
Everything that is wrong with a declaration itself is found by its review, or turned into a
rejection where it is rendered, so all that is left is a container that nobody knows
(`Declaration.fails_only_for_unknown_containers`).

`Declaration.Becomes` lists the ways in which processing ends, and is where both halves of the
statement meet: when it fails, and that no rejection is silent.  Of the renderer only
`Renderer.RejectsOnly` is used, that its failures concern a single declaration.
-/

namespace Bindery

/-! ### Rejections -/

/-- A rejection says something, and all that it says are errors about one declaration. -/
def AreErrorsAt (location : String) (diagnostics : List Diagnostic) : Prop :=
  diagnostics ≠ [] ∧ ∀ x ∈ diagnostics, x.severity = .error ∧ x.location = location

theorem areErrorsAt_map {location : String} {messages : List String} (h : messages ≠ []) :
    AreErrorsAt location (messages.map (Diagnostic.error location)) := by
  refine ⟨by simpa using h, fun x hx => ?_⟩
  obtain ⟨message, -, rfl⟩ := List.mem_map.mp hx
  exact ⟨rfl, rfl⟩

/-- A verdict that follows from a table rejects with errors about the declaration. -/
theorem Verdict.FollowsFrom.areErrorsAt {rules : List Rule} {location : String}
    {result : Except Failure Verdict} (h : FollowsFrom rules location result)
    {diagnostics : List Diagnostic} (hrejected : result = .ok (.rejected diagnostics)) :
    AreErrorsAt location diagnostics := by
  by_cases hbroken : Rule.broken rules = []
  · obtain ⟨b, hb⟩ := h.accepted.mpr hbroken
    rw [hrejected] at hb
    cases hb
  · have hresult := h.rejected hbroken
    rw [hrejected] at hresult
    cases hresult
    exact areErrorsAt_map hbroken

/-! ### Reviews -/

namespace Declaration

variable {components : Components} {source : KindSource} {cache : KindCache} {d : Declaration}

/-- Skipped declarations are the classes without a constructor to inject through. -/
theorem isSkipped_iff :
    d.isSkipped = true ↔ ∃ c, d = .ofClass c ∧ ∀ k ∈ c.constructors, k.injectable = false := by
  cases d with
  | ofClass c =>
      rw [isSkipped, List.isEmpty_iff, ClassDeclaration.injectableConstructors_eq_nil_iff]
      simp
  | ofFunction f => simp [isSkipped]
  | ofProperty p => simp [isSkipped]

/-- What has a container is not skipped. -/
theorem isSkipped_of_container? {c : ClassName} (h : d.container? = some c) :
    d.isSkipped = false := by
  cases d with
  | ofClass d => cases h
  | ofFunction d => rfl
  | ofProperty d => rfl

/-- A function or property has the container and the name of the function that is called for
it. -/
theorem container?_of_function? {f : FunctionDeclaration} (h : d.function? = some f) :
    d.container? = some f.container ∧ d.displayName = f.displayName := by
  cases d with
  | ofClass d => cases h
  | ofFunction d => cases h; exact ⟨rfl, rfl⟩
  | ofProperty d => cases h; exact ⟨rfl, rfl⟩

/-- The review of a declaration goes by its rules, unless its container is not known. -/
inductive IsReviewed (source : KindSource) (cache : KindCache) (d : Declaration) :
    Except Failure Verdict → Prop where
  | unknown {c : ClassName} {fault : HostFault} (container : d.container? = some c)
      (answer : (cache.lookup source c).1 = .error fault) :
      IsReviewed source cache d (.error (.host fault))
  | byRules {rules : List Rule} {result : Except Failure Verdict}
      (known : ∀ c ∈ d.container?, ∃ kind, (cache.lookup source c).1 = .ok kind)
      (follows : Verdict.FollowsFrom rules d.displayName result) :
      IsReviewed source cache d result

/-- The review of a function or property is that of the function that is called for it. -/
theorem isReviewed_of_function? {f : FunctionDeclaration} (h : d.function? = some f) :
    d.IsReviewed source cache (d.review components source cache).1 := by
  obtain ⟨hcontainer, hname⟩ := container?_of_function? h
  rw [fst_review_of_function? h]
  cases hlookup : (cache.lookup source f.container).1 with
  | error fault => exact .unknown hcontainer hlookup
  | ok kind =>
      have hfollows := f.followsFrom_review components kind
      rw [← hname] at hfollows
      refine .byRules (fun c hc => ?_) hfollows
      rw [hcontainer] at hc
      cases hc
      exact ⟨kind, hlookup⟩

/-- **A declaration that is not skipped is reviewed by its rules**, unless its container is not
known. -/
theorem isReviewed_review (h : d.isSkipped = false) :
    d.IsReviewed source cache (d.review components source cache).1 := by
  cases d with
  | ofClass c =>
      have hsome : c.injectableConstructors ≠ [] := by
        simpa [isSkipped, List.isEmpty_iff] using h
      exact .byRules (by simp [container?]) (c.followsFrom_review components hsome)
  | ofFunction f => exact isReviewed_of_function? rfl
  | ofProperty p => exact isReviewed_of_function? rfl

end Declaration

/-! ### Renderers -/

/-- A renderer all of whose failures concern the rendered declaration only. -/
def Renderer.RejectsOnly (render : Renderer) : Prop :=
  ∀ binding failure, render binding = .error failure →
    ∃ declaration reason, failure = .render declaration reason

/-- What cannot be written as a module concerns one declaration only. -/
theorem Java.rejectsOnly_renderModule (settings : GeneratorSettings) :
    (Java.renderModule settings).RejectsOnly := by
  intro binding failure h
  rw [Java.renderModule] at h
  cases hfile : Java.sourceFile settings binding.toPlan with
  | ok file =>
      rw [hfile] at h
      cases h
  | error fault =>
      rw [hfile] at h
      cases h
      exact ⟨_, _, rfl⟩

/-! ### Outcomes -/

namespace Declaration

variable {render : Renderer} {components : Components} {source : KindSource} {cache : KindCache}
    {d : Declaration}

/-- **What becomes of a declaration**: it is skipped, its container is not known, its module is
generated from its binding, or it is rejected. -/
inductive Becomes (render : Renderer) (components : Components) (source : KindSource)
    (cache : KindCache) (d : Declaration) : Except Failure Report → Prop where
  | skipped {reason : String} (skipped : d.isSkipped = true) :
      Becomes render components source cache d (.ok ⟨d.displayName, .skipped reason⟩)
  | unknown {c : ClassName} {fault : HostFault} (container : d.container? = some c)
      (answer : (cache.lookup source c).1 = .error fault) :
      Becomes render components source cache d (.error (.host fault))
  | generated {binding : Binding} {artifact : Artifact} (considered : d.isSkipped = false)
      (known : ∀ c ∈ d.container?, ∃ kind, (cache.lookup source c).1 = .ok kind)
      (review : (d.review components source cache).1 = .ok (.accepted binding))
      (rendered : render binding = .ok artifact) :
      Becomes render components source cache d (.ok ⟨d.displayName, .generated artifact⟩)
  | rejected {diagnostics : List Diagnostic} (considered : d.isSkipped = false)
      (known : ∀ c ∈ d.container?, ∃ kind, (cache.lookup source c).1 = .ok kind)
      (errors : AreErrorsAt d.displayName diagnostics) :
      Becomes render components source cache d (.ok ⟨d.displayName, .rejected diagnostics⟩)

/-- **Processing ends in one of the four ways**, if the renderer rejects only. -/
theorem becomes_process (hrender : render.RejectsOnly) :
    d.Becomes render components source cache (d.process render components source cache).1 := by
  cases hskipped : d.isSkipped with
  | true =>
      rw [process, if_pos hskipped]
      exact .skipped hskipped
  | false =>
      rw [process, if_neg (by simp [hskipped])]
      show d.Becomes render components source cache
        ((((d.review components source cache).1).bind (Verdict.outcome render d.displayName)).map _)
      have hreviewed : d.IsReviewed source cache (d.review components source cache).1 :=
        isReviewed_review hskipped
      generalize hresult : (d.review components source cache).1 = result at hreviewed
      cases hreviewed with
      | unknown hcontainer hanswer => exact .unknown hcontainer hanswer
      | byRules hknown hfollows =>
          obtain ⟨verdict, rfl⟩ := hfollows.exists_verdict
          cases verdict with
          | rejected diagnostics => exact .rejected hskipped hknown (hfollows.areErrorsAt rfl)
          | accepted binding =>
              show d.Becomes render components source cache
                ((Verdict.outcome render d.displayName (.accepted binding)).map _)
              rw [Verdict.outcome]
              cases hrendered : render binding with
              | ok artifact => exact .generated hskipped hknown hresult hrendered
              | error failure =>
                  -- the only failures of the renderer are turned into rejections
                  obtain ⟨_, reason, rfl⟩ := hrender binding failure hrendered
                  exact .rejected hskipped hknown (areErrorsAt_map (List.cons_ne_nil reason []))

/-- **Processing fails exactly where the look-up of the container does.** -/
theorem process_eq_error_iff (hrender : render.RejectsOnly) (failure : Failure) :
    (d.process render components source cache).1 = .error failure ↔
      ∃ c ∈ d.container?, ∃ fault, (cache.lookup source c).1 = .error fault ∧
        failure = .host fault := by
  have hbecomes : d.Becomes render components source cache
      (d.process render components source cache).1 := becomes_process hrender
  have hunfailing (h : ∀ c ∈ d.container?, ∃ kind, (cache.lookup source c).1 = .ok kind) :
      ¬ ∃ c ∈ d.container?, ∃ fault, (cache.lookup source c).1 = .error fault ∧
        failure = .host fault := by
    rintro ⟨c, hc, fault, hfault, -⟩
    obtain ⟨kind, hkind⟩ := h c hc
    rw [hkind] at hfault
    cases hfault
  generalize (d.process render components source cache).1 = result at hbecomes
  cases hbecomes with
  | skipped hskipped =>
      refine iff_of_false (by simp) (hunfailing fun c hc => ?_)
      rw [isSkipped_of_container? hc] at hskipped
      cases hskipped
  | unknown hcontainer hanswer =>
      constructor
      · rintro ⟨⟩
        exact ⟨_, hcontainer, _, hanswer, rfl⟩
      · rintro ⟨c, hc, fault, hfault, rfl⟩
        rw [hcontainer] at hc
        cases hc
        rw [hanswer] at hfault
        cases hfault
        rfl
  | generated _ hknown => exact iff_of_false (by simp) (hunfailing hknown)
  | rejected _ hknown => exact iff_of_false (by simp) (hunfailing hknown)

/-- A declaration is skipped exactly when it is a class without a constructor to inject
through. -/
theorem process_eq_skipped_iff (hrender : render.RejectsOnly) :
    (∃ report reason, (d.process render components source cache).1 = .ok report ∧
      report.outcome = .skipped reason) ↔
      ∃ c, d = .ofClass c ∧ ∀ k ∈ c.constructors, k.injectable = false := by
  have hbecomes : d.Becomes render components source cache
      (d.process render components source cache).1 := becomes_process hrender
  rw [← isSkipped_iff]
  generalize (d.process render components source cache).1 = result at hbecomes
  cases hbecomes with
  | skipped hskipped => exact iff_of_true ⟨_, _, rfl, rfl⟩ hskipped
  | unknown hcontainer =>
      refine iff_of_false ?_ (by simp [isSkipped_of_container? hcontainer])
      rintro ⟨report, reason, ⟨⟩, -⟩
  | generated hconsidered =>
      refine iff_of_false ?_ (by simp [hconsidered])
      rintro ⟨report, reason, ⟨⟩, ⟨⟩⟩
  | rejected hconsidered =>
      refine iff_of_false ?_ (by simp [hconsidered])
      rintro ⟨report, reason, ⟨⟩, ⟨⟩⟩

/-- No rejection is silent. -/
theorem areErrorsAt_of_process (hrender : render.RejectsOnly) {report : Report}
    {diagnostics : List Diagnostic}
    (hreport : (d.process render components source cache).1 = .ok report)
    (hrejected : report.outcome = .rejected diagnostics) :
    AreErrorsAt d.displayName diagnostics := by
  have hbecomes : d.Becomes render components source cache
      (d.process render components source cache).1 := becomes_process hrender
  rw [hreport] at hbecomes
  cases hbecomes with
  | skipped => cases hrejected
  | generated => cases hrejected
  | rejected _ _ herrors =>
      cases hrejected
      exact herrors

/-- A report bears the name of its declaration. -/
theorem declaration_of_process (hrender : render.RejectsOnly) {report : Report}
    (hreport : (d.process render components source cache).1 = .ok report) :
    report.declaration = d.displayName := by
  have hbecomes : d.Becomes render components source cache
      (d.process render components source cache).1 := becomes_process hrender
  rw [hreport] at hbecomes
  cases hbecomes <;> rfl

/-- **With a manifest as the source a declaration fails only for want of its container**, and no
rejection is silent.

* The processing of a declaration fails exactly when it is a function or property whose container
  is listed under neither of its names, and then the reflection name is reported as missing.
* It is skipped exactly when it is a class without a constructor to inject through.
* Whenever it is rejected there is something to say, and all of it are errors about it. -/
theorem fails_only_for_unknown_containers (settings : GeneratorSettings) (components : Components)
    (m : Manifest) (d : Declaration) :
    (∀ failure,
      Asking.alone (d.process (Java.renderModule settings) components m.kindOf) = .error failure ↔
        ∃ c ∈ d.container?, c.reflectionName ∉ m.containers.entries.map (·.1) ∧
          c.canonicalName ∉ m.containers.entries.map (·.1) ∧
          failure = .host (.missingMetadata c.reflectionName)) ∧
    ((∃ report reason,
      Asking.alone (d.process (Java.renderModule settings) components m.kindOf) = .ok report ∧
        report.outcome = .skipped reason) ↔
      ∃ c, d = .ofClass c ∧ ∀ k ∈ c.constructors, k.injectable = false) ∧
    ∀ report diagnostics,
      Asking.alone (d.process (Java.renderModule settings) components m.kindOf) = .ok report →
        report.outcome = .rejected diagnostics →
          diagnostics ≠ [] ∧
            ∀ x ∈ diagnostics, x.severity = .error ∧ x.location = d.displayName := by
  have hrender := Java.rejectsOnly_renderModule settings
  refine ⟨fun failure => ?_, process_eq_skipped_iff hrender,
    fun _ _ hreport hrejected => areErrorsAt_of_process hrender hreport hrejected⟩
  rw [Asking.alone, process_eq_error_iff hrender]
  -- with nothing remembered, the manifest itself is asked
  have hlookup (c : ClassName) : (KindCache.lookup m.kindOf c {}).1 = m.kindOf c := rfl
  simp only [hlookup, m.kindOf_eq_error_iff]
  refine exists_congr fun c => and_congr_right fun _ => ?_
  constructor
  · rintro ⟨fault, ⟨hreflection, hcanonical, rfl⟩, rfl⟩
    exact ⟨hreflection, hcanonical, rfl⟩
  · rintro ⟨hreflection, hcanonical, rfl⟩
    exact ⟨_, ⟨hreflection, hcanonical, rfl⟩, rfl⟩

/-- A property of a companion that nobody lists. -/
def strayProperty : PropertyDeclaration where
  container := ⟨"app", "Hosts", ["Companion"]⟩
  property := "host"
  returnType := .primitive .int

/-- A class for use inside its own part of the program. -/
def hiddenClass : ClassDeclaration where
  name := ⟨"app", "Hidden", []⟩
  visibility := .internalUse
  constructors := [⟨.publicUse, true, []⟩]

/-- With an empty manifest `strayProperty` fails, and `hiddenClass` is rejected with errors. -/
theorem fails_only_for_unknown_containers_hosts :
    Asking.alone ((ofProperty strayProperty).process (Java.renderModule {}) {}
      (Manifest.kindOf {})) = .error (.host (.missingMetadata "app.Hosts$Companion")) ∧
    ∃ report diagnostics,
      Asking.alone ((ofClass hiddenClass).process (Java.renderModule {}) {}
        (Manifest.kindOf {})) = .ok report ∧
      report.outcome = .rejected diagnostics ∧ diagnostics ≠ [] ∧
      ∀ x ∈ diagnostics, x.severity = .error ∧ x.location = "app.Hidden" := by
  obtain ⟨hfails, -, -⟩ := fails_only_for_unknown_containers {} {} {} (.ofProperty strayProperty)
  obtain ⟨-, -, hrejects⟩ := fails_only_for_unknown_containers {} {} {} (.ofClass hiddenClass)
  have hreport : Asking.alone ((ofClass hiddenClass).process (Java.renderModule {}) {}
      (Manifest.kindOf {})) = .ok ⟨"app.Hidden", .rejected
        [.error "app.Hidden" "Types marked with @SoloModule must be public"]⟩ := by
    decide
  refine ⟨(hfails _).mpr ⟨_, rfl, ?_, ?_, ?_⟩, _, _, hreport, rfl,
    hrejects _ _ hreport rfl⟩
  all_goals decide

end Declaration

end Bindery
