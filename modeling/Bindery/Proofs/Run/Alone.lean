import Bindery.Proofs.Declaration.Proper
import Bindery.Run

/-!
# Declarations processed alone

The report on a declaration depends on the cache only through the kind of its container.  Once that
kind is known, the report is a function of the declaration (`Declaration.conclude`).  A cache that
holds nothing but answers of the source changes no report, because no two proper containers share a
reflection name.  So a run gives each declaration the report that it gets alone (`Run.summary_eq`).
-/

namespace Bindery

/-! ### One declaration -/

/-- The source whose only answer is a given kind. -/
def answering (kind? : Option ContainerKind) : KindSource := fun container =>
  match kind? with
  | some kind => .ok kind
  | none => .error (.missingMetadata container.reflectionName)

namespace Declaration

/-- The container whose kind the review of a declaration looks up. -/
def container? : Declaration → Option ClassName
  | .ofClass _ => none
  | .ofFunction d => some d.container
  | .ofProperty d => some d.container

theorem IsProper.container? {d : Declaration} (h : d.IsProper) :
    ∀ c ∈ d.container?, c.IsProper := by
  cases d with
  | ofClass d => simp [Declaration.container?]
  | ofFunction d => simpa [Declaration.container?] using FunctionDeclaration.IsProper.container h
  | ofProperty d => simpa [Declaration.container?] using PropertyDeclaration.IsProper.container h

variable (render : Renderer) (components : Components) (source : KindSource)

/-- The report on a declaration once the kind of its container is known, if it has a container. -/
def conclude (d : Declaration) (kind? : Option ContainerKind) : Except Failure Report :=
  Asking.alone (d.process render components (answering kind?))

/-- The report on a declaration, given the answer to its look-up. -/
def settle (d : Declaration) (answer : ClassName → Except HostFault ContainerKind) :
    Except Failure Report :=
  match d.container? with
  | none => d.conclude render components none
  | some c =>
    match answer c with
    | .ok kind => d.conclude render components (some kind)
    | .error fault => .error (.host fault)

/-- **A declaration is processed by one look-up**: the report is concluded from the answer, and
the cache is as the look-up leaves it. -/
theorem process_eq (d : Declaration) (cache : KindCache) :
    d.process render components source cache =
      (d.settle render components fun c => (cache.lookup source c).1,
        match d.container? with
        | none => cache
        | some c => (cache.lookup source c).2) := by
  cases d with
  | ofClass d =>
      -- a class is reviewed without a look-up
      simp only [settle, conclude, container?, Asking.alone, process]
      split <;> rfl
  | ofFunction d =>
      simp only [process, isSkipped, review, Asking.withKind, settle, container?,
        Bool.false_eq_true, if_false]
      rcases cache.lookup source d.container with ⟨answer, after⟩
      cases answer <;> rfl
  | ofProperty d =>
      simp only [process, isSkipped, review, Asking.withKind, settle, container?,
        Bool.false_eq_true, if_false]
      rcases cache.lookup source d.container with ⟨answer, after⟩
      cases answer <;> rfl

/-- Alone, a declaration is concluded from the answer of the source. -/
theorem alone_process (d : Declaration) :
    Asking.alone (d.process render components source) = d.settle render components source := by
  rw [Asking.alone, process_eq]
  rfl

end Declaration

/-! ### Caches of answers -/

/-- Remembered kinds are answers of the source for proper containers. -/
def Answers (source : KindSource) (known : List (String × ContainerKind)) : Prop :=
  ∀ entry ∈ known, ∃ c : ClassName, c.IsProper ∧ c.reflectionName = entry.1 ∧ source c = .ok entry.2

namespace Answers

variable {source : KindSource} {known : List (String × ContainerKind)} {c : ClassName}
    {kind : ContainerKind}

theorem nil : Answers source [] := by simp [Answers]

theorem cons (h : Answers source known) (hc : c.IsProper) (hkind : source c = .ok kind) :
    Answers source ((c.reflectionName, kind) :: known) :=
  List.forall_mem_cons.mpr ⟨⟨c, hc, rfl, hkind⟩, h⟩

/-- **What is remembered under the name of a container is the answer for that container**: no
other proper container has the name. -/
theorem eq_of_lookup (h : Answers source known) (hc : c.IsProper)
    (hlookup : known.lookup c.reflectionName = some kind) : source c = .ok kind := by
  obtain ⟨before, after, rfl, -⟩ := List.lookup_eq_some_iff.mp hlookup
  obtain ⟨d, hd, hname, hkind⟩ := h (c.reflectionName, kind) (by simp)
  rwa [← ClassName.reflectionName_inj hd hc hname]

/-- A look-up gives the answer of the source. -/
theorem fst_lookup {cache : KindCache} (h : Answers source cache.known) (hc : c.IsProper) :
    (cache.lookup source c).1 = source c := by
  rw [KindCache.lookup]
  split
  · next hlookup => exact (h.eq_of_lookup hc hlookup).symm
  · rfl

/-- After a look-up still only answers are remembered. -/
theorem snd_lookup {cache : KindCache} (h : Answers source cache.known) (hc : c.IsProper) :
    Answers source (cache.lookup source c).2.known := by
  rw [KindCache.lookup]
  split
  · exact h
  · show Answers source ((cache.ask source c).2.remember c (source c)).known
    cases hkind : source c with
    | ok kind => exact h.cons hc hkind
    | error fault => exact h

end Answers

namespace Declaration

variable {render : Renderer} {components : Components} {source : KindSource} {d : Declaration}

/-- **Answers in the cache change no report.** -/
theorem fst_process_of_answers (h : d.IsProper) {cache : KindCache}
    (hcache : Answers source cache.known) :
    (d.process render components source cache).1 =
      Asking.alone (d.process render components source) := by
  rw [alone_process, process_eq, settle, settle]
  cases hcontainer : d.container? with
  | none => rfl
  | some c =>
      dsimp only
      rw [hcache.fst_lookup (h.container? c hcontainer)]

theorem answers_process (render : Renderer) (components : Components) (h : d.IsProper)
    {cache : KindCache} (hcache : Answers source cache.known) :
    Answers source (d.process render components source cache).2.known := by
  rw [process_eq]
  cases hcontainer : d.container? with
  | none => exact hcache
  | some c => exact hcache.snd_lookup (h.container? c hcontainer)

end Declaration

/-! ### All declarations -/

namespace Run

variable {render : Renderer} {components : Components} {source : KindSource}

/-- The reports with one cache are those of the declarations alone, up to the first failure. -/
theorem fst_reports {declarations : List Declaration} (h : ∀ d ∈ declarations, d.IsProper)
    {cache : KindCache} (hcache : Answers source cache.known) :
    (reports render components source declarations cache).1 =
      declarations.mapM fun d => Asking.alone (d.process render components source) := by
  -- the cache grows from one declaration to the next, but holds nothing but answers
  induction declarations generalizing cache with
  | nil => rfl
  | cons d rest ih =>
      rw [List.forall_mem_cons] at h
      rw [reports, List.mapM_cons, ← Declaration.fst_process_of_answers h.1 hcache]
      have hafter := Declaration.answers_process render components h.1 hcache
      rcases hprocess : d.process render components source cache with ⟨result, after⟩
      rw [hprocess] at hafter
      cases result with
      | error failure => rfl
      | ok report =>
          dsimp only
          rw [ih h.2 hafter]
          rfl

/-- **A run one after the other gives each declaration the report that it gets alone**, or the
first failure among these. -/
theorem summary_eq {declarations : List Declaration} (h : ∀ d ∈ declarations, d.IsProper) :
    summary render components source declarations =
      (declarations.mapM fun d => Asking.alone (d.process render components source)).map (⟨·⟩) := by
  rw [summary, Asking.alone, fst_reports h Answers.nil]

end Run

end Bindery
