import Bindery.Proofs.Run.Alone
import Mathlib.Algebra.Order.BigOperators.Group.Finset
import Mathlib.Data.Fintype.Basic
import Mathlib.Data.List.OfFn
import Mathlib.Logic.Relation

/-!
# Runs by several workers

Workers take declarations in any order and share one cache of container kinds.  Between the look
into the cache, the question to the source, the storing of the answer and the rendering, every other
worker may act; so several workers may ask about one container, and each of them stores its answer.

A `Pool` is the shared cache with a `Stage` for every declaration, and a `Step` is what one worker
can do.  Where some results are failures, the pool gives back one of them; declarations that were
not taken by then are abandoned.  Otherwise it gives back all reports in the order of the
declarations (`Collects`).

## Why the schedule does not matter

The cache holds answers of the source only, and every result is the one that its declaration gets
alone: this is kept by every step (`Invariant.step`).  A step brings some declaration a stage
further, so no run goes on forever, and as long as something is left to do there is a step
(`wellFounded_step`, `exists_collects`).  Hence every run ends, and it ends as if each declaration
were processed alone (`ends_as_alone`).
-/

namespace Bindery.Schedule

/-! ### Workers -/

/-- Where the work on one declaration stands. -/
inductive Stage where
  /-- No worker has taken the declaration. -/
  | waiting
  /-- The cache is to be looked into. -/
  | reading (container : ClassName)
  /-- Nothing was remembered, so the source is to be asked. -/
  | asking (container : ClassName)
  /-- The source gave an answer, which is to be remembered. -/
  | storing (container : ClassName) (kind : ContainerKind)
  /-- The declaration is to be reviewed and rendered. -/
  | rendering (kind? : Option ContainerKind)
  | done (result : Except Failure Report)

namespace Stage

/-- A worker is busy with a declaration that is taken and not done. -/
def isBusy : Stage → Bool
  | .waiting | .done _ => false
  | _ => true

/-- How many stages are left at most. -/
def rank : Stage → Nat
  | .waiting => 5
  | .reading _ => 4
  | .asking _ => 3
  | .storing _ _ => 2
  | .rendering _ => 1
  | .done _ => 0

/-- What is added to the cache at the end of a stage. -/
def stored : Stage → List (String × ContainerKind)
  | .storing container kind => [(container.reflectionName, kind)]
  | _ => []

variable (render : Renderer) (components : Components) (source : KindSource)

/-- The next stage of a declaration, with what is remembered at the moment. -/
def next (d : Declaration) (known : List (String × ContainerKind)) : Stage → Stage
  | .waiting =>
    match d.container? with
    | some container => .reading container
    | none => .rendering none
  | .reading container =>
    match known.lookup container.reflectionName with
    | some kind => .rendering (some kind)
    | none => .asking container
  | .asking container =>
    match source container with
    | .ok kind => .storing container kind
    | .error fault => .done (.error (.host fault))
  | .storing _ kind => .rendering (some kind)
  | .rendering kind? => .done (d.conclude render components kind?)
  | .done result => .done result

end Stage

/-- The cache that the workers share, and the stage of every declaration. -/
structure Pool (n : Nat) where
  known : List (String × ContainerKind) := []
  stage : Fin n → Stage := fun _ => .waiting

/-- How many workers are busy. -/
def Pool.busy {n : Nat} (p : Pool n) : Nat :=
  (Finset.univ.filter fun i => (p.stage i).isBusy).card

section Steps

variable (render : Renderer) (components : Components) (source : KindSource)
variable (declarations : List Declaration)

/-- The pool after one stage of work on a declaration. -/
def Pool.work (p : Pool declarations.length) (i : Fin declarations.length) :
    Pool declarations.length where
  known := (p.stage i).stored ++ p.known
  stage := Function.update p.stage i
    ((p.stage i).next render components source declarations[i] p.known)

/-- One step of one worker: it takes a declaration, or goes on with the one that it has taken. -/
inductive Step (workers : Nat) : Pool declarations.length → Pool declarations.length → Prop where
  | take {p : Pool declarations.length} (i : Fin declarations.length)
      (waiting : p.stage i = .waiting)
      (free : p.busy < workers) : Step workers p (p.work render components source declarations i)
  | proceed {p : Pool declarations.length} (i : Fin declarations.length)
      (busy : (p.stage i).isBusy) :
      Step workers p (p.work render components source declarations i)

end Steps

/-- What the pool gives back once no worker is busy: all reports in order, or one of the
failures. -/
inductive Collects {n : Nat} (p : Pool n) : Except Failure (List Report) → Prop where
  | reports (reports : List Report) (all : List.ofFn p.stage = reports.map fun r => .done (.ok r)) :
      Collects p (.ok reports)
  | failure {i : Fin n} {failure : Failure} (idle : ∀ j, (p.stage j).isBusy = false)
      (failed : p.stage i = .done (.error failure)) : Collects p (.error failure)

/-! ### Ends of runs -/

/-- What a run gives back, and the diagnostics that were received in the meantime. -/
structure Published where
  result : Except Failure Summary
  received : List Diagnostic

/-- The diagnostics received after one more report: those of a rejected declaration are handed
on. -/
def receive (received : List Diagnostic) (report : Report) : List Diagnostic :=
  match report.outcome with
  | .rejected diagnostics => received ++ diagnostics
  | _ => received

/-- Reports are handed on one after the other, and a failure ends the run before that. -/
def publish : Except Failure (List Report) → Published
  | .ok reports => ⟨.ok ⟨reports⟩, reports.foldl receive []⟩
  | .error failure => ⟨.error failure, []⟩

/-- The ends of the runs of some workers over declarations. -/
def Ends (render : Renderer) (components : Components) (source : KindSource)
    (declarations : List Declaration) (workers : Nat) (published : Published) : Prop :=
  ∃ (p : Pool declarations.length) (result : Except Failure (List Report)),
    Relation.ReflTransGen (Step render components source declarations workers) {} p ∧
      Collects p result ∧ published = publish result

section Runs

variable {render : Renderer} {components : Components} {source : KindSource}

/-! ### What a step preserves -/

/-- What is known at a stage about the declaration: answers are those of the source, and a
result is the one that the declaration gets alone. -/
def Stage.IsSound (render : Renderer) (components : Components) (source : KindSource)
    (d : Declaration) :
    Stage → Prop
  | .waiting => True
  | .reading container | .asking container => d.container? = some container
  | .storing container kind => d.container? = some container ∧ source container = .ok kind
  | .rendering kind? =>
    d.conclude render components kind? = Asking.alone (d.process render components source)
  | .done result => result = Asking.alone (d.process render components source)

/-- The result of a container's declaration, once the source answered. -/
theorem alone_of_container {d : Declaration} {container : ClassName}
    (h : d.container? = some container) :
    Asking.alone (d.process render components source) =
      match source container with
      | .ok kind => d.conclude render components (some kind)
      | .error fault => .error (.host fault) := by
  have halone := Declaration.alone_process render components source d
  rw [Declaration.settle, h] at halone
  exact halone

theorem Stage.IsSound.next {d : Declaration} (hd : d.IsProper)
    {known : List (String × ContainerKind)} (hknown : Answers source known) {stage : Stage}
    (h : stage.IsSound render components source d) :
    (stage.next render components source d known).IsSound render components source d := by
  cases stage with
  | waiting =>
      rw [Stage.next]
      cases hcontainer : d.container? with
      | some container => exact hcontainer
      | none =>
          show d.conclude render components none = _
          rw [Declaration.alone_process, Declaration.settle, hcontainer]
  | reading container =>
      rw [Stage.next]
      cases hlookup : known.lookup container.reflectionName with
      | some kind =>
          -- another worker may have stored it, for this container or one of the same name
          have hkind := hknown.eq_of_lookup (hd.container? container h) hlookup
          show d.conclude render components (some kind) = _
          rw [alone_of_container h, hkind]
      | none => exact h
  | asking container =>
      rw [Stage.next]
      cases hanswer : source container with
      | ok kind => exact ⟨h, hanswer⟩
      | error fault =>
          show Except.error (Failure.host fault) = _
          rw [alone_of_container h, hanswer]
  | storing container kind =>
      show d.conclude render components (some kind) = _
      rw [alone_of_container h.1, h.2]
  | rendering kind? => exact h
  | done result => exact h

/-- **The invariant of the runs.** -/
structure Invariant (render : Renderer) (components : Components) (source : KindSource)
    (declarations : List Declaration) (p : Pool declarations.length) : Prop where
  known : Answers source p.known
  stage : ∀ i, (p.stage i).IsSound render components source declarations[i]

variable {declarations : List Declaration} {p q : Pool declarations.length} {workers : Nat}

theorem Invariant.start : Invariant render components source declarations {} :=
  ⟨Answers.nil, fun _ => trivial⟩

/-- What is stored is an answer of the source. -/
theorem Stage.IsSound.answers {d : Declaration} (hd : d.IsProper) {stage : Stage}
    (h : stage.IsSound render components source d) {known : List (String × ContainerKind)}
    (hknown : Answers source known) : Answers source (stage.stored ++ known) := by
  cases stage with
  | storing container kind => exact hknown.cons (hd.container? container h.1) h.2
  | _ => exact hknown

theorem Invariant.work (hproper : ∀ d ∈ declarations, d.IsProper)
    (h : Invariant render components source declarations p) (i : Fin declarations.length) :
    Invariant render components source declarations
      (p.work render components source declarations i) := by
  have hd : declarations[i].IsProper := hproper _ (List.getElem_mem _)
  refine ⟨(h.stage i).answers hd h.known, fun j => ?_⟩
  show (Function.update p.stage i _ j).IsSound render components source declarations[j]
  by_cases hj : j = i
  · subst hj
    rw [Function.update_self]
    exact (h.stage j).next hd h.known
  · rw [Function.update_of_ne hj]
    exact h.stage j

theorem Invariant.step (hproper : ∀ d ∈ declarations, d.IsProper)
    (h : Invariant render components source declarations p)
    (hstep : Step render components source declarations workers p q) :
    Invariant render components source declarations q := by
  cases hstep with
  | take i => exact h.work hproper i
  | proceed i => exact h.work hproper i

/-- **Every pool that is reached satisfies the invariant.** -/
theorem Invariant.of_reached (hproper : ∀ d ∈ declarations, d.IsProper)
    (h : Relation.ReflTransGen (Step render components source declarations workers) {} p) :
    Invariant render components source declarations p := by
  induction h with
  | refl => exact Invariant.start
  | tail _ hstep ih => exact ih.step hproper hstep

/-! ### Runs come to their ends -/

theorem Stage.rank_next_lt (render : Renderer) (components : Components) (source : KindSource)
    (d : Declaration) (known : List (String × ContainerKind)) {stage : Stage}
    (h : ∀ result, stage ≠ .done result) :
    (stage.next render components source d known).rank < stage.rank := by
  cases stage with
  | done result => exact absurd rfl (h result)
  | waiting =>
      rw [Stage.next]
      split <;> simp [Stage.rank]
  | reading container =>
      rw [Stage.next]
      split <;> simp [Stage.rank]
  | asking container =>
      rw [Stage.next]
      split <;> simp [Stage.rank]
  | storing container kind => exact Nat.one_lt_two
  | rendering kind? => exact Nat.one_pos

/-- How many stages are left at most for all declarations together. -/
def Pool.remaining {n : Nat} (p : Pool n) : Nat := ∑ i, (p.stage i).rank

theorem remaining_work_lt {i : Fin declarations.length} (h : ∀ result, p.stage i ≠ .done result) :
    (p.work render components source declarations i).remaining < p.remaining := by
  have hi := Stage.rank_next_lt render components source declarations[i] p.known h
  -- the other declarations stay where they are
  refine Finset.sum_lt_sum (fun j _ => ?_) ⟨i, Finset.mem_univ i, ?_⟩
  · show (Function.update p.stage i _ j).rank ≤ _
    by_cases hj : j = i
    · subst hj
      rw [Function.update_self]
      exact hi.le
    · rw [Function.update_of_ne hj]
  · show (Function.update p.stage i _ i).rank < _
    rw [Function.update_self]
    exact hi

theorem Step.remaining_lt (h : Step render components source declarations workers p q) :
    q.remaining < p.remaining := by
  cases h with
  | take i hwaiting =>
      refine remaining_work_lt fun result => ?_
      rw [hwaiting]
      exact Stage.noConfusion
  | proceed i hbusy =>
      refine remaining_work_lt fun result hdone => ?_
      rw [hdone] at hbusy
      cases hbusy

/-- **No run goes on forever.** -/
theorem wellFounded_step (render : Renderer) (components : Components) (source : KindSource)
    (declarations : List Declaration) (workers : Nat) :
    WellFounded fun q p => Step render components source declarations workers p q :=
  Subrelation.wf Step.remaining_lt (InvImage.wf Pool.remaining wellFounded_lt)

/-- Where no step is left, no worker is busy. -/
theorem isBusy_eq_false (h : ∀ q, ¬ Step render components source declarations workers p q)
    (i : Fin declarations.length) : (p.stage i).isBusy = false :=
  Bool.eq_false_iff.mpr fun hbusy => h _ (.proceed i hbusy)

/-- Where no step is left, every declaration is done: a worker would be free to take it. -/
theorem exists_eq_done (hworkers : 0 < workers)
    (h : ∀ q, ¬ Step render components source declarations workers p q)
    (i : Fin declarations.length) : ∃ result, p.stage i = .done result := by
  have hfree : p.busy < workers := by
    rw [Pool.busy, Finset.filter_eq_empty_iff.mpr fun i _ => by simp [isBusy_eq_false h i]]
    exact hworkers
  have hidle := isBusy_eq_false h i
  cases hstage : p.stage i with
  | waiting => exact absurd (.take i hstage hfree) (h _)
  | done result => exact ⟨result, rfl⟩
  | _ =>
      rw [hstage] at hidle
      cases hidle

/-- **No run gets stuck**: where no step is left, the pool gives something back. -/
theorem exists_collects (hworkers : 0 < workers)
    (h : ∀ q, ¬ Step render components source declarations workers p q) :
    ∃ result, Collects p result := by
  have hdone := exists_eq_done hworkers h
  by_cases hfailure : ∃ i failure, p.stage i = .done (.error failure)
  · obtain ⟨i, failure, hi⟩ := hfailure
    exact ⟨_, .failure (isBusy_eq_false h) hi⟩
  · have hok : ∀ i, ∃ report, p.stage i = .done (.ok report) := by
      intro i
      obtain ⟨result, hresult⟩ := hdone i
      cases result with
      | ok report => exact ⟨report, hresult⟩
      | error failure => exact absurd ⟨i, failure, hresult⟩ hfailure
    choose report hreport using hok
    refine ⟨_, .reports (List.ofFn report) ?_⟩
    rw [List.map_ofFn]
    exact congrArg List.ofFn (funext hreport)

/-- Every pool can be carried on until it gives something back. -/
theorem exists_reaches_collects (hworkers : 0 < workers) (p : Pool declarations.length) :
    ∃ q result, Relation.ReflTransGen (Step render components source declarations workers) p q ∧
      Collects q result := by
  -- any step will do, as each leaves fewer stages
  induction p using (wellFounded_step render components source declarations workers).induction with
  | _ p ih =>
      by_cases hstep : ∃ q, Step render components source declarations workers p q
      · obtain ⟨q, hstep⟩ := hstep
        obtain ⟨last, result, hreach, hcollects⟩ := ih q hstep
        exact ⟨last, result, .head hstep hreach, hcollects⟩
      · obtain ⟨result, hcollects⟩ := exists_collects hworkers fun q hq => hstep ⟨q, hq⟩
        exact ⟨p, result, .refl, hcollects⟩

/-! ### What is collected -/

theorem Invariant.eq_alone (h : Invariant render components source declarations p)
    {i : Fin declarations.length} {result : Except Failure Report}
    (hdone : p.stage i = .done result) :
    result = Asking.alone (declarations[i].process render components source) := by
  have hsound := h.stage i
  rwa [hdone] at hsound

/-- Collected reports are those that the declarations get alone, in their order. -/
theorem Invariant.map_ok_of_collects (h : Invariant render components source declarations p)
    {reports : List Report} (hcollects : Collects p (.ok reports)) :
    reports.map .ok =
      declarations.map fun d => Asking.alone (d.process render components source) := by
  cases hcollects with
  | reports _ hall =>
      have hlength : declarations.length = reports.length := by
        simpa using congrArg List.length hall
      refine List.ext_getElem (by simp [hlength]) fun i hi hi' => ?_
      have hdone := List.getElem_of_eq hall (by simpa using hi' : i < _)
      rw [List.getElem_ofFn, List.getElem_map] at hdone
      rw [List.getElem_map, List.getElem_map]
      exact h.eq_alone hdone

/-- A collected failure is what some declaration gives alone. -/
theorem Invariant.exists_of_collects (h : Invariant render components source declarations p)
    {failure : Failure} (hcollects : Collects p (.error failure)) :
    ∃ d ∈ declarations, Asking.alone (d.process render components source) = .error failure := by
  cases hcollects with
  | failure hidle hfailed =>
      rename_i i
      exact ⟨declarations[i], List.getElem_mem _, (h.eq_alone hfailed).symm⟩

end Runs

/-! ### What is published -/

/-- What is received are the diagnostics of the rejected declarations, in order. -/
theorem foldl_receive (received : List Diagnostic) (reports : List Report) :
    reports.foldl receive received = received ++ (Summary.mk reports).diagnostics := by
  induction reports generalizing received with
  | nil => simp [Summary.diagnostics]
  | cons report reports ih =>
      rw [List.foldl_cons, ih, receive]
      rcases report with ⟨name, outcome⟩
      cases outcome <;> simp [Summary.diagnostics]

/-- Every declaration is generated, rejected or skipped. -/
theorem generated_add_rejected_add_skipped (s : Summary) :
    s.generated + s.rejected + s.skipped = s.reports.length := by
  obtain ⟨reports⟩ := s
  simp only [Summary.generated, Summary.artifacts, Summary.rejected, Summary.skipped]
  induction reports with
  | nil => rfl
  | cons report reports ih =>
      rcases report with ⟨name, outcome⟩
      cases outcome <;> simp [← ih] <;> omega

/-- A run ended as if each declaration had been processed alone. -/
structure AsAlone (alone : Declaration → Except Failure Report) (declarations : List Declaration)
    (published : Published) : Prop where
  isOk_iff : (∃ summary, published.result = .ok summary) ↔
    ∀ d ∈ declarations, ∃ report, alone d = .ok report
  reports : ∀ summary, published.result = .ok summary →
    summary.reports.map .ok = declarations.map alone
  counts : ∀ summary, published.result = .ok summary →
    summary.generated + summary.rejected + summary.skipped = declarations.length
  received : ∀ summary, published.result = .ok summary → published.received = summary.diagnostics
  failure : ∀ failure, published.result = .error failure →
    (∃ d ∈ declarations, alone d = .error failure) ∧ published.received = []

section Published

variable {render : Renderer} {components : Components} {source : KindSource}
variable {declarations : List Declaration} {workers : Nat} {published : Published}

theorem AsAlone.of_reports {alone : Declaration → Except Failure Report} {reports : List Report}
    (h : reports.map .ok = declarations.map alone) :
    AsAlone alone declarations (publish (.ok reports)) where
  isOk_iff := by
    refine ⟨fun _ d hd => ?_, fun _ => ⟨⟨reports⟩, rfl⟩⟩
    have hmem : alone d ∈ reports.map .ok := by
      rw [h]
      exact List.mem_map_of_mem hd
    obtain ⟨report, -, hreport⟩ := List.mem_map.mp hmem
    exact ⟨report, hreport.symm⟩
  reports := by
    rintro _ ⟨⟩
    exact h
  counts := by
    rintro _ ⟨⟩
    rw [generated_add_rejected_add_skipped]
    simpa using congrArg List.length h
  received := by
    rintro _ ⟨⟩
    show reports.foldl receive [] = _
    rw [foldl_receive, List.nil_append]
  failure := by
    rintro _ ⟨⟩

theorem AsAlone.of_failure {alone : Declaration → Except Failure Report} {failure : Failure}
    (h : ∃ d ∈ declarations, alone d = .error failure) :
    AsAlone alone declarations (publish (.error failure)) where
  isOk_iff := by
    refine ⟨?_, fun hall => ?_⟩
    · rintro ⟨_, ⟨⟩⟩
    · obtain ⟨d, hd, hfailed⟩ := h
      obtain ⟨report, hreport⟩ := hall d hd
      rw [hfailed] at hreport
      cases hreport
  reports := by
    rintro _ ⟨⟩
  counts := by
    rintro _ ⟨⟩
  received := by
    rintro _ ⟨⟩
  failure := by
    rintro _ ⟨⟩
    exact ⟨h, rfl⟩

/-- Proper declarations end as if each had been processed alone. -/
theorem Ends.asAlone (hproper : ∀ d ∈ declarations, d.IsProper)
    (h : Ends render components source declarations workers published) :
    AsAlone (fun d => Asking.alone (d.process render components source)) declarations
      published := by
  obtain ⟨p, result, hreached, hcollects, rfl⟩ := h
  have hinvariant := Invariant.of_reached hproper hreached
  cases result with
  | ok reports => exact .of_reports (hinvariant.map_ok_of_collects hcollects)
  | error failure => exact .of_failure (hinvariant.exists_of_collects hcollects)

/-- What ends as if each declaration had been processed alone succeeds exactly as the run of one
worker that takes the declarations in order. -/
theorem AsAlone.result_eq_ok_iff (hproper : ∀ d ∈ declarations, d.IsProper)
    (h : AsAlone (fun d => Asking.alone (d.process render components source)) declarations
      published)
    (summary : Summary) :
    published.result = .ok summary ↔
      Run.summary render components source declarations = .ok summary := by
  rw [Run.summary_eq hproper]
  constructor
  · intro hresult
    rw [mapM_eq_ok_iff.mpr (h.reports summary hresult)]
    rfl
  · intro hsummary
    obtain ⟨reports, hreports, rfl⟩ := map_eq_ok hsummary
    have hreports := mapM_eq_ok_iff.mp hreports
    obtain ⟨⟨others⟩, hothers⟩ :=
      h.isOk_iff.mpr ((AsAlone.of_reports hreports).isOk_iff.mp ⟨⟨reports⟩, rfl⟩)
    have hmap := mapM_eq_ok_iff.mpr (h.reports _ hothers)
    rw [mapM_eq_ok_iff.mpr hreports] at hmap
    cases hmap
    exact hothers

/-- The report on a declaration is the one that it gets alone. -/
theorem AsAlone.eq_ok_of_mem_zip {alone : Declaration → Except Failure Report}
    (h : AsAlone alone declarations published) {summary : Summary}
    (hok : published.result = .ok summary) {d : Declaration} {report : Report}
    (hmem : (d, report) ∈ declarations.zip summary.reports) : alone d = .ok report := by
  obtain ⟨i, hi, hpair⟩ := List.mem_iff_getElem.mp hmem
  rw [List.getElem_zip, Prod.mk.injEq] at hpair
  obtain ⟨rfl, rfl⟩ := hpair
  rw [List.length_zip, lt_min_iff] at hi
  have hreports := List.getElem_of_eq (h.reports summary hok) (by simpa using hi.2 : i < _)
  simpa using hreports.symm

/-- Every report is the report on a declaration. -/
theorem AsAlone.exists_mem_zip {alone : Declaration → Except Failure Report}
    (h : AsAlone alone declarations published) {summary : Summary}
    (hok : published.result = .ok summary) {report : Report} (hmem : report ∈ summary.reports) :
    ∃ d, (d, report) ∈ declarations.zip summary.reports := by
  have hlength : summary.reports.length = declarations.length := by
    simpa using congrArg List.length (h.reports summary hok)
  obtain ⟨i, hi, rfl⟩ := List.mem_iff_getElem.mp hmem
  refine ⟨declarations[i], List.mem_iff_getElem.mpr ⟨i, ?_, List.getElem_zip⟩⟩
  rw [List.length_zip, lt_min_iff]
  exact ⟨hlength ▸ hi, hi⟩

/-- What the run of one worker gives is the end of runs of any number of workers. -/
theorem exists_ends_of_summary (hproper : ∀ d ∈ declarations, d.IsProper) (hworkers : 0 < workers)
    {summary : Summary}
    (h : Run.summary render components source declarations = .ok summary) :
    ∃ published, Ends render components source declarations workers published ∧
      published.result = .ok summary := by
  have hreaches := @exists_reaches_collects render components source declarations workers
  obtain ⟨p, result, hreached, hcollects⟩ := hreaches hworkers {}
  have hends : Ends render components source declarations workers (publish result) :=
    ⟨p, result, hreached, hcollects, rfl⟩
  exact ⟨_, hends, ((hends.asAlone hproper).result_eq_ok_iff hproper summary).mpr h⟩

/-- **However the workers are scheduled, a run ends as if each declaration were processed
alone.**  Take any declarations of a manifest that was read, with the manifest as the source,
any renderer and any number of workers.

* It succeeds exactly when every declaration succeeds with an empty cache of its own, and then
  the reports are those, in order, every one of them counts as generated, rejected or skipped,
  and exactly the diagnostics of the rejected ones were received, in order.  Otherwise the
  failure is that of one of the declarations and nothing was received.
* It succeeds exactly when the run of one worker that takes the declarations in order does, with
  the same summary.
* No run goes on forever, and with any workers at all every run that was begun can be brought to
  an end. -/
theorem ends_as_alone {text : String} {m : Manifest} (hm : Manifest.ofText text = .ok m)
    {declarations : List Declaration} (hmem : ∀ d ∈ declarations, d ∈ m.declarations)
    (render : Renderer) (components : Components) (workers : Nat) :
    (∀ published, Ends render components m.kindOf declarations workers published →
      AsAlone (fun d => Asking.alone (d.process render components m.kindOf)) declarations
        published ∧
      ∀ summary, published.result = .ok summary ↔
        Run.summary render components m.kindOf declarations = .ok summary) ∧
    (WellFounded fun q p => Step render components m.kindOf declarations workers p q) ∧
    (0 < workers → ∀ p,
      Relation.ReflTransGen (Step render components m.kindOf declarations workers) {} p →
      ∃ q result, Relation.ReflTransGen (Step render components m.kindOf declarations workers) p q ∧
        Collects q result) := by
  have hproper : ∀ d ∈ declarations, d.IsProper := fun d hd =>
    Manifest.isProper_of_ofText hm d (hmem d hd)
  refine ⟨fun published hends => ?_, wellFounded_step .., fun hworkers p _ => ?_⟩
  · have hasAlone := hends.asAlone hproper
    exact ⟨hasAlone, hasAlone.result_eq_ok_iff hproper⟩
  · exact exists_reaches_collects hworkers p

end Published

/-- Two functions of one object, so that two workers may ask about one container at once. -/
def hosts : Manifest where
  containers := Containers.empty.insert "a.Hosts" .object
  declarations :=
    [.ofFunction
      { container := ⟨"a", "Hosts", []⟩, name := "host", returnType := .plain ⟨"a", "Host", []⟩ },
    .ofFunction
      { container := ⟨"a", "Hosts", []⟩, name := "port", returnType := .primitive .int }]

/-- The text of these functions, which gives the fields of records by their places. -/
def hostsText : String :=
  "[\x7b\"a.Hosts\":\"object\"\x7d,[[\"function\",\"a.Hosts\",\"host\",\"public\",false,[],\"a.Host\"]," ++
    "[\"function\",\"a.Hosts\",\"port\",\"public\",false,[],\"int\"]]]"

/-- Two workers bring the run over these functions to an end, and it is the end that each of
them has alone. -/
theorem ends_as_alone_hosts :
    Manifest.ofText hostsText = .ok hosts ∧ 0 < 2 ∧
    ∃ published,
      Ends (fun binding => .ok ⟨binding.source.package, "Module", "Module.java", ""⟩) {}
        hosts.kindOf hosts.declarations 2 published ∧
      AsAlone (fun d => Asking.alone
          (d.process (fun binding => .ok ⟨binding.source.package, "Module", "Module.java", ""⟩) {}
            hosts.kindOf))
        hosts.declarations published := by
  have hread : Manifest.ofText hostsText = .ok hosts := by decide +kernel
  obtain ⟨hends, -, hreaches⟩ := ends_as_alone hread (fun _ hd => hd)
    (fun binding => .ok ⟨binding.source.package, "Module", "Module.java", ""⟩) {} 2
  obtain ⟨p, result, hreached, hcollects⟩ := hreaches (by decide) {} .refl
  exact ⟨hread, by decide, publish result, ⟨p, result, hreached, hcollects, rfl⟩,
    (hends _ ⟨p, result, hreached, hcollects, rfl⟩).1⟩

end Bindery.Schedule
