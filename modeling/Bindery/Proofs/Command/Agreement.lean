import Bindery.Command.Basic
import Bindery.Files.Tree
import Bindery.Proofs.Manifest.RoundTrip
import Bindery.Proofs.Run.Outcomes
import Bindery.Proofs.Run.Schedule

/-!
# What the commands agree on

Generating and checking begin alike: a manifest is loaded, and its declarations are processed
(`run_summarize`).  How this ends depends on what becomes of each declaration by itself, so the
manifest alone settles which modules there are and whether the command can be done.  Checking says
so and touches nothing.  Generating also touches nothing where there is no manifest or the run is
ended by a failure; otherwise it writes the modules, in the order of the declarations, and nothing
else.

What becomes of the declarations is said in `Manifest.Aborts`, `Manifest.Rejects` and
`Manifest.modules`, none of which mentions a run, a cache or an order.  `generate_and_check_agree`
describes both commands in these terms alone.

The file system is any one that can be read without being changed.  Writing may fail in it, and in
whatever state it is left then.
-/

namespace Bindery

/-! ### What a manifest asks for -/

namespace Manifest

variable {settings : Settings} {m : Manifest}

/-- What becomes of a declaration of the manifest by itself. -/
def report (settings : Settings) (m : Manifest) (d : Declaration) : Except Failure Report :=
  Asking.alone (d.process (Java.renderModule settings.generator) settings.generator.components
    m.kindOf)

/-- A manifest aborts its run if a declaration fails. -/
def Aborts (settings : Settings) (m : Manifest) : Prop :=
  ∃ d ∈ m.declarations, ∃ failure, m.report settings d = .error failure

/-- A manifest is rejected if one of its declarations is. -/
def Rejects (settings : Settings) (m : Manifest) : Prop :=
  ∃ d ∈ m.declarations, ∃ name diagnostics,
    m.report settings d = .ok ⟨name, .rejected diagnostics⟩

/-- The modules for the declarations that are in order, in their order. -/
def modules (settings : Settings) (m : Manifest) : List Artifact :=
  m.declarations.filterMap fun d =>
    match m.report settings d with
    | .ok ⟨_, .generated artifact⟩ => some artifact
    | _ => none

/-- A run that was carried through gives the reports on the declarations. -/
theorem reports_of_run (hproper : m.IsProper) {summary : Summary}
    (h : m.run settings = .ok summary) :
    summary.reports.map .ok = m.declarations.map (m.report settings) := by
  rw [run, Run.summary_eq hproper] at h
  obtain ⟨reports, hreports, rfl⟩ := map_eq_ok h
  exact mapM_eq_ok_iff.mp hreports

/-- **A run is carried through** exactly where the manifest does not abort it. -/
theorem exists_run_eq_ok_iff (hproper : m.IsProper) :
    (∃ summary, m.run settings = .ok summary) ↔ ¬ m.Aborts settings := by
  have hrun : m.run settings = (m.declarations.mapM (m.report settings)).map (⟨·⟩) :=
    Run.summary_eq hproper
  have hmapped : (∃ summary, m.run settings = .ok summary) ↔
      ∃ reports, m.declarations.mapM (m.report settings) = .ok reports := by
    rw [hrun]
    constructor
    · rintro ⟨summary, hsummary⟩
      obtain ⟨reports, hreports, -⟩ := map_eq_ok hsummary
      exact ⟨reports, hreports⟩
    · rintro ⟨reports, hreports⟩
      exact ⟨⟨reports⟩, by rw [hreports]; rfl⟩
  rw [hmapped, exists_mapM_eq_ok_iff, Aborts]
  push Not
  refine forall₂_congr fun d _ => ?_
  cases m.report settings d <;> simp

/-- The files of a run are the modules that the manifest asks for. -/
theorem artifacts_of_run (hproper : m.IsProper) {summary : Summary}
    (h : m.run settings = .ok summary) : summary.artifacts = m.modules settings := by
  have hmodules : m.modules settings =
      (m.declarations.map (m.report settings)).filterMap fun result =>
        match result with
        | .ok ⟨_, .generated artifact⟩ => some artifact
        | _ => none := by
    rw [List.filterMap_map]
    rfl
  rw [hmodules, ← reports_of_run hproper h, List.filterMap_map, Summary.artifacts]
  refine List.filterMap_congr fun report _ => ?_
  obtain ⟨name, outcome⟩ := report
  cases outcome <;> rfl

/-- A run has errors exactly where the manifest is rejected. -/
theorem hasErrors_of_run (hproper : m.IsProper) {summary : Summary}
    (h : m.run settings = .ok summary) : summary.hasErrors = true ↔ m.Rejects settings := by
  have hreports := reports_of_run hproper h
  have hmem (name : String) (outcome : Outcome) :
      ⟨name, outcome⟩ ∈ summary.reports ↔
        ∃ d ∈ m.declarations, m.report settings d = .ok ⟨name, outcome⟩ := by
    rw [← List.mem_map, ← hreports, List.mem_map]
    simp
  rw [Summary.hasErrors, decide_eq_true_iff, Summary.rejected, gt_iff_lt, List.countP_pos_iff]
  constructor
  · rintro ⟨⟨name, outcome⟩, hreport, hrejected⟩
    cases outcome with
    | rejected diagnostics =>
        obtain ⟨d, hd, hreport⟩ := (hmem name _).mp hreport
        exact ⟨d, hd, name, diagnostics, hreport⟩
    | generated artifact => cases hrejected
    | skipped reason => cases hrejected
  · rintro ⟨d, hd, name, diagnostics, hreport⟩
    exact ⟨⟨name, .rejected diagnostics⟩, (hmem name _).mpr ⟨d, hd, hreport⟩, rfl⟩

/-- **Any number of workers come to what the manifest asks for**, however their steps are
interleaved. -/
theorem of_ends (hproper : m.IsProper) {workers : Nat} {published : Schedule.Published}
    (h : Schedule.Ends (Java.renderModule settings.generator) settings.generator.components
      m.kindOf m.declarations workers published) :
    ((∃ failure, published.result = .error failure) ↔ m.Aborts settings) ∧
      ∀ summary, published.result = .ok summary →
        summary.artifacts = m.modules settings ∧
          (summary.hasErrors = true ↔ m.Rejects settings) := by
  have hok (summary : Summary) :
      published.result = .ok summary ↔ m.run settings = .ok summary :=
    (h.asAlone hproper).result_eq_ok_iff hproper summary
  constructor
  · rw [← not_iff_not, ← exists_run_eq_ok_iff hproper, ← exists_congr hok]
    cases published.result <;> simp
  · intro summary hsummary
    have hrun := (hok summary).mp hsummary
    exact ⟨artifacts_of_run hproper hrun, hasErrors_of_run hproper hrun⟩

end Manifest

/-! ### What the commands do -/

section Commands

variable {σ : Type} [FileSystem (StateM σ)] {s : σ} {settings : Settings} {path root : Path}
    {m : Manifest}

/-- In a state of the file system a file holds a manifest. -/
def HoldsManifest (s : σ) (path : Path) (m : Manifest) : Prop :=
  ∃ text, ((FileSystem.readText path : StateM σ _).run s).1 = .ok text ∧
    Manifest.ofText text = .ok m

/-- A file system can be read without being changed. -/
def IsReadUnchanged (σ : Type) [FileSystem (StateM σ)] : Prop :=
  ∀ (path : Path) (s : σ), ((FileSystem.readText path : StateM σ _).run s).2 = s

/-- A file holds one manifest at most. -/
theorem HoldsManifest.unique {m' : Manifest} (h : HoldsManifest s path m)
    (h' : HoldsManifest s path m') : m = m' := by
  obtain ⟨text, hread, hm⟩ := h
  obtain ⟨text', hread', hm'⟩ := h'
  rw [hread] at hread'
  cases hread'
  rw [hm] at hm'
  cases hm'
  rfl

/-- Manifests in files are proper. -/
theorem HoldsManifest.isProper (h : HoldsManifest s path m) : m.IsProper := by
  obtain ⟨text, -, hm⟩ := h
  exact Manifest.isProper_of_ofText hm

/-- A manifest is loaded exactly where a file holds one, and loading changes nothing. -/
theorem run_loadManifest (hread : IsReadUnchanged σ) (path : Path) (s : σ) :
    (∃ m, HoldsManifest s path m ∧ (loadManifest path : StateM σ _).run s = (.ok m, s)) ∨
      (¬ ∃ m, HoldsManifest s path m) ∧
        ∃ fault, (loadManifest path : StateM σ _).run s = (.error fault, s) := by
  have hsame := hread path s
  simp only [HoldsManifest]
  rw [loadManifest, StateT.run_bind]
  generalize (FileSystem.readText path : StateM σ _).run s = answer at hsame ⊢
  obtain ⟨fault | text, t⟩ := answer
  · obtain rfl : t = s := hsame
    refine .inr ⟨?_, .unread fault, rfl⟩
    rintro ⟨m, text, htext, -⟩
    cases htext
  · obtain rfl : t = s := hsame
    cases hm : Manifest.ofText text with
    | ok m =>
        refine .inl ⟨m, ⟨text, rfl, hm⟩, ?_⟩
        show ((Manifest.ofText text).mapError HostFault.manifest, t) = _
        rw [hm]
        rfl
    | error fault =>
        refine .inr ⟨?_, .manifest fault, ?_⟩
        · rintro ⟨m, text', htext, hm'⟩
          cases htext
          rw [hm] at hm'
          cases hm'
        · show ((Manifest.ofText text).mapError HostFault.manifest, t) = _
          rw [hm]
          rfl

/-- **Both commands begin alike**: they get the summary of a run over the manifest, if there is one
and it does not abort the run, and change nothing. -/
theorem run_summarize (hread : IsReadUnchanged σ) (path : Path) (settings : Settings) (s : σ) :
    (∃ m summary, HoldsManifest s path m ∧ ¬ m.Aborts settings ∧ m.run settings = .ok summary ∧
      (summarize path settings : StateM σ _).run s = (.ok summary, s)) ∨
    (¬ ∃ m, HoldsManifest s path m ∧ ¬ m.Aborts settings) ∧
      ∃ fault, (summarize path settings : StateM σ _).run s = (.error fault, s) := by
  rw [summarize, StateT.run_bind]
  rcases run_loadManifest hread path s with ⟨m, hm, hload⟩ | ⟨hnone, fault, hload⟩
  · rw [hload]
    have hruns : (∃ summary, m.run settings = .ok summary) ↔ ¬ m.Aborts settings :=
      Manifest.exists_run_eq_ok_iff hm.isProper
    cases hrun : m.run settings with
    | ok summary =>
        refine .inl ⟨m, summary, hm, hruns.mp ⟨summary, hrun⟩, hrun, ?_⟩
        show ((m.run settings).mapError CommandFault.aborted, s) = _
        rw [hrun]
        rfl
    | error failure =>
        refine .inr ⟨?_, .aborted failure, ?_⟩
        · rintro ⟨m', hm', hnot⟩
          obtain rfl := hm.unique hm'
          obtain ⟨summary, hsummary⟩ := hruns.mpr hnot
          rw [hrun] at hsummary
          cases hsummary
        · show ((m.run settings).mapError CommandFault.aborted, s) = _
          rw [hrun]
          rfl
  · rw [hload]
    refine .inr ⟨?_, .manifest path fault, rfl⟩
    rintro ⟨m, hm, -⟩
    exact hnone ⟨m, hm⟩

/-- A run is done exactly where it has no errors. -/
theorem exitCode_ending_eq_zero_iff (summary : Summary) :
    summary.ending.exitCode = 0 ↔ summary.hasErrors = false := by
  rw [Summary.ending]
  cases summary.hasErrors <;> simp [Ending.exitCode]

/-- Without a summary nothing is generated. -/
theorem run_generate_of_error {fault : CommandFault}
    (h : (summarize path settings : StateM σ _).run s = (.error fault, s)) :
    (generate path root settings : StateM σ _).run s = (.failed "" fault, s) := by
  rw [generate, StateT.run_bind, h]
  rfl

/-- With a summary its files are written. -/
theorem run_generate_of_ok {summary : Summary}
    (h : (summarize path settings : StateM σ _).run s = (.ok summary, s)) :
    (generate path root settings : StateM σ _).run s =
      match (writeArtifacts root summary.artifacts : StateM σ _).run s with
      | (.error fault, s') => (.failed "" (.unwritten root fault), s')
      | (.ok report, s') => (⟨generatedLine summary root report, summary.ending⟩, s') := by
  rw [generate, StateT.run_bind, h]
  show StateT.run (writeArtifacts root summary.artifacts >>= _) s = _
  rw [StateT.run_bind]
  generalize (writeArtifacts root summary.artifacts : StateM σ _).run s = written
  obtain ⟨fault | report, s'⟩ := written <;> rfl

/-- **Generating is done** if the files could be written and nothing was rejected, and the files are
all that it changes. -/
theorem generate_of_ok {summary : Summary}
    (h : (summarize path settings : StateM σ _).run s = (.ok summary, s)) :
    ((generate path root settings : StateM σ _).run s).2 =
        ((writeArtifacts root summary.artifacts : StateM σ _).run s).2 ∧
      (((generate path root settings : StateM σ _).run s).1.ending.exitCode = 0 ↔
        (∃ report, ((writeArtifacts root summary.artifacts : StateM σ _).run s).1 = .ok report) ∧
          summary.hasErrors = false) := by
  rw [← exitCode_ending_eq_zero_iff, run_generate_of_ok h]
  generalize (writeArtifacts root summary.artifacts : StateM σ _).run s = written
  obtain ⟨fault | report, s'⟩ := written
  · refine ⟨rfl, iff_of_false Nat.one_ne_zero ?_⟩
    rintro ⟨⟨report, hreport⟩, -⟩
    cases hreport
  · exact ⟨rfl, (and_iff_right ⟨report, rfl⟩).symm⟩

/-- Without a summary there is nothing to report. -/
theorem run_check_of_error {fault : CommandFault}
    (h : (summarize path settings : StateM σ _).run s = (.error fault, s)) :
    ∃ output, (check path settings : StateM σ _).run s = (.failed output fault, s) := by
  rw [check, StateT.run_bind, h]
  exact ⟨_, rfl⟩

/-- With a summary its reports are shown. -/
theorem run_check_of_ok {summary : Summary}
    (h : (summarize path settings : StateM σ _).run s = (.ok summary, s)) :
    ∃ output, (check path settings : StateM σ _).run s = (⟨output, summary.ending⟩, s) := by
  rw [check, StateT.run_bind, h]
  show ∃ output, StateT.run (if summary.hasErrors then _ else _) s = _
  split <;> exact ⟨_, rfl⟩

/-- **What the commands agree on.**  Take any file system that can be read without being changed,
any settings and any file.

* Where the file holds no manifest, or one that aborts its run, generating fails and changes
  nothing.
* Otherwise generating leaves the file system as it is after the modules for the declarations that
  are in order were written, in their order, and it is done if the writing succeeds and no
  declaration is rejected.
* Checking changes nothing, and it is done if there is a manifest and the run over it neither is
  aborted nor rejects a declaration.
* Whether a manifest aborts its run, whether it is rejected and which modules there are is what any
  number of workers come to. -/
theorem generate_and_check_agree (hread : IsReadUnchanged σ) (settings : Settings) (path : Path)
    (output : Option Path) (jobs : Option Nat) (s : σ) :
    ((¬ ∃ m, HoldsManifest s path m ∧ ¬ m.Aborts settings) →
      ((perform settings (.generate path output jobs) : StateM σ _).run s).2 = s ∧
      ((perform settings (.generate path output jobs) : StateM σ _).run s).1.ending.exitCode ≠ 0) ∧
    (∀ m, HoldsManifest s path m → ¬ m.Aborts settings →
      ((perform settings (.generate path output jobs) : StateM σ _).run s).2 =
        ((writeArtifacts (output.getD ⟨settings.output.directory⟩) (m.modules settings) :
          StateM σ _).run s).2 ∧
      (((perform settings (.generate path output jobs) : StateM σ _).run s).1.ending.exitCode = 0 ↔
        (∃ report, ((writeArtifacts (output.getD ⟨settings.output.directory⟩)
          (m.modules settings) : StateM σ _).run s).1 = .ok report) ∧
        ¬ m.Rejects settings)) ∧
    (((perform settings (.check path) : StateM σ _).run s).2 = s ∧
      (((perform settings (.check path) : StateM σ _).run s).1.ending.exitCode = 0 ↔
        ∃ m, HoldsManifest s path m ∧ ¬ m.Aborts settings ∧ ¬ m.Rejects settings)) ∧
    ∀ m, HoldsManifest s path m → ∀ (workers : Nat) (published : Schedule.Published),
      Schedule.Ends (Java.renderModule settings.generator) settings.generator.components m.kindOf
        m.declarations workers published →
      ((∃ failure, published.result = .error failure) ↔ m.Aborts settings) ∧
        ∀ summary, published.result = .ok summary →
          summary.artifacts = m.modules settings ∧
            (summary.hasErrors = true ↔ m.Rejects settings) := by
  simp only [perform]
  rcases run_summarize hread path settings s with
    ⟨m, summary, hm, hnot, hrun, hsummarize⟩ | ⟨hnone, fault, hsummarize⟩
  · have hmodules := Manifest.artifacts_of_run hm.isProper hrun
    have herrors : summary.hasErrors = false ↔ ¬ m.Rejects settings := by
      rw [← Manifest.hasErrors_of_run hm.isProper hrun, Bool.not_eq_true]
    obtain ⟨text, hcheck⟩ := run_check_of_ok hsummarize
    rw [hcheck]
    refine ⟨fun hnone => absurd ⟨m, hm, hnot⟩ hnone, fun m' hm' _ => ?generate, ⟨rfl, ?check⟩,
      fun m' hm' workers published => Manifest.of_ends hm'.isProper⟩
    case generate =>
      obtain rfl := hm.unique hm'
      rw [← herrors, ← hmodules]
      exact generate_of_ok hsummarize
    case check =>
      rw [exitCode_ending_eq_zero_iff, herrors]
      constructor
      · intro hclean
        exact ⟨m, hm, hnot, hclean⟩
      · rintro ⟨m', hm', -, hclean⟩
        rwa [hm.unique hm']
  · obtain ⟨text, hcheck⟩ := run_check_of_error hsummarize
    rw [hcheck, run_generate_of_error hsummarize]
    refine ⟨fun _ => ⟨rfl, Nat.one_ne_zero⟩, fun m hm hnot => absurd ⟨m, hm, hnot⟩ hnone,
      ⟨rfl, iff_of_false Nat.one_ne_zero ?_⟩,
      fun m hm workers published => Manifest.of_ends hm.isProper⟩
    rintro ⟨m, hm, hnot, -⟩
    exact hnone ⟨m, hm, hnot⟩

end Commands

/-! ### A manifest that is partly rejected -/

/-- Trees are not changed by reading. -/
theorem isReadUnchanged_fileTree : IsReadUnchanged FileTree := fun _ _ => rfl

/-- A class that is rejected, and functions that are not. -/
def partlyHidden : Manifest where
  containers := Schedule.hosts.containers
  declarations := .ofClass Declaration.hiddenClass :: Schedule.hosts.declarations

theorem isProper_partlyHidden : partlyHidden.IsProper := by
  have hhosts : (⟨"a", "Hosts", []⟩ : ClassName).IsProper := by decide
  have hhost : (⟨"a", "Host", []⟩ : ClassName).IsProper := by decide
  have hhidden : (⟨"app", "Hidden", []⟩ : ClassName).IsProper := by decide
  intro d hd
  simp only [partlyHidden, Schedule.hosts, List.mem_cons, List.not_mem_nil, or_false] at hd
  rcases hd with rfl | rfl | rfl
  · exact ⟨hhidden, by simp [Declaration.hiddenClass], by simp [Declaration.hiddenClass],
      by simp [Declaration.hiddenClass, Constructor.IsProper], by simp [Declaration.hiddenClass],
      Marker.isProper_empty⟩
  · exact ⟨hhosts, by simp, hhost, by simp, Marker.isProper_empty⟩
  · exact ⟨hhosts, by simp, trivial, by simp, Marker.isProper_empty⟩

/-- The manifest is read back from its text. -/
theorem ofText_text_partlyHidden : Manifest.ofText partlyHidden.text = .ok partlyHidden :=
  Manifest.ofText_text_of_isRereadable isProper_partlyHidden (by decide)

/-- A tree with this manifest in a file. -/
def hiddenTree : FileTree where
  entries := [(["hosts.json"], .text partlyHidden.text)]

/-- Generating from this manifest writes two modules and still fails, and so does checking it.  In
an empty tree generating fails and changes nothing. -/
theorem generate_and_check_agree_partlyHidden :
    HoldsManifest hiddenTree ⟨"hosts.json"⟩ partlyHidden ∧
    (partlyHidden.modules {}).map Artifact.fileName =
      ["Hosts_host_SoloModule.java", "Hosts_port_SoloModule.java"] ∧
    ((perform {} (.generate ⟨"hosts.json"⟩ (some ⟨"out"⟩) (some 2)) : StateM FileTree _).run
      hiddenTree).2 =
        ((writeArtifacts ⟨"out"⟩ (partlyHidden.modules {}) : StateM FileTree _).run
          hiddenTree).2 ∧
    ((perform {} (.generate ⟨"hosts.json"⟩ (some ⟨"out"⟩) (some 2)) : StateM FileTree _).run
      hiddenTree).1.ending.exitCode ≠ 0 ∧
    ((perform {} (.check ⟨"hosts.json"⟩) : StateM FileTree _).run
      hiddenTree).1.ending.exitCode ≠ 0 ∧
    ((perform {} (.generate ⟨"hosts.json"⟩ none none) : StateM FileTree _).run {}).2 = {} ∧
    ((perform {} (.generate ⟨"hosts.json"⟩ none none) : StateM FileTree _).run
      {}).1.ending.exitCode ≠ 0 := by
  have hholds : HoldsManifest hiddenTree ⟨"hosts.json"⟩ partlyHidden :=
    ⟨partlyHidden.text, rfl, ofText_text_partlyHidden⟩
  have hrejects : partlyHidden.Rejects {} :=
    ⟨_, List.mem_cons_self, "app.Hidden",
      [.error "app.Hidden" "Types marked with @SoloModule must be public"], by decide⟩
  have hnot : ¬ partlyHidden.Aborts {} := by
    have hall : ∀ d ∈ partlyHidden.declarations,
        (partlyHidden.report {} d).toOption.isSome = true := by decide
    rintro ⟨d, hd, failure, hfailure⟩
    have hsome := hall d hd
    rw [hfailure] at hsome
    cases hsome
  obtain ⟨-, hgenerate, ⟨-, hcheck⟩, -⟩ := generate_and_check_agree isReadUnchanged_fileTree {}
    ⟨"hosts.json"⟩ (some ⟨"out"⟩) (some 2) hiddenTree
  obtain ⟨hwritten, hexit⟩ := hgenerate partlyHidden hholds hnot
  obtain ⟨hempty, -⟩ := generate_and_check_agree isReadUnchanged_fileTree {}
    ⟨"hosts.json"⟩ none none ({} : FileTree)
  obtain ⟨hkept, hfails⟩ := hempty (by
    rintro ⟨m, ⟨text, htext, -⟩, -⟩
    cases htext)
  refine ⟨hholds, by decide, hwritten, ?_, ?_, hkept, hfails⟩
  · rw [ne_eq, hexit]
    rintro ⟨-, hclean⟩
    exact hclean hrejects
  · rw [ne_eq, hcheck]
    rintro ⟨m, hm, -, hclean⟩
    rw [← hholds.unique hm] at hclean
    exact hclean hrejects

end Bindery
