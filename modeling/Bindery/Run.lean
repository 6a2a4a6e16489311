import Bindery.Review

/-!
# Runs

A run reviews the declarations of a manifest and renders the bindings of those that are in order.
`Declaration.process` gives the `Report` on one of them, and `Run.summary` those on all, in the
order of the manifest.

How a binding is rendered is a parameter, a `Renderer`.  A binding that cannot be rendered rejects
its declaration only.  Every other failure ends the run, and then nothing is reported, not even what
was done before it.
-/

namespace Bindery

/-- A generated file. -/
structure Artifact where
  /-- The package of the generated type. -/
  package : String
  /-- The simple name of the generated type. -/
  typeName : String
  fileName : String
  contents : String
  deriving DecidableEq, Repr

/-- What became of a declaration. -/
inductive Outcome where
  | generated (artifact : Artifact)
  | rejected (diagnostics : List Diagnostic)
  /-- The declaration asks for no module. -/
  | skipped (reason : String)
  deriving DecidableEq, Repr

/-- A declaration with what became of it. -/
structure Report where
  /-- The display name of the declaration. -/
  declaration : String
  outcome : Outcome
  deriving DecidableEq, Repr

/-- A way to turn bindings into files. -/
abbrev Renderer := Binding → Except Failure Artifact

/-! ### One declaration -/

/-- What becomes of a declaration after its review. -/
def Verdict.outcome (render : Renderer) (name : String) : Verdict → Except Failure Outcome
  | .rejected diagnostics => .ok (.rejected diagnostics)
  | .accepted binding =>
    match render binding with
    | .ok artifact => .ok (.generated artifact)
    | .error (.render _ reason) => .ok (.rejected [Diagnostic.error name reason])
    | .error failure => .error failure

namespace Declaration

/-- Classes without a constructor to inject through ask for no module. -/
def isSkipped : Declaration → Bool
  | .ofClass d => d.injectableConstructors.isEmpty
  | _ => false

/-- The report on a declaration. -/
def process (render : Renderer) (components : Components) (source : KindSource) (d : Declaration) :
    Asking Report := fun cache =>
  if d.isSkipped then (.ok ⟨d.displayName, .skipped "no @Inject constructor"⟩, cache)
  else
    let (verdict, cache) := d.review components source cache
    ((verdict.bind (Verdict.outcome render d.displayName)).map (⟨d.displayName, ·⟩), cache)

end Declaration

/-! ### All declarations -/

/-- The reports of a run, in the order of the declarations. -/
structure Summary where
  reports : List Report := []
  deriving DecidableEq, Repr

namespace Summary

/-- The generated files. -/
def artifacts (s : Summary) : List Artifact :=
  s.reports.filterMap fun r =>
    match r.outcome with
    | .generated artifact => some artifact
    | _ => none

/-- How many declarations got a module. -/
def generated (s : Summary) : Nat := s.artifacts.length

/-- How many declarations were rejected. -/
def rejected (s : Summary) : Nat :=
  s.reports.countP fun r =>
    match r.outcome with
    | .rejected _ => true
    | _ => false

/-- How many declarations were skipped. -/
def skipped (s : Summary) : Nat :=
  s.reports.countP fun r =>
    match r.outcome with
    | .skipped _ => true
    | _ => false

/-- Whether a declaration was rejected. -/
def hasErrors (s : Summary) : Bool := s.rejected > 0

/-- The diagnostics on rejected declarations, in order. -/
def diagnostics (s : Summary) : List Diagnostic :=
  s.reports.flatMap fun r =>
    match r.outcome with
    | .rejected diagnostics => diagnostics
    | _ => []

end Summary

namespace Run

/-- The reports on declarations, one after the other with one cache.  The first failure ends the run. -/
def reports (render : Renderer) (components : Components) (source : KindSource) :
    List Declaration → Asking (List Report)
  | [], cache => (.ok [], cache)
  | d :: rest, cache =>
    match d.process render components source cache with
    | (.error failure, cache) => (.error failure, cache)
    | (.ok report, cache) =>
      let (others, cache) := reports render components source rest cache
      (others.map (report :: ·), cache)

/-- The summary of a run over declarations. -/
def summary (render : Renderer) (components : Components) (source : KindSource)
    (declarations : List Declaration) : Except Failure Summary :=
  (Asking.alone (reports render components source declarations)).map (⟨·⟩)

end Run

end Bindery
