import Bindery.Command.Ending
import Bindery.Files.Load
import Bindery.Java.Module

/-!
# Commands

`respond` gives the response to the arguments of a user: what is said, on which channel, and how it
ends.  The commands behind it are `generate`, `check` and a list of the scopes (`scopeLines`).  The
first two begin alike, with the run over a manifest in a file (`summarize`), and differ in what they
do with its result: only `generate` writes files.

All of them run in any monad that is a `FileSystem`.  The program runs them in the world; statements
about them are made where the file system is a state.
-/

namespace Bindery

/-- What a command says and how it ends. -/
structure Response where
  output : String := ""
  ending : Ending := .done
  deriving DecidableEq, Repr

/-- The response that a fault ends. -/
def Response.failed (output : String) (fault : CommandFault) : Response := ⟨output, .failed fault⟩

/-- How a run that was carried through ends: rejected declarations make it fail. -/
def Summary.ending (s : Summary) : Ending := if s.hasErrors then .failed (.rejected s.rejected) else .done

/-- The run over a manifest. -/
def Manifest.run (m : Manifest) (settings : Settings) : Except Failure Summary :=
  Run.summary (Java.renderModule settings.generator) settings.generator.components m.kindOf m.declarations

/-! ### Output -/

/-- The line about what was generated. -/
def generatedLine (s : Summary) (root : Path) (report : WriteReport) : String :=
  s!"Generated {s.generated} module(s) in {root.text} ({report.written.length} written, " ++
    s!"{report.unchanged.length} unchanged)\n"

/-- The lines about a declaration. -/
def Report.lines (r : Report) : String :=
  match r.outcome with
  | .generated artifact => s!"✓ {r.declaration} -> {artifact.typeName}\n"
  | .rejected diagnostics => String.join (diagnostics.map fun d => s!"✗ {d.text}\n")
  | .skipped reason => s!"- {r.declaration} skipped: {reason}\n"

/-- The lines about scopes and their components. -/
def scopeLines (components : Components) : String :=
  String.join (components.table.map fun (scope, component) =>
    s!"@{scope.annotationName} -> {component.canonicalName}\n") ++
    s!"(no scope) -> {components.application.canonicalName}\n"

/-- The version of the program. -/
def versionLine : String := "pommel 0.3.0\n"

/-- How the program is used. -/
def helpText : String :=
  "Generates Dagger-Hilt modules for @SoloModule declarations\n\n" ++
  "Usage: pommel [OPTIONS] <COMMAND>\n\n" ++
  "Commands:\n" ++
  "  generate  Generate module sources\n" ++
  "  check     Validate a host manifest without writing\n" ++
  "  scopes    Print the scope to install-target table\n"

section

variable {m : Type → Type} [Monad m] [FileSystem m]

/-! ### Commands -/

/-- The run over the manifest in a file. -/
def summarize (path : Path) (settings : Settings) : m (Except CommandFault Summary) := do
  match ← loadManifest path with
  | .error fault => return .error (.manifest path fault)
  | .ok manifest => return (manifest.run settings).mapError .aborted

/-- The modules for a manifest, written below a root. -/
def generate (path root : Path) (settings : Settings) : m Response := do
  match ← summarize path settings with
  | .error fault => return .failed "" fault
  | .ok summary =>
    match ← writeArtifacts root summary.artifacts with
    | .error fault => return .failed "" (.unwritten root fault)
    | .ok report => return ⟨generatedLine summary root report, summary.ending⟩

/-- The report on a manifest. -/
def check (path : Path) (settings : Settings) : m Response := do
  let opening := s!"Checking manifest: {path.text}\n"
  match ← summarize path settings with
  | .error fault => return .failed opening fault
  | .ok summary =>
    let lines := opening ++ String.join (summary.reports.map Report.lines)
    if summary.hasErrors then return ⟨lines, summary.ending⟩
    else return ⟨lines ++ "\nManifest is valid!\n", summary.ending⟩

/-- The response to an action under settings. -/
def perform (settings : Settings) : Action → m Response
  | .generate manifest output _ => generate manifest (output.getD ⟨settings.output.directory⟩) settings
  | .check manifest => check manifest settings
  | .scopes => return ⟨scopeLines settings.generator.components, .done⟩

/-- The response to arguments. -/
def respond (arguments : List String) : m Response := do
  match Request.ofArguments arguments with
  | .error fault => return ⟨"", .misused fault⟩
  | .ok .version => return ⟨versionLine, .done⟩
  | .ok .help => return ⟨helpText, .done⟩
  | .ok (.act action config _) =>
    match ← discoverSettings config .here with
    | .error failure => return .failed "" (.settings failure)
    | .ok settings => perform settings action

end

end Bindery
