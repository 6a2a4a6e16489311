import Bindery.Document.Fault
import Bindery.Files.Fault
import Bindery.Name.ClassName

/-!
# Failures

What ends a run, or keeps it from starting.  The host may break its promises (`HostFault`), the
settings may be unusable (`SettingsFault`), a binding may contradict itself (`Flaw`), and a
renderer, a worker or a file may fail.  A `Failure` is one of these causes.  Its wording and its
number are functions of the cause, so no text is stored that could disagree with it.
-/

namespace Bindery

/-! ### The host -/

/-- What is wrong with what the host supplies. -/
inductive HostFault where
  /-- A text names no class and no type. -/
  | badName (e : NameError)
  /-- Nothing is known about a container. -/
  | missingMetadata (container : String)
  /-- A declaration lacks something. -/
  | malformed (declaration reason : String)
  /-- A manifest cannot be decoded. -/
  | manifest (fault : Fault)
  /-- A manifest cannot be read. -/
  | unread (fault : FileFault)
  deriving DecidableEq, Repr

namespace HostFault

/-- The number of a kind of fault. -/
def code : HostFault → Nat
  | .badName _ => 1
  | .missingMetadata _ => 2
  | .malformed _ _ => 3
  | .manifest _ => 4
  | .unread _ => 5

/-- The wording of a fault. -/
def message : HostFault → String
  | .badName e => e.message
  | .missingMetadata container => s!"missing metadata for container: {container}"
  | .malformed declaration reason => s!"malformed construct {declaration}: {reason}"
  | .manifest fault => s!"manifest error: {fault.message}"
  | .unread fault => s!"I/O error: {fault.message}"

end HostFault

/-! ### Settings -/

/-- Why settings cannot be used. -/
inductive SettingsFault where
  /-- The text does not hold settings. -/
  | undecodable (fault : Fault)
  /-- A dotted key in the text has more terms than there is room for. -/
  | deepKey
  /-- The name of the processor is blank. -/
  | emptyProcessor
  /-- The component of the application has no package. -/
  | unqualifiedComponent (component : ClassName)
  /-- The name of the output directory is empty. -/
  | emptyDirectory
  /-- A text names no level of the log. -/
  | unknownLevel (text : String)
  /-- A reason from outside. -/
  | other (reason : String)
  deriving DecidableEq, Repr

/-- The wording of a fault. -/
def SettingsFault.reason : SettingsFault → String
  | .undecodable fault => fault.message
  | .deepKey => "recursion limit\n"
  | .emptyProcessor => "generator.processor cannot be empty"
  | .unqualifiedComponent component =>
    s!"generator.application_component must be fully qualified, got '{component.canonicalName}'"
  | .emptyDirectory => "output.directory cannot be empty"
  | .unknownLevel text => s!"unknown log level '{text}'"
  | .other reason => reason

/-! ### Bindings -/

/-- How a binding contradicts itself. -/
inductive Flaw where
  /-- A class without a constructor to inject through was handed to a review. -/
  | noConstructor
  /-- The module is installed, but nobody knows where. -/
  | noTarget
  /-- A provided class exposes some other type. -/
  | providesOther (own exposed : String)
  /-- A bound class exposes itself. -/
  | bindsItself
  /-- A bound class takes arguments. -/
  | bindsWithArguments
  /-- A reason from outside. -/
  | other (reason : String)
  deriving DecidableEq, Repr

/-- The wording of a flaw. -/
def Flaw.reason : Flaw → String
  | .noConstructor => "no @Inject constructor on a construct handed to validation"
  | .noTarget => "installation is enabled but no install target was resolved"
  | .providesOther own exposed => s!"provides-style binding must expose {own}, not {exposed}"
  | .bindsItself => "binds-style binding cannot expose its own type"
  | .bindsWithArguments => "binds-style binding takes no constructor parameters"
  | .other reason => reason

/-! ### Failures -/

/-- What ends a run, or keeps it from starting. -/
inductive Failure where
  | host (fault : HostFault)
  | settings (fault : SettingsFault)
  | invariant (declaration : String) (flaw : Flaw)
  /-- A binding cannot be rendered; this one failure concerns a single declaration only. -/
  | render (declaration reason : String)
  | workers (reason : String)
  | unread (fault : FileFault)
  deriving DecidableEq, Repr

namespace Failure

/-- The number of a kind of failure. -/
def code : Failure → Nat
  | .host _ => 1
  | .settings _ => 2
  | .invariant _ _ => 3
  | .render _ _ => 4
  | .workers _ => 5
  | .unread _ => 6

/-- The wording of a failure. -/
def message : Failure → String
  | .host fault => s!"host model error: {fault.message}"
  | .settings fault => s!"configuration error: {fault.reason}"
  | .invariant declaration flaw => s!"host invariant violated for {declaration}: {flaw.reason}"
  | .render declaration reason => s!"render error for {declaration}: {reason}"
  | .workers reason => s!"worker pool error: {reason}"
  | .unread fault => s!"I/O error: {fault.message}"

/-- The wordings of what caused a failure, the nearest cause first. -/
def causes : Failure → List String
  | .host (.unread fault) => [s!"I/O error: {fault.message}", fault.message]
  | .host fault => [fault.message]
  | .unread fault => [fault.message]
  | _ => []

end Failure

end Bindery
