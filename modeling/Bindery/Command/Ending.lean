import Bindery.Command.Arguments
import Bindery.Failure
import Bindery.Files.Write

/-!
# How a command ends

A command is done, or it fails, or it was not used as it should be.  An `Ending` has the exit code
for each of these.  A failure is a `CommandFault`, which keeps the chain of its causes, as
`CommandFault.text` shows all of them, one below the other.
-/

namespace Bindery

/-- Why a command failed. -/
inductive CommandFault where
  /-- There are no settings to work with. -/
  | settings (failure : Failure)
  /-- There is no manifest to work on. -/
  | manifest (path : Path) (fault : HostFault)
  /-- The run was ended by a failure. -/
  | aborted (failure : Failure)
  /-- The modules could not be written. -/
  | unwritten (root : Path) (fault : WriteFault)
  /-- Some declarations were rejected. -/
  | rejected (count : Nat)
  deriving DecidableEq, Repr

namespace CommandFault

/-- The wording of a fault. -/
def message : CommandFault → String
  | .settings failure => failure.message
  | .manifest path _ => s!"Failed to load manifest: {path.text}"
  | .aborted _ => "Generation aborted"
  | .unwritten root _ => s!"Failed to write modules to {root.text}"
  | .rejected count => s!"{count} @SoloModule construct(s) rejected"

/-- The wordings of what caused a fault, the nearest cause first. -/
def causes : CommandFault → List String
  | .settings failure => failure.causes
  | .manifest _ fault => (Failure.host fault).causes
  | .aborted failure => failure.message :: failure.causes
  | .unwritten _ fault => [fault.message, fault.cause.message]
  | .rejected _ => []

/-- Text of several lines with an indentation in front of all but the first. -/
def hang (indentation text : String) : String :=
  String.ofList (text.toList.flatMap fun c => if c = '\n' then '\n' :: indentation.toList else [c])

/-- The lines for causes: a single one is indented, several are numbered. -/
def causeLines : List String → List String
  | [cause] => ["    " ++ hang "    " cause]
  | causes => causes.zipIdx.map fun (cause, n) =>
      let number := toString n
      String.ofList (List.replicate (5 - number.length) ' ') ++ number ++ ": " ++ hang "       " cause

/-- The text of a fault with everything that caused it. -/
def text (fault : CommandFault) : String :=
  let lines := ("Error: " ++ fault.message) ::
    if fault.causes.isEmpty then [] else ["", "Caused by:"] ++ causeLines fault.causes
  String.join (lines.map (· ++ "\n"))

/-- Whether a fault tells of a text that does not hold a manifest or settings. -/
def isUndecodable : CommandFault → Bool
  | .settings (.settings (.undecodable _)) => true
  | .manifest _ (.manifest _) => true
  | _ => false

end CommandFault

/-- The wording of a fault in the use of a command. -/
def UsageFault.message : UsageFault → String
  | .unknown argument => s!"unexpected argument '{argument}'"
  | .missingValue f => s!"a value is required for '--{f.longName}'"
  | .badValue f value => s!"invalid value '{value}' for '--{f.longName}'"
  | .repeated f => s!"'--{f.longName}' cannot be used multiple times"
  | .missingFlag f => s!"'--{f.longName}' is required"
  | .missingCommand => "a command is required: generate, check or scopes"

/-- How a command ends. -/
inductive Ending where
  | done
  | failed (fault : CommandFault)
  | misused (fault : UsageFault)
  deriving DecidableEq, Repr

namespace Ending

/-- The exit code of a command. -/
def exitCode : Ending → Nat
  | .done => 0
  | .failed _ => 1
  | .misused _ => 2

/-- What a command says about its end. -/
def text : Ending → String
  | .done => ""
  | .failed fault => fault.text
  | .misused fault => s!"error: {fault.message}\n"

end Ending

end Bindery
