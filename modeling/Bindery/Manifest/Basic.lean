import Bindery.Declaration.Format
import Bindery.Document.Json.Printer
import Bindery.Document.Json.Reader
import Bindery.Failure
import Bindery.Manifest.Containers

/-!
# Manifests

A `Manifest` is what the host reports: the declarations that ask for modules, and the kinds of the
containers it knows.  `Manifest.kindOf` is asked for the containers of functions.  The kinds are
recorded under reflection names, but a host may list a container under its canonical name instead,
so both are tried in this order.
-/

namespace Bindery

/-- The containers and the declarations of one compilation. -/
structure Manifest where
  containers : Containers := .empty
  declarations : List Declaration := []
  deriving DecidableEq, Repr

namespace Manifest

/-- The manifest with the kind of a container recorded, under its reflection name. -/
def withContainer (m : Manifest) (container : ClassName) (kind : ContainerKind) : Manifest :=
  { m with containers := m.containers.insert container.reflectionName kind }

/-- The manifest with one more declaration. -/
def withDeclaration (m : Manifest) (d : Declaration) : Manifest :=
  { m with declarations := m.declarations ++ [d] }

/-- The kind of a container.  It may be recorded under either written form of the name. -/
def kindOf (m : Manifest) (container : ClassName) : Except HostFault ContainerKind :=
  match m.containers.get? container.reflectionName with
  | some kind => .ok kind
  | none =>
    match m.containers.get? container.canonicalName with
    | some kind => .ok kind
    | none => .error (.missingMetadata container.reflectionName)

/-! ### Text -/

/-- The fields of a manifest. -/
def shape : Shape Manifest :=
  ((Shape.done Manifest.mk).optional "containers" .empty Containers.decode).optional
    "constructs" [] (Decoder.sequence Declaration.decode)

/-- A manifest from a document. -/
def decode : Decoder Manifest := shape.decode "Manifest"

/-- A manifest as a document. -/
def document (m : Manifest) : Document :=
  .record [("containers", m.containers.document),
    ("constructs", .list (m.declarations.map Declaration.document))]

/-- A manifest from its text. -/
def ofText (text : String) : Except Fault Manifest := Json.decodeText (decode .text) text

/-- The text of a manifest, with one member or item to a line. -/
def text (m : Manifest) : String := Json.prettyText m.document

end Manifest

end Bindery
