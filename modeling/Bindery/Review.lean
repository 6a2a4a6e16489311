import Bindery.Binding.Basic
import Bindery.Binding.Exposure
import Bindery.Diagnostic
import Bindery.KindCache

/-!
# Reviews

A review decides whether a declaration can be bound.  Everything that is in the way is a
`Complaint`, and there may be several, in a fixed order.  Without complaints the declaration is
bound as planned (`ClassDeclaration.plan`, `FunctionDeclaration.plan`); the outcome either way is a
`Verdict`.

A property is reviewed as the function that reads it.  Only functions need the kind of their
container, so only their reviews ask the source of kinds, and they fail with it.  A class without a
constructor to inject through is not a matter of review: to review it is a failure, and whoever runs
reviews passes over it before.
-/

namespace Bindery

/-- What can be in the way of a binding. -/
inductive Complaint where
  | classNotPublic
  | nestedNotStatic
  | severalConstructors
  | privateConstructor
  | conflict (c : Conflict)
  | functionNotPublic
  | functionNotStatic
  | customScope
  deriving DecidableEq, Repr

/-- The wording of a complaint. -/
def Complaint.message : Complaint → String
  | .classNotPublic => "Types marked with @SoloModule must be public"
  | .nestedNotStatic => "Nested types marked with @SoloModule must be static"
  | .severalConstructors => "Multiple constructors marked with @Inject annotated found."
  | .privateConstructor => "@Inject constructor must not be private."
  | .conflict c => c.message
  | .functionNotPublic => "Functions marked with @SoloModule must be public"
  | .functionNotStatic =>
    "Functions marked with @SoloModule must be top level or enclosed in an object or companion class"
  | .customScope =>
    "@SoloModule does not support custom scopes--use recognized scope markers or disable installation"

/-- A complaint where a condition holds. -/
def Complaint.when (holds : Bool) (c : Complaint) : List Complaint := if holds then [c] else []

/-- The outcome of a review. -/
inductive Verdict where
  | accepted (binding : Binding)
  | rejected (diagnostics : List Diagnostic)
  deriving DecidableEq

/-- The verdict on a declaration: without complaints, it is bound as planned. -/
def Verdict.of (location : String) (complaints : List Complaint) (plan : Plan) :
    Except Failure Verdict :=
  if complaints.isEmpty then (Binding.ofPlan plan).map .accepted
  else .ok (.rejected (complaints.map fun c => Diagnostic.error location c.message))

/-! ### Installation -/

/-- The component that a declaration is installed in. -/
def targetOf (components : Components) (annotations : List Annotation) (marker : Marker) :
    Option ClassName :=
  components.target? (firstScope? annotations) marker.installIn

/-- A module to be installed needs a component. -/
def scopeComplaints (components : Components) (annotations : List Annotation) (marker : Marker) :
    List Complaint :=
  Complaint.when (marker.install && (targetOf components annotations marker).isNone) .customScope

/-! ### Classes -/

namespace ClassDeclaration

/-- The complaints about the constructors to inject through, of which there is at least one. -/
def constructorComplaints (d : ClassDeclaration) : List Complaint :=
  match d.injectableConstructors with
  | [c] => Complaint.when (c.visibility == .privateUse) .privateConstructor
  | _ => [.severalConstructors]

/-- The complaints about supertypes. -/
def conflictComplaints (d : ClassDeclaration) : List Complaint :=
  match d.ancestry.exposed with
  | .ok _ => []
  | .error conflicts => conflicts.map .conflict

/-- What is in the way of binding a class. -/
def complaints (components : Components) (d : ClassDeclaration) : List Complaint :=
  Complaint.when (d.visibility != .publicUse) .classNotPublic ++
  Complaint.when (d.name.isNested && !d.isStatic) .nestedNotStatic ++
  d.constructorComplaints ++
  d.conflictComplaints ++
  scopeComplaints components d.annotations d.marker

/-- The binding of a class through a constructor, exposing a type.  A class that exposes itself is
provided with the arguments of its constructor, any other is bound. -/
def plan (components : Components) (d : ClassDeclaration) (c : Constructor) (exposed : TypeName) :
    Plan where
  source := .instance d.name
  exposed := exposed
  strategy := if exposed = d.ownType then .provides else .binds
  target := targetOf components d.annotations d.marker
  scope := firstScope? d.annotations
  qualifier := firstQualifier? d.annotations
  install := d.marker.install
  arguments := if exposed = d.ownType then c.parameters.map Parameter.argument else []

/-- The review of a class, which needs a constructor to inject through. -/
def review (components : Components) (d : ClassDeclaration) : Except Failure Verdict :=
  match d.injectableConstructors with
  | [] => .error (.invariant d.name.canonicalName .noConstructor)
  | c :: _ =>
    Verdict.of d.name.canonicalName (d.complaints components)
      (d.plan components c ((d.ancestry.exposed).toOption.getD d.ownType))

end ClassDeclaration

/-! ### Functions -/

/-- The expression that functions of a container are called on: an object is reached through its
instance. -/
def receiverOf (container : ClassName) (kind : ContainerKind) : String :=
  let names := Text.joinNames '.' container.simpleNames
  match kind with
  | .object => names ++ ".INSTANCE"
  | _ => names

namespace FunctionDeclaration

/-- What is in the way of binding a function in a container of a kind. -/
def complaints (components : Components) (kind : ContainerKind) (d : FunctionDeclaration) :
    List Complaint :=
  Complaint.when (d.visibility != .publicUse) .functionNotPublic ++
  Complaint.when (!d.isStatic && !kind.isSingle) .functionNotStatic ++
  scopeComplaints components d.annotations d.marker

/-- The binding of a function in a container of a kind. -/
def plan (components : Components) (kind : ContainerKind) (d : FunctionDeclaration) : Plan where
  source := .call d.container d.name (receiverOf d.container kind)
  exposed := d.marker.bindingClass.getD d.returnType
  strategy := .provides
  target := targetOf components d.annotations d.marker
  scope := firstScope? d.annotations
  qualifier := firstQualifier? d.annotations
  install := d.marker.install
  arguments := d.parameters.map Parameter.argument

/-- The review of a function in a container of a kind. -/
def review (components : Components) (d : FunctionDeclaration) (kind : ContainerKind) :
    Except Failure Verdict :=
  Verdict.of d.displayName (d.complaints components kind) (d.plan components kind)

end FunctionDeclaration

/-! ### Declarations -/

/-- The review of a declaration, which may look up the kind of its container. -/
def Declaration.review (components : Components) (source : KindSource) :
    Declaration → Asking Verdict
  | .ofClass d => .settled (d.review components)
  | .ofFunction d => .withKind source d.container (d.review components)
  | .ofProperty d => .withKind source d.container (d.getter.review components)

end Bindery
