import Bindery.Declaration.Basic
import Bindery.Failure

/-!
# Bindings

A binding says what a generated module provides: the type that it exposes, where an instance comes
from (`Source`), how the module states it (`Strategy`), and where the module is installed.

The parts of a binding can contradict each other.  A module that is installed needs a component, a
class that is provided exposes itself, and one that is bound exposes something else and takes no
arguments.  So the parts are first gathered in a `Plan`, whose `Plan.flaw?` is the first
contradiction, and a `Binding` is a plan that carries the proof of having none.  Whoever renders a
binding need not check it again; whoever makes one from a plan has to say what becomes of a flaw.
-/

namespace Bindery

/-- What an instance comes from. -/
inductive Source where
  /-- An instance of a class. -/
  | instance (name : ClassName)
  /-- The result of a function, called on the receiver. -/
  | call (container : ClassName) (name receiver : String)
  deriving DecidableEq, Repr

namespace Source

/-- The package that the generated module belongs to. -/
def package : Source → String
  | .instance name => name.package
  | .call container _ _ => container.package

/-- How messages name a source. -/
def displayName : Source → String
  | .instance name => name.canonicalName
  | .call container name _ => s!"{container.canonicalName}.{name}"

end Source

/-- How a module states its binding. -/
inductive Strategy where
  /-- By a function that gives an instance. -/
  | provides
  /-- By a declaration that an instance of the source serves as the exposed type. -/
  | binds
  deriving DecidableEq, Repr

/-- An argument that is passed on to a constructor or function. -/
structure Argument where
  name : String
  type : TypeName
  qualifier : Option Annotation := none
  deriving DecidableEq, Repr

/-- The argument that a parameter asks for. -/
def Parameter.argument (p : Parameter) : Argument :=
  ⟨p.name, p.type, firstQualifier? p.annotations⟩

/-- The parts of a binding. -/
structure Plan where
  source : Source
  exposed : TypeName
  strategy : Strategy
  target : Option ClassName := none
  scope : Option Annotation := none
  qualifier : Option Annotation := none
  /-- Whether the module is installed. -/
  install : Bool := true
  arguments : List Argument := []
  deriving DecidableEq, Repr

/-- The first contradiction among the parts of a binding. -/
def Plan.flaw? (p : Plan) : Option Flaw :=
  if p.install && p.target.isNone then some .noTarget
  else
    match p.source, p.strategy with
    | .call _ _ _, _ => none
    | .instance name, .provides =>
      if p.exposed ≠ .plain name then
        some (.providesOther (TypeName.plain name).text p.exposed.text)
      else none
    | .instance name, .binds =>
      if p.exposed = .plain name then some .bindsItself
      else if p.arguments.isEmpty then none
      else some .bindsWithArguments

/-- A plan without flaws. -/
structure Binding extends Plan where
  sound : toPlan.flaw? = none
  deriving DecidableEq

/-- The binding that a plan describes. -/
def Binding.ofPlan (p : Plan) : Except Failure Binding :=
  match h : p.flaw? with
  | none => .ok ⟨p, h⟩
  | some flaw => .error (.invariant p.source.displayName flaw)

end Bindery
