import Bindery.Declaration.Basic

/-!
# Exposed types

Which type the module of a class exposes is a choice among the types above it.  A stated type wins.
A class that wants nothing inferred exposes itself.  Otherwise its only supertype is exposed, and
the class itself where it has none.

An `Ancestry` has exactly what the choice depends on, so `Ancestry.exposed` can be stated without
the rest of the declaration.  Where there is no choice, every `Conflict` is reported and not only
the first: several interfaces are one, and an interface beside a superclass is another, also when
there are several interfaces.  So there may be two at once.
-/

namespace Bindery

/-- What the exposed type of a class depends on. -/
structure Ancestry where
  own : TypeName
  /-- The type that was stated, if one was. -/
  stated : Option TypeName := none
  /-- The superclass, unless it is at the top of every hierarchy. -/
  superclass : Option TypeName := none
  interfaces : List TypeName := []
  /-- Whether the type may be inferred from supertypes. -/
  inferred : Bool := true
  deriving DecidableEq, Repr

/-- What the exposed type of a declared class depends on. -/
def ClassDeclaration.ancestry (d : ClassDeclaration) : Ancestry where
  own := d.ownType
  stated := d.marker.bindingClass
  superclass := d.realSuperclass?
  interfaces := d.interfaces
  inferred := d.marker.bindSuperType

/-- Why no type can be inferred. -/
inductive Conflict where
  /-- There are several interfaces. -/
  | interfaces (types : List TypeName)
  /-- There is a superclass and there are interfaces. -/
  | superclass (type : TypeName) (interfaces : List TypeName)
  deriving DecidableEq, Repr

/-- The wording of a conflict, which lists the types. -/
def Conflict.message : Conflict → String
  | .interfaces types =>
    s!"Multiple interfaces found. Binding type must be specified: {TypeName.textList types}"
  | .superclass type others =>
    s!"Multiple super classes found. Binding type must be specified: {TypeName.textList (type :: others)}"

namespace Ancestry

/-- The conflicts among supertypes. -/
def conflicts (a : Ancestry) : List Conflict :=
  (if a.interfaces.length > 1 then [.interfaces a.interfaces] else []) ++
    match a.superclass with
    | some type => if a.interfaces.isEmpty then [] else [.superclass type a.interfaces]
    | none => []

/-- The only supertype, or the class itself. -/
def onlySupertype (a : Ancestry) : TypeName :=
  (a.interfaces.head? <|> a.superclass).getD a.own

/-- The exposed type, or the conflicts in the way of inferring one. -/
def exposed (a : Ancestry) : Except (List Conflict) TypeName :=
  match a.stated, a.inferred with
  | some type, _ => .ok type
  | none, false => .ok a.own
  | none, true => if a.conflicts.isEmpty then .ok a.onlySupertype else .error a.conflicts

end Ancestry

end Bindery
