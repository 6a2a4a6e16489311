import Bindery.Declaration.Scope

/-!
# Annotations

An annotation has a type and members whose values are source text; they are carried along and never
looked into.  What an annotation means is told by its own type or by the annotations on that type,
which is why an `Annotation` has these too.

Bindings care about two kinds, `Annotation.isScope` and `Annotation.isQualifier`, and of each kind
only the first counts (`firstScope?`, `firstQualifier?`).  The scope also decides where a module is
installed unless that is stated, which is `Components.target?`.
-/

namespace Bindery

/-- A member of an annotation: its name and its value as source text. -/
structure AnnotationMember where
  name : String
  value : String
  deriving DecidableEq, Repr

/-- An annotation on a declaration or on a parameter. -/
structure Annotation where
  type : ClassName
  /-- The members in the order of declaration. -/
  members : List AnnotationMember := []
  /-- The types of the annotations on the annotation type itself. -/
  metaTypes : List ClassName := []
  deriving DecidableEq, Repr

namespace Annotation

/-- The annotation on annotation types that makes them scopes. -/
def scopeMark : String := "javax.inject.Scope"

/-- The annotation on annotation types that makes them qualifiers. -/
def qualifierMark : String := "javax.inject.Qualifier"

/-- The annotation that qualifies by a name and needs no mark. -/
def namedQualifier : String := "javax.inject.Named"

/-- Whether the annotation has the type with a qualified name. -/
def isNamed (a : Annotation) (name : String) : Bool := a.type.canonicalName == name

/-- Whether the type of the annotation carries an annotation with a qualified name. -/
def isMarked (a : Annotation) (name : String) : Bool := a.metaTypes.any (·.canonicalName == name)

/-- The built-in scope that the annotation marks. -/
def builtinScope? (a : Annotation) : Option BuiltinScope :=
  BuiltinScope.ofAnnotationName? a.type.canonicalName

/-- Scopes are marked as such, or built in. -/
def isScope (a : Annotation) : Bool := a.isMarked scopeMark || a.builtinScope?.isSome

/-- Qualifiers are marked as such, or qualify by a name. -/
def isQualifier (a : Annotation) : Bool := a.isMarked qualifierMark || a.isNamed namedQualifier

end Annotation

/-- The first scope among annotations. -/
def firstScope? (annotations : List Annotation) : Option Annotation := annotations.find? (·.isScope)

/-- The first qualifier among annotations. -/
def firstQualifier? (annotations : List Annotation) : Option Annotation :=
  annotations.find? (·.isQualifier)

/-- The components that bindings are installed in, of which the application chooses one. -/
structure Components where
  application : ClassName := ⟨"dagger.hilt.components", "SingletonComponent", []⟩
  deriving DecidableEq, Repr

namespace Components

/-- The component for a binding.  A stated one wins; without a scope it is that of the application; and a
scope that is not built in has none. -/
def target? (components : Components) (scope : Option Annotation) (stated : Option ClassName) :
    Option ClassName :=
  match stated, scope with
  | some component, _ => some component
  | none, none => some components.application
  | none, some a => a.builtinScope?.map (·.component components.application)

/-- Every built-in scope with its component. -/
def table (components : Components) : List (BuiltinScope × ClassName) :=
  BuiltinScope.all.map fun scope => (scope, scope.component components.application)

end Components

end Bindery
