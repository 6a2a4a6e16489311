import Bindery.Name.ClassName

/-!
# Built-in scopes

The scopes whose bindings have a component to be installed in.  Each `BuiltinScope` is marked by one
annotation (`BuiltinScope.annotationName`) and belongs to one component (`BuiltinScope.component`).
All components are fixed but that of the singleton scope, which is whichever the settings call the
component of the application.
-/

namespace Bindery

/-- The scopes that have a component of their own. -/
inductive BuiltinScope where
  | singleton
  | activityRetained
  | activity
  | fragment
  | service
  | view
  deriving DecidableEq, Repr

namespace BuiltinScope

/-- Every built-in scope, in the order in which they are listed. -/
def all : List BuiltinScope := [.singleton, .activityRetained, .activity, .fragment, .service, .view]

/-- The qualified name of the annotation that marks a scope. -/
def annotationName : BuiltinScope → String
  | .singleton => "javax.inject.Singleton"
  | .activityRetained => "dagger.hilt.android.scopes.ActivityRetainedScoped"
  | .activity => "dagger.hilt.android.scopes.ActivityScoped"
  | .fragment => "dagger.hilt.android.scopes.FragmentScoped"
  | .service => "dagger.hilt.android.scopes.ServiceScoped"
  | .view => "dagger.hilt.android.scopes.ViewScoped"

/-- The scope that an annotation marks. -/
def ofAnnotationName? (name : String) : Option BuiltinScope := all.find? (·.annotationName == name)

/-- An Android component by its simple name. -/
def androidComponent (name : String) : ClassName := ⟨"dagger.hilt.android.components", name, []⟩

/-- The component that a scope belongs to; the singleton scope belongs to that of the application. -/
def component (application : ClassName) : BuiltinScope → ClassName
  | .singleton => application
  | .activityRetained => androidComponent "ActivityRetainedComponent"
  | .activity => androidComponent "ActivityComponent"
  | .fragment => androidComponent "FragmentComponent"
  | .service => androidComponent "ServiceComponent"
  | .view => androidComponent "ViewComponent"

end BuiltinScope

end Bindery
