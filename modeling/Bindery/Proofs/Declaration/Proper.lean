import Bindery.Manifest.Basic
import Bindery.Proofs.Document.Decoding
import Bindery.Proofs.Name.TypeText

/-!
# Declarations that can be decoded

The names in a decoded declaration were read from texts, so they are proper, and no stated binding
class is a placeholder.  Nothing else is asked of a declaration.

Every kind of record has its own `IsProper`, which asks the same of its parts, and next to it the
list of the classes that it names, down to the arguments of types and the annotations on
annotations.  The lists are for conditions on all classes at once.  Statements about whole runs
begin with `Manifest.isProper_of_ofText`, as all that they know of a manifest is that it was read.
-/

namespace Bindery

open Decoder

theorem ClassName.yields_decode : ClassName.decode.Yields ClassName.IsProper :=
  Yields.name ClassName.isProper_of_ofText

theorem TypeName.yields_decode : TypeName.decode.Yields TypeName.IsProper :=
  Yields.name TypeName.isProper_of_ofText

/-! ### Annotations and parameters -/

namespace Annotation

/-- The classes that an annotation names: its type, and the marks on it. -/
def classes (a : Annotation) : List ClassName := a.type :: a.metaTypes

/-- An annotation is proper when the classes that it names are. -/
def IsProper (a : Annotation) : Prop := a.type.IsProper ∧ ∀ c ∈ a.metaTypes, c.IsProper

theorem yields_decode : decode.Yields IsProper :=
  Shape.Yields.decode
    (.optional (.sequence ClassName.yields_decode) (by simp) (.optional (.any _) trivial
      (.required ClassName.yields_decode (.done fun _ htype _ _ _ hmeta => ⟨htype, hmeta⟩))))

end Annotation

namespace Parameter

/-- The classes that a parameter names. -/
def classes (p : Parameter) : List ClassName :=
  p.type.classes ++ p.annotations.flatMap Annotation.classes

/-- A parameter is proper when its type and its annotations are. -/
def IsProper (p : Parameter) : Prop := p.type.IsProper ∧ ∀ a ∈ p.annotations, a.IsProper

theorem yields_decode : decode.Yields IsProper :=
  Shape.Yields.decode
    (.optional (.sequence Annotation.yields_decode) (by simp) (.required TypeName.yields_decode
      (.required (.any _) (.done fun _ _ _ htype _ hannotations => ⟨htype, hannotations⟩))))

end Parameter

namespace Constructor

/-- The classes that a constructor names. -/
def classes (c : Constructor) : List ClassName := c.parameters.flatMap Parameter.classes

/-- A constructor is proper when its parameters are. -/
def IsProper (c : Constructor) : Prop := ∀ p ∈ c.parameters, p.IsProper

theorem yields_decode : decode.Yields IsProper :=
  Shape.Yields.decode
    (.optional (.sequence Parameter.yields_decode) (by simp) (.optional (.any _) trivial
      (.optional (.any _) trivial (.done fun _ _ _ _ _ hparameters => hparameters))))

end Constructor

/-! ### Markers -/

namespace Marker

/-- The classes that a marker names. -/
def classes (m : Marker) : List ClassName :=
  m.bindingClass.toList.flatMap TypeName.classes ++ m.installIn.toList

/-- A marker is proper when the types that it states are, and the binding class is no
placeholder. -/
structure IsProper (m : Marker) : Prop where
  stated : statedBinding? m.bindingClass = m.bindingClass
  bindingClass : ∀ t ∈ m.bindingClass, t.IsProper
  installIn : ∀ c ∈ m.installIn, c.IsProper

/-- What is left of a stated type after placeholders are dropped is as it was stated. -/
theorem statedBinding?_eq (stated : Option TypeName) :
    statedBinding? stated = none ∨ statedBinding? stated = stated := by
  unfold statedBinding?
  split
  · split
    · exact .inl rfl
    · exact .inr rfl
  · exact .inr rfl

theorem yields_decodeBinding : decodeBinding.Yields fun stated =>
    statedBinding? stated = stated ∧ ∀ t ∈ stated, t.IsProper := by
  refine .map (.nullable TypeName.yields_decode) fun {stated} hstated => ?_
  rcases statedBinding?_eq stated with h | h
  · rw [h]
    exact ⟨rfl, by simp⟩
  · rw [h]
    exact ⟨h, hstated⟩

theorem isProper_empty : IsProper {} := ⟨rfl, by simp, by simp⟩

theorem yields_decode : decode.Yields IsProper :=
  Shape.Yields.decode (.optional (.any _) trivial (.optional (.any _) trivial
    (.optional (.nullable ClassName.yields_decode) (by simp)
      (.optional yields_decodeBinding ⟨rfl, by simp⟩
      (.done fun _ hbinding _ hcomponent _ _ _ _ => ⟨hbinding.1, hbinding.2, hcomponent⟩)))))

end Marker

/-! ### Declarations -/

namespace ClassDeclaration

/-- The classes that a declared class names, its own name among them. -/
def classes (d : ClassDeclaration) : List ClassName :=
  d.name :: (d.superclass.toList.flatMap TypeName.classes ++
    d.interfaces.flatMap TypeName.classes ++
    d.constructors.flatMap Constructor.classes ++ d.annotations.flatMap Annotation.classes ++
    d.marker.classes)

/-- A declared class is proper when everything that it names is. -/
structure IsProper (d : ClassDeclaration) : Prop where
  name : d.name.IsProper
  superclass : ∀ t ∈ d.superclass, t.IsProper
  interfaces : ∀ t ∈ d.interfaces, t.IsProper
  constructors : ∀ c ∈ d.constructors, c.IsProper
  annotations : ∀ a ∈ d.annotations, a.IsProper
  marker : d.marker.IsProper

theorem yields_shape : shape.Yields IsProper :=
  .optional Marker.yields_decode Marker.isProper_empty
    (.optional (.sequence Annotation.yields_decode) (by simp)
    (.optional (.sequence Constructor.yields_decode) (by simp)
    (.optional (.sequence TypeName.yields_decode) (by simp)
    (.optional (.nullable TypeName.yields_decode) (by simp)
    (.optional (.any _) trivial (.optional (.any _) trivial (.required ClassName.yields_decode
    (.done fun _ hname _ _ _ _ _ hsuper _ hinterfaces _ hconstructors _ hannotations _ hmarker =>
      ⟨hname, hsuper, hinterfaces, hconstructors, hannotations, hmarker⟩))))))))

end ClassDeclaration

namespace FunctionDeclaration

/-- The classes that a declared function names. -/
def classes (d : FunctionDeclaration) : List ClassName :=
  d.container :: (d.parameters.flatMap Parameter.classes ++ d.returnType.classes ++
    d.annotations.flatMap Annotation.classes ++ d.marker.classes)

/-- A declared function is proper when everything that it names is. -/
structure IsProper (d : FunctionDeclaration) : Prop where
  container : d.container.IsProper
  parameters : ∀ p ∈ d.parameters, p.IsProper
  returnType : d.returnType.IsProper
  annotations : ∀ a ∈ d.annotations, a.IsProper
  marker : d.marker.IsProper

theorem yields_shape : shape.Yields IsProper :=
  .optional Marker.yields_decode Marker.isProper_empty
    (.optional (.sequence Annotation.yields_decode) (by simp) (.required TypeName.yields_decode
    (.optional (.sequence Parameter.yields_decode) (by simp) (.optional (.any _) trivial
    (.optional (.any _) trivial (.required (.any _) (.required ClassName.yields_decode
    (.done fun _ hcontainer _ _ _ _ _ _ _ hparameters _ hreturn _ hannotations _ hmarker =>
      ⟨hcontainer, hparameters, hreturn, hannotations, hmarker⟩))))))))

end FunctionDeclaration

namespace PropertyDeclaration

/-- The classes that a declared property names. -/
def classes (d : PropertyDeclaration) : List ClassName :=
  d.container :: (d.returnType.classes ++ d.annotations.flatMap Annotation.classes ++
    d.marker.classes)

/-- A declared property is proper when everything that it names is. -/
structure IsProper (d : PropertyDeclaration) : Prop where
  container : d.container.IsProper
  returnType : d.returnType.IsProper
  annotations : ∀ a ∈ d.annotations, a.IsProper
  marker : d.marker.IsProper

theorem yields_shape : shape.Yields IsProper :=
  .optional Marker.yields_decode Marker.isProper_empty
    (.optional (.sequence Annotation.yields_decode) (by simp) (.required TypeName.yields_decode
    (.optional (.any _) trivial (.optional (.any _) trivial (.required (.any _)
    (.required ClassName.yields_decode
    (.done fun _ hcontainer _ _ _ _ _ _ _ hreturn _ hannotations _ hmarker =>
      ⟨hcontainer, hreturn, hannotations, hmarker⟩)))))))

end PropertyDeclaration

namespace Declaration

/-- The classes that a declaration names. -/
def classes : Declaration → List ClassName
  | .ofClass d => d.classes
  | .ofFunction d => d.classes
  | .ofProperty d => d.classes

/-- A declaration is proper when everything that it names is. -/
def IsProper : Declaration → Prop
  | .ofClass d => d.IsProper
  | .ofFunction d => d.IsProper
  | .ofProperty d => d.IsProper

/-- **A decoded declaration is proper.** -/
theorem yields_decode : decode.Yields IsProper := by
  refine .tagged fun kind hkind => ?_
  simp only [kinds, List.mem_cons, List.not_mem_nil, or_false] at hkind
  rcases hkind with rfl | rfl | rfl
  · exact .map ClassDeclaration.yields_shape.decode id
  · exact .map FunctionDeclaration.yields_shape.decode id
  · exact .map PropertyDeclaration.yields_shape.decode id

end Declaration

/-! ### Manifests -/

namespace Manifest

/-- The classes that the declarations of a manifest name. -/
def classes (m : Manifest) : List ClassName := m.declarations.flatMap Declaration.classes

/-- A manifest is proper when its declarations are. -/
def IsProper (m : Manifest) : Prop := ∀ d ∈ m.declarations, d.IsProper

theorem yields_decode : decode.Yields IsProper :=
  Shape.Yields.decode
    (.optional (.sequence Declaration.yields_decode) (by simp) (.optional (.any _) trivial
      (.done fun _ _ _ hdeclarations => hdeclarations)))

/-- **A manifest that was read is proper.** -/
theorem isProper_of_ofText {text : String} {m : Manifest} (h : ofText text = .ok m) :
    m.IsProper := by
  unfold ofText Json.decodeText at h
  obtain ⟨value, hvalue, h⟩ := bind_eq_ok h
  split at h
  · cases h
    exact yields_decode.of_ok hvalue
  · cases h

end Manifest

end Bindery
