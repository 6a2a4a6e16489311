import Bindery.Declaration.Basic
import Bindery.Document.Shape

/-!
# Declarations as documents

How declarations are decoded from documents and written as documents.  Each kind of record is given
by its shape (`Annotation.shape`, `Parameter.shape`, `Marker.shape` and so on), from which its
decoder follows; `Declaration.decode` picks the shape by a tag.

Writing is not derived from the shapes, because it is not uniform.  Names of classes and types are
written as plain text.  Lists of annotations, members and their marks are left out where they are
empty if they belong to an annotation or a parameter; every other field is always written.
-/

namespace Bindery

open Decoder

/-! ### Names -/

/-- A class from its text. -/
def ClassName.decode : Decoder ClassName := Decoder.name ClassName.ofText

/-- A type from its text. -/
def TypeName.decode : Decoder TypeName := Decoder.name TypeName.ofText

/-- A class as its text. -/
def ClassName.document (c : ClassName) : Document := .str c.canonicalName

/-- A type as its text. -/
def TypeName.document (t : TypeName) : Document := .str t.text

/-- A value that may be absent. -/
def nullableDocument {α : Type} (write : α → Document) : Option α → Document
  | some value => write value
  | none => .null

/-- A list as a member, left out where it is empty. -/
def listMember {α : Type} (name : String) (write : α → Document) (items : List α) :
    List (String × Document) :=
  if items.isEmpty then [] else [(name, .list (items.map write))]

/-! ### Annotations -/

namespace AnnotationMember

/-- The fields of a member of an annotation. -/
def shape : Shape AnnotationMember :=
  ((Shape.done AnnotationMember.mk).required "name" string).required "value" string

/-- A member of an annotation from a document. -/
def decode : Decoder AnnotationMember := shape.decode "AnnotationMember"

/-- A member of an annotation as a document. -/
def document (m : AnnotationMember) : Document :=
  .record [("name", .str m.name), ("value", .str m.value)]

end AnnotationMember

namespace Annotation

/-- The fields of an annotation. -/
def shape : Shape Annotation :=
  (((Shape.done Annotation.mk).required "type" ClassName.decode).optional "members" []
    (sequence AnnotationMember.decode)).optional "meta" [] (sequence ClassName.decode)

/-- An annotation from a document. -/
def decode : Decoder Annotation := shape.decode "Annotation"

/-- An annotation as a document. -/
def document (a : Annotation) : Document :=
  .record ([("type", a.type.document)] ++ listMember "members" AnnotationMember.document a.members ++
    listMember "meta" ClassName.document a.metaTypes)

end Annotation

/-! ### Parts of declarations -/

namespace Visibility

/-- The names of the visibilities. -/
def names : List (String × Visibility) :=
  [("public", .publicUse), ("protected", .protectedUse), ("internal", .internalUse),
    ("package", .packageUse), ("private", .privateUse)]

/-- The name of a visibility. -/
def name : Visibility → String
  | .publicUse => "public"
  | .protectedUse => "protected"
  | .internalUse => "internal"
  | .packageUse => "package"
  | .privateUse => "private"

/-- A visibility from a document. -/
def decode : Decoder Visibility := variant names

/-- A visibility as a document. -/
def document (v : Visibility) : Document := .str v.name

end Visibility

namespace Parameter

/-- The fields of a parameter. -/
def shape : Shape Parameter :=
  (((Shape.done Parameter.mk).required "name" string).required "type" TypeName.decode).optional
    "annotations" [] (sequence Annotation.decode)

/-- A parameter from a document. -/
def decode : Decoder Parameter := shape.decode "Parameter"

/-- A parameter as a document. -/
def document (p : Parameter) : Document :=
  .record ([("name", .str p.name), ("type", p.type.document)] ++
    listMember "annotations" Annotation.document p.annotations)

end Parameter

namespace Constructor

/-- The fields of a constructor. -/
def shape : Shape Constructor :=
  (((Shape.done Constructor.mk).optional "visibility" .publicUse Visibility.decode).optional
    "injectable" false boolean).optional "parameters" [] (sequence Parameter.decode)

/-- A constructor from a document. -/
def decode : Decoder Constructor := shape.decode "Constructor"

/-- A constructor as a document. -/
def document (c : Constructor) : Document :=
  .record [("visibility", c.visibility.document), ("injectable", .bool c.injectable),
    ("parameters", .list (c.parameters.map Parameter.document))]

end Constructor

namespace Marker

/-- A stated binding class from a document, in which a placeholder states none. -/
def decodeBinding : Decoder (Option TypeName) := fun origin document =>
  (nullable TypeName.decode origin document).map statedBinding?

/-- The fields of a marker. -/
def shape : Shape Marker :=
  ((((Shape.done Marker.mk).optional "binding_class" none decodeBinding).optional "install_in" none
    (nullable ClassName.decode)).optional "install" true boolean).optional "bind_super_type" true boolean

/-- A marker from a document. -/
def decode : Decoder Marker := shape.decode "SoloModule"

/-- A marker as a document. -/
def document (m : Marker) : Document :=
  .record [("binding_class", nullableDocument TypeName.document m.bindingClass),
    ("install_in", nullableDocument ClassName.document m.installIn),
    ("install", .bool m.install), ("bind_super_type", .bool m.bindSuperType)]

end Marker

/-! ### Declarations -/

namespace ClassDeclaration

/-- The fields of a class. -/
def shape : Shape ClassDeclaration :=
  ((((((((Shape.done ClassDeclaration.mk).required "name" ClassName.decode).optional
    "visibility" .publicUse Visibility.decode).optional
    "is_static" false boolean).optional
    "superclass" none (nullable TypeName.decode)).optional
    "interfaces" [] (sequence TypeName.decode)).optional
    "constructors" [] (sequence Constructor.decode)).optional
    "annotations" [] (sequence Annotation.decode)).optional
    "solo_module" {} Marker.decode

/-- The members of a class in a document. -/
def members (d : ClassDeclaration) : List (String × Document) :=
  [("name", d.name.document), ("visibility", d.visibility.document), ("is_static", .bool d.isStatic),
    ("superclass", nullableDocument TypeName.document d.superclass),
    ("interfaces", .list (d.interfaces.map TypeName.document)),
    ("constructors", .list (d.constructors.map Constructor.document)),
    ("annotations", .list (d.annotations.map Annotation.document)),
    ("solo_module", d.marker.document)]

end ClassDeclaration

namespace FunctionDeclaration

/-- The fields of a function. -/
def shape : Shape FunctionDeclaration :=
  ((((((((Shape.done FunctionDeclaration.mk).required "container" ClassName.decode).required
    "name" string).optional
    "visibility" .publicUse Visibility.decode).optional
    "is_static" false boolean).optional
    "parameters" [] (sequence Parameter.decode)).required
    "return_type" TypeName.decode).optional
    "annotations" [] (sequence Annotation.decode)).optional
    "solo_module" {} Marker.decode

/-- The members of a function in a document. -/
def members (d : FunctionDeclaration) : List (String × Document) :=
  [("container", d.container.document), ("name", .str d.name), ("visibility", d.visibility.document),
    ("is_static", .bool d.isStatic), ("parameters", .list (d.parameters.map Parameter.document)),
    ("return_type", d.returnType.document),
    ("annotations", .list (d.annotations.map Annotation.document)),
    ("solo_module", d.marker.document)]

end FunctionDeclaration

namespace PropertyDeclaration

/-- The fields of a property. -/
def shape : Shape PropertyDeclaration :=
  (((((((Shape.done PropertyDeclaration.mk).required "container" ClassName.decode).required
    "property" string).optional
    "visibility" .publicUse Visibility.decode).optional
    "is_static" false boolean).required
    "return_type" TypeName.decode).optional
    "annotations" [] (sequence Annotation.decode)).optional
    "solo_module" {} Marker.decode

/-- The members of a property in a document. -/
def members (d : PropertyDeclaration) : List (String × Document) :=
  [("container", d.container.document), ("property", .str d.property),
    ("visibility", d.visibility.document), ("is_static", .bool d.isStatic),
    ("return_type", d.returnType.document),
    ("annotations", .list (d.annotations.map Annotation.document)),
    ("solo_module", d.marker.document)]

end PropertyDeclaration

namespace Declaration

/-- The kinds of declarations with their decoders. -/
def kinds : List (String × Decoder Declaration) :=
  [("type", fun origin document =>
      (ClassDeclaration.shape.decode "TypeConstruct" origin document).map .ofClass),
    ("function", fun origin document =>
      (FunctionDeclaration.shape.decode "FunctionConstruct" origin document).map .ofFunction),
    ("property_accessor", fun origin document =>
      (PropertyDeclaration.shape.decode "PropertyAccessor" origin document).map .ofProperty)]

/-- A declaration from a document. -/
def decode : Decoder Declaration := tagged "kind" "Construct" kinds

/-- A declaration as a document. -/
def document : Declaration → Document
  | .ofClass d => .record (("kind", .str "type") :: d.members)
  | .ofFunction d => .record (("kind", .str "function") :: d.members)
  | .ofProperty d => .record (("kind", .str "property_accessor") :: d.members)

end Declaration

end Bindery
