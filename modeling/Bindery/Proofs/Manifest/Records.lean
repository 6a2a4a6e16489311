import Bindery.Manifest.Basic
import Bindery.Proofs.Document.Fields

/-!
# The records of a manifest

A manifest is made of nine kinds of records.  `RecordKind.fields` lists what each of them has: the
names of its fields, how their values are read, and which value stands for a field that is left out,
if it may be.  The table is written out, with every default in full.  It says what a host may rely on,
and it is not read off the decoders: these are built up field by field in their own modules, and that
they have the fields of the table is `RecordKind.fields_eq`.  A default that is changed in a decoder,
or a field that becomes required there, breaks this equation for its record and nothing else.

The table is what statements speak of.  Proofs go over to the shape of the decoder at once
(`RecordKind.hasField_of_field?`), where the facts about shapes apply to all nine records alike.
-/

namespace Bindery

/-! ### Fields -/

/-- A field of a record, with the value that stands for it where it is left out, if it may be. -/
structure Field where
  {type : Type}
  name : String
  read : Decoder type
  absent : Option type

namespace Field

/-- A field that has to be there. -/
def required {α : Type} (name : String) (read : Decoder α) : Field := ⟨name, read, none⟩

/-- A field that may be left out. -/
def optional {α : Type} (name : String) (absent : α) (read : Decoder α) : Field :=
  ⟨name, read, some absent⟩

/-- What a document holds for a field is what stands for the field where it is left out. -/
def IsDefault (f : Field) (origin : Origin) (document : Document) : Prop :=
  ∃ value, f.absent = some value ∧ f.read origin document = .ok value

end Field

/-- The fields of a shape. -/
def Shape.fields : {α : Type} → Shape α → List Field
  | _, .done _ => []
  | _, .field before name absent read => before.fields ++ [⟨name, read, absent⟩]

namespace Shape

variable {α : Type}

theorem names_eq (shape : Shape α) : shape.names = shape.fields.map (·.name) := by
  induction shape with
  | done => rfl
  | field before name absent read ih => rw [names, fields, List.map_append, ih]; rfl

theorem hasField_of_mem_fields {shape : Shape α} {f : Field} (h : f ∈ shape.fields) :
    shape.HasField f.name f.absent f.read := by
  induction shape with
  | done => cases h
  | field before name absent read ih =>
      rcases List.mem_append.mp h with h | h
      · exact .earlier (ih h)
      · obtain rfl := List.mem_singleton.mp h
        exact .last

end Shape

/-! ### Records -/

/-- The kinds of records in a manifest. -/
inductive RecordKind where
  | manifest
  | declaredClass
  | declaredFunction
  | declaredProperty
  | constructor
  | parameter
  | annotationUse
  | annotationMember
  | marker

namespace RecordKind

open Decoder

/-- What a record is decoded as. -/
def type : RecordKind → Type
  | .manifest => Manifest
  | .declaredClass => ClassDeclaration
  | .declaredFunction => FunctionDeclaration
  | .declaredProperty => PropertyDeclaration
  | .constructor => Constructor
  | .parameter => Parameter
  | .annotationUse => Annotation
  | .annotationMember => AnnotationMember
  | .marker => Marker

/-- How a record is decoded.  Of a declaration these are the members beside the tag. -/
def decode : (r : RecordKind) → Decoder r.type
  | .manifest => Manifest.decode
  | .declaredClass => ClassDeclaration.shape.decode "TypeConstruct"
  | .declaredFunction => FunctionDeclaration.shape.decode "FunctionConstruct"
  | .declaredProperty => PropertyDeclaration.shape.decode "PropertyAccessor"
  | .constructor => Constructor.decode
  | .parameter => Parameter.decode
  | .annotationUse => Annotation.decode
  | .annotationMember => AnnotationMember.decode
  | .marker => Marker.decode

/-- The tag by which a declaration is told. -/
def tag? : RecordKind → Option String
  | .declaredClass => some "type"
  | .declaredFunction => some "function"
  | .declaredProperty => some "property_accessor"
  | _ => none

/-- **The fields of every record.** -/
def fields : RecordKind → List Field
  | .manifest =>
    [.optional "containers" ⟨[], .nil⟩ Containers.decode,
      .optional "constructs" [] (sequence Declaration.decode)]
  | .declaredClass =>
    [.required "name" ClassName.decode,
      .optional "visibility" .publicUse Visibility.decode,
      .optional "is_static" false boolean,
      .optional "superclass" none (nullable TypeName.decode),
      .optional "interfaces" [] (sequence TypeName.decode),
      .optional "constructors" [] (sequence Constructor.decode),
      .optional "annotations" [] (sequence Annotation.decode),
      .optional "solo_module" ⟨none, none, true, true⟩ Marker.decode]
  | .declaredFunction =>
    [.required "container" ClassName.decode,
      .required "name" string,
      .optional "visibility" .publicUse Visibility.decode,
      .optional "is_static" false boolean,
      .optional "parameters" [] (sequence Parameter.decode),
      .required "return_type" TypeName.decode,
      .optional "annotations" [] (sequence Annotation.decode),
      .optional "solo_module" ⟨none, none, true, true⟩ Marker.decode]
  | .declaredProperty =>
    [.required "container" ClassName.decode,
      .required "property" string,
      .optional "visibility" .publicUse Visibility.decode,
      .optional "is_static" false boolean,
      .required "return_type" TypeName.decode,
      .optional "annotations" [] (sequence Annotation.decode),
      .optional "solo_module" ⟨none, none, true, true⟩ Marker.decode]
  | .constructor =>
    [.optional "visibility" .publicUse Visibility.decode,
      .optional "injectable" false boolean,
      .optional "parameters" [] (sequence Parameter.decode)]
  | .parameter =>
    [.required "name" string,
      .required "type" TypeName.decode,
      .optional "annotations" [] (sequence Annotation.decode)]
  | .annotationUse =>
    [.required "type" ClassName.decode,
      .optional "members" [] (sequence AnnotationMember.decode),
      .optional "meta" [] (sequence ClassName.decode)]
  | .annotationMember =>
    [.required "name" string,
      .required "value" string]
  | .marker =>
    [.optional "binding_class" none Marker.decodeBinding,
      .optional "install_in" none (nullable ClassName.decode),
      .optional "install" true boolean,
      .optional "bind_super_type" true boolean]

/-- The field with a name. -/
def field? (r : RecordKind) (name : String) : Option Field := r.fields.find? (·.name == name)

/-- A member may be left out whose value is what stands for its absence. -/
def MayOmit (r : RecordKind) (origin : Origin) (name : String) (document : Document) : Prop :=
  ∃ f, r.field? name = some f ∧ f.IsDefault origin document

/-! ### The decoders have these fields -/

/-- The shape that a record is decoded by. -/
def shape : (r : RecordKind) → Shape r.type
  | .manifest => Manifest.shape
  | .declaredClass => ClassDeclaration.shape
  | .declaredFunction => FunctionDeclaration.shape
  | .declaredProperty => PropertyDeclaration.shape
  | .constructor => Constructor.shape
  | .parameter => Parameter.shape
  | .annotationUse => Annotation.shape
  | .annotationMember => AnnotationMember.shape
  | .marker => Marker.shape

theorem exists_decode_eq (r : RecordKind) : ∃ record, r.decode = r.shape.decode record := by
  cases r <;> exact ⟨_, rfl⟩

/-- **Every decoder has the fields of the table.** -/
theorem fields_eq (r : RecordKind) : r.fields = r.shape.fields := by
  cases r <;> rfl

theorem nodup_names (r : RecordKind) : r.shape.names.Nodup := by
  rw [Shape.names_eq, ← fields_eq]
  cases r <;> decide

variable {r : RecordKind} {name : String} {f : Field}

/-- A field of the table is a field of the shape. -/
theorem hasField_of_field? (h : r.field? name = some f) :
    r.shape.HasField name f.absent f.read := by
  have hmem : f ∈ r.shape.fields := r.fields_eq ▸ List.mem_of_find?_eq_some h
  obtain rfl : f.name = name := by simpa using List.find?_some h
  exact Shape.hasField_of_mem_fields hmem

/-- What is no field of the table is none of the shape. -/
theorem not_mem_names_of_field? (h : r.field? name = none) : name ∉ r.shape.names := by
  rw [Shape.names_eq, ← fields_eq]
  intro hmem
  obtain ⟨f, hf, hname⟩ := List.mem_map.mp hmem
  exact List.find?_eq_none.mp h f hf (by simpa using hname)

section Decoding

variable {origin : Origin} {members others : List (String × Document)} {value : r.type}

theorem isTidy_of_decode (h : r.decode origin (.record members) = .ok value) :
    Shape.IsTidy r.shape.names members := by
  obtain ⟨record, hdecode⟩ := r.exists_decode_eq
  rw [hdecode] at h
  exact Shape.isTidy_of_decode_record h

/-- Records are decoded alike whose members are found alike under the names of the fields. -/
theorem decode_of_lookup (htidy : Shape.IsTidy r.shape.names others)
    (hlookup : ∀ name ∈ r.shape.names, others.lookup name = members.lookup name)
    (h : r.decode origin (.record members) = .ok value) :
    r.decode origin (.record others) = .ok value := by
  obtain ⟨record, hdecode⟩ := r.exists_decode_eq
  rw [hdecode] at h ⊢
  exact Shape.decode_record_of_lookup htidy hlookup h

/-- Records are decoded alike that differ at one field, if this field still gives the same. -/
theorem decode_of_slot (hfield : r.field? name = some f)
    (htidy : Shape.IsTidy r.shape.names others)
    (hslot : ∀ {argument}, Shape.slot origin members name f.absent f.read = some argument →
      Shape.slot origin others name f.absent f.read = some argument)
    (hlookup : ∀ other, other ≠ name → others.lookup other = members.lookup other)
    (h : r.decode origin (.record members) = .ok value) :
    r.decode origin (.record others) = .ok value := by
  obtain ⟨record, hdecode⟩ := r.exists_decode_eq
  rw [hdecode] at h ⊢
  exact Shape.decode_record_of_slot r.nodup_names (hasField_of_field? hfield) htidy hslot hlookup h

end Decoding

/-- A declaration with the tag of a kind is decoded as that kind. -/
theorem exists_lookup_kinds {tag : String} (h : r.tag? = some tag) :
    ∃ declared : r.type → Declaration, Declaration.kinds.lookup tag =
      some fun origin document => (r.decode origin document).map declared := by
  cases r <;> cases h <;> exact ⟨_, rfl⟩

end RecordKind

end Bindery
