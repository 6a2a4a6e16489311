import Bindery.Proofs.Declaration.Proper
import Bindery.Proofs.Document.Rereading

/-!
# Manifests are read back

A manifest that was read, written and read again is the same manifest, with one exception: where
some class that it names cannot be read from its canonical name, the second reading fails.  Such a
class has a nested name that begins as no identifier does, which only the reflected form of its name
can express.

`Declaration.reads` and `Containers.reads` go through the records from the inside out.  Containers
are always read back, as their names are kept as texts; of a declaration the condition is that every
class in it can be reread.  `Manifest.ofText_text_iff` has both directions, so the exception is
exact.
-/

namespace Bindery

open Decoder Document

/-! ### Names and annotations -/

theorem ClassName.reads {c : ClassName} (h : c.IsProper) :
    decode.Reads c.document c.isRereadable c :=
  .name (toOption_ofText_canonicalName h)

theorem TypeName.reads {t : TypeName} (h : t.IsProper) : decode.Reads t.document t.isRereadable t :=
  .name (toOption_ofText_text h)

theorem Visibility.reads (v : Visibility) : decode.Reads v.document true v :=
  .variant (by cases v <;> rfl)

/-- A list member fits when its items do. -/
theorem membersFit_listMember {α : Type} {room : Nat} {name : String} {write : α → Document}
    {items : List α} (h : ∀ x ∈ items, (write x).Fits room) :
    MembersFit (room + 1) (listMember name write items) := by
  rw [listMember]
  split
  · trivial
  · refine ⟨allFit_iff.mpr fun document hdocument => ?_, trivial⟩
    obtain ⟨x, hx, rfl⟩ := List.mem_map.mp hdocument
    exact h x hx

/-- The names of a list member are its name, or none. -/
theorem keys_listMember_sublist {α : Type} (name : String) (write : α → Document) (items : List α) :
    ((listMember name write items).map (·.1)).Sublist [name] := by
  rw [listMember]
  split
  · exact List.nil_sublist _
  · exact List.Sublist.refl _

theorem lookup_listMember_of_ne {α : Type} {name other : String} (write : α → Document)
    (items : List α) (h : other ≠ name) :
    (listMember name write items).lookup other = none := by
  rw [listMember]
  split
  · rfl
  · exact lookup_cons_of_ne _ [] h

namespace AnnotationMember

theorem reads (m : AnnotationMember) : decode.Reads m.document true m :=
  Shape.Reads.decode (.required (.required (.done _) rfl (.string _)) rfl (.string _))
    (List.Sublist.refl _) (by decide)

theorem fits (m : AnnotationMember) : m.document.Fits 1 := by
  simp [document, Fits, MembersFit]

end AnnotationMember

namespace Annotation

theorem reads {a : Annotation} (h : a.IsProper) :
    decode.Reads a.document (a.classes.all ClassName.isRereadable) a := by
  have hkeys : (([("type", a.type.document)] ++
      listMember "members" AnnotationMember.document a.members ++
      listMember "meta" ClassName.document a.metaTypes).map (·.1)).Sublist
      (["type"] ++ ["members"] ++ ["meta"]) := by
    rw [List.map_append, List.map_append]
    exact ((List.Sublist.refl _).append (keys_listMember_sublist ..)).append
      (keys_listMember_sublist ..)
  have hmembers : ([("type", a.type.document)] ++
      listMember "members" AnnotationMember.document a.members ++
      listMember "meta" ClassName.document a.metaTypes).lookup "members" =
      (listMember "members" AnnotationMember.document a.members).lookup "members" := by
    rw [List.lookup_append, List.lookup_append, lookup_listMember_of_ne _ a.metaTypes (by decide),
      Option.or_none]
    rfl
  have hmeta : ([("type", a.type.document)] ++
      listMember "members" AnnotationMember.document a.members ++
      listMember "meta" ClassName.document a.metaTypes).lookup "meta" =
      (listMember "meta" ClassName.document a.metaTypes).lookup "meta" := by
    rw [List.lookup_append, List.lookup_append, lookup_listMember_of_ne _ a.members (by decide),
      Option.or_none]
    rfl
  have hread : decode.Reads a.document ((a.type.isRereadable && a.members.all fun _ => true) &&
      a.metaTypes.all ClassName.isRereadable) a :=
    Shape.Reads.decode
      (.listMember (.listMember (.required (.done _) rfl (ClassName.reads h.1))
        hmembers fun m _ => m.reads)
        hmeta fun c hc => ClassName.reads (h.2 c hc))
      hkeys (by decide)
  refine hread.congr ?_
  rw [classes, List.all_cons, List.all_eq_true.mpr fun _ _ => rfl, Bool.and_true]

theorem fits (a : Annotation) : a.document.Fits 3 := by
  show MembersFit 2 _
  rw [membersFit_iff, List.forall_mem_append, List.forall_mem_append]
  refine ⟨⟨?_, ?_⟩, ?_⟩
  · simp [ClassName.document, Fits]
  · exact membersFit_iff.mp (membersFit_listMember fun m _ => m.fits)
  · exact membersFit_iff.mp (membersFit_listMember fun c _ => by simp [ClassName.document, Fits])

end Annotation

/-! ### Parts of declarations -/

/-- A list fits when its items do. -/
theorem fits_list {α : Type} {room : Nat} {write : α → Document} {items : List α}
    (h : ∀ x ∈ items, (write x).Fits room) : (Document.list (items.map write)).Fits (room + 1) := by
  refine allFit_iff.mpr fun document hdocument => ?_
  obtain ⟨x, hx, rfl⟩ := List.mem_map.mp hdocument
  exact h x hx

theorem fits_str (room : Nat) (text : String) : (Document.str text).Fits room := by simp [Fits]

theorem fits_bool (room : Nat) (b : Bool) : (Document.bool b).Fits room := by simp [Fits]

theorem fits_nullable {α : Type} {room : Nat} {write : α → Document} {found : Option α}
    (h : ∀ x ∈ found, (write x).Fits room) : (nullableDocument write found).Fits room := by
  cases found with
  | none => simp [nullableDocument, Fits]
  | some x => exact h x rfl

namespace Parameter

theorem reads {p : Parameter} (h : p.IsProper) :
    decode.Reads p.document (p.classes.all ClassName.isRereadable) p := by
  have hkeys : (([("name", Document.str p.name), ("type", p.type.document)] ++
      listMember "annotations" Annotation.document p.annotations).map (·.1)).Sublist
      (["name", "type"] ++ ["annotations"]) := by
    rw [List.map_append]
    exact (List.Sublist.refl _).append (keys_listMember_sublist ..)
  have hread : decode.Reads p.document (p.type.isRereadable &&
      p.annotations.all fun a => a.classes.all ClassName.isRereadable) p :=
    Shape.Reads.decode (.listMember (.required (.required (.done _) rfl (.string _)) rfl
      (TypeName.reads h.1)) rfl fun a ha => Annotation.reads (h.2 a ha)) hkeys (by decide)
  refine hread.congr ?_
  rw [classes, List.all_append, List.all_flatMap]
  rfl

theorem fits (p : Parameter) : p.document.Fits 5 := by
  show MembersFit 4 _
  rw [membersFit_iff, List.forall_mem_append]
  refine ⟨?_, ?_⟩
  · simp [TypeName.document, Fits]
  · exact membersFit_iff.mp (membersFit_listMember fun a _ => a.fits)

end Parameter

namespace Constructor

theorem reads {c : Constructor} (h : c.IsProper) :
    decode.Reads c.document (c.classes.all ClassName.isRereadable) c := by
  have hread : decode.Reads c.document
      (c.parameters.all fun p => p.classes.all ClassName.isRereadable) c :=
    Shape.Reads.decode
      (.optional (.optional (.optional (.done _)
        rfl (Visibility.reads _))
        rfl (.boolean _))
        rfl (.sequence fun p hp => Parameter.reads (h p hp)))
      (List.Sublist.refl _) (by decide)
  refine hread.congr ?_
  rw [classes, List.all_flatMap]

theorem fits (c : Constructor) : c.document.Fits 7 :=
  ⟨fits_str .., fits_bool .., fits_list fun p _ => p.fits, trivial⟩

end Constructor

namespace Marker

theorem readsBinding {m : Marker} (h : m.IsProper) :
    decodeBinding.Reads (nullableDocument TypeName.document m.bindingClass)
      (m.bindingClass.all TypeName.isRereadable) m.bindingClass := by
  have hread := Decoder.Reads.map statedBinding? (.nullable (fun t _ => by simp [TypeName.document])
    fun t ht => TypeName.reads (h.bindingClass t ht))
  rwa [h.stated] at hread

theorem reads {m : Marker} (h : m.IsProper) :
    decode.Reads m.document (m.classes.all ClassName.isRereadable) m := by
  have hread : decode.Reads m.document (m.bindingClass.all TypeName.isRereadable &&
      m.installIn.all ClassName.isRereadable && true && true) m :=
    Shape.Reads.decode
      (.optional (.optional (.optional (.optional (.done _)
        rfl (readsBinding h))
        rfl (.nullable (fun c _ => by simp [ClassName.document])
          fun c hc => ClassName.reads (h.installIn c hc)))
        rfl (.boolean _))
        rfl (.boolean _))
      (List.Sublist.refl _) (by decide)
  refine hread.congr ?_
  rw [classes, List.all_append, List.all_flatMap, Bool.and_true, Bool.and_true]
  cases m.bindingClass <;> cases m.installIn <;> simp [TypeName.isRereadable]

theorem fits (m : Marker) : m.document.Fits 1 :=
  ⟨fits_nullable fun _ _ => fits_str .., fits_nullable fun _ _ => fits_str .., fits_bool ..,
    fits_bool .., trivial⟩

end Marker

/-! ### Declarations -/

theorem readsAnnotations {annotations : List Annotation} (h : ∀ a ∈ annotations, a.IsProper) :
    (sequence Annotation.decode).Reads (.list (annotations.map Annotation.document))
      ((annotations.flatMap Annotation.classes).all ClassName.isRereadable) annotations := by
  rw [List.all_flatMap]
  exact .sequence fun a ha => Annotation.reads (h a ha)

theorem readsParameters {parameters : List Parameter} (h : ∀ p ∈ parameters, p.IsProper) :
    (sequence Parameter.decode).Reads (.list (parameters.map Parameter.document))
      ((parameters.flatMap Parameter.classes).all ClassName.isRereadable) parameters := by
  rw [List.all_flatMap]
  exact .sequence fun p hp => Parameter.reads (h p hp)

namespace ClassDeclaration

theorem reads {d : ClassDeclaration} (h : d.IsProper) (name : String) :
    (shape.decode name).Reads (.record d.members) (d.classes.all ClassName.isRereadable) d := by
  have hsuper : (nullable TypeName.decode).Reads (nullableDocument TypeName.document d.superclass)
      (d.superclass.all TypeName.isRereadable) d.superclass :=
    .nullable (fun t _ => by simp [TypeName.document])
      fun t ht => TypeName.reads (h.superclass t ht)
  have hfields : shape.Reads d.members _ d :=
    .optional (.optional (.optional (.optional (.optional (.optional (.optional
      (.required (.done _) rfl (ClassName.reads h.name))
      rfl (Visibility.reads _))
      rfl (.boolean _))
      rfl hsuper)
      rfl (.sequence fun t ht => TypeName.reads (h.interfaces t ht)))
      rfl (.sequence fun c hc => Constructor.reads (h.constructors c hc)))
      rfl (readsAnnotations h.annotations))
      rfl (Marker.reads h.marker)
  refine (hfields.decode (List.Sublist.refl _) (by decide)).congr ?_
  simp only [classes, List.all_cons, List.all_append, List.all_flatMap, Bool.true_and,
    Bool.and_true, Bool.and_assoc]
  cases d.superclass <;> simp [TypeName.isRereadable]

theorem fits (d : ClassDeclaration) : MembersFit 8 d.members :=
  ⟨fits_str .., fits_str .., fits_bool .., fits_nullable fun _ _ => fits_str ..,
    fits_list fun _ _ => fits_str .., fits_list fun c _ => c.fits,
    fits_list fun a _ => Fits.mono _ a.fits (by decide), Fits.mono _ d.marker.fits (by decide),
    trivial⟩

end ClassDeclaration

namespace FunctionDeclaration

theorem reads {d : FunctionDeclaration} (h : d.IsProper) (name : String) :
    (shape.decode name).Reads (.record d.members) (d.classes.all ClassName.isRereadable) d := by
  have hfields : shape.Reads d.members _ d :=
    .optional (.optional (.required (.optional (.optional (.optional (.required
      (.required (.done _) rfl (ClassName.reads h.container))
      rfl (.string _))
      rfl (Visibility.reads _))
      rfl (.boolean _))
      rfl (readsParameters h.parameters))
      rfl (TypeName.reads h.returnType))
      rfl (readsAnnotations h.annotations))
      rfl (Marker.reads h.marker)
  refine (hfields.decode (List.Sublist.refl _) (by decide)).congr ?_
  simp only [classes, List.all_cons, List.all_append, List.all_flatMap, Bool.true_and,
    Bool.and_true, Bool.and_assoc, TypeName.isRereadable]

theorem fits (d : FunctionDeclaration) : MembersFit 8 d.members :=
  ⟨fits_str .., fits_str .., fits_str .., fits_bool ..,
    fits_list fun p _ => Fits.mono _ p.fits (by decide),
    fits_str .., fits_list fun a _ => Fits.mono _ a.fits (by decide),
    Fits.mono _ d.marker.fits (by decide), trivial⟩

end FunctionDeclaration

namespace PropertyDeclaration

theorem reads {d : PropertyDeclaration} (h : d.IsProper) (name : String) :
    (shape.decode name).Reads (.record d.members) (d.classes.all ClassName.isRereadable) d := by
  have hfields : shape.Reads d.members _ d :=
    .optional (.optional (.required (.optional (.optional (.required
      (.required (.done _) rfl (ClassName.reads h.container))
      rfl (.string _))
      rfl (Visibility.reads _))
      rfl (.boolean _))
      rfl (TypeName.reads h.returnType))
      rfl (readsAnnotations h.annotations))
      rfl (Marker.reads h.marker)
  refine (hfields.decode (List.Sublist.refl _) (by decide)).congr ?_
  simp only [classes, List.all_cons, List.all_append, List.all_flatMap, Bool.true_and,
    Bool.and_true, Bool.and_assoc, TypeName.isRereadable]

theorem fits (d : PropertyDeclaration) : MembersFit 8 d.members :=
  ⟨fits_str .., fits_str .., fits_str .., fits_bool .., fits_str ..,
    fits_list fun a _ => Fits.mono _ a.fits (by decide), Fits.mono _ d.marker.fits (by decide),
    trivial⟩

end PropertyDeclaration

namespace Declaration

/-- **A proper declaration is read back when every class that it names is**, and otherwise not
at all. -/
theorem reads {d : Declaration} (h : d.IsProper) :
    decode.Reads d.document (d.classes.all ClassName.isRereadable) d := by
  cases d with
  | ofClass d =>
      have hkey : kinds.lookup "type" = some _ := rfl
      refine .tagged hkey (by simp [ClassDeclaration.members]) (MembersFit.isUsable _ d.fits) ?_
      exact .map Declaration.ofClass (ClassDeclaration.reads h _)
  | ofFunction d =>
      have hkey : kinds.lookup "function" = some _ := rfl
      refine .tagged hkey (by simp [FunctionDeclaration.members]) (MembersFit.isUsable _ d.fits) ?_
      exact .map Declaration.ofFunction (FunctionDeclaration.reads h _)
  | ofProperty d =>
      have hkey : kinds.lookup "property_accessor" = some _ := rfl
      refine .tagged hkey (by simp [PropertyDeclaration.members]) (MembersFit.isUsable _ d.fits) ?_
      exact .map Declaration.ofProperty (PropertyDeclaration.reads h _)

theorem fits (d : Declaration) : d.document.Fits 9 := by
  cases d with
  | ofClass d => exact ⟨fits_str .., d.fits⟩
  | ofFunction d => exact ⟨fits_str .., d.fits⟩
  | ofProperty d => exact ⟨fits_str .., d.fits⟩

end Declaration

/-! ### Containers -/

theorem ContainerKind.reads (k : ContainerKind) : decode.Reads k.document true k :=
  .variant (by cases k <;> rfl)

/-- An entry behind all others is put at the end. -/
theorem insertEntry_of_forall_lt {α : Type} {name : String} {entries : List (String × α)}
    (h : ∀ entry ∈ entries, entry.1 < name) (value : α) :
    insertEntry name value entries = entries ++ [(name, value)] := by
  induction entries with
  | nil => rfl
  | cons entry entries ih =>
      obtain ⟨other, old⟩ := entry
      rw [List.forall_mem_cons] at h
      have hne : name ≠ other := fun heq => String.lt_irrefl other (heq ▸ h.1)
      rw [insertEntry, if_neg hne, if_neg fun hlt => String.lt_asymm h.1 hlt, ih h.2]
      rfl

namespace Containers

/-- Entries that are put in one after the other, in their order, come out as they were. -/
theorem entries_foldl_insert (entries : List (String × ContainerKind)) (c : Containers)
    (h : IsSorted (c.entries ++ entries)) :
    (entries.foldl (fun c entry => c.insert entry.1 entry.2) c).entries = c.entries ++ entries := by
  induction entries generalizing c with
  | nil => simp
  | cons entry entries ih =>
      have hlt : ∀ other ∈ c.entries, other.1 < entry.1 := fun other hother =>
        (List.pairwise_append.mp h).2.2 other hother entry (List.mem_cons_self ..)
      have hinsert : (c.insert entry.1 entry.2).entries = c.entries ++ [entry] :=
        insertEntry_of_forall_lt hlt entry.2
      have hsorted : IsSorted ((c.insert entry.1 entry.2).entries ++ entries) := by
        rwa [hinsert, List.append_assoc]
      rw [List.foldl_cons, ih _ hsorted, hinsert, List.append_assoc]
      rfl

/-- Containers are made again from their entries. -/
theorem ofList_entries (c : Containers) : ofList c.entries = c :=
  ext_entries (entries_foldl_insert c.entries empty c.isSorted)

theorem reads (c : Containers) : decode.Reads c.document true c := by
  have hread := Decoder.Reads.map ofList (.table fun entry (_ : entry ∈ c.entries) => entry.2.reads)
  rwa [ofList_entries] at hread

theorem fits (c : Containers) : c.document.Fits 1 := by
  refine membersFit_iff.mpr fun member hmember => ?_
  obtain ⟨entry, -, rfl⟩ := List.mem_map.mp hmember
  exact fits_str ..

end Containers

/-! ### Manifests -/

namespace Manifest

theorem reads {m : Manifest} (h : m.IsProper) :
    decode.Reads m.document (m.classes.all ClassName.isRereadable) m := by
  have hfields : shape.Reads [("containers", m.containers.document),
      ("constructs", .list (m.declarations.map Declaration.document))] _ m :=
    .optional (.optional (.done _) rfl m.containers.reads) rfl
      (.sequence fun d hd => Declaration.reads (h d hd))
  refine (hfields.decode (List.Sublist.refl _) (by decide)).congr ?_
  rw [classes, List.all_flatMap]
  rfl

theorem fits (m : Manifest) : m.document.Fits 11 :=
  ⟨Fits.mono _ m.containers.fits (by decide), fits_list fun d _ => d.fits, trivial⟩

/-- What is read of the text of a proper manifest. -/
theorem toOption_ofText_text {m : Manifest} (h : m.IsProper) :
    (ofText m.text).toOption = onlyIf (m.classes.all ClassName.isRereadable) m := by
  rw [ofText, text, Json.decodeText_prettyText m.fits (by decide)]
  exact reads h .text

/-- A proper manifest is read back from its text if the classes that it names are. -/
theorem ofText_text_of_isRereadable {m : Manifest} (h : m.IsProper)
    (hclasses : m.classes.all ClassName.isRereadable = true) : ofText m.text = .ok m := by
  rw [← toOption_eq_some, toOption_ofText_text h, hclasses]
  rfl

/-- **A manifest that was read is read back from its text exactly when every class that it names
is read back from its canonical name**, that is, when no nested name begins as no identifier
does.  Where there is such a name, reading the text fails; no other manifest is ever read. -/
theorem ofText_text_iff {text : String} {m : Manifest} (h : ofText text = .ok m) :
    (ofText m.text = .ok m ↔ ∀ c ∈ m.classes, c.isRereadable = true) ∧
    ((∃ c ∈ m.classes, c.isRereadable = false) → ∃ fault, ofText m.text = .error fault) := by
  have hread := toOption_ofText_text (isProper_of_ofText h)
  constructor
  · rw [← toOption_eq_some, hread, ← List.all_eq_true]
    cases m.classes.all ClassName.isRereadable <;> simp
  · rintro ⟨c, hc, hbad⟩
    have hall : m.classes.all ClassName.isRereadable = false := by
      rw [List.all_eq_false]
      exact ⟨c, hc, by simp [hbad]⟩
    rw [hall] at hread
    exact toOption_eq_none.mp hread

/-- A function of an anonymous class. -/
def anonymous : Manifest where
  declarations :=
    [.ofFunction
      { container := ⟨"a", "Outer", ["1"]⟩, name := "host", returnType := .primitive .int }]

/-- The function of the anonymous class is read where the class is given by its reflection name,
but not from the text that the manifest is then written as. -/
theorem ofText_text_iff_anonymous :
    ofText "[\x7b\x7d,[[\"function\",\"a.Outer$1\",\"host\",\"public\",false,[],\"int\"]]]" =
      .ok anonymous ∧
    ∃ fault, ofText anonymous.text = .error fault := by
  have hread :
      ofText "[\x7b\x7d,[[\"function\",\"a.Outer$1\",\"host\",\"public\",false,[],\"int\"]]]" =
        .ok anonymous := by
    decide +kernel
  exact ⟨hread, (ofText_text_iff hread).2 ⟨⟨"a", "Outer", ["1"]⟩, by decide, by decide⟩⟩

end Manifest

end Bindery
