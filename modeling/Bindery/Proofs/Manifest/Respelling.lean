import Bindery.Proofs.Manifest.Records
import Bindery.Proofs.Manifest.RoundTrip
import Mathlib.Data.List.Perm.Basic
import Mathlib.Logic.Relation

/-!
# Documents that are decoded alike

A host may write a manifest in many ways: it may order the members of a record as it likes, leave
out what has a default, and add members of its own.  Decoding does not see the difference.

A way of writing is given as a list of single edits (`Edit`), each at one place of a document,
however deep.  Which members are fields, and what may be left out, is looked up in the table of
`RecordKind.fields`; an edit knows nothing else of the decoders.  This is what makes
`Manifest.decode_of_respelled` say something about them: `Edit.decode_eq_ok` has to show of every
single edit that the decoder agrees with the table about it.

An edit always happens to the first member of a record.  That is no restriction, as permuting is an
edit too, and it spares every other case an argument about what stands in front.  The exception is
the tag of a declaration, which is taken out before the members are decoded and may stand anywhere.
Containers are the one record whose members have no fixed names; they are put in one by one, and
their order is given up in `Containers.ofList_perm`.
-/

namespace Bindery

/-! ### Containers -/

namespace Containers

variable {a b : Containers}

/-- Containers are what is found in them. -/
theorem ext_get? (h : ∀ name, a.get? name = b.get? name) : a = b := by
  have hnodup (c : Containers) : (c.entries.map (·.1)).Nodup := by
    refine List.pairwise_map.mpr (c.isSorted.imp fun {x y} hlt heq => ?_)
    rw [heq] at hlt
    exact String.lt_irrefl _ hlt
  have hperm : a.entries.Perm b.entries := by
    rw [List.perm_ext_iff_of_nodup (hnodup a).of_map (hnodup b).of_map]
    rintro ⟨name, kind⟩
    rw [← lookup_eq_some_iff_of_nodup (hnodup a), ← lookup_eq_some_iff_of_nodup (hnodup b)]
    exact Eq.congr (h name) rfl
  refine ext_entries (hperm.eq_of_pairwise (fun x y _ _ hlt hgt => ?_) a.isSorted b.isSorted)
  exact absurd hgt (String.lt_asymm hlt)

/-- Entries of different names are put in in any order. -/
theorem insert_comm {c : Containers} {first second : String} (hne : first ≠ second)
    (kind other : ContainerKind) :
    (c.insert first kind).insert second other = (c.insert second other).insert first kind := by
  refine ext_get? fun name => ?_
  simp only [get?_insert]
  split
  · next h => rw [if_neg (h ▸ hne.symm)]
  · rfl

/-- **Containers do not depend on the order of their entries.** -/
theorem ofList_perm {entries others : List (String × ContainerKind)} (h : entries.Perm others)
    (hnames : (entries.map (·.1)).Nodup) : ofList entries = ofList others := by
  refine h.foldl_eq' (fun x hx y hy c => ?_) empty
  by_cases hname : x.1 = y.1
  · rw [List.inj_on_of_nodup_map hnames hx hy hname]
  · exact insert_comm hname x.2 y.2

end Containers

/-! ### Edits -/

open Decoder Document

/-- **One edit of a document that a decoder does not see.**  At the place of the edit members are
reordered, left out or added; the other edits say where the place is.  A member at any place may
be edited as if it stood first, because records may be reordered. -/
inductive Edit : Origin → {α : Type} → Decoder α → Document → Document → Prop where
  /-- The members of a record come in another order. -/
  | permute {origin : Origin} {r : RecordKind} {members others : List (String × Document)}
      (h : members.Perm others) : Edit origin r.decode (.record members) (.record others)
  /-- The containers come in another order. -/
  | permuteContainers {origin : Origin} {entries others : List (String × Document)}
      (h : entries.Perm others) (hnames : (entries.map (·.1)).Nodup) :
      Edit origin Containers.decode (.record entries) (.record others)
  /-- A member is left out whose value is the default of its field. -/
  | drop {origin : Origin} {r : RecordKind} {name : String} {document : Document}
      {members : List (String × Document)} (h : r.MayOmit origin name document) :
      Edit origin r.decode (.record ((name, document) :: members)) (.record members)
  /-- A member is added that no field has the name of. -/
  | add {origin : Origin} {r : RecordKind} {name : String} {document : Document}
      {members : List (String × Document)} (hname : r.field? name = none)
      (h : document.isUsable = true) :
      Edit origin r.decode (.record members) (.record ((name, document) :: members))
  /-- A member that no field has the name of is changed. -/
  | ignored {origin : Origin} {r : RecordKind} {name : String} {old document : Document}
      {members : List (String × Document)} (hname : r.field? name = none)
      (h : document.isUsable = true) :
      Edit origin r.decode (.record ((name, old) :: members)) (.record ((name, document) :: members))
  /-- The place is in the value of a field. -/
  | field {origin : Origin} {r : RecordKind} {name : String} {f : Field} {old document : Document}
      {members : List (String × Document)} (hfield : r.field? name = some f)
      (h : Edit origin f.read old document) :
      Edit origin r.decode (.record ((name, old) :: members)) (.record ((name, document) :: members))
  /-- The place is in an item of a list. -/
  | item {origin : Origin} {α : Type} {read : Decoder α} (before after : List Document)
      {old document : Document} (h : Edit origin read old document) :
      Edit origin (sequence read) (.list (before ++ old :: after))
        (.list (before ++ document :: after))
  /-- The place is among the members of a declaration beside its tag.  The tag may move. -/
  | declaration {origin : Origin} {r : RecordKind} {tag : String}
      (before after before' after' : List (String × Document)) (hkind : r.tag? = some tag)
      (htag : ∀ member ∈ before' ++ after', member.1 ≠ "kind")
      (h : Edit .held r.decode (.record (before ++ after)) (.record (before' ++ after'))) :
      Edit origin Declaration.decode (.record (before ++ ("kind", .str tag) :: after))
        (.record (before' ++ ("kind", .str tag) :: after'))

/-- **Any number of edits, one after the other.** -/
def Respelled {α : Type} (origin : Origin) (read : Decoder α) : Document → Document → Prop :=
  Relation.ReflTransGen (Edit origin read)

namespace Edit

variable {α : Type} {origin : Origin} {read : Decoder α} {old document : Document}

/-- An edit leaves nothing behind that cannot be kept. -/
theorem isUsable (h : Edit origin read old document) (husable : old.isUsable = true) :
    document.isUsable = true := by
  induction h with
  | permute h | permuteContainers h =>
      rw [Document.isUsable, isUsableMembers_eq_all] at husable ⊢
      rwa [← h.all_eq]
  | drop =>
      rw [Document.isUsable, isUsableMembers, Bool.and_eq_true] at husable
      exact husable.2
  | add _ h =>
      rw [Document.isUsable, isUsableMembers, h]
      exact husable
  | ignored _ h =>
      rw [Document.isUsable, isUsableMembers, Bool.and_eq_true] at husable
      rw [Document.isUsable, isUsableMembers, h, husable.2]
      rfl
  | field _ _ ih =>
      rw [Document.isUsable, isUsableMembers, Bool.and_eq_true] at husable
      rw [Document.isUsable, isUsableMembers, ih husable.1, husable.2]
      rfl
  | item _ _ _ ih =>
      simp only [Document.isUsable, isUsableList_eq_all, List.all_append, List.all_cons,
        Bool.and_eq_true] at husable ⊢
      exact ⟨husable.1, ih husable.2.1, husable.2.2⟩
  | declaration _ _ _ _ _ _ _ ih =>
      simp only [Document.isUsable, isUsableMembers_eq_all, List.all_append, List.all_cons,
        Bool.and_eq_true] at husable ih ⊢
      have hothers := ih ⟨husable.1, husable.2.2⟩
      exact ⟨hothers.1, trivial, hothers.2⟩

/-- Containers in another order are the same containers. -/
theorem decode_permuteContainers {entries others : List (String × Document)}
    (h : entries.Perm others) (hnames : (entries.map (·.1)).Nodup) {containers : Containers}
    (hvalue : Containers.decode origin (.record entries) = .ok containers) :
    Containers.decode origin (.record others) = .ok containers := by
  obtain ⟨kinds, hkinds, rfl⟩ := map_eq_ok hvalue
  have hsteps := forall₂_of_mapM hkinds
  have hkeys : kinds.map (·.1) = entries.map (·.1) := by
    clear hvalue hkinds h hnames
    induction hsteps with
    | nil => rfl
    | cons hstep _ ih =>
        obtain ⟨kind, -, rfl⟩ := map_eq_ok hstep
        rw [List.map_cons, List.map_cons, ih]
  obtain ⟨others', hothers, hperm⟩ := List.perm_comp_forall₂ h.symm hsteps
  show Except.map Containers.ofList (others.mapM _) = _
  rw [mapM_eq_ok_of_forall₂ hothers]
  exact congrArg Except.ok (Containers.ofList_perm hperm.symm (hkeys ▸ hnames)).symm

/-- A declaration is decoded as what stands beside its tag, wherever the tag is. -/
theorem decode_declaration {r : RecordKind} {tag : String}
    {before after before' after' : List (String × Document)} (hkind : r.tag? = some tag)
    (htag : ∀ member ∈ before' ++ after', member.1 ≠ "kind")
    (h : Edit .held r.decode (.record (before ++ after)) (.record (before' ++ after')))
    (hpart : ∀ part, r.decode .held (.record (before ++ after)) = .ok part →
      r.decode .held (.record (before' ++ after')) = .ok part) {d : Declaration}
    (hvalue : Declaration.decode origin (.record (before ++ ("kind", .str tag) :: after)) = .ok d) :
    Declaration.decode origin (.record (before' ++ ("kind", .str tag) :: after')) = .ok d := by
  obtain ⟨declared, hvariant⟩ := RecordKind.exists_lookup_kinds hkind
  obtain ⟨⟨chosen, others⟩, hsplit, hvalue⟩ := bind_eq_ok hvalue
  obtain ⟨⟨read, hread, rfl⟩, rfl, -, husable⟩ := eq_of_splitTag_append_cons hsplit
  obtain rfl := Option.some.inj (hread.symm.trans hvariant)
  obtain ⟨part, hold, rfl⟩ := map_eq_ok hvalue
  show (splitTag "kind" Declaration.kinds none (before' ++ ("kind", .str tag) :: after') >>= _) = _
  rw [splitTag_append_cons hvariant htag (h.isUsable husable)]
  exact congrArg (Except.map declared) (hpart part hold)

/-- A member of a declaration is left out that stands behind the tag. -/
theorem dropBesideTag {r : RecordKind} {tag name : String} {document : Document}
    {members : List (String × Document)} (hkind : r.tag? = some tag)
    (hmembers : ∀ member ∈ members, member.1 ≠ "kind") (h : r.MayOmit .held name document) :
    Edit origin Declaration.decode (.record (("kind", .str tag) :: (name, document) :: members))
      (.record (("kind", .str tag) :: members)) :=
  .declaration [] _ [] _ hkind hmembers (.drop h)

/-- **An edit keeps what is decoded.** -/
theorem decode_eq_ok {value : α} (h : Edit origin read old document)
    (hvalue : read origin old = .ok value) : read origin document = .ok value := by
  induction h with
  | permute h =>
      have htidy := RecordKind.isTidy_of_decode hvalue
      exact RecordKind.decode_of_lookup (htidy.perm h)
        (fun _ hname => (htidy.lookup_perm h hname).symm) hvalue
  | permuteContainers h hnames => exact decode_permuteContainers h hnames hvalue
  | @drop origin r name document members h =>
      obtain ⟨f, hfield, absent, habsent, hread⟩ := h
      obtain ⟨hne, htidy⟩ := (Shape.isTidy_cons_of_mem
        (RecordKind.hasField_of_field? hfield).mem_names).mp (RecordKind.isTidy_of_decode hvalue)
      refine RecordKind.decode_of_slot hfield htidy (fun hslot => ?_)
        (fun other hother => (lookup_cons_of_ne document members hother).symm) hvalue
      -- the value that was left out is the one that now stands for it
      rw [Shape.slot_cons_self, hread] at hslot
      rwa [Shape.slot_of_forall_ne origin hne, habsent]
  | @add _ r name document members hname h =>
      have hname := RecordKind.not_mem_names_of_field? hname
      have htidy : Shape.IsTidy r.shape.names ((name, document) :: members) :=
        (Shape.isTidy_cons_of_not_mem hname).mpr
          ⟨isWhole_of_isUsable document h, RecordKind.isTidy_of_decode hvalue⟩
      exact RecordKind.decode_of_lookup htidy (fun other hother =>
        lookup_cons_of_ne document members (ne_of_mem_of_not_mem hother hname)) hvalue
  | @ignored _ r name old document members hname h =>
      have hname := RecordKind.not_mem_names_of_field? hname
      have hold := (Shape.isTidy_cons_of_not_mem hname).mp (RecordKind.isTidy_of_decode hvalue)
      have htidy : Shape.IsTidy r.shape.names ((name, document) :: members) :=
        (Shape.isTidy_cons_of_not_mem hname).mpr ⟨isWhole_of_isUsable document h, hold.2⟩
      refine RecordKind.decode_of_lookup htidy (fun other hother => ?_) hvalue
      have hne := ne_of_mem_of_not_mem hother hname
      rw [lookup_cons_of_ne document members hne, lookup_cons_of_ne old members hne]
  | @field _ r name f old document members hfield _ ih =>
      have hmem := (RecordKind.hasField_of_field? hfield).mem_names
      have htidy : Shape.IsTidy r.shape.names ((name, document) :: members) :=
        (Shape.isTidy_cons_of_mem hmem).mpr
          ((Shape.isTidy_cons_of_mem hmem).mp (RecordKind.isTidy_of_decode hvalue))
      refine RecordKind.decode_of_slot hfield htidy (fun hslot => ?_)
        (fun other hother => ?_) hvalue
      · rw [Shape.slot_cons_self, toOption_eq_some] at hslot ⊢
        exact ih hslot
      · rw [lookup_cons_of_ne document members hother, lookup_cons_of_ne old members hother]
  | item before after _ ih => exact mapM_append_cons_eq_ok ih hvalue
  | declaration _ _ _ _ hkind htag h ih =>
      exact decode_declaration hkind htag h (fun _ => ih) hvalue

end Edit

namespace Respelled

variable {α : Type} {origin : Origin} {read : Decoder α} {old document : Document}

/-- Edits one after the other keep what is decoded. -/
theorem decode_eq_ok {value : α} (h : Respelled origin read old document)
    (hvalue : read origin old = .ok value) : read origin document = .ok value := by
  induction h with
  | refl => exact hvalue
  | tail _ hedit ih => exact hedit.decode_eq_ok ih

/-- Edits in a part are edits of the whole when each of them is. -/
theorem lift {β : Type} {origin' : Origin} {read' : Decoder β} (whole : Document → Document)
    (hwhole : ∀ {old document}, Edit origin read old document →
      Edit origin' read' (whole old) (whole document))
    (h : Respelled origin read old document) :
    Respelled origin' read' (whole old) (whole document) := by
  induction h with
  | refl => exact .refl
  | tail _ hedit ih => exact ih.tail (hwhole hedit)

/-- The value of a field is respelled. -/
theorem field {r : RecordKind} {name : String} {f : Field} (hfield : r.field? name = some f)
    (members : List (String × Document)) (h : Respelled origin f.read old document) :
    Respelled origin r.decode (.record ((name, old) :: members))
      (.record ((name, document) :: members)) :=
  h.lift (fun document => .record ((name, document) :: members)) (.field hfield)

/-- The value of a field of a declaration is respelled, which stands behind the tag. -/
theorem fieldBesideTag {r : RecordKind} {tag name : String} {f : Field}
    {members : List (String × Document)} (hkind : r.tag? = some tag)
    (hfield : r.field? name = some f) (hname : name ≠ "kind")
    (hmembers : ∀ member ∈ members, member.1 ≠ "kind") (h : Respelled .held f.read old document) :
    Respelled origin Declaration.decode
      (.record (("kind", .str tag) :: (name, old) :: members))
      (.record (("kind", .str tag) :: (name, document) :: members)) :=
  h.lift (fun document => .record (("kind", .str tag) :: (name, document) :: members)) fun hedit =>
    .declaration [] _ [] _ hkind (List.forall_mem_cons.mpr ⟨hname, hmembers⟩) (.field hfield hedit)

/-- Every item of a list is respelled. -/
theorem items {olds documents : List Document}
    (h : List.Forall₂ (Respelled origin read) olds documents) :
    Respelled origin (sequence read) (.list olds) (.list documents) := by
  suffices hbehind : ∀ before, Respelled origin (sequence read) (.list (before ++ olds))
      (.list (before ++ documents)) from hbehind []
  -- what was respelled stands in front of what is left
  induction h with
  | nil => exact fun _ => .refl
  | @cons old document olds documents hitem _ ih =>
      intro before
      have hfirst := hitem.lift (fun document => .list (before ++ document :: olds)) (.item before olds)
      have hothers := ih (before ++ [document])
      rw [List.append_assoc, List.append_assoc] at hothers
      exact hfirst.trans hothers

end Respelled

/-! ### Manifests and declarations -/

namespace Manifest

/-- **Decoding does not depend on how a manifest or a declaration is spelled.**  What a document is
decoded as does not change when members are reordered, members are left out whose values are the
defaults of their fields, and members are added that no field has the name of, in any records of the
document and as often as one likes.  In particular every record of the table may leave out every
field that has a default there. -/
theorem decode_of_respelled (origin : Origin) :
    (∀ {old document : Document} {m : Manifest}, Respelled origin Manifest.decode old document →
      Manifest.decode origin old = .ok m → Manifest.decode origin document = .ok m) ∧
    (∀ {old document : Document} {d : Declaration}, Respelled origin Declaration.decode old document →
      Declaration.decode origin old = .ok d → Declaration.decode origin document = .ok d) ∧
    ∀ {r : RecordKind} {name : String} {f : Field} {default : f.type} {document : Document}
      {members : List (String × Document)} {value : r.type},
      r.field? name = some f → f.absent = some default → f.read origin document = .ok default →
        r.decode origin (.record ((name, document) :: members)) = .ok value →
          r.decode origin (.record members) = .ok value :=
  ⟨Respelled.decode_eq_ok, Respelled.decode_eq_ok, fun hfield habsent hread =>
    Edit.decode_eq_ok (.drop ⟨_, hfield, _, habsent, hread⟩)⟩

/-! ### A manifest in full and in brief -/

/-- A marker with every member written out. -/
def fullMarker : Document :=
  .record [("binding_class", .str "java.lang.Void"), ("install_in", .null),
    ("install", .bool true), ("bind_super_type", .bool true)]

/-- A class without constructors. -/
def fullZone : Document :=
  .record [("kind", .str "type"), ("solo_module", fullMarker), ("visibility", .str "public"),
    ("is_static", .bool false), ("superclass", .null), ("interfaces", .list []),
    ("constructors", .list []), ("annotations", .list []), ("name", .str "app.Zone")]

/-- The parameters of a constructor, the second with an annotation. -/
def fullParameters : Document :=
  .list [.record [("annotations", .list []), ("name", .str "first"), ("type", .str "app.Zone")],
    .record [("annotations", .list [.record [("members", .list []), ("meta", .list []),
      ("type", .str "app.Fast")]]), ("name", .str "second"), ("type", .str "app.Zone")]]

/-- A class with two constructors, of which one is as plain as can be. -/
def fullClock : Document :=
  .record [("kind", .str "type"),
    ("constructors", .list [
      .record [("visibility", .record [("public", .null)]), ("injectable", .bool false),
        ("parameters", .list [])],
      .record [("parameters", fullParameters), ("injectable", .bool true)]]),
    ("name", .str "app.Clock")]

/-- A function with every member written out. -/
def fullNow : Document :=
  .record [("kind", .str "function"), ("visibility", .str "public"), ("is_static", .bool false),
    ("parameters", .list []), ("annotations", .list []), ("solo_module", fullMarker),
    ("container", .str "app.Clocks"), ("name", .str "now"), ("return_type", .str "app.Clock")]

/-- A property with every member written out. -/
def fullPort : Document :=
  .record [("kind", .str "property_accessor"), ("solo_module", fullMarker),
    ("visibility", .str "public"), ("is_static", .bool false), ("annotations", .list []),
    ("container", .str "app.Ports"), ("property", .str "port"), ("return_type", .str "int")]

/-- A manifest with every member written out. -/
def fullManifest : Document :=
  .record [("constructs", .list [fullZone, fullClock, fullNow, fullPort]),
    ("containers", .record [("app.Ports", .str "object"), ("app.Clocks", .str "object")])]

/-- The function in brief, with an empty marker. -/
def briefNow : Document :=
  .record [("kind", .str "function"), ("solo_module", .record []), ("container", .str "app.Clocks"),
    ("name", .str "now"), ("return_type", .str "app.Clock")]

/-- The property in brief, in another order and with a member of the host. -/
def briefPort : Document :=
  .record [("host", .record [("line", .int 7)]), ("container", .str "app.Ports"),
    ("property", .str "port"), ("return_type", .str "int"), ("kind", .str "property_accessor")]

/-- The class with constructors in brief. -/
def briefClock : Document :=
  .record [("kind", .str "type"),
    ("constructors", .list [.record [], .record [("parameters", .list [
      .record [("name", .str "first"), ("type", .str "app.Zone")],
      .record [("annotations", .list [.record [("type", .str "app.Fast")]]),
        ("name", .str "second"), ("type", .str "app.Zone")]]), ("injectable", .bool true)]]),
    ("name", .str "app.Clock")]

/-- The manifest in brief. -/
def briefManifest : Document :=
  .record [("containers", .record [("app.Clocks", .str "object"), ("app.Ports", .str "object")]),
    ("constructs", .list [.record [("kind", .str "type"), ("name", .str "app.Zone")], briefClock,
      briefNow, briefPort])]

/-- A marker that was written out is the one that stands for its absence. -/
theorem decode_fullMarker : Marker.decode .held fullMarker = .ok ⟨none, none, true, true⟩ := by
  decide +kernel

/-- Each member of a marker is left out. -/
theorem respelled_fullMarker : Respelled .held Marker.decode fullMarker (.record []) := by
  have hvoid : Marker.decodeBinding .held (.str "java.lang.Void") = .ok none := by decide +kernel
  refine .head (.drop (r := .marker) ⟨_, rfl, _, rfl, hvoid⟩) ?_
  repeat refine .head (.drop (r := .marker) ⟨_, rfl, _, rfl, rfl⟩) ?_
  exact .refl

theorem respelled_fullZone (origin : Origin) : Respelled origin Declaration.decode fullZone
    (.record [("kind", .str "type"), ("name", .str "app.Zone")]) := by
  refine .head (.dropBesideTag (r := .declaredClass) rfl (by simp)
    ⟨_, rfl, _, rfl, decode_fullMarker⟩) ?_
  iterate 6
    refine .head (.dropBesideTag (r := .declaredClass) rfl (by simp) ⟨_, rfl, _, rfl, rfl⟩) ?_
  exact .refl

theorem respelled_fullClock (origin : Origin) :
    Respelled origin Declaration.decode fullClock briefClock := by
  have hannotation : Respelled .held Annotation.decode
      (.record [("members", .list []), ("meta", .list []), ("type", .str "app.Fast")])
      (.record [("type", .str "app.Fast")]) := by
    iterate 2 refine .head (.drop (r := .annotationUse) ⟨_, rfl, _, rfl, rfl⟩) ?_
    exact .refl
  have hfirst : Respelled .held Parameter.decode
      (.record [("annotations", .list []), ("name", .str "first"), ("type", .str "app.Zone")])
      (.record [("name", .str "first"), ("type", .str "app.Zone")]) :=
    .single (.drop (r := .parameter) ⟨_, rfl, _, rfl, rfl⟩)
  have hsecond : Respelled .held Parameter.decode
      (.record [("annotations", .list [.record [("members", .list []), ("meta", .list []),
        ("type", .str "app.Fast")]]), ("name", .str "second"), ("type", .str "app.Zone")])
      (.record [("annotations", .list [.record [("type", .str "app.Fast")]]),
        ("name", .str "second"), ("type", .str "app.Zone")]) :=
    .field (r := .parameter) (f := .optional "annotations" [] _) rfl _
      (.items (.cons hannotation .nil))
  have hplain : Respelled .held Constructor.decode
      (.record [("visibility", .record [("public", .null)]), ("injectable", .bool false),
        ("parameters", .list [])]) (.record []) := by
    iterate 3 refine .head (.drop (r := .constructor) ⟨_, rfl, _, rfl, rfl⟩) ?_
    exact .refl
  have hinjected : Respelled .held Constructor.decode
      (.record [("parameters", fullParameters), ("injectable", .bool true)]) _ :=
    .field (r := .constructor) (f := .optional "parameters" [] _) rfl _
      (.items (.cons hfirst (.cons hsecond .nil)))
  have hconstructors := Respelled.items (.cons hplain (.cons hinjected .nil))
  exact Respelled.fieldBesideTag (r := .declaredClass) (f := .optional "constructors" [] _) rfl rfl
    (by simp) (by simp) hconstructors

theorem respelled_fullNow (origin : Origin) :
    Respelled origin Declaration.decode fullNow briefNow := by
  iterate 4
    refine .head (.dropBesideTag (r := .declaredFunction) rfl (by simp) ⟨_, rfl, _, rfl, rfl⟩) ?_
  exact Respelled.fieldBesideTag (r := .declaredFunction) (f := .optional "solo_module" _ _) rfl rfl
    (by simp) (by simp) respelled_fullMarker

theorem respelled_fullPort (origin : Origin) :
    Respelled origin Declaration.decode fullPort briefPort := by
  refine .head (.dropBesideTag (r := .declaredProperty) rfl (by simp)
    ⟨_, rfl, _, rfl, decode_fullMarker⟩) ?_
  iterate 3
    refine .head (.dropBesideTag (r := .declaredProperty) rfl (by simp) ⟨_, rfl, _, rfl, rfl⟩) ?_
  exact .single (.declaration (r := .declaredProperty) [] [_, _, _] [("host", _), _, _, _] [] rfl
    (by simp) (.add rfl rfl))

/-- Fields are left out of every record of the manifest, members come in another order, and one is
added. -/
theorem respelled_fullManifest : Respelled .text Manifest.decode fullManifest briefManifest := by
  have hdeclarations := Respelled.items (.cons (respelled_fullZone .text)
    (.cons (respelled_fullClock .text) (.cons (respelled_fullNow .text)
      (.cons (respelled_fullPort .text) .nil))))
  refine .trans (Respelled.field (r := .manifest) (f := .optional "constructs" [] _) rfl _
    hdeclarations) ?_
  refine .head (.permute (r := .manifest) (.swap _ _ _)) ?_
  exact .single (.field (r := .manifest) (f := .optional "containers" _ _) rfl
    (.permuteContainers (.swap _ _ _) (by decide)))

/-- The manifest is decoded alike in full and in brief, and so is the property on its own.  A marker
without any member is read as one that was written out. -/
theorem decode_of_respelled_briefManifest : ∃ m d,
    Respelled .text Manifest.decode fullManifest briefManifest ∧
    Manifest.decode .text fullManifest = .ok m ∧ Manifest.decode .text briefManifest = .ok m ∧
    Respelled .text Declaration.decode fullPort briefPort ∧
    Declaration.decode .text fullPort = .ok d ∧ Declaration.decode .text briefPort = .ok d ∧
    RecordKind.marker.decode .text (.record [("install", .bool true)]) =
      .ok (⟨none, none, true, true⟩ : Marker) ∧
    RecordKind.marker.decode .text (.record []) = .ok (⟨none, none, true, true⟩ : Marker) := by
  obtain ⟨hmanifest, hdeclaration, hdrop⟩ := decode_of_respelled .text
  obtain ⟨m, hm⟩ := Option.isSome_iff_exists.mp
    (by decide +kernel : (Manifest.decode .text fullManifest).toOption.isSome)
  obtain ⟨d, hd⟩ := Option.isSome_iff_exists.mp
    (by decide +kernel : (Declaration.decode .text fullPort).toOption.isSome)
  rw [toOption_eq_some] at hm hd
  have hinstall : RecordKind.marker.decode .text (.record [("install", .bool true)]) =
      .ok (⟨none, none, true, true⟩ : Marker) := rfl
  exact ⟨m, d, respelled_fullManifest, hm, hmanifest respelled_fullManifest hm,
    respelled_fullPort .text, hd, hdeclaration (respelled_fullPort .text) hd, hinstall,
    hdrop rfl rfl rfl hinstall⟩

end Manifest

end Bindery
