import Bindery.Proofs.Document.Decoding
import Bindery.Proofs.Document.Rereading
import Bindery.Proofs.Lookup
import Mathlib.Data.List.Nodup

/-!
# What a record's fields depend on

A record is decoded from its members, but not everything about the members counts.  What a field
gives is settled by the member with its name, so the order of the members does not matter, and
members that no field has the name of do not matter either, as long as they can be passed over.  In
a record with a tag the tag may stand anywhere.

The argument is the same for every record.  `Shape.slot` is what the members give for a field, and
`Shape.fromMembers_of_slots` says that nothing else about them matters once they are tidy, that is,
no field is given twice and nothing else among the members is broken.  Together with
`Shape.decode_record_eq_ok_iff` this reduces a comparison of two records to one of their slots
(`Shape.decode_record_of_slot`).

A tag is different, as it is taken out before there is a shape.  It is found wherever it stands, and
taking it out leaves the other members in their order (`Decoder.eq_of_splitTag_append_cons`).
-/

namespace Bindery

variable {α β : Type}

/-! ### Fields -/

/-- A field of a shape: its name, what stands for it when it is absent, and its decoder. -/
inductive Shape.HasField {β : Type} (name : String) (absent : Option β) (read : Decoder β) :
    {α : Type} → Shape α → Prop where
  | last {α : Type} {before : Shape (β → α)} : HasField name absent read
      (.field before name absent read)
  | earlier {α γ : Type} {before : Shape (γ → α)} {other : String} {absent' : Option γ}
      {read' : Decoder γ} (h : HasField name absent read before) : HasField name absent read
      (.field before other absent' read')

namespace Shape

variable {name : String} {absent : Option β} {read : Decoder β}

theorem HasField.mem_names {shape : Shape α} (h : shape.HasField name absent read) :
    name ∈ shape.names := by
  induction h with
  | last => exact List.mem_append_right _ (List.mem_singleton_self _)
  | earlier _ ih => exact List.mem_append_left _ ih

/-- Where the fields have different names, what holds of a field holds of every field with its
name. -/
theorem HasField.forall_of {shape : Shape α} (hnames : shape.names.Nodup)
    (h : shape.HasField name absent read) {P : {γ : Type} → Option γ → Decoder γ → Prop}
    (hP : P absent read) {γ : Type} {absent' : Option γ} {read' : Decoder γ}
    (h' : shape.HasField name absent' read') : P absent' read' := by
  induction h with
  | last =>
      rw [names, List.nodup_append] at hnames
      cases h' with
      | last => exact hP
      | earlier h' => exact absurd rfl (hnames.2.2 _ h'.mem_names _ (List.mem_singleton_self _))
  | earlier h ih =>
      rw [names, List.nodup_append] at hnames
      cases h' with
      | last => exact absurd rfl (hnames.2.2 _ h.mem_names _ (List.mem_singleton_self _))
      | earlier h' => exact ih hnames.1 h'

/-- **What the members of a record give for a field.** -/
def slot (origin : Origin) (members : List (String × Document)) (name : String) (absent : Option β)
    (read : Decoder β) : Option β :=
  (members.lookup name).elim absent fun document => (read origin document).toOption

theorem slot_cons_self (origin : Origin) (members : List (String × Document)) (document : Document) :
    slot origin ((name, document) :: members) name absent read =
      (read origin document).toOption := by
  simp [slot]

/-- Where no member has its name, a field gets what stands for its absence. -/
theorem slot_of_forall_ne {members : List (String × Document)} (origin : Origin)
    (h : ∀ member ∈ members, member.1 ≠ name) :
    slot origin members name absent read = absent := by
  have hlookup : members.lookup name = none := by
    rw [List.lookup_eq_none_iff]
    exact fun member hmember => by simpa using (h member hmember).symm
  rw [slot, hlookup, Option.elim_none]

/-- **What is built from the members of a record is settled by what they give for the fields.** -/
theorem fromMembers_of_slots {origin : Origin} {members others : List (String × Document)}
    {shape : Shape α}
    (h : ∀ {β : Type} {name : String} {absent : Option β} {read : Decoder β} {value : β},
      shape.HasField name absent read → slot origin members name absent read = some value →
        slot origin others name absent read = some value)
    {value : α} (hvalue : shape.fromMembers origin members = .ok value) :
    shape.fromMembers origin others = .ok value := by
  rw [← toOption_eq_some] at hvalue ⊢
  induction shape with
  | done => exact hvalue
  | field before name absent read ih =>
      rw [toOption_fromMembers_field, Option.bind_eq_some_iff] at hvalue ⊢
      obtain ⟨build, hbuild, hvalue⟩ := hvalue
      obtain ⟨argument, hargument, rfl⟩ := Option.map_eq_some_iff.mp hvalue
      refine ⟨build, ih (fun hfield => h (hfield.earlier)) hbuild, ?_⟩
      exact Option.map_eq_some_iff.mpr ⟨argument, h .last hargument, rfl⟩

/-! ### Tidy members -/

/-- **No field is given twice, and nothing else among the members is broken.** -/
structure IsTidy (known : List String) (members : List (String × Document)) : Prop where
  nodup : ((members.map (·.1)).filter (· ∈ known)).Nodup
  isWhole : ∀ member ∈ members, member.1 ∉ known → member.2.isWhole = true

section Tidy

variable {known seen : List String} {members : List (String × Document)} {key : String}
variable {document : Document}

theorem isTidy_nil : IsTidy known [] := ⟨List.nodup_nil, by simp⟩

/-- A member with the name of a field is given once. -/
theorem isTidy_cons_of_mem (h : key ∈ known) :
    IsTidy known ((key, document) :: members) ↔
      (∀ member ∈ members, member.1 ≠ key) ∧ IsTidy known members := by
  have hfilter : (((key, document) :: members).map (·.1)).filter (· ∈ known) =
      key :: (members.map (·.1)).filter (· ∈ known) := by
    rw [List.map_cons, List.filter_cons_of_pos (by simpa using h)]
  have hfresh : key ∉ (members.map (·.1)).filter (· ∈ known) ↔
      ∀ member ∈ members, member.1 ≠ key := by
    rw [List.mem_filter, List.mem_map]
    constructor
    · intro hnot member hmember heq
      exact hnot ⟨⟨member, hmember, heq⟩, by simpa using h⟩
    · rintro hne ⟨⟨member, hmember, heq⟩, -⟩
      exact hne member hmember heq
  constructor
  · rintro ⟨hnodup, hwhole⟩
    rw [hfilter, List.nodup_cons, hfresh] at hnodup
    exact ⟨hnodup.1, hnodup.2, (List.forall_mem_cons.mp hwhole).2⟩
  · rintro ⟨hne, hnodup, hwhole⟩
    refine ⟨?_, List.forall_mem_cons.mpr ⟨fun hnot => absurd h hnot, hwhole⟩⟩
    rw [hfilter, List.nodup_cons, hfresh]
    exact ⟨hne, hnodup⟩

/-- A member that no field has the name of can be passed over. -/
theorem isTidy_cons_of_not_mem (h : key ∉ known) :
    IsTidy known ((key, document) :: members) ↔
      document.isWhole = true ∧ IsTidy known members := by
  have hfilter : (((key, document) :: members).map (·.1)).filter (· ∈ known) =
      (members.map (·.1)).filter (· ∈ known) := by
    rw [List.map_cons, List.filter_cons_of_neg (by simpa using h)]
  constructor
  · rintro ⟨hnodup, hwhole⟩
    rw [List.forall_mem_cons] at hwhole
    exact ⟨hwhole.1 h, hfilter ▸ hnodup, hwhole.2⟩
  · rintro ⟨hdocument, hnodup, hwhole⟩
    exact ⟨hfilter ▸ hnodup, List.forall_mem_cons.mpr ⟨fun _ => hdocument, hwhole⟩⟩

/-- Members stay tidy in any order. -/
theorem IsTidy.perm {others : List (String × Document)} (h : IsTidy known members)
    (hperm : members.Perm others) : IsTidy known others :=
  ⟨(((hperm.map _).filter _).nodup_iff).mp h.nodup, fun member hmember =>
    h.isWhole member (hperm.mem_iff.mpr hmember)⟩

/-- There is no stray member where the members are tidy and no field was seen before. -/
theorem stray?_eq_none_iff_isTidy {place : Nat} :
    stray? known seen place members = none ↔
      IsTidy known members ∧ ∀ member ∈ members, member.1 ∈ known → member.1 ∉ seen := by
  induction members generalizing seen place with
  | nil => exact iff_of_true rfl ⟨isTidy_nil, by simp⟩
  | cons member members ih =>
      obtain ⟨key, document⟩ := member
      rw [stray?, List.forall_mem_cons]
      by_cases hknown : key ∈ known
      · rw [if_pos (by simpa using hknown), isTidy_cons_of_mem hknown]
        by_cases hseen : key ∈ seen
        · rw [if_pos (by simpa using hseen)]
          exact iff_of_false (by simp) fun h => h.2.1 hknown hseen
        · rw [if_neg (by simpa using hseen), ih]
          -- from here on the name counts as seen
          simp only [List.mem_cons, not_or]
          constructor
          · rintro ⟨htidy, hfresh⟩
            refine ⟨⟨fun member hmember heq => ?_, htidy⟩, fun _ => hseen, fun member hmember h =>
              (hfresh member hmember h).2⟩
            exact (hfresh member hmember (heq ▸ hknown)).1 heq
          · rintro ⟨⟨hne, htidy⟩, -, hfresh⟩
            exact ⟨htidy, fun member hmember h => ⟨hne member hmember, hfresh member hmember h⟩⟩
      · rw [if_neg (by simpa using hknown), isTidy_cons_of_not_mem hknown]
        by_cases hwhole : document.isWhole = true
        · rw [if_pos hwhole, ih]
          simp [hwhole, hknown]
        · rw [if_neg hwhole]
          exact iff_of_false (by simp) fun h => hwhole h.1.1

/-- The member with the name of a field is found wherever it stands. -/
theorem IsTidy.lookup_eq_some_iff (h : IsTidy known members) (hkey : key ∈ known) :
    members.lookup key = some document ↔ (key, document) ∈ members := by
  have hkept := lookup_filter (fun name => decide (name ∈ known)) members key
  have hnodup : ((members.filter fun member => decide (member.1 ∈ known)).map (·.1)).Nodup := by
    have hnodup := h.nodup
    rwa [List.filter_map] at hnodup
  rw [if_pos (decide_eq_true hkey)] at hkept
  rw [← hkept, lookup_eq_some_iff_of_nodup hnodup, List.mem_filter]
  exact and_iff_left (decide_eq_true hkey)

/-- The members of fields are the same in any order. -/
theorem IsTidy.lookup_perm {others : List (String × Document)} (h : IsTidy known members)
    (hperm : members.Perm others) (hkey : key ∈ known) :
    members.lookup key = others.lookup key := by
  refine Option.ext fun document => ?_
  rw [h.lookup_eq_some_iff hkey, (h.perm hperm).lookup_eq_some_iff hkey, hperm.mem_iff]

end Tidy

/-- **A record is decoded when its members are tidy and its fields give something.** -/
theorem decode_record_eq_ok_iff {shape : Shape α} {record : String} {origin : Origin}
    {members : List (String × Document)} {value : α} :
    shape.decode record origin (.record members) = .ok value ↔
      IsTidy shape.names members ∧ shape.fromMembers origin members = .ok value := by
  have hstray : stray? shape.names [] 0 members = none ↔ IsTidy shape.names members := by
    rw [stray?_eq_none_iff_isTidy]
    simp
  rw [← hstray]
  show ((Placed.unless _ _).mapError _ = _) ↔ _
  cases stray? shape.names [] 0 members with
  | none =>
      refine ⟨fun h => ⟨rfl, eq_ok_of_mapError h⟩, fun h => ?_⟩
      rw [h.2]
      rfl
  | some fault =>
      refine iff_of_false (fun h => ?_) fun h => by cases h.1
      obtain ⟨_, _, hfault, -⟩ := Placed.eq_ok_of_apply (eq_ok_of_mapError h)
      cases hfault

section Alike

variable {shape : Shape α} {record : String} {origin : Origin} {value : α}
variable {members others : List (String × Document)}

theorem isTidy_of_decode_record (h : shape.decode record origin (.record members) = .ok value) :
    IsTidy shape.names members :=
  (decode_record_eq_ok_iff.mp h).1

/-- **Records are decoded alike whose members are found alike** under the names of the fields. -/
theorem decode_record_of_lookup (htidy : IsTidy shape.names others)
    (hlookup : ∀ name ∈ shape.names, others.lookup name = members.lookup name)
    (h : shape.decode record origin (.record members) = .ok value) :
    shape.decode record origin (.record others) = .ok value := by
  rw [decode_record_eq_ok_iff] at h ⊢
  refine ⟨htidy, fromMembers_of_slots (fun hfield hslot => ?_) h.2⟩
  rwa [slot, hlookup _ hfield.mem_names]

/-- **Records are decoded alike that differ at one field**, if this field still gives the same. -/
theorem decode_record_of_slot (hnames : shape.names.Nodup)
    (hfield : shape.HasField name absent read) (htidy : IsTidy shape.names others)
    (hslot : ∀ {argument}, slot origin members name absent read = some argument →
      slot origin others name absent read = some argument)
    (hlookup : ∀ other, other ≠ name → others.lookup other = members.lookup other)
    (h : shape.decode record origin (.record members) = .ok value) :
    shape.decode record origin (.record others) = .ok value := by
  rw [decode_record_eq_ok_iff] at h ⊢
  refine ⟨htidy, fromMembers_of_slots (fun {_ other _ _ _} hother => ?_) h.2⟩
  by_cases hname : other = name
  · subst hname
    -- the field of this name is the only one
    exact hfield.forall_of hnames (P := fun absent read => ∀ {argument},
      slot origin members other absent read = some argument →
        slot origin others other absent read = some argument) hslot hother
  · rw [slot, slot, hlookup other hname]
    exact id

end Alike

end Shape

/-! ### Tags -/

namespace Document

theorem isUsableMembers_eq_all (members : List (String × Document)) :
    isUsableMembers members = members.all (·.2.isUsable) := by
  induction members with
  | nil => rfl
  | cons member members ih => rw [isUsableMembers, List.all_cons, ih]

theorem isUsableList_eq_all (items : List Document) :
    isUsableList items = items.all (·.isUsable) := by
  induction items with
  | nil => rfl
  | cons item items ih => rw [isUsableList, List.all_cons, ih]

mutual

/-- What can be kept for later can be passed over. -/
theorem isWhole_of_isUsable : (document : Document) → document.isUsable = true →
    document.isWhole = true
  | .null, _ | .bool _, _ | .int _, _ | .real _, _ | .str _, _ | .moment, _ => rfl
  | .list items, h => isWholeList_of_isUsableList items h
  | .record members, h => isWholeMembers_of_isUsableMembers members h
  | .unusable, h | .torn, h | .cutRecord _ _, h => by cases h

theorem isWholeList_of_isUsableList : (items : List Document) → isUsableList items = true →
    isWholeList items = true
  | [], _ => rfl
  | item :: items, h => by
      rw [isUsableList, Bool.and_eq_true] at h
      rw [isWholeList, isWhole_of_isUsable item h.1, isWholeList_of_isUsableList items h.2]
      rfl

theorem isWholeMembers_of_isUsableMembers : (members : List (String × Document)) →
    isUsableMembers members = true → isWholeMembers members = true
  | [], _ => rfl
  | (_, value) :: members, h => by
      rw [isUsableMembers, Bool.and_eq_true] at h
      rw [isWholeMembers, isWhole_of_isUsable value h.1,
        isWholeMembers_of_isUsableMembers members h.2]
      rfl

end

end Document

namespace Decoder

variable {tag key : String} {variants : List (String × α)} {before after : List (String × Document)}

/-- A member that is not the tag is kept in front of what is kept of the others. -/
theorem exists_of_splitTag_cons {name : String} {document : Document} {found chosen : Option α}
    {members others : List (String × Document)} (hname : name ≠ tag)
    (h : splitTag tag variants found ((name, document) :: members) = .ok (chosen, others)) :
    document.isUsable = true ∧ ∃ rest, others = (name, document) :: rest ∧
      splitTag tag variants found members = .ok (chosen, rest) := by
  rw [splitTag, if_neg hname, hold] at h
  obtain ⟨kept, hkept, h⟩ := bind_eq_ok h
  obtain ⟨⟨chosen', rest⟩, hrest, h⟩ := bind_eq_ok h
  split at hkept
  · next husable =>
      cases hkept
      cases h
      exact ⟨husable, rest, rfl, hrest⟩
  · cases hkept

/-- Behind the tag no other one is taken, and everything is kept. -/
theorem eq_of_splitTag_some {found : α} {members others : List (String × Document)}
    {chosen : Option α} (h : splitTag tag variants (some found) members = .ok (chosen, others)) :
    chosen = some found ∧ others = members ∧ (∀ member ∈ members, member.1 ≠ tag) ∧
      Document.isUsableMembers members = true := by
  induction members generalizing others with
  | nil =>
      cases h
      exact ⟨rfl, rfl, by simp, rfl⟩
  | cons member members ih =>
      obtain ⟨name, document⟩ := member
      by_cases hname : name = tag
      · rw [splitTag, if_pos hname, if_pos Option.isSome_some] at h
        cases h
      · obtain ⟨hdocument, rest, rfl, hrest⟩ := exists_of_splitTag_cons hname h
        obtain ⟨rfl, rfl, htag, husable⟩ := ih hrest
        refine ⟨rfl, rfl, List.forall_mem_cons.mpr ⟨hname, htag⟩, ?_⟩
        rw [Document.isUsableMembers, hdocument, husable]
        rfl

/-- **Where the tag of a record was found, wherever it stands**, it is the only one, it chooses a
variant, and the other members are kept in their order. -/
theorem eq_of_splitTag_append_cons {others : List (String × Document)} {chosen : Option α}
    (h : splitTag tag variants none (before ++ (tag, .str key) :: after) = .ok (chosen, others)) :
    (∃ value, variants.lookup key = some value ∧ chosen = some value) ∧ others = before ++ after ∧
      (∀ member ∈ before ++ after, member.1 ≠ tag) ∧
      Document.isUsableMembers (before ++ after) = true := by
  induction before generalizing others with
  | nil =>
      rw [List.nil_append, splitTag, if_pos rfl, if_neg (by simp), tagValue, variantNamed] at h
      obtain ⟨value, hvalue, h⟩ := bind_eq_ok h
      obtain ⟨rfl, rfl, htag, husable⟩ := eq_of_splitTag_some h
      refine ⟨⟨value, ?_, rfl⟩, rfl, htag, husable⟩
      split at hvalue <;> cases hvalue
      assumption
  | cons member before ih =>
      obtain ⟨name, document⟩ := member
      by_cases hname : name = tag
      · -- another tag in front would make this one a second
        rw [List.cons_append, splitTag, if_pos hname, if_neg (by simp)] at h
        obtain ⟨first, -, h⟩ := bind_eq_ok h
        obtain ⟨-, -, htag, -⟩ := eq_of_splitTag_some h
        exact absurd rfl (htag (tag, .str key) (by simp))
      · obtain ⟨hdocument, rest, rfl, hrest⟩ := exists_of_splitTag_cons hname h
        obtain ⟨hchosen, rfl, htag, husable⟩ := ih hrest
        refine ⟨hchosen, rfl, List.forall_mem_cons.mpr ⟨hname, htag⟩, ?_⟩
        rw [List.cons_append, Document.isUsableMembers, hdocument, husable]
        rfl

/-- **The tag of a record is found wherever it stands.** -/
theorem splitTag_append_cons {value : α} (hkey : variants.lookup key = some value)
    (htag : ∀ member ∈ before ++ after, member.1 ≠ tag)
    (husable : Document.isUsableMembers (before ++ after) = true) :
    splitTag tag variants none (before ++ (tag, .str key) :: after) =
      .ok (some value, before ++ after) := by
  induction before with
  | nil =>
      rw [List.nil_append, splitTag, if_pos rfl, if_neg (by simp), tagValue, variantNamed, hkey]
      exact splitTag_of_not_mem htag husable
  | cons member before ih =>
      obtain ⟨name, document⟩ := member
      rw [List.cons_append, List.forall_mem_cons] at htag
      rw [List.cons_append, Document.isUsableMembers, Bool.and_eq_true] at husable
      rw [List.cons_append, splitTag, if_neg htag.1, hold, if_pos husable.1, ih htag.2 husable.2]
      rfl

end Decoder

end Bindery
