import Bindery.Declaration.Format
import Bindery.Proofs.Document.Json.RoundTrip
import Bindery.Proofs.Lookup
import Bindery.Proofs.Result

/-!
# What decoders read of written values

A value that is written as a document and decoded again comes back, or nothing does.  Which of the
two it is depends on a condition on the value, and the condition of a compound value is the
conjunction of those of its parts.  So whether a record is read back is found field by field, in the
order of its shape, by `Shape.Reads.required`, `Shape.Reads.optional` and their like.

`onlyIf` is the value where the condition holds and nothing otherwise.  Keeping the condition inside
the statement, where one could assume it, gives both halves at once: that a value comes back, and
that no other value ever does.
-/

namespace Bindery

variable {α β : Type}

/-- A value where a condition holds. -/
def onlyIf (holds : Bool) (value : α) : Option α := if holds then some value else none

@[simp] theorem onlyIf_true (value : α) : onlyIf true value = some value := rfl

@[simp] theorem onlyIf_false (value : α) : onlyIf false value = none := rfl

theorem map_onlyIf (f : α → β) (holds : Bool) (value : α) :
    (onlyIf holds value).map f = onlyIf holds (f value) := by
  cases holds <;> rfl

/-- A function and its argument are both there when both conditions hold. -/
theorem onlyIf_bind_map (first second : Bool) (build : β → α) (value : β) :
    ((onlyIf first build).bind fun build => (onlyIf second value).map build) =
      onlyIf (first && second) (build value) := by
  cases first <;> cases second <;> rfl

/-! ### Decoders -/

/-- **A decoder reads a document as a value if a condition holds**, and otherwise not at all,
wherever the document comes from. -/
def Decoder.Reads (read : Decoder α) (document : Document) (holds : Bool) (value : α) : Prop :=
  ∀ origin, (read origin document).toOption = onlyIf holds value

namespace Decoder.Reads

variable {read : Decoder α} {document : Document} {holds : Bool} {value : α}

theorem congr {other : Bool} (h : read.Reads document holds value) (heq : holds = other) :
    read.Reads document other value := heq ▸ h

theorem string (text : String) : Decoder.string.Reads (.str text) true text := fun _ => rfl

theorem boolean (b : Bool) : Decoder.boolean.Reads (.bool b) true b := fun _ => rfl

theorem variant {variants : List (String × α)} {key : String}
    (h : variants.lookup key = some value) :
    (Decoder.variant variants).Reads (.str key) true value := by
  intro origin
  unfold Decoder.variant
  cases origin <;> simp [variantNamed, h]

theorem name {read : String → Except NameError α} {text : String}
    (h : (read text).toOption = onlyIf holds value) :
    (Decoder.name read).Reads (.str text) holds value := by
  intro origin
  have hstring : Decoder.string origin (.str text) = .ok text := rfl
  rw [← h, Decoder.name, hstring]
  cases hread : read text with
  | ok value =>
      simp only [bind, Except.bind, hread]
      rfl
  | error refusal =>
      simp only [bind, Except.bind, hread]
      rfl

theorem map (f : α → β) (h : read.Reads document holds value) :
    Reads (fun origin document => (read origin document).map f) document holds (f value) := by
  intro origin
  rw [toOption_map, h, map_onlyIf]

/-- A list is read back when all its items are. -/
theorem sequence {write : α → Document} {readable : α → Bool} {items : List α}
    (h : ∀ item ∈ items, read.Reads (write item) (readable item) item) :
    (Decoder.sequence read).Reads (.list (items.map write)) (items.all readable) items := by
  intro origin
  show ((items.map write).mapM (read origin)).toOption = _
  rw [toOption_mapM]
  induction items with
  | nil => rfl
  | cons item items ih =>
      rw [List.forall_mem_cons] at h
      rw [List.map_cons, List.mapM_cons, h.1, ih h.2, List.all_cons]
      cases readable item <;> cases items.all readable <;> rfl

/-- A record whose keys are not known beforehand is read entry by entry. -/
theorem table {write : α → Document} {entries : List (String × α)}
    (h : ∀ entry ∈ entries, read.Reads (write entry.2) true entry.2) :
    (Decoder.table read).Reads (.record (entries.map fun entry => (entry.1, write entry.2))) true
      entries := by
  intro origin
  show ((entries.map fun entry => (entry.1, write entry.2)).mapM fun member =>
    (read origin member.2).map (member.1, ·)).toOption = _
  rw [toOption_mapM]
  induction entries with
  | nil => rfl
  | cons entry entries ih =>
      rw [List.forall_mem_cons] at h
      rw [List.map_cons, List.mapM_cons, toOption_map, h.1, ih h.2]
      rfl

theorem nullable {write : α → Document} {readable : α → Bool} {found : Option α}
    (hwrite : ∀ value ∈ found, write value ≠ .null)
    (h : ∀ value ∈ found, read.Reads (write value) (readable value) value) :
    (Decoder.nullable read).Reads (nullableDocument write found) (found.all readable) found := by
  intro origin
  cases found with
  | none => rfl
  | some value =>
      show (Decoder.nullable read origin (write value)).toOption = _
      have hvalue := h value rfl origin
      have hnull := hwrite value rfl
      unfold Decoder.nullable
      split
      · exact absurd ‹_› hnull
      · rw [toOption_map, hvalue, map_onlyIf]
        rfl

end Decoder.Reads

/-! ### Records -/

theorem toOption_apply (f : Placed (β → α)) (x : Placed β) :
    (Placed.apply f x).toOption = f.toOption.bind fun build => x.toOption.map build := by
  cases f <;> cases x <;> rfl

/-- **What is built from the members of a record is a value if a condition holds**, and
otherwise nothing. -/
def Shape.Reads (shape : Shape α) (members : List (String × Document)) (holds : Bool) (value : α) :
    Prop :=
  ∀ origin, (shape.fromMembers origin members).toOption = onlyIf holds value

theorem map_snd_member? (name : String) (members : List (String × Document)) :
    (Document.member? name members).map (·.2) = members.lookup name := by
  induction members with
  | nil => rfl
  | cons member members ih =>
      obtain ⟨key, value⟩ := member
      rw [Document.member?]
      by_cases h : key = name
      · subst h
        simp
      · rw [if_neg h, lookup_cons_of_ne _ _ (Ne.symm h), Option.map_map, ← ih]
        rfl

/-- What a field gives depends on the member with its name. -/
theorem toOption_fromMembers_field (before : Shape (β → α)) (name : String) (absent : Option β)
    (read : Decoder β) (origin : Origin) (members : List (String × Document)) :
    ((Shape.field before name absent read).fromMembers origin members).toOption =
      (before.fromMembers origin members).toOption.bind fun build =>
        ((members.lookup name).elim absent fun document => (read origin document).toOption).map
          build := by
  rw [← map_snd_member?]
  show (Placed.apply _ _).toOption = _
  rw [toOption_apply]
  cases Document.member? name members with
  | none => cases absent <;> rfl
  | some found =>
      dsimp only
      rw [toOption_mapError]
      rfl

/-- No member is a stranger where each known field stands at most once and nothing else does. -/
theorem stray?_eq_none {known seen : List String} {place : Nat} {members : List (String × Document)}
    (hknown : ∀ member ∈ members, member.1 ∈ known) (hnodup : (members.map (·.1)).Nodup)
    (hseen : ∀ member ∈ members, member.1 ∉ seen) :
    Shape.stray? known seen place members = none := by
  induction members generalizing seen place with
  | nil => rfl
  | cons member members ih =>
      obtain ⟨key, value⟩ := member
      rw [List.forall_mem_cons] at hknown hseen
      rw [List.map_cons, List.nodup_cons] at hnodup
      rw [Shape.stray?, if_pos (by simpa using hknown.1), if_neg (by simpa using hseen.1)]
      refine ih hknown.2 hnodup.2 fun other hother hmem => ?_
      rcases List.mem_cons.mp hmem with heq | hmem
      · exact hnodup.1 (List.mem_map.mpr ⟨other, hother, heq⟩)
      · exact hseen.2 other hother hmem

namespace Shape.Reads

variable {members : List (String × Document)} {holds second : Bool} {build : β → α} {value : β}
variable {before : Shape (β → α)} {name : String} {read : Decoder β} {document : Document}

theorem congr {shape : Shape α} {value : α} {other : Bool} (h : shape.Reads members holds value)
    (heq : holds = other) : shape.Reads members other value := heq ▸ h

theorem done (value : α) : (Shape.done value).Reads members true value := fun _ => rfl

/-- A field that is present. -/
theorem field {absent : Option β} (h : before.Reads members holds build)
    (hmember : members.lookup name = some document) (hread : read.Reads document second value) :
    (Shape.field before name absent read).Reads members (holds && second) (build value) := by
  intro origin
  rw [toOption_fromMembers_field, h, hmember, Option.elim_some, hread, onlyIf_bind_map]

theorem required (h : before.Reads members holds build)
    (hmember : members.lookup name = some document) (hread : read.Reads document second value) :
    (before.required name read).Reads members (holds && second) (build value) :=
  field h hmember hread

theorem optional {absent : β} (h : before.Reads members holds build)
    (hmember : members.lookup name = some document) (hread : read.Reads document second value) :
    (before.optional name absent read).Reads members (holds && second) (build value) :=
  field h hmember hread

/-- A field that is absent. -/
theorem absent {absent : β} (h : before.Reads members holds build)
    (hmember : members.lookup name = none) :
    (before.optional name absent read).Reads members holds (build absent) := by
  intro origin
  rw [Shape.optional, toOption_fromMembers_field, h, hmember]
  cases holds <;> rfl

/-- A list that is left out where it is empty. -/
theorem listMember {item : Decoder β} {before : Shape (List β → α)} {build : List β → α}
    {write : β → Document} {readable : β → Bool} {items : List β}
    (h : before.Reads members holds build)
    (hmember : members.lookup name = (Bindery.listMember name write items).lookup name)
    (hread : ∀ x ∈ items, item.Reads (write x) (readable x) x) :
    (before.optional name [] (Decoder.sequence item)).Reads members (holds && items.all readable)
      (build items) := by
  cases items with
  | nil => exact (absent h hmember).congr (by simp)
  | cons first rest =>
      refine optional h ?_ (.sequence hread)
      rw [hmember]
      simp [Bindery.listMember]

/-- **A record is read as its shape reads its members.** -/
theorem decode {shape : Shape α} {record : String} {value : α} (h : shape.Reads members holds value)
    (hkeys : (members.map (·.1)).Sublist shape.names) (hnames : shape.names.Nodup) :
    (shape.decode record).Reads (.record members) holds value := by
  intro origin
  have hstray : Shape.stray? shape.names [] 0 members = none :=
    stray?_eq_none (fun member hmember => hkeys.subset (List.mem_map_of_mem hmember))
      (hnames.sublist hkeys) (by simp)
  show ((Placed.unless _ _).mapError _).toOption = _
  rw [hstray, toOption_mapError]
  exact h origin

end Shape.Reads

/-! ### Tagged records -/

namespace Decoder

theorem splitTag_of_not_mem {tag : String} {variants : List (String × α)} {found : Option α}
    {members : List (String × Document)} (htag : ∀ member ∈ members, member.1 ≠ tag)
    (husable : Document.isUsableMembers members = true) :
    splitTag tag variants found members = .ok (found, members) := by
  induction members with
  | nil => rfl
  | cons member members ih =>
      obtain ⟨key, value⟩ := member
      rw [List.forall_mem_cons] at htag
      rw [Document.isUsableMembers, Bool.and_eq_true] at husable
      rw [splitTag, if_neg htag.1, hold, if_pos husable.1, ih htag.2 husable.2]
      rfl

/-- **A tagged record is read as the variant of its tag reads the other members.** -/
theorem Reads.tagged {tag name key : String} {variants : List (String × Decoder α)}
    {read : Decoder α} {members : List (String × Document)} {holds : Bool} {value : α}
    (hkey : variants.lookup key = some read) (htag : ∀ member ∈ members, member.1 ≠ tag)
    (husable : Document.isUsableMembers members = true)
    (h : read.Reads (.record members) holds value) :
    (Decoder.tagged tag name variants).Reads (.record ((tag, .str key) :: members)) holds
      value := by
  intro origin
  -- the tag is written first, and no other member is taken for it
  have hsplit :
      splitTag tag variants none ((tag, .str key) :: members) = .ok (some read, members) := by
    rw [splitTag, if_pos rfl, if_neg (by simp), tagValue, variantNamed, hkey]
    exact splitTag_of_not_mem htag husable
  show (splitTag tag variants none ((tag, .str key) :: members) >>= _).toOption = _
  rw [hsplit]
  exact h .held

end Decoder

end Bindery
