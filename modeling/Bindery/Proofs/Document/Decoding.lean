import Bindery.Document.Shape
import Bindery.Proofs.Result

/-!
# What decoders give

A decoder accepts a value only through the decoders of its parts.  So a property of everything that
it gives (`Decoder.Yields`) is found from properties of what they give, whatever the document and
however it is written.  For a record the property goes from the shape to its decoder by
`Shape.Yields.decode`, and for a tagged one by `Decoder.Yields.tagged`; the rules for fields follow
the shape one field at a time.
-/

namespace Bindery

variable {α β : Type}

/-- **Everything that a decoder gives has a property.** -/
structure Decoder.Yields (read : Decoder α) (P : α → Prop) : Prop where
  of_ok : ∀ {origin : Origin} {document : Document} {value : α},
    read origin document = .ok value → P value

namespace Decoder

namespace Yields

variable {read : Decoder α} {P : α → Prop}

/-- Nothing is asked of some values. -/
theorem any (read : Decoder α) : read.Yields fun _ => True := ⟨fun _ => trivial⟩

theorem name {read : String → Except NameError α}
    (h : ∀ {text value}, read text = .ok value → P value) :
    (Decoder.name read).Yields P := by
  refine ⟨fun {origin document value} hvalue => ?_⟩
  rw [Decoder.name] at hvalue
  obtain ⟨text, -, hvalue⟩ := bind_eq_ok hvalue
  split at hvalue
  · next hread =>
      cases hvalue
      exact h hread
  · cases hvalue

theorem sequence (h : read.Yields P) :
    (Decoder.sequence read).Yields fun items => ∀ item ∈ items, P item := by
  refine ⟨fun {origin document items} hitems => ?_⟩
  unfold Decoder.sequence at hitems
  split at hitems
  · exact forall_of_mapM (fun _ _ _ => h.of_ok) hitems
  · cases hitems

theorem nullable (h : read.Yields P) :
    (Decoder.nullable read).Yields fun found => ∀ value ∈ found, P value := by
  refine ⟨fun {origin document found} hfound => ?_⟩
  unfold Decoder.nullable at hfound
  split at hfound
  · cases hfound
    simp
  · obtain ⟨value, hvalue, rfl⟩ := map_eq_ok hfound
    rintro _ ⟨⟩
    exact h.of_ok hvalue

theorem map {f : α → β} {Q : β → Prop} (h : read.Yields P) (hf : ∀ {value}, P value → Q (f value)) :
    Yields (fun origin document => (read origin document).map f) Q := by
  refine ⟨fun {origin document result} hresult => ?_⟩
  obtain ⟨value, hvalue, rfl⟩ := map_eq_ok hresult
  exact hf (h.of_ok hvalue)

end Yields

/-! ### Variants -/

/-- A variant that is found by its name is one of the variants. -/
theorem mem_of_variantNamed {variants : List (String × α)} {key : String} {value : α}
    (h : variantNamed variants key = .ok value) : (key, value) ∈ variants := by
  rw [variantNamed] at h
  split at h
  · next hlookup =>
      cases h
      obtain ⟨before, after, rfl, -⟩ := List.lookup_eq_some_iff.mp hlookup
      simp
  · cases h

theorem exists_mem_of_tagValue {variants : List (String × α)} {document : Document} {value : α}
    (h : tagValue variants document = .ok value) : ∃ key, (key, value) ∈ variants := by
  cases document with
  | str key => exact ⟨key, mem_of_variantNamed h⟩
  | _ => cases h

/-- The variant that a tag chooses among the members is one of the variants, unless it was
chosen before. -/
theorem mem_of_splitTag {tag : String} {variants : List (String × α)} {found : Option α}
    {members others : List (String × Document)} {chosen : α}
    (h : splitTag tag variants found members = .ok (some chosen, others)) :
    found = some chosen ∨ ∃ key, (key, chosen) ∈ variants := by
  -- the choice is handed on from member to member, and only the tag changes it
  induction members generalizing found others with
  | nil =>
      cases h
      exact .inl rfl
  | cons member members ih =>
      rw [splitTag] at h
      split at h
      · split at h
        · cases h
        · obtain ⟨value, hvalue, h⟩ := bind_eq_ok h
          rcases ih h with heq | hmem
          · cases heq
            exact .inr (exists_mem_of_tagValue hvalue)
          · exact .inr hmem
      · obtain ⟨kept, -, h⟩ := bind_eq_ok h
        obtain ⟨⟨value, rest⟩, hrest, h⟩ := bind_eq_ok h
        cases h
        exact ih hrest

/-- **A tagged record gives what one of its variants gives.** -/
theorem Yields.tagged {tag name : String} {variants : List (String × Decoder α)} {P : α → Prop}
    (h : ∀ variant ∈ variants, variant.2.Yields P) :
    (Decoder.tagged tag name variants).Yields P := by
  refine ⟨fun {origin document value} hvalue => ?_⟩
  have hchosen {read : Decoder α} (hread : ∃ key, (key, read) ∈ variants) : read.Yields P := by
    obtain ⟨key, hmem⟩ := hread
    exact h (key, read) hmem
  unfold Decoder.tagged at hvalue
  split at hvalue
  · obtain ⟨⟨chosen, others⟩, hsplit, hvalue⟩ := bind_eq_ok hvalue
    cases chosen with
    | none => cases hvalue
    | some read =>
        rcases mem_of_splitTag hsplit with heq | hmem
        · cases heq
        · exact (hchosen hmem).of_ok hvalue
  · obtain ⟨-, -, hvalue⟩ := bind_eq_ok hvalue
    cases hvalue
  · cases hvalue
  · obtain ⟨read, hread, hvalue⟩ := bind_eq_ok hvalue
    obtain ⟨kept, -, hvalue⟩ := bind_eq_ok hvalue
    exact (hchosen (exists_mem_of_tagValue hread)).of_ok hvalue
  · cases hvalue

end Decoder

/-! ### Records -/

/-- **Everything that is built from the fields of a shape has a property.**  For each field
there is a property of the values that are read and of the one that stands for an absent field. -/
def Shape.Yields : {α : Type} → Shape α → (α → Prop) → Prop
  | _, .done value, P => P value
  | _, .field (β := β) before _ absent read, P =>
    ∃ Q : β → Prop, read.Yields Q ∧ (∀ value ∈ absent, Q value) ∧
      before.Yields fun build => ∀ value, Q value → P (build value)

theorem Placed.eq_ok_of_apply {f : Placed (β → α)} {x : Placed β} {result : α}
    (h : Placed.apply f x = .ok result) :
    ∃ build value, f = .ok build ∧ x = .ok value ∧ build value = result := by
  cases f <;> cases x <;> cases h
  exact ⟨_, _, rfl, rfl, rfl⟩

theorem Placed.eq_ok_of_unless {placed : Placed α} {found : Option (Nat × Fault)} {result : α}
    (h : placed.unless found = .ok result) : placed = .ok result := by
  cases found with
  | none => exact h
  | some fault =>
      obtain ⟨_, _, hfault, -⟩ := Placed.eq_ok_of_apply h
      cases hfault

namespace Shape.Yields

variable {P : α → Prop}

theorem done {value : α} (h : P value) : (Shape.done value).Yields P := h

/-- A field that has to be present. -/
theorem required {before : Shape (β → α)} {name : String} {read : Decoder β} {Q : β → Prop}
    (hread : read.Yields Q) (h : before.Yields fun build => ∀ value, Q value → P (build value)) :
    (before.required name read).Yields P :=
  ⟨Q, hread, by simp, h⟩

/-- A field that may be absent. -/
theorem optional {before : Shape (β → α)} {name : String} {absent : β} {read : Decoder β}
    {Q : β → Prop} (hread : read.Yields Q) (habsent : Q absent)
    (h : before.Yields fun build => ∀ value, Q value → P (build value)) :
    (before.optional name absent read).Yields P :=
  ⟨Q, hread, by simpa using habsent, h⟩

theorem of_fromMembers {origin : Origin} {members : List (String × Document)} {α : Type}
    {shape : Shape α} {P : α → Prop} (h : shape.Yields P) {value : α}
    (hvalue : shape.fromMembers origin members = .ok value) :
    P value := by
  induction shape with
  | done value' =>
      cases hvalue
      exact h
  | field before name absent read ih =>
      obtain ⟨Q, hread, habsent, hbefore⟩ := h
      obtain ⟨build, x, hbuild, hx, rfl⟩ := Placed.eq_ok_of_apply hvalue
      refine ih hbefore hbuild x ?_
      split at hx
      · exact hread.of_ok (eq_ok_of_mapError hx)
      · cases hx
        exact habsent _ rfl
      · cases hx

theorem of_fromItems {record : String} {size : Nat} {origin : Origin} {items : List Document}
    {α : Type} {shape : Shape α} {P : α → Prop} (h : shape.Yields P) {value : α}
    (hvalue : shape.fromItems record size origin items = .ok value) :
    P value := by
  induction shape with
  | done value' =>
      cases hvalue
      exact h
  | field before name absent read ih =>
      obtain ⟨Q, hread, habsent, hbefore⟩ := h
      obtain ⟨build, x, hbuild, hx, rfl⟩ := Placed.eq_ok_of_apply hvalue
      refine ih hbefore hbuild x ?_
      split at hx
      · exact hread.of_ok (eq_ok_of_mapError hx)
      · cases hx
        exact habsent _ rfl
      · cases hx

/-- **The decoder of a record gives what its shape gives**, whether the fields come by name or
by place. -/
theorem decode {name : String} {shape : Shape α} (h : shape.Yields P) :
    (shape.decode name).Yields P := by
  refine ⟨fun {origin document value} hvalue => ?_⟩
  unfold Shape.decode at hvalue
  split at hvalue
  · exact of_fromMembers h (Placed.eq_ok_of_unless (eq_ok_of_mapError hvalue))
  · exact of_fromMembers h (Placed.eq_ok_of_unless (eq_ok_of_mapError hvalue))
  · exact of_fromMembers h
      (Placed.eq_ok_of_unless (Placed.eq_ok_of_unless (eq_ok_of_mapError hvalue)))
  · exact of_fromItems h (Placed.eq_ok_of_unless (eq_ok_of_mapError hvalue))
  · cases hvalue

end Shape.Yields

end Bindery
