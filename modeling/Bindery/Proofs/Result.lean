import Mathlib.Data.List.Forall2

/-!
# Results of steps that may fail

Readers and decoders are sequences of steps, each of which gives a value or a fault.  Where a
statement says which value is read, if any, the faults do not matter and the result is taken as an
`Option`.  `toOption_bind`, `toOption_map` and `toOption_mapM` forget the faults of composed steps.
-/

namespace Bindery

variable {ε α β : Type}

/-- What two steps give is given by the second. -/
theorem bind_eq_ok {first : Except ε α} {next : α → Except ε β} {result : β}
    (h : (first >>= next) = .ok result) : ∃ value, first = .ok value ∧ next value = .ok result := by
  cases first with
  | error fault => cases h
  | ok value => exact ⟨value, rfl, h⟩

/-- What a function of a value gives comes from the value. -/
theorem map_eq_ok {f : α → β} {result : Except ε α} {value : β} (h : result.map f = .ok value) :
    ∃ argument, result = .ok argument ∧ f argument = value := by
  cases result with
  | error fault => cases h
  | ok argument =>
      cases h
      exact ⟨argument, rfl, rfl⟩

/-- A fault that is put in other words is a fault. -/
theorem eq_ok_of_mapError {ε' : Type} {f : ε → ε'} {result : Except ε α} {value : α}
    (h : result.mapError f = .ok value) : result = .ok value := by
  cases result <;> cases h
  rfl

/-- The steps of a sequence give the elements of the list that it gives. -/
theorem forall₂_of_mapM {read : α → Except ε β} {items : List α} {results : List β}
    (h : items.mapM read = .ok results) :
    List.Forall₂ (fun item result => read item = .ok result) items results := by
  induction items generalizing results with
  | nil =>
      cases h
      exact .nil
  | cons item items ih =>
      rw [List.mapM_cons] at h
      obtain ⟨first, hfirst, h⟩ := bind_eq_ok h
      obtain ⟨others, hothers, h⟩ := bind_eq_ok h
      cases h
      exact .cons hfirst (ih hothers)

/-- Steps that give the elements of a list make up a sequence that gives the list. -/
theorem mapM_eq_ok_of_forall₂ {read : α → Except ε β} {items : List α} {results : List β}
    (h : List.Forall₂ (fun item result => read item = .ok result) items results) :
    items.mapM read = .ok results := by
  induction h with
  | nil => rfl
  | cons hfirst _ ih =>
      rw [List.mapM_cons, hfirst, ih]
      rfl

/-- What is read by every step of a sequence has the property that the step gives. -/
theorem forall_of_mapM {read : α → Except ε β} {P : β → Prop} {items : List α}
    {results : List β} (hread : ∀ item ∈ items, ∀ result, read item = .ok result → P result)
    (h : items.mapM read = .ok results) : ∀ result ∈ results, P result := by
  have hsteps := forall₂_of_mapM h
  intro result hresult
  obtain ⟨i, hi, rfl⟩ := List.mem_iff_getElem.mp hresult
  have hi' : i < items.length := hsteps.length_eq ▸ hi
  exact hread _ (List.getElem_mem hi') _ (hsteps.get hi' hi)

/-- Only an empty sequence gives an empty list of results. -/
theorem eq_nil_of_mapM {read : α → Except ε β} {items : List α} (h : items.mapM read = .ok []) :
    items = [] :=
  List.forall₂_nil_right_iff.mp (forall₂_of_mapM h)

/-- A sequence of steps gives a list exactly when its steps give the elements. -/
theorem mapM_eq_ok_iff {read : α → Except ε β} {items : List α} {results : List β} :
    items.mapM read = .ok results ↔ results.map .ok = items.map read := by
  have hsteps : results.map .ok = items.map read ↔
      List.Forall₂ (fun item result => read item = .ok result) items results := by
    rw [eq_comm, ← List.forall₂_eq_eq_eq, List.forall₂_map_left_iff, List.forall₂_map_right_iff]
  rw [hsteps]
  exact ⟨forall₂_of_mapM, mapM_eq_ok_of_forall₂⟩

/-- A sequence of steps gives a list exactly when each of its steps gives something. -/
theorem exists_mapM_eq_ok_iff {read : α → Except ε β} {items : List α} :
    (∃ results, items.mapM read = .ok results) ↔
      ∀ item ∈ items, ∃ result, read item = .ok result := by
  induction items with
  | nil => exact iff_of_true ⟨[], rfl⟩ (by simp)
  | cons item items ih =>
      rw [List.forall_mem_cons, ← ih, List.mapM_cons]
      constructor
      · rintro ⟨results, h⟩
        obtain ⟨first, hfirst, h⟩ := bind_eq_ok h
        obtain ⟨others, hothers, -⟩ := bind_eq_ok h
        exact ⟨⟨first, hfirst⟩, others, hothers⟩
      · rintro ⟨⟨first, hfirst⟩, others, hothers⟩
        refine ⟨first :: others, ?_⟩
        rw [hfirst, hothers]
        rfl

/-- A sequence gives the same when an item is replaced by another that gives the same. -/
theorem mapM_append_cons_eq_ok {read : α → Except ε β} {before after : List α} {old item : α}
    {results : List β} (hitem : ∀ {result}, read old = .ok result → read item = .ok result)
    (h : (before ++ old :: after).mapM read = .ok results) :
    (before ++ item :: after).mapM read = .ok results := by
  obtain ⟨result, hold⟩ := exists_mapM_eq_ok_iff.mp ⟨results, h⟩ old (by simp)
  rw [mapM_eq_ok_iff] at h ⊢
  rw [h, List.map_append, List.map_append, List.map_cons, List.map_cons, hold, hitem hold]

/-- A result is a value exactly when it is that value with its fault forgotten. -/
theorem toOption_eq_some {result : Except ε α} {value : α} :
    result.toOption = some value ↔ result = .ok value := by
  cases result <;> simp [Except.toOption]

/-- A result is a fault exactly when no value is left with its fault forgotten. -/
theorem toOption_eq_none {result : Except ε α} :
    result.toOption = none ↔ ∃ fault, result = .error fault := by
  cases result <;> simp [Except.toOption]

@[simp] theorem toOption_ok (value : α) :
    (Except.ok value : Except ε α).toOption = some value := rfl

@[simp] theorem toOption_error (fault : ε) :
    (Except.error fault : Except ε α).toOption = none := rfl

theorem toOption_bind (first : Except ε α) (next : α → Except ε β) :
    (first >>= next).toOption = first.toOption.bind fun value => (next value).toOption := by
  cases first <;> rfl

@[simp] theorem toOption_map (f : α → β) (result : Except ε α) :
    (result.map f).toOption = result.toOption.map f := by
  cases result <;> rfl

@[simp] theorem toOption_mapError {ε' : Type} (f : ε → ε') (result : Except ε α) :
    (result.mapError f).toOption = result.toOption := by
  cases result <;> rfl

/-- A sequence of steps over a list gives what the steps give with their faults forgotten. -/
theorem toOption_mapM (f : α → Except ε β) (items : List α) :
    (items.mapM f).toOption = items.mapM fun item => (f item).toOption := by
  induction items with
  | nil => rfl
  | cons item items ih =>
      rw [List.mapM_cons, List.mapM_cons, toOption_bind]
      cases f item with
      | error fault => rfl
      | ok value =>
          show ((items.mapM f) >>= _).toOption = (items.mapM fun item => (f item).toOption).bind _
          rw [toOption_bind, ih]
          rfl

end Bindery
