import Bindery.Text.Identifier
import Bindery.Text.Split

/-!
# Splitting undoes joining

`joinWith_splitOn` says that the pieces of a text give the text.  Names are written by joining their
parts and read by splitting, so the other direction is needed as well: the pieces of a joined text
are the parts, as long as no part contains the separator (`splitOn_joinWith`).
-/

namespace Bindery.Text

/-! ### Splitting -/

/-- **A text splits at any one of its separators.** -/
theorem splitOn_append_cons (separator : Char) (before after : List Char) :
    splitOn separator (before ++ separator :: after) =
      splitOn separator before ++ splitOn separator after := by
  induction before with
  | nil => simp [splitOn]
  | cons c before ih =>
      simp only [List.cons_append, splitOn, ih]
      split
      · simp
      · cases hs : splitOn separator before with
        | nil => exact absurd hs (splitOn_ne_nil separator before)
        | cons piece pieces => simp

/-- A text without separators is its only piece. -/
theorem splitOn_of_not_mem {separator : Char} {text : List Char} (h : separator ∉ text) :
    splitOn separator text = [text] := by
  induction text with
  | nil => rfl
  | cons c text ih =>
      rw [List.mem_cons, not_or] at h
      rw [splitOn, if_neg (Ne.symm h.1), ih h.2]

/-- **Splitting a joined text gives the parts**, of which there is at least one. -/
theorem splitOn_joinWith {separator : Char} {pieces : List (List Char)} (hne : pieces ≠ [])
    (h : ∀ piece ∈ pieces, separator ∉ piece) :
    splitOn separator (joinWith [separator] pieces) = pieces := by
  induction pieces with
  | nil => exact absurd rfl hne
  | cons piece pieces ih =>
      cases pieces with
      | nil => exact splitOn_of_not_mem (h piece (by simp))
      | cons next pieces =>
          rw [joinWith.eq_def]
          simp only [List.append_assoc, List.singleton_append]
          rw [splitOn_append_cons, splitOn_of_not_mem (h piece (by simp)),
            ih (by simp) fun other hother => h other (List.mem_cons_of_mem _ hother)]
          rfl

/-- Parts that come behind others in a joined text stand behind a separator. -/
theorem joinWith_append (separator : Char) {before behind : List (List Char)}
    (hbefore : before ≠ []) (hbehind : behind ≠ []) :
    joinWith [separator] (before ++ behind) =
      joinWith [separator] before ++ separator :: joinWith [separator] behind := by
  induction before with
  | nil => exact absurd rfl hbefore
  | cons piece before ih =>
      cases before with
      | nil =>
          obtain ⟨next, behind, rfl⟩ := List.exists_cons_of_ne_nil hbehind
          simp [joinWith]
      | cons next before =>
          have htail := ih (List.cons_ne_nil next before)
          simp only [List.cons_append, joinWith, List.append_assoc] at htail ⊢
          rw [htail]

/-- A part at the end of a joined text stands behind a separator. -/
theorem joinWith_concat (separator : Char) {pieces : List (List Char)} (hne : pieces ≠ [])
    (last : List Char) :
    joinWith [separator] (pieces ++ [last]) = joinWith [separator] pieces ++ separator :: last :=
  joinWith_append separator hne (List.cons_ne_nil last [])

/-- A name at the end of joined names stands behind a separator. -/
theorem joinNames_concat (separator : Char) {names : List String} (hne : names ≠ [])
    (last : String) :
    joinNames separator (names ++ [last]) =
      joinNames separator names ++ String.ofList [separator] ++ last := by
  have hparts : names.map String.toList ≠ [] := by simpa using hne
  have hjoined := joinWith_concat separator hparts last.toList
  refine String.toList_inj.mp ?_
  simp only [joinNames, String.toList_append, String.toList_ofList, List.map_append, List.map_cons,
    List.map_nil, List.append_assoc, List.singleton_append, hjoined]

/-- No piece of a text contains the separator. -/
theorem not_mem_of_mem_splitOn {separator : Char} {text piece : List Char}
    (h : piece ∈ splitOn separator text) : separator ∉ piece := by
  induction text generalizing piece with
  | nil => simp_all [splitOn]
  | cons c text ih =>
      rw [splitOn] at h
      split at h
      · rcases List.mem_cons.mp h with rfl | hmem
        · simp
        · exact ih hmem
      · next hc =>
          cases hs : splitOn separator text with
          | nil => exact absurd hs (splitOn_ne_nil separator text)
          | cons first others =>
              rw [hs] at h ih
              rcases List.mem_cons.mp h with rfl | hmem
              · simp [Ne.symm hc, ih (List.mem_cons_self ..)]
              · exact ih (List.mem_cons_of_mem _ hmem)

/-- What occurs in a joined text is the separator or occurs in a part. -/
theorem mem_joinWith {separator c : Char} {pieces : List (List Char)}
    (h : c ∈ joinWith [separator] pieces) : c = separator ∨ ∃ piece ∈ pieces, c ∈ piece := by
  induction pieces with
  | nil => simp [joinWith] at h
  | cons piece pieces ih =>
      cases pieces with
      | nil => exact .inr ⟨piece, by simp, h⟩
      | cons next pieces =>
          rw [joinWith.eq_def] at h
          simp only [List.append_assoc, List.singleton_append, List.mem_append,
            List.mem_cons] at h
          rcases h with hpiece | rfl | hrest
          · exact .inr ⟨piece, by simp, hpiece⟩
          · exact .inl rfl
          · rcases ih hrest with rfl | ⟨other, hother, hc⟩
            · exact .inl rfl
            · exact .inr ⟨other, List.mem_cons_of_mem _ hother, hc⟩

/-- What occurs in a part occurs in the joined text. -/
theorem mem_joinWith_of_mem {separator c : Char} {pieces : List (List Char)} {piece : List Char}
    (h : piece ∈ pieces) (hc : c ∈ piece) : c ∈ joinWith [separator] pieces := by
  induction pieces with
  | nil => cases h
  | cons first pieces ih =>
      cases pieces with
      | nil =>
          obtain rfl : piece = first := by simpa using h
          exact hc
      | cons next pieces =>
          rw [joinWith.eq_def]
          simp only [List.append_assoc, List.singleton_append, List.mem_append, List.mem_cons]
          rcases List.mem_cons.mp h with rfl | hmem
          · exact .inl hc
          · exact .inr (.inr (ih hmem))

/-- **Splitting joined names gives the names.** -/
theorem splitOn_joinNames {separator : Char} {names : List String} (hne : names ≠ [])
    (h : ∀ name ∈ names, separator ∉ name.toList) :
    splitOn separator (joinNames separator names).toList = names.map String.toList := by
  rw [joinNames, String.toList_ofList]
  refine splitOn_joinWith (by simpa using hne) fun piece hpiece => ?_
  obtain ⟨name, hname, rfl⟩ := List.mem_map.mp hpiece
  exact h name hname

/-- Joined names are told apart if no name contains the separator. -/
theorem joinNames_inj {separator : Char} {names others : List String} (hne : names ≠ [])
    (hne' : others ≠ []) (h : ∀ name ∈ names, separator ∉ name.toList)
    (h' : ∀ name ∈ others, separator ∉ name.toList)
    (heq : joinNames separator names = joinNames separator others) : names = others := by
  have hmap : names.map String.toList = others.map String.toList := by
    rw [← splitOn_joinNames hne h, heq, splitOn_joinNames hne' h']
  exact (List.map_inj_right fun _ _ => String.toList_inj.mp).mp hmap

/-- What occurs in joined names is the separator or occurs in a name. -/
theorem mem_joinNames {separator c : Char} {names : List String}
    (h : c ∈ (joinNames separator names).toList) :
    c = separator ∨ ∃ name ∈ names, c ∈ name.toList := by
  rw [joinNames, String.toList_ofList] at h
  rcases mem_joinWith h with hseparator | ⟨piece, hpiece, hc⟩
  · exact .inl hseparator
  · obtain ⟨name, hname, rfl⟩ := List.mem_map.mp hpiece
    exact .inr ⟨name, hname, hc⟩

/-! ### Trimming -/

/-- A text that does not begin with a blank keeps its start. -/
theorem trimStart_eq_self {text : List Char} (h : ∀ c ∈ text.head?, isBlank c = false) :
    trimStart text = text := by
  cases text with
  | nil => rfl
  | cons c text => exact List.dropWhile_cons_of_neg (by simp [h c (by simp)])

/-- A text that does not end with a blank keeps its end. -/
theorem trimEnd_eq_self {text : List Char} (h : ∀ c ∈ text.getLast?, isBlank c = false) :
    trimEnd text = text := by
  rw [trimEnd, ← trimStart, trimStart_eq_self (by simpa using h), List.reverse_reverse]

/-- **A text that neither begins nor ends with a blank is trimmed already.** -/
theorem trim_eq_self {text : List Char} (hstart : ∀ c ∈ text.head?, isBlank c = false)
    (hend : ∀ c ∈ text.getLast?, isBlank c = false) : trim text = text := by
  rw [trim, trimStart_eq_self hstart, trimEnd_eq_self hend]

/-- A text without blanks is trimmed already. -/
theorem trim_of_forall {text : List Char} (h : ∀ c ∈ text, isBlank c = false) : trim text = text :=
  trim_eq_self (fun c hc => h c (List.mem_of_mem_head? hc))
    fun c hc => h c (List.mem_of_mem_getLast? hc)

/-- A blank in front of a text is trimmed away. -/
theorem trim_cons_blank {c : Char} (hc : isBlank c = true) (text : List Char) :
    trim (c :: text) = trim text := by
  rw [trim, trim, trimStart, List.dropWhile_cons_of_pos hc]
  rfl

/-! ### Characters of identifiers -/

/-- The code points of blanks. -/
def blankCodes : List Nat :=
  blankRanges.flatMap fun range => List.range' range.first (range.last + 1 - range.first)

/-- A blank is one of the listed characters. -/
theorem mem_blankCodes_of_isBlank {c : Char} (h : isBlank c = true) : c.toNat ∈ blankCodes := by
  obtain ⟨range, hrange, hc⟩ := List.any_eq_true.mp h
  simp only [CodeRange.contains, Bool.and_eq_true, decide_eq_true_eq] at hc
  exact List.mem_flatMap.mpr ⟨range, hrange, List.mem_range'_1.mpr (by omega)⟩

/-- **Blanks do not occur in identifiers.** -/
theorem not_isIdentifierPart_of_isBlank {c : Char} (h : isBlank c = true) :
    isIdentifierPart c = false := by
  -- there are few blanks, so they are gone through one by one
  have listed : ∀ code ∈ blankCodes, isIdentifierPart (Char.ofNat code) = false := by
    decide +kernel
  have := listed c.toNat (mem_blankCodes_of_isBlank h)
  rwa [Char.ofNat_toNat] at this

/-- What occurs in an identifier is no blank. -/
theorem not_isBlank_of_isIdentifierPart {c : Char} (h : isIdentifierPart c = true) :
    isBlank c = false := by
  cases hc : isBlank c with
  | false => rfl
  | true => rw [not_isIdentifierPart_of_isBlank hc] at h; cases h

end Bindery.Text
