import Bindery.Text.Category

/-!
# Splitting, joining and trimming text

Text is taken apart as a list of characters.  Splitting at a separator (`splitOn`) always gives at
least one piece, and `joinWith_splitOn` says that joining the pieces gives the text back.

What is taken apart is no longer than the whole: `length_trim_le`, `length_of_dropSuffix?` and
`length_of_cutAt?` stand here because readers of nested text recurse on it, and their definitions
need these facts before any theory of reading begins.
-/

namespace Bindery.Text

/-- The pieces of a text between the occurrences of `separator`. -/
def splitOn (separator : Char) : List Char → List (List Char)
  | [] => [[]]
  | c :: rest =>
    if c = separator then [] :: splitOn separator rest
    else
      match splitOn separator rest with
      | [] => [[c]]
      | piece :: pieces => (c :: piece) :: pieces

/-- The text before and after the first occurrence of `separator`, if there is one. -/
def cutAt? (separator : Char) : List Char → Option (List Char × List Char)
  | [] => none
  | c :: rest =>
    if c = separator then some ([], rest)
    else (cutAt? separator rest).map fun (before, after) => (c :: before, after)

/-- The pieces in order with `separator` between each two. -/
def joinWith (separator : List Char) : List (List Char) → List Char
  | [] => []
  | [piece] => piece
  | piece :: pieces => piece ++ separator ++ joinWith separator pieces

/-- The text without the blanks at its start. -/
def trimStart (text : List Char) : List Char := text.dropWhile isBlank

/-- The text without the blanks at its end. -/
def trimEnd (text : List Char) : List Char := (text.reverse.dropWhile isBlank).reverse

/-- The text without the blanks at either end. -/
def trim (text : List Char) : List Char := trimEnd (trimStart text)

/-- The text before `suffix`, if the text ends in it. -/
def dropSuffix? (suffix : List Char) (text : List Char) : Option (List Char) :=
  if suffix.isSuffixOf text then some (text.take (text.length - suffix.length)) else none

/-- The names joined by a separator. -/
def joinNames (separator : Char) (names : List String) : String :=
  String.ofList (joinWith [separator] (names.map String.toList))

/-! ### Lengths -/

theorem splitOn_ne_nil (separator : Char) (text : List Char) : splitOn separator text ≠ [] := by
  cases text with
  | nil => simp [splitOn]
  | cons c rest =>
    rw [splitOn]
    split
    · simp
    · split <;> simp

theorem length_trim_le (text : List Char) : (trim text).length ≤ text.length := by
  have h₁ := ((trimStart text).reverse.dropWhile_suffix isBlank).length_le
  have h₂ := (text.dropWhile_suffix isBlank).length_le
  simp only [trim, trimEnd, trimStart, List.length_reverse] at *
  exact Nat.le_trans h₁ h₂

theorem length_of_dropSuffix? {suffix text before : List Char}
    (h : dropSuffix? suffix text = some before) :
    before.length + suffix.length = text.length := by
  unfold dropSuffix? at h
  split at h
  · next hs =>
    cases h
    have := (List.isSuffixOf_iff_suffix.mp hs).length_le
    simp only [List.length_take]
    omega
  · cases h

theorem length_of_cutAt? {separator : Char} {text before after : List Char}
    (h : cutAt? separator text = some (before, after)) :
    before.length + after.length + 1 = text.length := by
  induction text generalizing before with
  | nil => cases h
  | cons c rest ih =>
    rw [cutAt?] at h
    split at h
    · cases h
      simp
    · obtain ⟨⟨front, back⟩, hcut, heq⟩ := Option.map_eq_some_iff.mp h
      cases heq
      have := ih hcut
      simp only [List.length_cons]
      omega

/-! ### Joining undoes splitting -/

theorem joinWith_cons_cons (separator : Char) (c : Char) (piece : List Char)
    (pieces : List (List Char)) :
    joinWith [separator] ((c :: piece) :: pieces) = c :: joinWith [separator] (piece :: pieces) := by
  cases pieces <;> simp [joinWith]

/-- **Joining the pieces of a text gives the text back.** -/
theorem joinWith_splitOn (separator : Char) (text : List Char) :
    joinWith [separator] (splitOn separator text) = text := by
  induction text with
  | nil => rfl
  | cons c rest ih =>
    rw [splitOn]
    split
    · next hc =>
      subst hc
      cases hs : splitOn c rest with
      | nil => exact absurd hs (splitOn_ne_nil c rest)
      | cons piece pieces =>
        rw [hs] at ih
        simp [joinWith, ih]
    · cases hs : splitOn separator rest with
      | nil => exact absurd hs (splitOn_ne_nil separator rest)
      | cons piece pieces =>
        rw [hs] at ih
        simp only [joinWith_cons_cons, ih]

end Bindery.Text
