import Bindery.Name.ClassName

/-!
# Type names

The types that a declaration can mention: primitives, classes, classes applied to type arguments,
and arrays of any of these.  `TypeName.text` writes them and `TypeName.ofText` reads them, with
blanks allowed wherever a type may begin or end.

A type is taken apart from its ends: an ending `[]` makes an array, otherwise the first `<` and the
last `>` enclose the arguments, which are separated at the commas outside inner brackets.  Every
part is shorter than the text it was taken from, and this is what reading recurses on.
-/

namespace Bindery

open Text

/-- The primitive types, including `void` for functions that return nothing. -/
inductive Primitive where
  | boolean
  | byte
  | short
  | int
  | long
  | char
  | float
  | double
  | void
  deriving DecidableEq, Repr

namespace Primitive

/-- Every primitive type. -/
def all : List Primitive := [.boolean, .byte, .short, .int, .long, .char, .float, .double, .void]

/-- The keyword that names a primitive type. -/
def keyword : Primitive → String
  | .boolean => "boolean"
  | .byte => "byte"
  | .short => "short"
  | .int => "int"
  | .long => "long"
  | .char => "char"
  | .float => "float"
  | .double => "double"
  | .void => "void"

/-- The primitive type that a keyword names. -/
def ofKeyword? (keyword : String) : Option Primitive := all.find? (·.keyword == keyword)

end Primitive

/-- The types that declarations mention. -/
inductive TypeName where
  /-- A primitive type. -/
  | primitive (p : Primitive)
  /-- A plain class or interface. -/
  | plain (c : ClassName)
  /-- A generic class with its arguments. -/
  | applied (raw : ClassName) (arguments : List TypeName)
  /-- An array of the component type. -/
  | array (component : TypeName)
  deriving Repr, Inhabited

namespace TypeName

/-! ### Equality -/

mutual

/-- Equality of types can be decided. -/
protected def decEq : (s t : TypeName) → Decidable (s = t)
  | .primitive p, .primitive q => decidable_of_iff (p = q) (by simp)
  | .plain c, .plain d => decidable_of_iff (c = d) (by simp)
  | .applied c ss, .applied d ts =>
    match decEq c d, TypeName.decEqList ss ts with
    | isTrue h, isTrue h' => isTrue (by rw [h, h'])
    | isFalse h, _ => isFalse (by simp [h])
    | _, isFalse h => isFalse (by simp [h])
  | .array s, .array t =>
    match TypeName.decEq s t with
    | isTrue h => isTrue (by rw [h])
    | isFalse h => isFalse (by simp [h])
  | .primitive _, .plain _ | .primitive _, .applied _ _ | .primitive _, .array _
  | .plain _, .primitive _ | .plain _, .applied _ _ | .plain _, .array _
  | .applied _ _, .primitive _ | .applied _ _, .plain _ | .applied _ _, .array _
  | .array _, .primitive _ | .array _, .plain _ | .array _, .applied _ _ => isFalse (by simp)

/-- Equality of lists of types can be decided. -/
protected def decEqList : (ss ts : List TypeName) → Decidable (ss = ts)
  | [], [] => isTrue rfl
  | s :: ss, t :: ts =>
    match TypeName.decEq s t, TypeName.decEqList ss ts with
    | isTrue h, isTrue h' => isTrue (by rw [h, h'])
    | isFalse h, _ => isFalse (by simp [h])
    | _, isFalse h => isFalse (by simp [h])
  | [], _ :: _ | _ :: _, [] => isFalse (by simp)

end

instance : DecidableEq TypeName := TypeName.decEq

/-! ### Parts -/

/-- The class behind a type, its arguments aside. -/
def rawClass? : TypeName → Option ClassName
  | .plain c => some c
  | .applied raw _ => some raw
  | .primitive _ | .array _ => none

/-- Whether a type is primitive. -/
def isPrimitive : TypeName → Bool
  | .primitive _ => true
  | _ => false

/-! ### Written form -/

mutual

/-- The written form of a type. -/
def text : TypeName → String
  | .primitive p => p.keyword
  | .plain c => c.canonicalName
  | .applied raw arguments => raw.canonicalName ++ "<" ++ textList arguments ++ ">"
  | .array component => component.text ++ "[]"

/-- The written forms of several types, with a comma and a space between each two. -/
def textList : List TypeName → String
  | [] => ""
  | [t] => t.text
  | t :: ts => t.text ++ ", " ++ textList ts

end

/-! ### Reading -/

/-- The pieces of an argument list at its outermost commas, or nothing where the brackets do not match.
`depth` counts the brackets open so far. -/
def splitArguments (depth : Nat) : List Char → Option (List (List Char))
  | [] => if depth = 0 then some [[]] else none
  | c :: rest =>
    let extend (pieces : List (List Char)) :=
      match pieces with
      | [] => [[c]]
      | piece :: others => (c :: piece) :: others
    if c = '<' then (splitArguments (depth + 1) rest).map extend
    else if c = '>' then
      match depth with
      | 0 => none
      | outer + 1 => (splitArguments outer rest).map extend
    else if c = ',' && depth == 0 then (splitArguments 0 rest).map ([] :: ·)
    else (splitArguments depth rest).map extend

/-- A text put in front of the first piece. -/
def prepend (word : List Char) : List (List Char) → List (List Char)
  | [] => [word]
  | piece :: others => (word ++ piece) :: others

/-- One character of an argument list. -/
theorem splitArguments_cons (depth : Nat) (c : Char) (rest : List Char) :
    splitArguments depth (c :: rest) =
      if c = '<' then (splitArguments (depth + 1) rest).map (prepend [c])
      else if c = '>' then
        match depth with
        | 0 => none
        | outer + 1 => (splitArguments outer rest).map (prepend [c])
      else if c = ',' && depth == 0 then (splitArguments 0 rest).map ([] :: ·)
      else (splitArguments depth rest).map (prepend [c]) := by
  have hprepend : prepend [c] = fun pieces =>
      match pieces with
      | [] => [[c]]
      | piece :: others => (c :: piece) :: others := by
    funext pieces
    cases pieces <;> rfl
  have hstep := splitArguments.eq_def depth (c :: rest)
  rw [hprepend]
  exact hstep

/-- What a character adds to the pieces behind it: a comma outside brackets begins a new piece, and
everything else belongs to the first one. -/
theorem exists_of_splitArguments_cons {depth : Nat} {c : Char} {rest : List Char}
    {pieces : List (List Char)} (h : splitArguments depth (c :: rest) = some pieces) :
    (c = ',' ∧ ∃ parts, splitArguments 0 rest = some parts ∧ pieces = [] :: parts) ∨
      ∃ after parts, splitArguments after rest = some parts ∧ pieces = prepend [c] parts := by
  have kept {after : Nat} (h : (splitArguments after rest).map (prepend [c]) = some pieces) :
      ∃ after parts, splitArguments after rest = some parts ∧ pieces = prepend [c] parts := by
    obtain ⟨parts, hparts, rfl⟩ := Option.map_eq_some_iff.mp h
    exact ⟨after, parts, hparts, rfl⟩
  rw [splitArguments_cons] at h
  split at h
  · exact .inr (kept h)
  · split at h
    · cases depth with
      | zero => cases h
      | succ outer => exact .inr (kept h)
    · split at h
      · next hcomma =>
        rw [Bool.and_eq_true, decide_eq_true_eq] at hcomma
        obtain ⟨parts, hparts, rfl⟩ := Option.map_eq_some_iff.mp h
        exact .inl ⟨hcomma.1, parts, hparts, rfl⟩
      · exact .inr (kept h)

/-- No piece of an argument list is longer than the list. -/
theorem length_le_of_mem_splitArguments {depth : Nat} {inner : List Char}
    {pieces : List (List Char)} (h : splitArguments depth inner = some pieces)
    {piece : List Char} (mem : piece ∈ pieces) : piece.length ≤ inner.length := by
  induction inner generalizing depth pieces piece with
  | nil =>
    rw [splitArguments] at h
    split at h <;> cases h
    simp_all
  | cons c rest ih =>
    rcases exists_of_splitArguments_cons h with
      ⟨-, parts, hparts, rfl⟩ | ⟨after, parts, hparts, rfl⟩
    · rcases List.mem_cons.mp mem with rfl | hmem
      · exact Nat.zero_le _
      · exact Nat.le_succ_of_le (ih hparts hmem)
    · cases parts with
      | nil => simp_all [prepend]
      | cons first others =>
        rcases List.mem_cons.mp mem with rfl | hmem
        · exact Nat.succ_le_succ (ih hparts List.mem_cons_self)
        · exact Nat.le_succ_of_le (ih hparts (List.mem_cons_of_mem _ hmem))

/-- The type that a text names, blanks around it and around its arguments aside. -/
def ofChars (text : List Char) : Except NameError TypeName :=
  let trimmed := trim text
  let refuse {α : Type} (fault : NameFault) : Except NameError α :=
    .error ⟨String.ofList trimmed, fault⟩
  if trimmed.isEmpty then .error ⟨String.ofList text, .emptyType⟩
  else
    match _component : dropSuffix? ['[', ']'] trimmed with
    | some inner => (ofChars inner).map .array
    | none =>
      match Primitive.ofKeyword? (String.ofList trimmed) with
      | some p => .ok (.primitive p)
      | none =>
        match _brackets : cutAt? '<' trimmed with
        | none => (ClassName.ofChars trimmed).map .plain
        | some (head, tail) =>
          match _closing : dropSuffix? ['>'] tail with
          | none => refuse .unbalancedArguments
          | some inner => do
            let raw ← ClassName.ofChars head
            match _pieces : splitArguments 0 inner with
            | none => refuse .unbalancedArguments
            | some parts =>
              if parts.any fun part => (trim part).isEmpty then refuse .emptyArgument
              else
                let arguments ← parts.attach.mapM fun ⟨part, _⟩ => ofChars part
                return .applied raw arguments
termination_by text.length
decreasing_by
  · have := length_of_dropSuffix? _component
    have : trimmed.length ≤ text.length := length_trim_le text
    simp only [List.length_cons, List.length_nil] at *
    omega
  · rename_i mem
    have := length_le_of_mem_splitArguments _pieces mem
    have := length_of_dropSuffix? _closing
    have := length_of_cutAt? _brackets
    have : trimmed.length ≤ text.length := length_trim_le text
    simp only [List.length_cons, List.length_nil] at *
    omega

/-- The type that a text names, blanks around it and around its arguments aside. -/
def ofText (text : String) : Except NameError TypeName := ofChars text.toList

end TypeName

end Bindery
