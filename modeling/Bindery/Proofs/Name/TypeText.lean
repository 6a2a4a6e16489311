import Bindery.Name.TypeName
import Bindery.Proofs.Name.Proper
import Mathlib.Data.List.Basic

/-!
# Types and their written forms

A type is read from its ends inwards, and an argument list at the commas outside inner brackets.
The written form of a type has its brackets matched, so the commas inside it are never taken for
commas of the list it stands in.  This is what makes nested arguments readable at any depth.
`TypeName.Passes` says it of a text and a depth, and `TypeName.splitArguments_textList` of a written
list.

What can go wrong is left to the classes.  A proper type is read back from its written form exactly
when all its classes are (`TypeName.toOption_ofText_text`), and for what was read this only fails on
a stray name, a nested name that begins as no identifier does (`TypeName.rereads_written_forms`).
-/

namespace Bindery.TypeName

open Text

/-! ### Classes of a type -/

mutual

/-- The classes that occur in a type, in the order in which they are written. -/
def classes : TypeName → List ClassName
  | .primitive _ => []
  | .plain c => [c]
  | .applied raw arguments => raw :: classesList arguments
  | .array component => component.classes

/-- The classes that occur in several types. -/
def classesList : List TypeName → List ClassName
  | [] => []
  | t :: ts => t.classes ++ classesList ts

end

/-- A type can be read from its written form when each of its classes can. -/
def isRereadable (t : TypeName) : Bool := t.classes.all ClassName.isRereadable

/-- Several types can be read from their written forms. -/
def areRereadable (ts : List TypeName) : Bool := (classesList ts).all ClassName.isRereadable

mutual

/-- A type is proper when its classes are and no argument list is empty. -/
def IsProper : TypeName → Prop
  | .primitive _ => True
  | .plain c => c.IsProper
  | .applied raw arguments => raw.IsProper ∧ arguments ≠ [] ∧ AreProper arguments
  | .array component => component.IsProper

/-- Every type of a list is proper. -/
def AreProper : List TypeName → Prop
  | [] => True
  | t :: ts => t.IsProper ∧ AreProper ts

end

theorem areProper_iff {ts : List TypeName} : AreProper ts ↔ ∀ t ∈ ts, t.IsProper := by
  induction ts with
  | nil => simp [AreProper]
  | cons t ts ih => simp [AreProper, ih]

/-! ### What is read is proper -/

/-- Reading a type, apart from what makes it end. -/
theorem ofChars_eq (text : List Char) :
    ofChars text =
      if (trim text).isEmpty then .error ⟨String.ofList text, .emptyType⟩
      else
        match dropSuffix? ['[', ']'] (trim text) with
        | some inner => (ofChars inner).map .array
        | none =>
          match Primitive.ofKeyword? (String.ofList (trim text)) with
          | some p => .ok (.primitive p)
          | none =>
            match cutAt? '<' (trim text) with
            | none => (ClassName.ofChars (trim text)).map .plain
            | some (head, tail) =>
              match dropSuffix? ['>'] tail with
              | none => .error ⟨String.ofList (trim text), .unbalancedArguments⟩
              | some inner => do
                let raw ← ClassName.ofChars head
                match splitArguments 0 inner with
                | none => .error ⟨String.ofList (trim text), .unbalancedArguments⟩
                | some pieces =>
                  if pieces.any fun piece => (trim piece).isEmpty then
                    .error ⟨String.ofList (trim text), .emptyArgument⟩
                  else do
                    let arguments ← pieces.mapM ofChars
                    return .applied raw arguments := by
  rw [ofChars]
  split
  · rfl
  · split
    · next inner h => simp only [h]
    · next h =>
        simp only [h]
        cases Primitive.ofKeyword? (String.ofList (trim text)) with
        | some p => rfl
        | none =>
            dsimp only
            split
            · next h => simp only [h]
            · next head tail h =>
                simp only [h]
                split
                · next h => simp only [h]
                · next inner h =>
                    simp only [h]
                    refine bind_congr fun raw => ?_
                    split
                    · next h => simp only [h]
                    · next pieces h =>
                        simp only [h]
                        rw [List.mapM_subtype (g := ofChars) (fun _ _ => rfl), List.unattach_attach]

/-- **Induction over what is read**, by the ways in which a type is read.  Its parts are read from
parts of the text, and refused texts do not matter. -/
theorem ofChars_induction {motive : List Char → TypeName → Prop}
    (array : ∀ {text inner : List Char} {component : TypeName},
      dropSuffix? ['[', ']'] (trim text) = some inner → motive inner component →
        motive text (.array component))
    (primitive : ∀ {text : List Char} {p : Primitive},
      Primitive.ofKeyword? (String.ofList (trim text)) = some p → motive text (.primitive p))
    (plain : ∀ {text : List Char} {c : ClassName},
      ClassName.ofChars (trim text) = .ok c → motive text (.plain c))
    (applied : ∀ {text head tail inner : List Char} {raw : ClassName}
      {pieces : List (List Char)} {arguments : List TypeName},
      cutAt? '<' (trim text) = some (head, tail) → dropSuffix? ['>'] tail = some inner →
        ClassName.ofChars head = .ok raw → splitArguments 0 inner = some pieces →
          pieces.mapM ofChars = .ok arguments →
            (∀ piece ∈ pieces, ∀ t, ofChars piece = .ok t → motive piece t) →
              motive text (.applied raw arguments))
    {text : List Char} {t : TypeName} (h : ofChars text = .ok t) : motive text t := by
  fun_induction ofChars text generalizing t with
  | case1 => cases h
  | case2 text _ _ inner hsuffix =>
      rename_i ih
      obtain ⟨component, hcomponent, rfl⟩ := map_eq_ok h
      exact array hsuffix (ih hcomponent)
  | case3 text =>
      rename_i p hkeyword
      cases h
      exact primitive hkeyword
  | case4 text =>
      obtain ⟨c, hc, rfl⟩ := map_eq_ok h
      exact plain hc
  | case5 => cases h
  | case6 text _ _ _ _ _ head tail hcut inner hclosing =>
      rename_i ih
      obtain ⟨raw, hraw, h⟩ := bind_eq_ok h
      split at h
      · cases h
      · next pieces hpieces =>
          split at h
          · cases h
          · obtain ⟨arguments, harguments, h⟩ := bind_eq_ok h
            cases h
            rw [List.mapM_subtype (g := ofChars) (fun _ _ => rfl),
              List.unattach_attach] at harguments
            exact applied hcut hclosing hraw hpieces harguments
              fun piece hpiece t => ih pieces hpieces piece hpiece

theorem prepend_ne_nil (word : List Char) (pieces : List (List Char)) :
    prepend word pieces ≠ [] := by
  cases pieces <;> simp [prepend]

/-- There is a piece before the first comma. -/
theorem ne_nil_of_splitArguments {depth : Nat} {inner : List Char} {pieces : List (List Char)}
    (h : splitArguments depth inner = some pieces) : pieces ≠ [] := by
  cases inner with
  | nil =>
      rw [splitArguments] at h
      split at h <;> cases h
      simp
  | cons c rest =>
      rcases exists_of_splitArguments_cons h with ⟨-, parts, -, rfl⟩ | ⟨after, parts, -, rfl⟩
      · exact List.cons_ne_nil _ _
      · exact prepend_ne_nil _ _

/-- A type that was read is proper. -/
theorem isProper_of_ofChars {text : List Char} {t : TypeName} (h : ofChars text = .ok t) :
    t.IsProper := by
  refine ofChars_induction (motive := fun _ t => t.IsProper) ?array ?primitive ?plain ?applied h
  case array => exact fun _ hcomponent => hcomponent
  case primitive => exact fun _ => trivial
  case plain => exact fun hc => ClassName.isProper_of_ofChars hc
  case applied =>
    intro _ _ _ _ raw pieces arguments _ _ hraw hpieces harguments ih
    refine ⟨ClassName.isProper_of_ofChars hraw, ?_, ?_⟩
    · rintro rfl
      rw [eq_nil_of_mapM harguments] at hpieces
      exact ne_nil_of_splitArguments hpieces rfl
    · rw [areProper_iff]
      exact forall_of_mapM ih harguments

/-- **A type that was read is proper.** -/
theorem isProper_of_ofText {text : String} {t : TypeName} (h : ofText text = .ok t) : t.IsProper :=
  isProper_of_ofChars h

/-! ### Matched brackets -/

/-- A text through which the splitting of arguments passes at some depth of brackets: it ends at
that depth and leaves the pieces behind it as they are. -/
def Passes (depth : Nat) (word : List Char) : Prop :=
  ∀ rest, splitArguments depth (word ++ rest) = (splitArguments depth rest).map (prepend word)

theorem prepend_append (first second : List Char) (pieces : List (List Char)) :
    prepend (first ++ second) pieces = prepend first (prepend second pieces) := by
  cases pieces <;> simp [prepend]

namespace Passes

variable {depth : Nat} {first second word : List Char}

theorem nil (depth : Nat) : Passes depth [] := by
  intro rest
  cases h : splitArguments depth rest with
  | none => simp [h]
  | some pieces =>
      cases pieces with
      | nil => exact absurd rfl (ne_nil_of_splitArguments h)
      | cons piece others => simp [h, prepend]

theorem append (hfirst : Passes depth first) (hsecond : Passes depth second) :
    Passes depth (first ++ second) := by
  intro rest
  rw [List.append_assoc, hfirst, hsecond, Option.map_map]
  congr 1
  funext pieces
  exact (prepend_append first second pieces).symm

/-- A character passes unless it is a bracket, or a comma outside brackets. -/
theorem singleton {c : Char} (hopen : c ≠ '<') (hclose : c ≠ '>') (hcomma : c = ',' → depth ≠ 0) :
    Passes depth [c] := by
  intro rest
  rw [List.singleton_append, splitArguments_cons, if_neg hopen, if_neg hclose, if_neg]
  simpa using hcomma

/-- The names of classes and the ends of arrays pass at every depth. -/
theorem of_forall (h : ∀ c ∈ word, c ≠ '<' ∧ c ≠ '>' ∧ c ≠ ',') : Passes depth word := by
  induction word with
  | nil => exact nil depth
  | cons c word ih =>
      rw [List.forall_mem_cons] at h
      obtain ⟨⟨hopen, hclose, hcomma⟩, hword⟩ := h
      rw [← List.singleton_append]
      exact append (singleton hopen hclose fun hc => absurd hc hcomma) (ih hword)

/-- What passes inside brackets passes with the brackets around it. -/
theorem enclosed (h : Passes (depth + 1) word) : Passes depth (['<'] ++ word ++ ['>']) := by
  intro rest
  have hclose : splitArguments (depth + 1) ('>' :: rest) =
      (splitArguments depth rest).map (prepend ['>']) := by
    rw [splitArguments_cons, if_neg (by decide), if_pos rfl]
  rw [List.append_assoc, List.append_assoc, List.singleton_append, splitArguments_cons, if_pos rfl,
    h, List.singleton_append, hclose, Option.map_map, Option.map_map]
  congr 1
  funext pieces
  simp only [Function.comp_apply, prepend_append]

end Passes

/-! ### Written forms -/

theorem toList_text_applied (raw : ClassName) (arguments : List TypeName) :
    (applied raw arguments).text.toList =
      raw.canonicalName.toList ++ '<' :: ((textList arguments).toList ++ ['>']) := by
  simp [text, String.toList_append]

theorem toList_text_array (component : TypeName) :
    (array component).text.toList = component.text.toList ++ ['[', ']'] := by
  simp [text, String.toList_append]

theorem toList_textList_cons (t u : TypeName) (ts : List TypeName) :
    (textList (t :: u :: ts)).toList = t.text.toList ++
      ',' :: ' ' :: (textList (u :: ts)).toList := by
  simp [textList, String.toList_append]

/-- A keyword is made of characters of names. -/
theorem isNameChar_keyword (p : Primitive) :
    ∀ ch ∈ p.keyword.toList, ClassName.IsNameChar ch := by
  have hall : p.keyword.toList.all isIdentifierPart = true := by
    cases p <;> decide
  exact fun ch hch => .inl (List.all_eq_true.mp hall ch hch)

/-- There are no brackets and no commas in a name. -/
theorem Passes.of_isNameChar {word : List Char} (h : ∀ ch ∈ word, ClassName.IsNameChar ch)
    (depth : Nat) : Passes depth word := by
  refine .of_forall fun ch hch => ?_
  have hname := h ch hch
  exact ⟨hname.ne (by decide), hname.ne (by decide), hname.ne (by decide)⟩

mutual

/-- The written form of a type passes at every depth: its brackets match, and its commas are
inside. -/
theorem passes_text : (t : TypeName) → t.IsProper → (depth : Nat) → Passes depth t.text.toList
  | .primitive p, _, depth => .of_isNameChar (isNameChar_keyword p) depth
  | .plain _, h, depth => .of_isNameChar h.isNameChar_canonicalName depth
  | .applied raw arguments, h, depth => by
      rw [toList_text_applied]
      have hraw := Passes.of_isNameChar h.1.isNameChar_canonicalName depth
      exact hraw.append (passes_textList arguments h.2.2 depth).enclosed
  | .array component, h, depth => by
      rw [toList_text_array]
      exact (passes_text component h depth).append (.of_forall (by simp))

/-- Inside brackets an argument list passes as a whole. -/
theorem passes_textList :
    (ts : List TypeName) → AreProper ts → (depth : Nat) → Passes (depth + 1) (textList ts).toList
  | [], _, depth => Passes.nil (depth + 1)
  | [t], h, depth => passes_text t h.1 (depth + 1)
  | t :: u :: ts, h, depth => by
      have hcomma : Passes (depth + 1) ([','] ++ [' ']) :=
        .append (.singleton (by decide) (by decide) (by simp))
          (.singleton (by decide) (by decide) (by simp))
      rw [toList_textList_cons]
      exact (passes_text t h.1 (depth + 1)).append
        (hcomma.append (passes_textList (u :: ts) h.2 depth))

end

/-- **An argument list is split into the written forms of its types**, the blank after a comma
staying with the type behind it. -/
theorem splitArguments_textList (t : TypeName) (ts : List TypeName) (h : AreProper (t :: ts)) :
    splitArguments 0 (textList (t :: ts)).toList =
      some (t.text.toList :: ts.map fun t => ' ' :: t.text.toList) := by
  induction ts generalizing t with
  | nil =>
      have hpass := passes_text t h.1 0 []
      rw [List.append_nil] at hpass
      rw [textList, hpass]
      simp [splitArguments, prepend]
  | cons u us ih =>
      have hblank : Passes 0 [' '] := .singleton (by decide) (by decide) (by decide)
      rw [toList_textList_cons, passes_text t h.1 0, splitArguments_cons, if_neg (by decide),
        if_neg (by decide), if_pos (by decide), ← List.singleton_append, hblank, ih u h.2]
      simp [prepend]

/-! ### Written forms are read back -/

theorem dropSuffix?_append (text suffix : List Char) :
    dropSuffix? suffix (text ++ suffix) = some text := by
  rw [dropSuffix?, if_pos (List.isSuffixOf_iff_suffix.mpr (List.suffix_append ..))]
  simp

theorem dropSuffix?_eq_none {suffix text : List Char} (h : suffix.getLast? ≠ text.getLast?)
    (hsuffix : suffix ≠ []) : dropSuffix? suffix text = none := by
  rw [dropSuffix?, if_neg]
  intro hsuff
  obtain ⟨before, rfl⟩ := List.isSuffixOf_iff_suffix.mp hsuff
  exact h (List.getLast?_append_of_ne_nil before hsuffix).symm

theorem cutAt?_append {separator : Char} {before : List Char} (h : separator ∉ before)
    (after : List Char) :
    cutAt? separator (before ++ separator :: after) = some (before, after) := by
  induction before with
  | nil => simp [cutAt?]
  | cons c before ih =>
      rw [List.mem_cons, not_or] at h
      rw [List.cons_append, cutAt?, if_neg (Ne.symm h.1), ih h.2]
      rfl

theorem cutAt?_eq_none {separator : Char} {text : List Char} (h : separator ∉ text) :
    cutAt? separator text = none := by
  induction text with
  | nil => rfl
  | cons c rest ih =>
      rw [List.mem_cons, not_or] at h
      rw [cutAt?, if_neg (Ne.symm h.1), ih h.2]
      rfl

/-- Neither end of a name is blank. -/
theorem ends_of_isNameChar {word : List Char} (h : ∀ ch ∈ word, ClassName.IsNameChar ch) :
    (∀ c ∈ word.head?, isBlank c = false) ∧ ∀ c ∈ word.getLast?, isBlank c = false :=
  ⟨fun ch hch => (h ch (List.mem_of_mem_head? hch)).not_isBlank,
    fun ch hch => (h ch (List.mem_of_mem_getLast? hch)).not_isBlank⟩

/-- A written form begins and ends with characters that are not blank. -/
theorem text_ends : (t : TypeName) → t.IsProper → t.text.toList ≠ [] ∧
    (∀ c ∈ t.text.toList.head?, isBlank c = false) ∧ ∀ c ∈ t.text.toList.getLast?, isBlank c = false
  | .primitive p, _ => ⟨by cases p <;> decide, ends_of_isNameChar (isNameChar_keyword p)⟩
  | .plain c, h => ⟨h.canonicalName_ne_nil, ends_of_isNameChar h.isNameChar_canonicalName⟩
  | .applied raw arguments, h => by
      rw [toList_text_applied]
      refine ⟨by simp, fun ch hch => ?_, fun ch hch => ?_⟩
      · rw [List.head?_append_of_ne_nil _ h.1.canonicalName_ne_nil] at hch
        exact (ends_of_isNameChar h.1.isNameChar_canonicalName).1 ch hch
      · rw [← List.cons_append, ← List.append_assoc, List.getLast?_concat,
          Option.mem_some_iff] at hch
        subst hch
        decide
  | .array component, h => by
      obtain ⟨hne, hhead, -⟩ := text_ends component h
      rw [toList_text_array]
      refine ⟨by simp, ?_, fun ch hch => ?_⟩
      · rwa [List.head?_append_of_ne_nil _ hne]
      · rw [List.getLast?_append_of_ne_nil _ (by simp)] at hch
        obtain rfl : ']' = ch := Option.some.inj hch
        decide

theorem trim_text {t : TypeName} (h : t.IsProper) : trim t.text.toList = t.text.toList :=
  trim_eq_self (text_ends t h).2.1 (text_ends t h).2.2

/-- The written form of a class is no keyword: keywords begin with lowercase letters. -/
theorem ofKeyword?_canonicalName {c : ClassName} (h : c.IsProper) :
    Primitive.ofKeyword? c.canonicalName = none := by
  rw [Primitive.ofKeyword?, List.find?_eq_none]
  intro p _ heq
  have hkeyword : splitOn '.' p.keyword.toList = [p.keyword.toList] ∧
      ClassName.isPackageSegment p.keyword.toList = true := by
    cases p <;> decide
  have hsplit := ClassName.splitOn_canonicalName h
  rw [← beq_iff_eq.mp heq, hkeyword.1] at hsplit
  have hmem : c.outermost.toList ∈ [p.keyword.toList] := by
    rw [hsplit]
    simp [ClassName.simpleNames]
  have hcapital := h.capital
  rw [List.mem_singleton.mp hmem, hkeyword.2] at hcapital
  cases hcapital

theorem ofKeyword?_of_mem {text : String} (h : '<' ∈ text.toList) :
    Primitive.ofKeyword? text = none := by
  rw [Primitive.ofKeyword?, List.find?_eq_none]
  intro p _ heq
  rw [← beq_iff_eq.mp heq] at h
  cases p <;> exact absurd h (by decide)

/-- The pieces of a written argument list are the written forms of its types, blanks around them
aside. -/
theorem map_trim_textList (t : TypeName) (ts : List TypeName) (h : AreProper (t :: ts)) :
    (t.text.toList :: ts.map fun t => ' ' :: t.text.toList).map trim =
      (t :: ts).map (·.text.toList) := by
  rw [List.map_cons, List.map_cons, trim_text h.1, List.map_map]
  congr 1
  refine List.map_congr_left fun u hu => ?_
  rw [Function.comp_apply, trim_cons_blank (by decide), trim_text (areProper_iff.mp h.2 u hu)]

/-- No written form in an argument list is blank. -/
theorem not_any_isEmpty_trim {ts : List TypeName} (h : AreProper ts) {pieces : List (List Char)}
    (hpieces : pieces.map trim = ts.map (·.text.toList)) :
    ¬ (pieces.any fun piece => (trim piece).isEmpty) = true := by
  rw [List.any_eq_true]
  rintro ⟨piece, hpiece, hempty⟩
  have hmem : trim piece ∈ ts.map (·.text.toList) := by
    rw [← hpieces]
    exact List.mem_map_of_mem hpiece
  obtain ⟨t, ht, htext⟩ := List.mem_map.mp hmem
  rw [← htext] at hempty
  exact (text_ends t (areProper_iff.mp h t ht)).1 (List.isEmpty_iff.mp hempty)

/-- The written form of a class has no brackets at its end. -/
theorem dropSuffix?_canonicalName {c : ClassName} (h : c.IsProper) :
    dropSuffix? ['[', ']'] c.canonicalName.toList = none := by
  refine dropSuffix?_eq_none (fun hlast => ?_) (by decide)
  exact h.not_mem_canonicalName (by decide) (List.mem_of_mem_getLast? hlast.symm)

/-- The written form of a type with arguments ends with the bracket of the arguments. -/
theorem dropSuffix?_text_applied (raw : ClassName) (arguments : List TypeName) :
    dropSuffix? ['[', ']'] (applied raw arguments).text.toList = none := by
  refine dropSuffix?_eq_none (fun hlast => ?_) (by decide)
  rw [toList_text_applied, ← List.cons_append, ← List.append_assoc, List.getLast?_concat] at hlast
  cases hlast

/-- The class of a type with arguments ends at the first angle bracket. -/
theorem cutAt?_text_applied {raw : ClassName} (h : raw.IsProper) (arguments : List TypeName) :
    cutAt? '<' (applied raw arguments).text.toList =
      some (raw.canonicalName.toList, (textList arguments).toList ++ ['>']) := by
  rw [toList_text_applied]
  exact cutAt?_append (h.not_mem_canonicalName (by decide)) _

mutual

/-- A text that is the written form of a type, blanks around it aside, is read as the type
exactly when all classes of the type can be read from their written forms. -/
theorem toOption_ofChars_text : (t : TypeName) → t.IsProper → (chars : List Char) →
    trim chars = t.text.toList → (ofChars chars).toOption = if t.isRereadable then some t else none
  | .primitive p, _, chars, htrim => by
      rw [ofChars_eq, htrim]
      cases p <;> rfl
  | .plain c, h, chars, htrim => by
      have hcut : cutAt? '<' c.canonicalName.toList = none :=
        cutAt?_eq_none (h.not_mem_canonicalName (by decide))
      rw [ofChars_eq, htrim, text, if_neg (by simpa using h.canonicalName_ne_nil)]
      simp only [dropSuffix?_canonicalName h, String.ofList_toList, ofKeyword?_canonicalName h,
        hcut]
      rw [toOption_map, ← ClassName.ofText, ClassName.toOption_ofText_canonicalName h]
      simp only [isRereadable, classes, List.all_cons, List.all_nil, Bool.and_true]
      cases c.isRereadable <;> rfl
  | .applied raw [], h, chars, htrim => absurd rfl h.2.1
  | .applied raw (t :: ts), h, chars, htrim => by
      have hkeyword : Primitive.ofKeyword? (applied raw (t :: ts)).text = none :=
        ofKeyword?_of_mem (by rw [toList_text_applied]; simp)
      have hpieces := map_trim_textList t ts h.2.2
      rw [ofChars_eq, htrim, if_neg (by simpa using (text_ends (.applied raw (t :: ts)) h).1)]
      simp only [dropSuffix?_text_applied, String.ofList_toList, hkeyword,
        cutAt?_text_applied h.1, dropSuffix?_append, splitArguments_textList t ts h.2.2,
        if_neg (not_any_isEmpty_trim h.2.2 hpieces)]
      -- the class and the arguments are read one after the other, each under its own condition
      rw [toOption_bind, ← ClassName.ofText, ClassName.toOption_ofText_canonicalName h.1]
      have hall : (applied raw (t :: ts)).isRereadable =
          (raw.isRereadable && areRereadable (t :: ts)) := rfl
      rw [hall]
      cases raw.isRereadable with
      | false => rfl
      | true =>
          show (List.mapM ofChars _ >>= _).toOption = _
          rw [toOption_bind, toOption_mapM_ofChars_text (t :: ts) h.2.2 _ hpieces, Bool.true_and]
          cases areRereadable (t :: ts) <;> rfl
  | .array component, h, chars, htrim => by
      -- the brackets are looked for before anything else, so they are found
      rw [ofChars_eq, htrim, if_neg (by simpa using (text_ends (.array component) h).1),
        toList_text_array]
      simp only [dropSuffix?_append]
      rw [toOption_map, toOption_ofChars_text component h _ (trim_text h)]
      show Option.map _ (if component.isRereadable then _ else _) =
        if component.isRereadable then _ else _
      cases component.isRereadable <;> rfl

theorem toOption_mapM_ofChars_text : (ts : List TypeName) → AreProper ts →
    (pieces : List (List Char)) → pieces.map trim = ts.map (·.text.toList) →
    (pieces.mapM ofChars).toOption = if areRereadable ts then some ts else none
  | [], _, pieces, htrim => by
      rw [List.map_eq_nil_iff.mp htrim]
      rfl
  | t :: ts, h, pieces, htrim => by
      obtain ⟨piece, others, rfl, hpiece, hothers⟩ := List.map_eq_cons_iff.mp htrim
      rw [List.mapM_cons, toOption_bind, toOption_ofChars_text t h.1 piece hpiece]
      have ih := toOption_mapM_ofChars_text ts h.2 others hothers
      have hall : areRereadable (t :: ts) = (t.isRereadable && areRereadable ts) := by
        rw [areRereadable, classesList, List.all_append]
        rfl
      rw [hall]
      cases t.isRereadable with
      | false => rfl
      | true =>
          show (others.mapM ofChars >>= _).toOption = _
          rw [toOption_bind, ih, Bool.true_and]
          cases areRereadable ts <;> rfl

end

/-- **A type that was read is read back from its written form** exactly when all its classes are
read back from theirs, and otherwise nothing is read. -/
theorem toOption_ofText_text {t : TypeName} (h : t.IsProper) :
    (ofText t.text).toOption = if t.isRereadable then some t else none :=
  toOption_ofChars_text t h _ (trim_text h)

/-! ### Stray names -/

/-- Some class of the type has a nested name that begins as no identifier does. -/
def HasStrayName (t : TypeName) : Prop :=
  ∃ c ∈ t.classes, ∃ name ∈ c.nested, ∃ first ∈ name.toList.head?, isIdentifierStart first = false

mutual

/-- The classes of a proper type are proper. -/
theorem IsProper.of_mem_classes {c : ClassName} :
    (t : TypeName) → t.IsProper → c ∈ t.classes → c.IsProper
  | .primitive _, _, hc => by cases hc
  | .plain _, h, hc => List.mem_singleton.mp hc ▸ h
  | .applied raw arguments, h, hc =>
      (List.mem_cons.mp hc).elim (fun heq => heq ▸ h.1)
        (AreProper.of_mem_classesList arguments h.2.2)
  | .array component, h, hc => IsProper.of_mem_classes component h hc

theorem AreProper.of_mem_classesList {c : ClassName} :
    (ts : List TypeName) → AreProper ts → c ∈ classesList ts → c.IsProper
  | [], _, hc => by cases hc
  | t :: ts, h, hc =>
      (List.mem_append.mp hc).elim (IsProper.of_mem_classes t h.1)
        (AreProper.of_mem_classesList ts h.2)

end

/-- Among proper types, those with a stray name are the ones that are not read back. -/
theorem isRereadable_eq_false_iff {t : TypeName} (h : t.IsProper) :
    t.isRereadable = false ↔ t.HasStrayName := by
  have hname {c : ClassName} (hc : c ∈ t.classes) {name : String} (hname : name ∈ c.nested) :
      beginsIdentifier name.toList = false ↔
        ∃ first ∈ name.toList.head?, isIdentifierStart first = false := by
    obtain ⟨first, rest, hcons⟩ :=
      List.exists_cons_of_ne_nil ((IsProper.of_mem_classes t h hc).nested name hname).1
    simp [hcons, beginsIdentifier]
  simp only [isRereadable, ClassName.isRereadable, List.all_eq_false, Bool.not_eq_true]
  exact exists_congr fun c => and_congr_right fun hc =>
    exists_congr fun name => and_congr_right fun hmem => hname hc hmem

/-- **What was read is read back from its written form.**  A class is always read back from its
reflection name.  A type is read back from its written form unless there is a stray name in it;
then the written form is refused, so it is never read as another type. -/
theorem rereads_written_forms (text : String) :
    (∀ c, ClassName.ofText text = .ok c → ClassName.ofText c.reflectionName = .ok c) ∧
      ∀ t, ofText text = .ok t → (ofText t.text = .ok t ↔ ¬ t.HasStrayName) ∧
        (t.HasStrayName → ∃ refusal, ofText t.text = .error refusal) := by
  refine ⟨fun c hc => ClassName.ofText_reflectionName (ClassName.isProper_of_ofText hc), fun t ht => ?_⟩
  have hproper := isProper_of_ofText ht
  have hread := toOption_ofText_text hproper
  rw [← isRereadable_eq_false_iff hproper, ← toOption_eq_some, ← toOption_eq_none, hread]
  cases t.isRereadable <;> simp

/-- A map from arrays of an anonymous class. -/
def anonymousMap : TypeName :=
  .applied ⟨"a", "Map", []⟩ [.array (.plain ⟨"a", "Outer", ["1"]⟩), .plain ⟨"b", "C", ["D"]⟩]

/-- An anonymous class is read back from its reflection name.  Its name is stray, so a type that
mentions it is refused in its written form, at any depth of arguments. -/
theorem rereads_written_forms_anonymousMap :
    ClassName.ofText "a.Outer$1" = .ok ⟨"a", "Outer", ["1"]⟩ ∧
      ClassName.ofText (ClassName.mk "a" "Outer" ["1"]).reflectionName =
        .ok ⟨"a", "Outer", ["1"]⟩ ∧
      ofText "a.Map< a.Outer$1[],b.C$D >" = .ok anonymousMap ∧ anonymousMap.HasStrayName ∧
      ∃ refusal, ofText anonymousMap.text = .error refusal := by
  have hclass : ClassName.ofText "a.Outer$1" = .ok ⟨"a", "Outer", ["1"]⟩ := by decide +kernel
  have htype : ofText "a.Map< a.Outer$1[],b.C$D >" = .ok anonymousMap := by decide +kernel
  have hstray : anonymousMap.HasStrayName :=
    ⟨⟨"a", "Outer", ["1"]⟩, by decide, "1", by decide, '1', by decide, by decide⟩
  exact ⟨hclass, (rereads_written_forms _).1 _ hclass, htype, hstray,
    ((rereads_written_forms _).2 _ htype).2 hstray⟩

end Bindery.TypeName
