import Bindery.Proofs.Name.TypeText
import Mathlib.Data.List.TakeWhile

/-!
# The grammar of type names

A type is read from the ends of its text inwards, and classes are read word by word.  Neither way of
reading looks like a grammar.  This module states the grammar, `ClassName.Derives` for classes and
`TypeName.Derives` for types, and shows that what is read is what the grammar derives
(`TypeName.reads_grammar`).

A text that the grammar derives has its brackets matched, so the reader finds the brackets and
commas that the derivation put there.  Blanks may be derived at several places of one text, but they
never reach the type.  To keep them out of the induction a type is derived in two stages, with
blanks around it and, as a `TypeName.Core`, without.
-/

namespace Bindery

namespace Text

/-! ### Blanks around a text -/

/-- A text of nothing but blanks. -/
def IsBlankText (text : List Char) : Prop := ∀ c ∈ text, isBlank c = true

theorem IsBlankText.nil : IsBlankText [] := by simp [IsBlankText]

theorem IsBlankText.append {before after : List Char} (hbefore : IsBlankText before)
    (hafter : IsBlankText after) : IsBlankText (before ++ after) :=
  List.forall_mem_append.mpr ⟨hbefore, hafter⟩

/-- Blanks in front are dropped. -/
theorem trimStart_append_of_blank {before : List Char} (h : IsBlankText before)
    (text : List Char) : trimStart (before ++ text) = trimStart text :=
  List.dropWhile_append_of_pos h

/-- In front of what does not begin with a blank, blanks are dropped as if it were not there. -/
theorem trimStart_append {suffix : List Char} (h : ∀ c ∈ suffix.head?, isBlank c = false)
    (text : List Char) : trimStart (text ++ suffix) = trimStart text ++ suffix := by
  have hsuffix : suffix.dropWhile isBlank = suffix := trimStart_eq_self h
  rw [trimStart, trimStart, List.dropWhile_append, hsuffix]
  split
  · next hempty => rw [List.isEmpty_iff.mp hempty, List.nil_append]
  · rfl

/-- Blanks behind are dropped. -/
theorem trimEnd_append_of_blank {after : List Char} (h : IsBlankText after) (text : List Char) :
    trimEnd (text ++ after) = trimEnd text := by
  have hreverse : IsBlankText after.reverse := fun c hc => h c (List.mem_reverse.mp hc)
  rw [trimEnd, List.reverse_append, ← trimStart, trimStart_append_of_blank hreverse]
  rfl

/-- **Blanks around a text do not count.** -/
theorem trim_append_blank {before after : List Char} (hbefore : IsBlankText before)
    (hafter : IsBlankText after) (text : List Char) :
    trim (before ++ text ++ after) = trim text := by
  rw [List.append_assoc, trim, trim, trimStart_append_of_blank hbefore, trimStart,
    List.dropWhile_append]
  split
  · next hempty =>
      -- a text of blanks is dropped together with the blanks behind it
      have hnil : after.dropWhile isBlank = [] := List.dropWhile_eq_nil_iff.mpr hafter
      rw [trimStart, List.isEmpty_iff.mp hempty, hnil]
  · exact trimEnd_append_of_blank hafter _

/-- A text is what is left of it with blanks on both sides. -/
theorem exists_blanks_trim (text : List Char) : ∃ before after, IsBlankText before ∧
    IsBlankText after ∧ text = before ++ trim text ++ after := by
  refine ⟨text.takeWhile isBlank, ((trimStart text).reverse.takeWhile isBlank).reverse,
    fun c hc => List.mem_takeWhile_imp hc,
    fun c hc => List.mem_takeWhile_imp (List.mem_reverse.mp hc), ?_⟩
  rw [List.append_assoc, trim, trimEnd, ← List.reverse_append, List.takeWhile_append_dropWhile,
    List.reverse_reverse, trimStart, List.takeWhile_append_dropWhile]

/-- What is dropped at the start of a text does not count. -/
theorem trim_trimStart (text : List Char) : trim (trimStart text) = trim text := by
  have hblank : IsBlankText (text.takeWhile isBlank) := fun c hc => List.mem_takeWhile_imp hc
  have htext := trim_append_blank hblank .nil (trimStart text)
  rw [List.append_nil, trimStart, List.takeWhile_append_dropWhile] at htext
  exact htext.symm

end Text

open Text

/-! ### Classes -/

namespace ClassName

/-- The simple names that a word of a class is made of: the word is an identifier, and the dollar
signs in it stand between names that are not empty. -/
structure IsClassWord (names : List (List Char)) : Prop where
  isIdentifier : isIdentifier (joinWith ['$'] names) = true
  isName : ∀ name ∈ names, name ≠ [] ∧ '$' ∉ name

/-- **The grammar of classes.**  A class is written as words between dots.  Those in front that
begin with a lowercase letter are its package.  At least one word follows, the first of which
does not begin with a lowercase letter; the simple names of the class are the names between the
dollar signs of these words. -/
inductive Derives : ClassName → List Char → Prop where
  | words {package first : List (List Char)} {others : List (List (List Char))} {c : ClassName}
      (isPackage : ∀ word ∈ package, IsPackageWord word)
      (isClass : ∀ names ∈ first :: others, IsClassWord names)
      (capital : isPackageSegment (joinWith ['$'] first) = false)
      (package_eq : c.package = String.ofList (joinWith ['.'] package))
      (simpleNames_eq : c.simpleNames.map String.toList = (first :: others).flatten) :
      Derives c (joinWith ['.'] (package ++ (first :: others).map (joinWith ['$'])))

theorem IsClassWord.ne_nil {names : List (List Char)} (h : IsClassWord names) : names ≠ [] := by
  rintro rfl
  cases h.isIdentifier

/-- A word is read as its names. -/
theorem IsClassWord.readNames {names : List (List Char)} (h : IsClassWord names) :
    readNames (joinWith ['$'] names) = .ok names :=
  readNames_eq_ok_iff.mpr ⟨h.ne_nil, rfl, h.isName⟩

/-- The names read from the words behind a package are what the words are made of. -/
theorem readSimpleNames_eq_ok_iff {segments names : List (List Char)} :
    readSimpleNames segments = .ok names ↔
      ∃ words : List (List (List Char)), (∀ word ∈ words, IsClassWord word) ∧
        segments = words.map (joinWith ['$']) ∧ names = words.flatten := by
  constructor
  · intro h
    induction segments generalizing names with
    | nil =>
        cases h
        exact ⟨[], by simp, rfl, rfl⟩
    | cons segment rest ih =>
        obtain ⟨own, others, hcheck, hown, hothers, rfl⟩ := exists_of_readSimpleNames_cons h
        obtain ⟨words, hwords, rfl, rfl⟩ := ih hothers
        obtain ⟨-, rfl, hnames⟩ := readNames_eq_ok_iff.mp hown
        have hown : IsClassWord own := ⟨isIdentifier_of_checkSegment hcheck, hnames⟩
        exact ⟨own :: words, List.forall_mem_cons.mpr ⟨hown, hwords⟩, rfl, rfl⟩
  · rintro ⟨words, hwords, rfl, rfl⟩
    induction words with
    | nil => rfl
    | cons word words ih =>
        rw [List.forall_mem_cons] at hwords
        rw [List.map_cons, readSimpleNames, checkSegment_of_isIdentifier hwords.1.isIdentifier,
          hwords.1.readNames, ih hwords.2]
        rfl

/-- From the first word that does not belong to the package, the words name the class. -/
theorem ofSegments_cons_eq_ok_iff {before rest : List (List Char)} {segment : List Char}
    {c : ClassName} (hcapital : isPackageSegment segment = false) :
    ofSegments before (segment :: rest) = .ok c ↔
      ∃ words : List (List (List Char)), (∀ word ∈ words, IsClassWord word) ∧
        segment :: rest = words.map (joinWith ['$']) ∧
        c.package = String.ofList (joinWith ['.'] before) ∧
        c.simpleNames.map String.toList = words.flatten := by
  have hnot : ¬ isPackageSegment segment = true := by simp [hcapital]
  constructor
  · intro h
    rw [ofSegments, if_neg hnot] at h
    obtain ⟨⟨⟩, -, h⟩ := bind_eq_ok h
    obtain ⟨names, hread, h⟩ := bind_eq_ok h
    obtain ⟨words, hwords, hsegments, hnames⟩ := readSimpleNames_eq_ok_iff.mp hread
    cases names with
    | nil => cases h
    | cons outermost nested =>
        cases h
        refine ⟨words, hwords, hsegments, rfl, ?_⟩
        rw [← hnames]
        simp [ClassName.simpleNames, Function.comp_def]
  · rintro ⟨words, hwords, hsegments, hc, hnames⟩
    obtain ⟨first, others, rfl, rfl, rfl⟩ := List.map_eq_cons_iff.mp hsegments.symm
    have hfirst := (hwords first (by simp)).isIdentifier
    have hread := readSimpleNames_eq_ok_iff.mpr ⟨first :: others, hwords, hsegments, rfl⟩
    rw [ofSegments, if_neg hnot, checkSegment_of_isIdentifier hfirst, hread, ← hnames, ← hc]
    show Except.ok (ClassName.mk _ _ _) = _
    rw [String.ofList_toList, List.map_map]
    simp [Function.comp_def]

/-- The class that words name, if some were taken into the package before. -/
theorem ofSegments_eq_ok_iff {before segments : List (List Char)} {c : ClassName} :
    ofSegments before segments = .ok c ↔
      ∃ package first others, (∀ word ∈ package, IsPackageWord word) ∧
        (∀ names ∈ first :: others, IsClassWord names) ∧
        isPackageSegment (joinWith ['$'] first) = false ∧
        segments = package ++ (first :: others).map (joinWith ['$']) ∧
        c.package = String.ofList (joinWith ['.'] (before ++ package)) ∧
        c.simpleNames.map String.toList = (first :: others).flatten := by
  constructor
  · intro h
    -- the package is collected until the first word that does not begin with a lowercase letter
    induction segments generalizing before with
    | nil => cases h
    | cons segment rest ih =>
        cases hlower : isPackageSegment segment with
        | true =>
            rw [ofSegments, if_pos hlower] at h
            obtain ⟨⟨⟩, hcheck, h⟩ := bind_eq_ok h
            obtain ⟨package, first, others, hpackage, hclass, hcapital, rfl, hc, hnames⟩ := ih h
            have hword : IsPackageWord segment := ⟨isIdentifier_of_checkSegment hcheck, hlower⟩
            refine ⟨segment :: package, first, others,
              List.forall_mem_cons.mpr ⟨hword, hpackage⟩, hclass, hcapital, rfl, ?_, hnames⟩
            rw [hc, List.append_assoc, List.singleton_append]
        | false =>
            obtain ⟨words, hwords, hsegments, hc, hnames⟩ :=
              (ofSegments_cons_eq_ok_iff hlower).mp h
            obtain ⟨first, others, rfl, rfl, -⟩ := List.map_eq_cons_iff.mp hsegments.symm
            exact ⟨[], first, others, by simp, hwords, hlower, hsegments, by simpa using hc,
              hnames⟩
  · rintro ⟨package, first, others, hpackage, hclass, hcapital, rfl, hc, hnames⟩
    rw [ofSegments_append hpackage, List.map_cons, ofSegments_cons_eq_ok_iff hcapital]
    exact ⟨first :: others, hclass, rfl, hc, hnames⟩

/-- Every word of a class is an identifier, be it of the package or not. -/
theorem isIdentifier_of_mem_words {package : List (List Char)} {words : List (List (List Char))}
    (hpackage : ∀ word ∈ package, IsPackageWord word) (hclass : ∀ names ∈ words, IsClassWord names) :
    ∀ word ∈ package ++ words.map (joinWith ['$']), isIdentifier word = true := by
  intro word hword
  rcases List.mem_append.mp hword with hword | hword
  · exact (hpackage word hword).1
  · obtain ⟨names, hnames, rfl⟩ := List.mem_map.mp hword
    exact (hclass names hnames).isIdentifier

/-- **A class is read from the texts that derive it**, blanks around them aside. -/
theorem ofChars_eq_ok_iff {text : List Char} {c : ClassName} :
    ofChars text = .ok c ↔ c.Derives (trim text) := by
  have hread : ofChars text = .ok c ↔ ofSegments [] (splitOn '.' (trim text)) = .ok c := by
    rw [ofChars]
    cases ofSegments [] (splitOn '.' (trim text)) <;> simp
  rw [hread, ofSegments_eq_ok_iff]
  generalize trim text = core
  constructor
  · rintro ⟨package, first, others, hpackage, hclass, hcapital, hsegments, hc, hnames⟩
    rw [← joinWith_splitOn '.' core, hsegments]
    exact .words hpackage hclass hcapital hc hnames
  · rintro @⟨package, first, others, _, hpackage, hclass, hcapital, hc, hnames⟩
    refine ⟨package, first, others, hpackage, hclass, hcapital, ?_, hc, hnames⟩
    refine splitOn_joinWith (by simp) fun word hword => dot_not_mem (forall_isIdentifierPart ?_)
    exact isIdentifier_of_mem_words hpackage hclass word hword

/-- A text that derives a class consists of the characters of names. -/
theorem Derives.isNameChar {text : List Char} {c : ClassName} (h : c.Derives text) :
    ∀ ch ∈ text, IsNameChar ch := by
  obtain ⟨hpackage, hclass, -, -, -⟩ := h
  intro ch hch
  rcases mem_joinWith hch with rfl | ⟨word, hword, hmem⟩
  · exact .inr rfl
  · exact .inl (forall_isIdentifierPart (isIdentifier_of_mem_words hpackage hclass word hword)
      ch hmem)

theorem Derives.not_mem {text : List Char} {c : ClassName} (h : c.Derives text) {ch : Char}
    (hch : ¬ IsNameChar ch) : ch ∉ text :=
  fun hmem => hch (h.isNameChar ch hmem)

theorem Derives.ne_nil {text : List Char} {c : ClassName} (h : c.Derives text) : text ≠ [] := by
  rintro rfl
  have hread : ofChars [] = .ok c := ofChars_eq_ok_iff.mpr h
  cases hread

/-- A text that derives a class has no blanks around it. -/
theorem Derives.trim_eq {text : List Char} {c : ClassName} (h : c.Derives text) :
    trim text = text :=
  trim_of_forall fun ch hch => (h.isNameChar ch hch).not_isBlank

end ClassName

/-! ### Types -/

namespace TypeName

mutual

/-- **The grammar of types.**  A type is written with any blanks around it. -/
inductive Derives : TypeName → List Char → Prop where
  | blanks {before text after : List Char} {t : TypeName} (isBlank_before : IsBlankText before)
      (core : Core t text) (isBlank_after : IsBlankText after) :
      Derives t (before ++ text ++ after)

/-- A type without the blanks around it: an array of a type, a primitive type, a class, or a class
with arguments. -/
inductive Core : TypeName → List Char → Prop where
  | array {text : List Char} {component : TypeName} (derives : Derives component text) :
      Core (.array component) (text ++ ['[', ']'])
  | primitive (p : Primitive) : Core (.primitive p) p.keyword.toList
  | plain {text : List Char} {c : ClassName} (derives : c.Derives text) : Core (.plain c) text
  | applied {head blanks inner : List Char} {raw : ClassName} {arguments : List TypeName}
      (raw_derives : raw.Derives head) (isBlank : IsBlankText blanks)
      (derives : DerivesList arguments inner) :
      Core (.applied raw arguments) (head ++ blanks ++ '<' :: (inner ++ ['>']))

/-- One or more types between commas. -/
inductive DerivesList : List TypeName → List Char → Prop where
  | one {text : List Char} {t : TypeName} (derives : Derives t text) : DerivesList [t] text
  | cons {text rest : List Char} {t : TypeName} {ts : List TypeName} (derives : Derives t text)
      (others : DerivesList ts rest) : DerivesList (t :: ts) (text ++ ',' :: rest)

end

/-! ### What is read is derived -/

theorem eq_append_of_dropSuffix? {suffix text before : List Char}
    (h : dropSuffix? suffix text = some before) : text = before ++ suffix := by
  unfold dropSuffix? at h
  split at h
  · next hsuffix =>
      cases h
      obtain ⟨front, rfl⟩ := List.isSuffixOf_iff_suffix.mp hsuffix
      simp
  · cases h

theorem eq_append_of_cutAt? {separator : Char} {text before after : List Char}
    (h : cutAt? separator text = some (before, after)) : text = before ++ separator :: after := by
  induction text generalizing before with
  | nil => cases h
  | cons c rest ih =>
      rw [cutAt?] at h
      split at h
      · next hc =>
          cases h
          rw [hc, List.nil_append]
      · obtain ⟨⟨front, back⟩, hcut, heq⟩ := Option.map_eq_some_iff.mp h
        cases heq
        rw [ih hcut, List.cons_append]

theorem joinWith_prepend (separator : Char) (word : List Char) {pieces : List (List Char)}
    (h : pieces ≠ []) : joinWith [separator] (prepend word pieces) =
      word ++ joinWith [separator] pieces := by
  cases pieces with
  | nil => exact absurd rfl h
  | cons piece others => cases others <;> simp [prepend, joinWith]

/-- **Joining the pieces of an argument list gives the list back.** -/
theorem joinWith_splitArguments {depth : Nat} {inner : List Char} {pieces : List (List Char)}
    (h : splitArguments depth inner = some pieces) : joinWith [','] pieces = inner := by
  induction inner generalizing depth pieces with
  | nil =>
      rw [splitArguments] at h
      split at h <;> cases h
      rfl
  | cons c rest ih =>
      rcases exists_of_splitArguments_cons h with
        ⟨rfl, parts, hparts, rfl⟩ | ⟨after, parts, hparts, rfl⟩
      · obtain ⟨first, others, rfl⟩ :=
          List.exists_cons_of_ne_nil (ne_nil_of_splitArguments hparts)
        rw [← ih hparts]
        rfl
      · rw [joinWith_prepend _ _ (ne_nil_of_splitArguments hparts), ih hparts,
          List.singleton_append]

/-- Types are derived by the pieces that derive them, joined by commas. -/
theorem derivesList_of_forall₂ {pieces : List (List Char)} {ts : List TypeName}
    (h : List.Forall₂ (fun piece t => Derives t piece) pieces ts) (hne : pieces ≠ []) :
    DerivesList ts (joinWith [','] pieces) := by
  induction h with
  | nil => exact absurd rfl hne
  | @cons piece t pieces ts hpiece hpieces ih =>
      cases hpieces with
      | nil => exact .one hpiece
      | cons hnext hothers =>
          rw [joinWith.eq_def]
          simp only [List.append_assoc, List.singleton_append]
          exact .cons hpiece (ih (List.cons_ne_nil _ _))

/-- More blanks around a type do not count. -/
theorem Derives.append_blanks {before text after : List Char} {t : TypeName}
    (hbefore : IsBlankText before) (h : Derives t text) (hafter : IsBlankText after) :
    Derives t (before ++ text ++ after) := by
  obtain @⟨front, core, back, _, hfront, hcore, hback⟩ := h
  have hall := Derives.blanks (hbefore.append hfront) hcore (hback.append hafter)
  simpa only [List.append_assoc] using hall

/-- A text is derived if it is once its blanks are dropped. -/
theorem derives_of_trim {text : List Char} {t : TypeName} (h : Derives t (trim text)) :
    Derives t text := by
  obtain ⟨before, after, hbefore, hafter, htext⟩ := exists_blanks_trim text
  rw [htext]
  exact h.append_blanks hbefore hafter

theorem Core.derives {text : List Char} {t : TypeName} (h : Core t text) : Derives t text := by
  simpa using Derives.blanks .nil h .nil

theorem keyword_of_ofKeyword? {text : String} {p : Primitive}
    (h : Primitive.ofKeyword? text = some p) : p.keyword = text := by
  rw [Primitive.ofKeyword?] at h
  simpa using List.find?_some h

/-- **What is read from a text is derived by it.** -/
theorem derives_of_ofChars {text : List Char} {t : TypeName} (h : ofChars text = .ok t) :
    Derives t text := by
  refine ofChars_induction (motive := fun text t => Derives t text)
    ?array ?primitive ?plain ?applied h
  case array =>
    intro text inner component hsuffix hcomponent
    have hcore := Core.array hcomponent
    rw [← eq_append_of_dropSuffix? hsuffix] at hcore
    exact derives_of_trim hcore.derives
  case primitive =>
    intro text p hkeyword
    have hcore := Core.primitive p
    rw [keyword_of_ofKeyword? hkeyword, String.toList_ofList] at hcore
    exact derives_of_trim hcore.derives
  case plain =>
    intro text c hc
    have hcore := Core.plain (ClassName.ofChars_eq_ok_iff.mp hc)
    exact derives_of_trim (derives_of_trim hcore.derives)
  case applied =>
    intro text head tail inner raw pieces arguments hcut hclosing hraw hpieces harguments hread
    -- every piece derives the argument that is read from it
    have hderived : List.Forall₂ (fun piece t => Derives t piece) pieces arguments :=
      ((List.forall₂_and_left ..).mpr ⟨hread, forall₂_of_mapM harguments⟩).imp
        fun piece t hpiece => hpiece.1 t hpiece.2
    have hlist := derivesList_of_forall₂ hderived (ne_nil_of_splitArguments hpieces)
    rw [joinWith_splitArguments hpieces] at hlist
    -- blanks in front of the class are blanks in front of the type
    obtain ⟨before, blanks, hbefore, hblanks, hhead⟩ := exists_blanks_trim head
    have hcore := Core.applied (ClassName.ofChars_eq_ok_iff.mp hraw) hblanks hlist
    have hderives := hcore.derives.append_blanks hbefore .nil
    rw [List.append_nil, ← List.append_assoc, ← List.append_assoc, ← hhead,
      ← eq_append_of_dropSuffix? hclosing, ← eq_append_of_cutAt? hcut] at hderives
    exact derives_of_trim hderives

/-! ### What is derived is read -/

/-- Blanks are neither brackets nor commas. -/
theorem Passes.of_isBlankText {word : List Char} (h : IsBlankText word) (depth : Nat) :
    Passes depth word := by
  have hne {ch other : Char} (hch : isBlank ch = true) (hother : isBlank other = false) :
      ch ≠ other := by
    rintro rfl
    rw [hch] at hother
    cases hother
  refine .of_forall fun ch hch => ?_
  exact ⟨hne (h ch hch) (by decide), hne (h ch hch) (by decide), hne (h ch hch) (by decide)⟩

mutual

/-- A text that derives a type has its brackets matched, with its commas inside them. -/
theorem Derives.passes {t : TypeName} {text : List Char} (depth : Nat) :
    Derives t text → Passes depth text
  | .blanks hbefore hcore hafter =>
      ((Passes.of_isBlankText hbefore depth).append (hcore.passes depth)).append
        (.of_isBlankText hafter depth)

theorem Core.passes {t : TypeName} {text : List Char} (depth : Nat) :
    Core t text → Passes depth text
  | .array h => (h.passes depth).append (.of_forall (by simp))
  | .primitive p => .of_isNameChar (isNameChar_keyword p) depth
  | .plain h => .of_isNameChar h.isNameChar depth
  | .applied hraw hblanks harguments =>
      ((Passes.of_isNameChar hraw.isNameChar depth).append (.of_isBlankText hblanks depth)).append
        (by simpa using (harguments.passes depth).enclosed)

/-- A text that derives several types has its brackets matched, but its commas may stand outside
of them. -/
theorem DerivesList.passes {ts : List TypeName} {text : List Char} (depth : Nat) :
    DerivesList ts text → Passes (depth + 1) text
  | .one h => h.passes (depth + 1)
  | .cons h hothers => by
      have hcomma : Passes (depth + 1) [','] := .singleton (by decide) (by decide) (by simp)
      exact (h.passes (depth + 1)).append (hcomma.append (hothers.passes depth))

end

/-- What is read from a text depends on what is left of it without blanks. -/
theorem ofChars_of_trim_eq {text other : List Char} {t : TypeName} (htrim : trim other = trim text)
    (h : ofChars text = .ok t) : ofChars other = .ok t := by
  rw [ofChars_eq] at h ⊢
  rw [htrim]
  split at h
  · cases h
  · next hne => rwa [if_neg hne]

/-- A text of blanks is no type. -/
theorem trim_ne_nil_of_ofChars {text : List Char} {t : TypeName} (h : ofChars text = .ok t) :
    trim text ≠ [] := by
  intro hnil
  rw [ofChars_eq, hnil] at h
  cases h

/-- Keywords name no classes. -/
theorem ofKeyword?_of_class {text : List Char} {c : ClassName}
    (h : ClassName.ofChars text = .ok c) : Primitive.ofKeyword? (String.ofList text) = none := by
  rw [Primitive.ofKeyword?, List.find?_eq_none]
  intro p _ heq
  have hkeyword : (ClassName.ofChars p.keyword.toList).toOption = none := by
    cases p <;> rfl
  rw [beq_iff_eq.mp heq, String.toList_ofList, h] at hkeyword
  cases hkeyword

/-- The brackets of an array are found. -/
theorem ofChars_array {text : List Char} {component : TypeName} (h : ofChars text = .ok component) :
    ofChars (text ++ ['[', ']']) = .ok (.array component) := by
  have hopen : isBlank '[' = false := by decide
  have hclose : isBlank ']' = false := by decide
  have htrim : trim (text ++ ['[', ']']) = trimStart text ++ ['[', ']'] := by
    rw [trim, trimStart_append (by simpa using hopen), trimEnd_eq_self]
    rw [List.getLast?_append_of_ne_nil _ (by simp)]
    simpa using hclose
  rw [ofChars_eq, htrim, if_neg (by simp), dropSuffix?_append]
  simp only [ofChars_of_trim_eq (trim_trimStart text) h]
  rfl

theorem ofChars_primitive (p : Primitive) : ofChars p.keyword.toList = .ok (.primitive p) := by
  have htrim : trim p.keyword.toList = p.keyword.toList :=
    trim_of_forall fun ch hch => (isNameChar_keyword p ch hch).not_isBlank
  rw [ofChars_eq, htrim]
  cases p <;> rfl

/-- A class has no brackets, so it is read as a whole. -/
theorem ofChars_plain {text : List Char} {c : ClassName} (h : c.Derives text) :
    ofChars text = .ok (.plain c) := by
  have hread : ClassName.ofChars text = .ok c := by
    rw [ClassName.ofChars_eq_ok_iff, h.trim_eq]
    exact h
  have hsuffix : dropSuffix? ['[', ']'] text = none := by
    refine dropSuffix?_eq_none (fun hlast => ?_) (by decide)
    exact h.not_mem (by decide) (List.mem_of_mem_getLast? hlast.symm)
  rw [ofChars_eq, h.trim_eq, if_neg (by simpa using h.ne_nil), hsuffix]
  have hopen : '<' ∉ text := h.not_mem (by decide)
  simp only [ofKeyword?_of_class hread, cutAt?_eq_none hopen, hread]
  rfl

/-- The brackets around the arguments are found. -/
theorem ofChars_applied {head blanks inner : List Char} {raw : ClassName}
    {arguments : List TypeName} (hraw : raw.Derives head) (hblanks : IsBlankText blanks)
    {pieces : List (List Char)} (hpieces : splitArguments 0 inner = some pieces)
    (hread : pieces.mapM ofChars = .ok arguments) :
    ofChars (head ++ blanks ++ '<' :: (inner ++ ['>'])) = .ok (.applied raw arguments) := by
  have hclass : ClassName.ofChars (head ++ blanks) = .ok raw := by
    have htrim := trim_append_blank .nil hblanks head
    rw [ClassName.ofChars_eq_ok_iff, ← List.nil_append head, htrim, hraw.trim_eq]
    exact hraw
  have hopen : '<' ∉ head ++ blanks := by
    rw [List.mem_append, not_or]
    exact ⟨hraw.not_mem (by decide), fun hmem => absurd (hblanks _ hmem) (by decide)⟩
  have hlast : (head ++ blanks ++ '<' :: (inner ++ ['>'])).getLast? = some '>' := by
    rw [← List.cons_append, ← List.append_assoc, List.getLast?_concat]
  have htrim : trim (head ++ blanks ++ '<' :: (inner ++ ['>'])) =
      head ++ blanks ++ '<' :: (inner ++ ['>']) := by
    refine trim_eq_self (fun ch hch => ?_) (fun ch hch => ?_)
    · rw [List.append_assoc, List.head?_append_of_ne_nil _ hraw.ne_nil] at hch
      exact (hraw.isNameChar ch (List.mem_of_mem_head? hch)).not_isBlank
    · rw [hlast, Option.mem_some_iff] at hch
      subst hch
      decide
  have hsuffix : dropSuffix? ['[', ']'] (head ++ blanks ++ '<' :: (inner ++ ['>'])) = none :=
    dropSuffix?_eq_none (by rw [hlast]; decide) (by decide)
  have hkeyword : Primitive.ofKeyword?
      (String.ofList (head ++ blanks ++ '<' :: (inner ++ ['>']))) = none :=
    ofKeyword?_of_mem (by simp)
  have hpiece : ¬ (pieces.any fun piece => (trim piece).isEmpty) = true := by
    rw [List.any_eq_true]
    rintro ⟨piece, hpiece, hempty⟩
    have hmem : ofChars piece ∈ arguments.map .ok := by
      rw [mapM_eq_ok_iff.mp hread]
      exact List.mem_map_of_mem hpiece
    obtain ⟨t, -, ht⟩ := List.mem_map.mp hmem
    exact trim_ne_nil_of_ofChars ht.symm (List.isEmpty_iff.mp hempty)
  rw [ofChars_eq, htrim, if_neg (by simp), hsuffix]
  simp only [hkeyword, cutAt?_append hopen, dropSuffix?_append, hclass, hpieces, if_neg hpiece]
  show Except.bind (pieces.mapM ofChars) _ = _
  rw [hread]
  rfl

mutual

/-- **The type that a text derives is read from it.** -/
theorem ofChars_of_derives {t : TypeName} {text : List Char} :
    Derives t text → ofChars text = .ok t
  | .blanks hbefore hcore hafter =>
      ofChars_of_trim_eq (trim_append_blank hbefore hafter _) (ofChars_of_core hcore)

theorem ofChars_of_core {t : TypeName} {text : List Char} : Core t text → ofChars text = .ok t
  | .array h => ofChars_array (ofChars_of_derives h)
  | .primitive p => ofChars_primitive p
  | .plain h => ofChars_plain h
  | .applied hraw hblanks harguments => by
      obtain ⟨pieces, hpieces, hread⟩ := exists_pieces_of_derivesList harguments
      exact ofChars_applied hraw hblanks hpieces hread

/-- The pieces of a derived argument list derive its types. -/
theorem exists_pieces_of_derivesList {ts : List TypeName} {text : List Char} :
    DerivesList ts text →
      ∃ pieces, splitArguments 0 text = some pieces ∧ pieces.mapM ofChars = .ok ts
  | .one h => by
      have hpass := h.passes 0 []
      rw [List.append_nil] at hpass
      refine ⟨[text], by simp [hpass, splitArguments, prepend], ?_⟩
      exact mapM_eq_ok_iff.mpr (by simp [ofChars_of_derives h])
  | @DerivesList.cons first rest t ts h hothers => by
      obtain ⟨pieces, hpieces, hread⟩ := exists_pieces_of_derivesList hothers
      refine ⟨first :: pieces, ?_, ?_⟩
      · rw [h.passes 0, splitArguments_cons, if_neg (by decide), if_neg (by decide),
          if_pos (by decide), hpieces]
        simp [prepend]
      · rw [List.mapM_cons, ofChars_of_derives h, hread]
        rfl

end

/-! ### Reading follows the grammar -/

/-- **The types are read by their grammar.**  A text is read as the type that it derives, which is
at most one, and every text that derives no type is refused. -/
theorem reads_grammar (text : String) :
    (∀ t, ofText text = .ok t ↔ Derives t text.toList) ∧
      ((∃ refusal, ofText text = .error refusal) ↔ ¬ ∃ t, Derives t text.toList) ∧
      ∀ s t, Derives s text.toList → Derives t text.toList → s = t := by
  have hread (t : TypeName) : ofText text = .ok t ↔ Derives t text.toList :=
    ⟨derives_of_ofChars, ofChars_of_derives⟩
  refine ⟨hread, ?_, fun s t hs ht => ?_⟩
  · simp only [← hread, not_exists]
    cases ofText text <;> simp
  · have hsame := (hread s).mpr hs
    rw [(hread t).mpr ht] at hsame
    exact (Except.ok.inj hsame).symm

/-- An array of maps to arrays, as `a.Map<b.K.V, int[]>[]`. -/
def mapsToArrays : TypeName :=
  .array (.applied ⟨"a", "Map", []⟩ [.plain ⟨"b", "K", ["V"]⟩, .array (.primitive .int)])

/-- Brackets are found at every depth, and the blanks around arguments are dropped. -/
theorem reads_grammar_mapsToArrays :
    Derives mapsToArrays " a.Map < b.K$V , int[] >[] ".toList ∧
      ¬ (∃ t, Derives t "a.Map<b.K, >".toList) ∧
      ∀ t, Derives t "int".toList → t = .primitive .int := by
  refine ⟨((reads_grammar " a.Map < b.K$V , int[] >[] ").1 _).mp (by decide +kernel),
    (reads_grammar "a.Map<b.K, >").2.1.mp ⟨⟨"a.Map<b.K, >", .emptyArgument⟩, by decide +kernel⟩,
    fun t ht => ?_⟩
  have hint : Derives (.primitive .int) "int".toList :=
    ((reads_grammar "int").1 _).mp (by decide +kernel)
  exact (reads_grammar "int").2.2 t _ ht hint

end TypeName

end Bindery
