import Bindery.Name.ClassName
import Bindery.Proofs.Result
import Bindery.Proofs.Text.Splitting

/-!
# Class names that can be read

Not every `ClassName` is the reading of a text.  The readings are exactly the *proper* names
(`ClassName.isProper_iff_isRead`): their packages consist of words that begin with a lowercase
letter, their outermost names do not begin with one, and no name contains a dot or a dollar sign.
So both written forms of a proper name show where its parts end.

The two forms differ in what they keep.  Proper names are read back from their reflection names.
From their canonical names they are read back exactly when every nested name begins as an identifier
does, and otherwise nothing is read (`ClassName.toOption_ofText_canonicalName`).

Both forms are injective on proper names, and no reflection name is the canonical form of another
name (`ClassName.eq_of_reflectionName_eq_canonicalName`).  Caches and manifests are indexed by these
texts and rely on it.
-/

namespace Bindery

open Text ClassName

/-! ### Words -/

/-- A word of a package is an identifier that begins with a lowercase letter. -/
def IsPackageWord (word : List Char) : Prop :=
  isIdentifier word = true ∧ isPackageSegment word = true

/-- A simple name consists of the characters of identifiers, the dollar sign aside. -/
def IsSimpleName (name : List Char) : Prop :=
  name ≠ [] ∧ ∀ c ∈ name, isIdentifierPart c = true ∧ c ≠ '$'

/-- The words of a package, of which the default package has none. -/
def packageWords (package : String) : List (List Char) :=
  if package.isEmpty then [] else splitOn '.' package.toList

/-- A package consists of package words. -/
def IsPackage (package : String) : Prop := ∀ word ∈ packageWords package, IsPackageWord word

/-- Whether a name begins as an identifier does. -/
def beginsIdentifier : List Char → Bool
  | [] => false
  | c :: _ => isIdentifierStart c

instance (word : List Char) : Decidable (IsPackageWord word) :=
  inferInstanceAs (Decidable (_ ∧ _))

instance (name : List Char) : Decidable (IsSimpleName name) :=
  @instDecidableAnd _ _ inferInstance (List.decidableBAll _ name)

instance (package : String) : Decidable (IsPackage package) :=
  inferInstanceAs (Decidable (∀ word ∈ _, _))

/-- Every character of an identifier can stand inside one. -/
theorem forall_isIdentifierPart {word : List Char} (h : isIdentifier word = true) :
    ∀ c ∈ word, isIdentifierPart c = true := by
  cases word with
  | nil => simp
  | cons first rest =>
      rw [isIdentifier, Bool.and_eq_true] at h
      intro c hc
      rcases List.mem_cons.mp hc with rfl | hrest
      · exact isIdentifierPart_of_start h.1
      · exact List.all_eq_true.mp h.2 c hrest

/-- Identifiers are not empty. -/
theorem ne_nil_of_isIdentifier {word : List Char} (h : isIdentifier word = true) : word ≠ [] := by
  rintro rfl
  cases h

/-- Dots do not occur in identifiers. -/
theorem dot_not_mem {word : List Char} (h : ∀ c ∈ word, isIdentifierPart c = true) :
    '.' ∉ word := by
  intro hdot
  exact absurd (h _ hdot) (by decide)

/-- A word of the characters of identifiers is one exactly when it begins as one. -/
theorem isIdentifier_eq_beginsIdentifier {word : List Char}
    (h : ∀ c ∈ word, isIdentifierPart c = true) : isIdentifier word = beginsIdentifier word := by
  cases word with
  | nil => rfl
  | cons first rest =>
      rw [isIdentifier, beginsIdentifier,
        List.all_eq_true.mpr fun c hc => h c (List.mem_cons_of_mem _ hc), Bool.and_true]

/-- Words that are joined to one word begin it as the first of them does. -/
theorem beginsIdentifier_joinWith {word : List Char} (h : word ≠ []) (separator : Char)
    (words : List (List Char)) :
    beginsIdentifier (joinWith [separator] (word :: words)) = beginsIdentifier word := by
  obtain ⟨first, rest, rfl⟩ := List.exists_cons_of_ne_nil h
  rw [joinWith_cons_cons]
  rfl

/-- Words that are joined to one word are told from packages by the first of them. -/
theorem isPackageSegment_joinWith {word : List Char} (h : word ≠ []) (separator : Char)
    (words : List (List Char)) :
    isPackageSegment (joinWith [separator] (word :: words)) = isPackageSegment word := by
  obtain ⟨first, rest, rfl⟩ := List.exists_cons_of_ne_nil h
  rw [joinWith_cons_cons]
  rfl

namespace IsSimpleName

variable {name : List Char}

theorem isIdentifierPart (h : IsSimpleName name) : ∀ c ∈ name, isIdentifierPart c = true :=
  fun c hc => (h.2 c hc).1

theorem dollar_not_mem (h : IsSimpleName name) : '$' ∉ name := fun hc => (h.2 _ hc).2 rfl

end IsSimpleName

/-! ### Packages -/

@[simp] theorem packageWords_empty : packageWords "" = [] := rfl

/-- A package is its words joined by dots. -/
theorem ofList_joinWith_packageWords (package : String) :
    String.ofList (joinWith ['.'] (packageWords package)) = package := by
  unfold packageWords
  split
  · next h => simpa [joinWith] using (String.isEmpty_iff.mp h).symm
  · rw [joinWith_splitOn, String.ofList_toList]

/-- The words of a joined package are the words joined. -/
theorem packageWords_ofList_joinWith {words : List (List Char)}
    (h : ∀ word ∈ words, IsPackageWord word) :
    packageWords (String.ofList (joinWith ['.'] words)) = words := by
  cases words with
  | nil => rfl
  | cons first rest =>
      have hdots : ∀ word ∈ first :: rest, '.' ∉ word := fun word hword =>
        dot_not_mem (forall_isIdentifierPart (h word hword).1)
      have hsplit := splitOn_joinWith (List.cons_ne_nil first rest) hdots
      have hne : joinWith ['.'] (first :: rest) ≠ [] := by
        intro hnil
        rw [hnil] at hsplit
        have hfirst : first = [] := (List.cons.inj hsplit).1.symm
        exact ne_nil_of_isIdentifier (h first (by simp)).1 hfirst
      rw [packageWords, if_neg (by simpa [String.isEmpty_iff] using hne), String.toList_ofList,
        hsplit]

theorem packageWords_inj {p q : String} (h : packageWords p = packageWords q) : p = q := by
  rw [← ofList_joinWith_packageWords p, h, ofList_joinWith_packageWords]

/-- **A qualified name shows the words of its package.** -/
theorem splitOn_qualified (package name : String) :
    splitOn '.' (qualified package name).toList =
      packageWords package ++ splitOn '.' name.toList := by
  unfold qualified packageWords
  split
  · rfl
  · simp only [toString, String.toList_append, List.append_assoc]
    exact splitOn_append_cons '.' package.toList name.toList

/-! ### Proper names -/

namespace ClassName

/-- **Proper names** have a package of package words, an outermost name that does not begin with
a lowercase letter, and simple names without dots and dollar signs. -/
structure IsProper (c : ClassName) : Prop where
  package : IsPackage c.package
  outermost : IsSimpleName c.outermost.toList
  begins : beginsIdentifier c.outermost.toList = true
  capital : isPackageSegment c.outermost.toList = false
  nested : ∀ name ∈ c.nested, IsSimpleName name.toList

instance (c : ClassName) : Decidable c.IsProper :=
  decidable_of_iff (IsPackage c.package ∧ IsSimpleName c.outermost.toList ∧
      beginsIdentifier c.outermost.toList = true ∧ isPackageSegment c.outermost.toList = false ∧
      ∀ name ∈ c.nested, IsSimpleName name.toList)
    ⟨fun ⟨h₁, h₂, h₃, h₄, h₅⟩ => ⟨h₁, h₂, h₃, h₄, h₅⟩,
      fun ⟨h₁, h₂, h₃, h₄, h₅⟩ => ⟨h₁, h₂, h₃, h₄, h₅⟩⟩

/-- Whether every nested name begins as an identifier does. -/
def isRereadable (c : ClassName) : Bool := c.nested.all fun name => beginsIdentifier name.toList

variable {c d : ClassName}

/-- All simple names of a proper name are simple names. -/
theorem IsProper.simpleNames (h : c.IsProper) :
    ∀ name ∈ c.simpleNames.map String.toList, IsSimpleName name := by
  intro name hname
  obtain ⟨s, hs, rfl⟩ := List.mem_map.mp hname
  rcases List.mem_cons.mp hs with rfl | hnested
  · exact h.outermost
  · exact h.nested s hnested

/-- The top-level class of a proper name is proper. -/
theorem IsProper.topLevel (h : c.IsProper) : c.topLevel.IsProper :=
  ⟨h.package, h.outermost, h.begins, h.capital, by simp [ClassName.topLevel]⟩

/-- **The words of a canonical name** are those of the package and then the simple names. -/
theorem splitOn_canonicalName (h : c.IsProper) :
    splitOn '.' c.canonicalName.toList =
      packageWords c.package ++ c.simpleNames.map String.toList := by
  rw [canonicalName, splitOn_qualified, joinNames, String.toList_ofList,
    splitOn_joinWith (by simp [ClassName.simpleNames])
      fun name hname => dot_not_mem (h.simpleNames name hname).isIdentifierPart]

/-- The characters of the reflected simple names. -/
theorem isIdentifierPart_of_mem_joinWith (h : c.IsProper) :
    ∀ ch ∈ joinWith ['$'] (c.simpleNames.map String.toList), isIdentifierPart ch = true := by
  intro ch hch
  rcases mem_joinWith hch with rfl | ⟨name, hname, hmem⟩
  · decide
  · exact (h.simpleNames name hname).isIdentifierPart ch hmem

/-- The words of a reflection name are those of the package and then all simple names as one
word. -/
theorem splitOn_reflectionName (h : c.IsProper) :
    splitOn '.' c.reflectionName.toList =
      packageWords c.package ++ [joinWith ['$'] (c.simpleNames.map String.toList)] := by
  rw [reflectionName, splitOn_qualified, joinNames, String.toList_ofList,
    splitOn_of_not_mem (dot_not_mem (isIdentifierPart_of_mem_joinWith h))]

/-! ### What is read is proper -/

/-- A segment that was checked is an identifier. -/
theorem isIdentifier_of_checkSegment {segment : List Char} (h : checkSegment segment = .ok ()) :
    isIdentifier segment = true := by
  unfold checkSegment at h
  split at h
  · cases h
  · split at h
    · assumption
    · cases h

theorem checkSegment_of_isIdentifier {segment : List Char} (h : isIdentifier segment = true) :
    checkSegment segment = .ok () := by
  rw [checkSegment, if_neg (by simpa using ne_nil_of_isIdentifier h), if_pos h]

/-- The names read from a word are what the word is made of. -/
theorem readNames_eq_ok_iff {segment : List Char} {names : List (List Char)} :
    readNames segment = .ok names ↔
      names ≠ [] ∧ segment = joinWith ['$'] names ∧ ∀ name ∈ names, name ≠ [] ∧ '$' ∉ name := by
  constructor
  · intro h
    simp only [readNames] at h
    split at h
    · cases h
    · next hempty =>
        cases h
        refine ⟨splitOn_ne_nil _ _, (joinWith_splitOn _ _).symm, fun name hname =>
          ⟨?_, not_mem_of_mem_splitOn hname⟩⟩
        rintro rfl
        exact hempty (List.any_eq_true.mpr ⟨[], hname, rfl⟩)
  · rintro ⟨hne, rfl, hnames⟩
    rw [readNames, splitOn_joinWith hne fun name hname => (hnames name hname).2]
    refine if_neg fun hempty => ?_
    obtain ⟨name, hname, hnil⟩ := List.any_eq_true.mp hempty
    exact (hnames name hname).1 (List.isEmpty_iff.mp hnil)

/-- The names read from an identifier are simple names, and they are its pieces. -/
theorem readNames_eq_ok {segment : List Char} {names : List (List Char)}
    (hword : isIdentifier segment = true) (h : readNames segment = .ok names) :
    names = splitOn '$' segment ∧ ∀ name ∈ names, IsSimpleName name := by
  obtain ⟨hne, rfl, hnames⟩ := readNames_eq_ok_iff.mp h
  refine ⟨(splitOn_joinWith hne fun name hname => (hnames name hname).2).symm,
    fun name hname => ⟨(hnames name hname).1, fun ch hch => ⟨?_, ?_⟩⟩⟩
  · exact forall_isIdentifierPart hword ch (mem_joinWith_of_mem hname hch)
  · exact ne_of_mem_of_not_mem hch (hnames name hname).2

theorem readNames_of_forall {names : List (List Char)} (hne : names ≠ [])
    (h : ∀ name ∈ names, IsSimpleName name) :
    readNames (joinWith ['$'] names) = .ok names :=
  readNames_eq_ok_iff.mpr
    ⟨hne, rfl, fun name hname => ⟨(h name hname).1, (h name hname).dollar_not_mem⟩⟩

/-- The names of the first segment are read before those of the others. -/
theorem exists_of_readSimpleNames_cons {segment : List Char} {rest names : List (List Char)}
    (h : readSimpleNames (segment :: rest) = .ok names) :
    ∃ own others, checkSegment segment = .ok () ∧ readNames segment = .ok own ∧
      readSimpleNames rest = .ok others ∧ names = own ++ others := by
  rw [readSimpleNames] at h
  obtain ⟨⟨⟩, hcheck, h⟩ := bind_eq_ok h
  obtain ⟨own, hown, h⟩ := bind_eq_ok h
  obtain ⟨others, hothers, heq⟩ := bind_eq_ok h
  cases heq
  exact ⟨own, others, hcheck, hown, hothers, rfl⟩

/-- What is read from segments behind a class are simple names. -/
theorem isSimpleName_of_readSimpleNames {segments names : List (List Char)}
    (h : readSimpleNames segments = .ok names) : ∀ name ∈ names, IsSimpleName name := by
  induction segments generalizing names with
  | nil =>
      cases h
      simp
  | cons segment rest ih =>
      obtain ⟨own, others, hcheck, hown, hothers, rfl⟩ := exists_of_readSimpleNames_cons h
      intro name hname
      rcases List.mem_append.mp hname with hmem | hmem
      · exact (readNames_eq_ok (isIdentifier_of_checkSegment hcheck) hown).2 name hmem
      · exact ih hothers name hmem

/-- The first name read from a segment begins as the segment does. -/
theorem head?_of_splitOn {segment first : List Char} {others : List (List Char)}
    (h : splitOn '$' segment = first :: others) (hne : first ≠ []) :
    first.head? = segment.head? := by
  cases segment with
  | nil => simp_all [splitOn]
  | cons c segment =>
      rw [splitOn] at h
      split at h
      · exact absurd (List.cons.inj h).1.symm hne
      · cases hs : splitOn '$' segment with
        | nil => exact absurd hs (splitOn_ne_nil '$' segment)
        | cons piece pieces =>
            rw [hs] at h
            rw [← (List.cons.inj h).1]
            rfl

/-- A class named by the pieces of a segment is proper if the segment is no package word. -/
theorem isProper_of_splitOn {words inner nested : List (List Char)} {segment outermost : List Char}
    (hwords : ∀ word ∈ words, IsPackageWord word) (hword : isIdentifier segment = true)
    (hcapital : isPackageSegment segment = false)
    (hsplit : splitOn '$' segment = outermost :: inner)
    (hsimple : ∀ name ∈ outermost :: nested, IsSimpleName name) :
    IsProper ⟨String.ofList (joinWith ['.'] words), String.ofList outermost,
      nested.map String.ofList⟩ := by
  have houtermost := hsimple outermost List.mem_cons_self
  -- the outermost name begins as the whole segment does
  have hhead := head?_of_splitOn hsplit houtermost.1
  refine ⟨?_, ?_, ?_, ?_, ?_⟩
  · show ∀ word ∈ _, _
    rwa [packageWords_ofList_joinWith hwords]
  · simpa using houtermost
  · rw [String.toList_ofList]
    cases segment <;> cases outermost <;> simp_all [isIdentifier, beginsIdentifier]
  · rw [String.toList_ofList]
    cases segment <;> cases outermost <;> simp_all [isPackageSegment]
  · intro name hname
    obtain ⟨inner, hinner, rfl⟩ := List.mem_map.mp hname
    rw [String.toList_ofList]
    exact hsimple inner (List.mem_cons_of_mem _ hinner)

/-- **What is read from segments is proper**, if the words before them are package words. -/
theorem isProper_of_ofSegments {words segments : List (List Char)} {c : ClassName}
    (hwords : ∀ word ∈ words, IsPackageWord word) (h : ofSegments words segments = .ok c) :
    c.IsProper := by
  -- package words are collected until the first segment that is none
  induction segments generalizing words with
  | nil => cases h
  | cons segment rest ih =>
      rw [ofSegments] at h
      obtain ⟨⟨⟩, hcheck, h⟩ := bind_eq_ok h
      have hword := isIdentifier_of_checkSegment hcheck
      split at h
      · next hlower =>
          refine ih (fun word hmem => ?_) h
          rcases List.mem_append.mp hmem with hold | hnew
          · exact hwords word hold
          · obtain rfl := List.mem_singleton.mp hnew
            exact ⟨hword, hlower⟩
      · next hlower =>
          obtain ⟨names, hnames, h⟩ := bind_eq_ok h
          have hsimple := isSimpleName_of_readSimpleNames hnames
          obtain ⟨own, others, -, hown, -, rfl⟩ := exists_of_readSimpleNames_cons hnames
          have hsplit := (readNames_eq_ok hword hown).1
          cases own with
          | nil => exact absurd hsplit.symm (splitOn_ne_nil '$' segment)
          | cons outermost inner =>
              cases h
              exact isProper_of_splitOn hwords hword (by simpa using hlower) hsplit.symm hsimple

theorem isProper_of_ofChars {text : List Char} {c : ClassName} (h : ofChars text = .ok c) :
    c.IsProper := by
  rw [ofChars] at h
  split at h
  · next hread =>
      cases h
      exact isProper_of_ofSegments (by simp) hread
  · cases h

/-- What is read from a text is proper. -/
theorem isProper_of_ofText {text : String} {c : ClassName} (h : ofText text = .ok c) :
    c.IsProper :=
  isProper_of_ofChars h

/-! ### Proper names are read back -/

/-- Package words in front of further segments are taken into the package. -/
theorem ofSegments_append {words : List (List Char)} (h : ∀ word ∈ words, IsPackageWord word)
    (before rest : List (List Char)) :
    ofSegments before (words ++ rest) = ofSegments (before ++ words) rest := by
  induction words generalizing before with
  | nil => simp
  | cons word words ih =>
      obtain ⟨hword, hlower⟩ := h word (by simp)
      rw [List.cons_append, ofSegments, checkSegment_of_isIdentifier hword]
      show (if isPackageSegment word = true then _ else _) = _
      rw [if_pos hlower, ih (fun other hother => h other (List.mem_cons_of_mem _ hother)),
        List.append_assoc, List.singleton_append]

/-- A text without blanks is read segment by segment. -/
theorem ofText_eq {text : String} (h : ∀ c ∈ text.toList, isBlank c = false) :
    ofText text = (ofSegments [] (splitOn '.' text.toList)).mapError (⟨text, ·⟩) := by
  simp only [ofText, ofChars, trim_of_forall h, String.ofList_toList]
  cases ofSegments [] (splitOn '.' text.toList) <;> rfl

/-- The characters that written names of classes consist of. -/
def IsNameChar (ch : Char) : Prop := isIdentifierPart ch = true ∨ ch = '.'

instance (ch : Char) : Decidable (IsNameChar ch) := inferInstanceAs (Decidable (_ ∨ _))

theorem IsNameChar.ne {ch other : Char} (h : IsNameChar ch) (hother : ¬ IsNameChar other) :
    ch ≠ other := by
  rintro rfl
  exact hother h

theorem IsNameChar.not_isBlank {ch : Char} (h : IsNameChar ch) : isBlank ch = false := by
  rcases h with hpart | rfl
  · exact not_isBlank_of_isIdentifierPart hpart
  · decide

/-- A qualified name consists of the characters of names if its last part does. -/
theorem isNameChar_of_mem_qualified {package name : String} (hpackage : IsPackage package)
    (hname : ∀ ch ∈ name.toList, IsNameChar ch) :
    ∀ ch ∈ (qualified package name).toList, IsNameChar ch := by
  intro ch hch
  rw [← joinWith_splitOn '.' (qualified package name).toList, splitOn_qualified] at hch
  rcases mem_joinWith hch with rfl | ⟨word, hword, hmem⟩
  · exact .inr rfl
  · rcases List.mem_append.mp hword with hword | hword
    · exact .inl (forall_isIdentifierPart (hpackage word hword).1 ch hmem)
    · refine hname ch ?_
      rw [← joinWith_splitOn '.' name.toList]
      exact mem_joinWith_of_mem hword hmem

theorem IsProper.isNameChar_reflectionName (h : c.IsProper) :
    ∀ ch ∈ c.reflectionName.toList, IsNameChar ch := by
  refine isNameChar_of_mem_qualified h.package fun ch hch => ?_
  rw [joinNames, String.toList_ofList] at hch
  exact .inl (isIdentifierPart_of_mem_joinWith h ch hch)

theorem IsProper.isNameChar_canonicalName (h : c.IsProper) :
    ∀ ch ∈ c.canonicalName.toList, IsNameChar ch := by
  refine isNameChar_of_mem_qualified h.package fun ch hch => ?_
  rw [joinNames, String.toList_ofList] at hch
  rcases mem_joinWith hch with rfl | ⟨name, hname, hmem⟩
  · exact .inr rfl
  · exact .inl ((h.simpleNames name hname).isIdentifierPart ch hmem)

theorem IsProper.not_mem_canonicalName (h : c.IsProper) {ch : Char} (hch : ¬ IsNameChar ch) :
    ch ∉ c.canonicalName.toList :=
  fun hmem => hch (h.isNameChar_canonicalName ch hmem)

theorem IsProper.canonicalName_ne_nil (h : c.IsProper) : c.canonicalName.toList ≠ [] := by
  intro hnil
  have hsplit := splitOn_canonicalName h
  rw [hnil, splitOn] at hsplit
  have hmem : c.outermost.toList ∈ [[]] := by
    rw [hsplit]
    simp [ClassName.simpleNames]
  exact h.outermost.1 (List.mem_singleton.mp hmem)

/-- The class of a package given by its words. -/
theorem eq_mk_packageWords (c : ClassName) :
    c = ⟨String.ofList (joinWith ['.'] (packageWords c.package)),
      String.ofList c.outermost.toList, (c.nested.map String.toList).map String.ofList⟩ := by
  rw [ofList_joinWith_packageWords, String.ofList_toList, List.map_map]
  simp [Function.comp_def]

/-- **Proper names are read back from their reflection names.** -/
theorem ofText_reflectionName (h : c.IsProper) : ofText c.reflectionName = .ok c := by
  have hnames := h.simpleNames
  have hparts := isIdentifierPart_of_mem_joinWith h
  rw [ofText_eq fun ch hch => (h.isNameChar_reflectionName ch hch).not_isBlank,
    splitOn_reflectionName h, ofSegments_append h.package, List.nil_append]
  -- the joined names begin with the outermost one, so they are a class segment
  have hword : isIdentifier (joinWith ['$'] (c.simpleNames.map String.toList)) = true := by
    rw [isIdentifier_eq_beginsIdentifier hparts, ClassName.simpleNames, List.map_cons,
      beginsIdentifier_joinWith h.outermost.1, h.begins]
  have hcapital : isPackageSegment (joinWith ['$'] (c.simpleNames.map String.toList)) = false := by
    rw [ClassName.simpleNames, List.map_cons, isPackageSegment_joinWith h.outermost.1, h.capital]
  have hread : readNames (joinWith ['$'] (c.simpleNames.map String.toList)) =
      .ok (c.simpleNames.map String.toList) :=
    readNames_of_forall (by simp [ClassName.simpleNames]) hnames
  rw [ofSegments, checkSegment_of_isIdentifier hword]
  show Except.mapError _ (if _ then _ else _) = _
  rw [if_neg (by simp [hcapital]), readSimpleNames, checkSegment_of_isIdentifier hword, hread]
  show Except.ok (ClassName.mk _ _ (((c.nested.map String.toList) ++ []).map String.ofList)) = _
  rw [List.append_nil]
  exact congrArg _ (eq_mk_packageWords c).symm

/-- Some text is read as the class. -/
def IsRead (c : ClassName) : Prop := ∃ text, ofText text = .ok c

/-- **The proper names are those that some text is read as.** -/
theorem isProper_iff_isRead : c.IsProper ↔ c.IsRead :=
  ⟨fun h => ⟨_, ofText_reflectionName h⟩, fun ⟨_, h⟩ => isProper_of_ofText h⟩

/-- Simple names written as segments of their own are read back if they all begin as identifiers
do, and otherwise nothing is read. -/
theorem toOption_readSimpleNames {names : List (List Char)}
    (h : ∀ name ∈ names, IsSimpleName name) :
    (readSimpleNames names).toOption = if names.all beginsIdentifier then some names else none := by
  induction names with
  | nil => rfl
  | cons name names ih =>
      have hname := h name (by simp)
      have hword := isIdentifier_eq_beginsIdentifier hname.isIdentifierPart
      have ih := ih fun other hother => h other (List.mem_cons_of_mem _ hother)
      rw [readSimpleNames, toOption_bind]
      cases hbegins : beginsIdentifier name with
      | false =>
          have hcheck : (checkSegment name).toOption = none := by
            rw [checkSegment, if_neg (by simpa using hname.1), if_neg (by simp [hword, hbegins])]
            rfl
          simp [hcheck, hbegins]
      | true =>
          rw [hbegins] at hword
          have hread : readNames name = .ok [name] := by
            have := readNames_of_forall (List.cons_ne_nil name []) (by simpa using hname)
            rwa [joinWith] at this
          rw [checkSegment_of_isIdentifier hword, hread]
          show (readSimpleNames names >>= _).toOption = _
          rw [toOption_bind, ih, List.all_cons, hbegins, Bool.true_and]
          split <;> rfl

/-- **Proper names are read back from their canonical names** exactly when every nested name
begins as an identifier does, and otherwise nothing is read. -/
theorem toOption_ofText_canonicalName (h : c.IsProper) :
    (ofText c.canonicalName).toOption = if c.isRereadable then some c else none := by
  have houter := h.outermost
  have hword := isIdentifier_eq_beginsIdentifier houter.isIdentifierPart
  rw [h.begins] at hword
  have hread := toOption_readSimpleNames h.simpleNames
  have hall : (c.simpleNames.map String.toList).all beginsIdentifier = c.isRereadable := by
    simp [ClassName.simpleNames, isRereadable, h.begins, List.all_map, Function.comp_def]
  rw [hall] at hread
  rw [ofText_eq fun ch hch => (h.isNameChar_canonicalName ch hch).not_isBlank,
    splitOn_canonicalName h, ofSegments_append h.package, List.nil_append, toOption_mapError]
  rw [ClassName.simpleNames, List.map_cons] at hread ⊢
  -- behind the package words the outermost name is the first that is no package word
  rw [ofSegments, checkSegment_of_isIdentifier hword]
  show (if _ then _ else _ : Except NameFault ClassName).toOption = _
  rw [if_neg (by simp [h.capital]), toOption_bind, hread]
  cases c.isRereadable with
  | false => rfl
  | true => exact congrArg some (eq_mk_packageWords c).symm

/-! ### Names are told apart -/

/-- Package words are told from the outermost name behind them. -/
theorem append_inj_of_capital {words words' rest rest' : List (List Char)} {name name' : List Char}
    (hwords : ∀ word ∈ words, IsPackageWord word) (hwords' : ∀ word ∈ words', IsPackageWord word)
    (hname : isPackageSegment name = false) (hname' : isPackageSegment name' = false)
    (h : words ++ name :: rest = words' ++ name' :: rest') :
    words = words' ∧ name :: rest = name' :: rest' := by
  induction words generalizing words' with
  | nil =>
      cases words' with
      | nil => exact ⟨rfl, h⟩
      | cons word words' =>
          obtain rfl : name = word := (List.cons.inj h).1
          exact absurd (hwords' name (by simp)).2 (by simp [hname])
  | cons word words ih =>
      cases words' with
      | nil =>
          obtain rfl : word = name' := (List.cons.inj h).1
          exact absurd (hwords word (by simp)).2 (by simp [hname'])
      | cons word' words' =>
          obtain ⟨rfl, htail⟩ := List.cons.inj h
          obtain ⟨rfl, hrest⟩ := ih (fun w hw => hwords w (List.mem_cons_of_mem _ hw))
            (fun w hw => hwords' w (List.mem_cons_of_mem _ hw)) htail
          exact ⟨rfl, hrest⟩

/-- **No two proper names have the same canonical form.** -/
theorem canonicalName_inj (hc : c.IsProper) (hd : d.IsProper)
    (h : c.canonicalName = d.canonicalName) : c = d := by
  have hsplit := congrArg (fun name => splitOn '.' name.toList) h
  simp only [splitOn_canonicalName hc, splitOn_canonicalName hd, ClassName.simpleNames,
    List.map_cons] at hsplit
  obtain ⟨hpackage, hnames⟩ :=
    append_inj_of_capital hc.package hd.package hc.capital hd.capital hsplit
  obtain ⟨houter, hnested⟩ := List.cons.inj hnames
  cases c
  cases d
  simp only [ClassName.mk.injEq]
  exact ⟨packageWords_inj hpackage, String.toList_inj.mp houter,
    (List.map_inj_right fun _ _ => String.toList_inj.mp).mp hnested⟩

/-- No two proper names have the same reflection name. -/
theorem reflectionName_inj (hc : c.IsProper) (hd : d.IsProper)
    (h : c.reflectionName = d.reflectionName) : c = d := by
  have hread := ofText_reflectionName hc
  rw [h, ofText_reflectionName hd] at hread
  exact (Except.ok.inj hread).symm

/-- **The reflection name of a proper name is the canonical form of no other one.** -/
theorem eq_of_reflectionName_eq_canonicalName (hc : c.IsProper) (hd : d.IsProper)
    (h : c.reflectionName = d.canonicalName) : c = d := by
  have hsplit := congrArg (fun name => splitOn '.' name.toList) h
  simp only [splitOn_reflectionName hc, splitOn_canonicalName hd] at hsplit
  have hcapital : isPackageSegment (joinWith ['$'] (c.simpleNames.map String.toList)) = false := by
    rw [ClassName.simpleNames, List.map_cons, isPackageSegment_joinWith hc.outermost.1, hc.capital]
  obtain ⟨-, hnames⟩ := append_inj_of_capital hc.package hd.package hcapital hd.capital hsplit
  have htop : d.nested = [] := List.map_eq_nil_iff.mp (List.cons.inj hnames).2.symm
  -- a class that is not nested is written in one way only
  refine reflectionName_inj hc hd (h.trans ?_)
  simp [canonicalName, reflectionName, ClassName.simpleNames, htop, joinNames, joinWith]

end ClassName

end Bindery
