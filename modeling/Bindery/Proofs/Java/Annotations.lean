import Bindery.Proofs.Java.Template
import Bindery.Proofs.Java.Writing
import Bindery.Proofs.Name.Proper

/-!
# Names, types and annotations in a line

The texts that modules are made of stay on their lines: names of classes because no proper name has
the end of a line in it (`Scope.isFlat_nameOf`), words that were checked to be names, and literals
because they are escaped.  So types are written as the template has them (`inline_markType`), and
annotations with them, inside a line or on lines of their own.

The one exception is the text of a member of an annotation, which comes from the host as it is.
`MemberInline` is the assumption that it stays on its line.
-/

namespace Bindery.Java

/-! ### Names -/

/-- No name has the end of a line in it. -/
theorem not_isNameChar_newline : ¬ ClassName.IsNameChar '\n' := by decide +kernel

theorem isFlat_of_isName {word : String} (h : isName word = true) : IsFlat word := by
  intro hmem
  rw [isName, Bool.and_eq_true] at h
  exact not_isNameChar_newline (.inl (forall_isIdentifierPart h.1 _ hmem))

theorem ne_empty_of_isName {word : String} (h : isName word = true) : word ≠ "" := by
  rintro rfl
  cases h

theorem isName_of_checkName {role word : String} (h : checkName role word = .ok ()) :
    isName word = true := by
  rw [checkName] at h
  split at h
  · assumption
  · cases h

/-- Simple names with dots between them have no end of a line in them. -/
theorem isFlat_joinNames {c : ClassName} (h : c.IsProper) (around : Nat) :
    IsFlat (Text.joinNames '.' (c.simpleNames.drop around)) := by
  intro hmem
  rw [Text.joinNames, String.toList_ofList] at hmem
  rcases Text.mem_joinWith hmem with hdot | ⟨name, hname, hmem⟩
  · exact absurd hdot (by decide)
  · rw [List.map_drop] at hname
    have hsimple := h.simpleNames name (List.mem_of_mem_drop hname)
    exact not_isNameChar_newline (.inl (hsimple.isIdentifierPart _ hmem))

/-- **Wherever a class is written, its name stays on the line.** -/
theorem Scope.isFlat_nameOf (s : Scope) {c : ClassName} (h : c.IsProper) : IsFlat (s.nameOf c) := by
  rw [Scope.nameOf]
  cases s.standing c with
  | visible around => exact isFlat_joinNames h around.nested.length
  | neighbour => exact isFlat_joinNames h 0
  | shadowed => exact h.not_mem_canonicalName not_isNameChar_newline
  | foreign => exact h.not_mem_canonicalName not_isNameChar_newline

/-- A package stays on its line. -/
theorem isFlat_package {package : String} (h : IsPackage package) : IsFlat package := by
  intro hmem
  rw [← ofList_joinWith_packageWords package, String.toList_ofList] at hmem
  rcases Text.mem_joinWith hmem with hdot | ⟨word, hword, hmem⟩
  · exact absurd hdot (by decide)
  · exact not_isNameChar_newline (.inl (forall_isIdentifierPart (h word hword).1 _ hmem))

/-- A literal stays on the line, whatever it stands for. -/
theorem isFlat_literal (text : String) : IsFlat (literal text) := by
  have hescape (c : Char) : '\n' ∉ escape c := by
    unfold escape
    split <;> simp_all [eq_comm]
  rw [IsFlat, literal, String.toList_ofList, literalChars]
  simp [hescape]

/-! ### Types and fragments -/

section Marks

variable {s : Scope}

theorem markArguments_eq_separated (ts : List TypeName) :
    markArguments ts = separated [.text ", "] (ts.map markType) := by
  induction ts with
  | nil => rfl
  | cons t ts ih =>
      cases ts with
      | nil => rfl
      | cons u us => exact congrArg (markType t ++ [Mark.text ", "] ++ ·) ih

mutual

/-- Types are written inside a line. -/
theorem inline_markType : (t : TypeName) → (∀ c ∈ t.classes, c.IsProper) →
    Inline s (markType t) (Layout.typeText s.nameOf t)
  | .primitive p, _ => .text p.keyword (by cases p <;> decide)
  | .plain c, h => .reference (s.isFlat_nameOf (h c List.mem_cons_self))
  | .applied raw arguments, h => by
      have hraw : Inline s [.reference raw] (s.nameOf raw) :=
        .reference (s.isFlat_nameOf (h raw List.mem_cons_self))
      have harguments := inline_markArguments arguments fun c hc => h c (List.mem_cons_of_mem _ hc)
      have hlist := Inline.separated (.text ", " (by decide)) harguments
      rw [markType, markArguments_eq_separated, Layout.typeText]
      exact ((hraw.append (.text "<" (by decide))).append hlist).append (.text ">" (by decide))
  | .array component, h => (inline_markType component h).append (.text "[]" (by decide))

theorem inline_markArguments : (ts : List TypeName) → (∀ c ∈ TypeName.classesList ts, c.IsProper) →
    List.Forall₂ (Inline s) (ts.map markType) (Layout.argumentTexts s.nameOf ts)
  | [], _ => .nil
  | t :: ts, h => by
      rw [TypeName.classesList] at h
      exact .cons (inline_markType t fun c hc => h c (List.mem_append_left _ hc))
        (inline_markArguments ts fun c hc => h c (List.mem_append_right _ hc))

end

/-- A flat text is written as a fragment, an empty one by nothing. -/
theorem inline_ofText {t : String} (h : IsFlat t) : Inline s (Fragment.ofText t).marks t := by
  rw [Fragment.ofText, Fragment.text]
  split
  next hempty =>
    rw [String.isEmpty_iff.mp hempty]
    exact .nil
  next => exact .text t h

/-! ### Annotations -/

/-- A member of an annotation whose value is written as a text. -/
structure MemberInline (s : Scope) (member : String × Fragment) (text : String × String) :
    Prop where
  name : member.1 = text.1
  flat : IsFlat text.1
  value : Inline s member.2.marks text.2

theorem MemberInline.inline_memberMarks {member : String × Fragment} {text : String × String}
    (h : MemberInline s member text) :
    Inline s (AnnotationUse.memberMarks member) (Layout.memberText text) := by
  rw [AnnotationUse.memberMarks, h.name, Layout.memberText]
  exact ((Inline.text text.1 h.flat).append (.text " = " (by decide))).append h.value

theorem forall₂_memberMarks {members : List (String × Fragment)} {texts : List (String × String)}
    (h : List.Forall₂ (MemberInline s) members texts) :
    List.Forall₂ (Inline s) (members.map AnnotationUse.memberMarks)
      (texts.map Layout.memberText) := by
  rw [List.forall₂_map_left_iff, List.forall₂_map_right_iff]
  exact h.imp fun _ _ hmember => hmember.inline_memberMarks

/-- The equals sign of a member stands on its line, also where the name is empty. -/
theorem begins_memberMarks {members : List (String × Fragment)} {texts : List (String × String)}
    (h : List.Forall₂ (MemberInline s) members texts) :
    ∀ marks ∈ members.map AnnotationUse.memberMarks, begins marks = true := by
  induction h with
  | nil => simp
  | cons hmember hmembers ih =>
      intro marks hmarks
      rcases List.mem_cons.mp hmarks with rfl | hmarks
      · rw [AnnotationUse.memberMarks, hmember.name]
        exact begins_text hmember.flat fun _ => rfl
      · exact ih marks hmarks

theorem AnnotationUse.marks_of_areMany (type : ClassName) {members : List (String × Fragment)}
    (h : Layout.AreMany members) (inLine : Bool) : (⟨type, members⟩ : AnnotationUse).marks inLine =
      [Mark.text "@", .reference type] ++
        ([Mark.text "(", .text (if inLine then "" else "\n"), .indent 2] ++
          separated [.text (if inLine then ", " else ",\n")] (members.map memberMarks) ++
          [Mark.unindent 2, .text (if inLine then "" else "\n"), .text ")"]) := by
  unfold AnnotationUse.marks
  dsimp only
  -- splitting is to find the members, not the tests for the way of writing them
  generalize (if inLine then "" else "\n") = blank, (if inLine then ", " else ",\n") = separator
  refine congrArg _ ?_
  split
  next => exact absurd rfl h.1
  next value => exact absurd rfl (h.2 value)
  next => rfl

/-- Members and their texts are many at once. -/
theorem areMany_iff {members : List (String × Fragment)} {texts : List (String × String)}
    (h : List.Forall₂ (MemberInline s) members texts) :
    Layout.AreMany members ↔ Layout.AreMany texts := by
  cases h with
  | nil => simp [Layout.AreMany]
  | @cons member text members texts hmember hmembers =>
      cases hmembers with
      | nil =>
          obtain ⟨name, value⟩ := member
          obtain ⟨name', value'⟩ := text
          obtain rfl : name = name' := hmember.name
          simp [Layout.AreMany]
      | cons => simp [Layout.AreMany]

/-- Members that are not many are none, or only the one named `value`. -/
theorem of_not_areMany {members : List (String × Fragment)} {texts : List (String × String)}
    (h : List.Forall₂ (MemberInline s) members texts) (hmany : ¬ Layout.AreMany members) :
    (members = [] ∧ texts = []) ∨ ∃ value text, members = [("value", value)] ∧
      texts = [("value", text)] ∧ Inline s value.marks text := by
  by_cases hnil : members = []
  · subst hnil
    exact .inl ⟨rfl, List.forall₂_nil_left_iff.mp h⟩
  · rw [Layout.AreMany, not_and, not_forall] at hmany
    obtain ⟨value, hvalue⟩ := hmany hnil
    obtain rfl := not_not.mp hvalue
    cases h with
    | @cons member text members texts hmember hmembers =>
        cases hmembers
        obtain ⟨name, text⟩ := text
        obtain rfl : "value" = name := hmember.name
        exact .inr ⟨value, text, rfl, rfl, hmember.value⟩

variable {type : ClassName} {members : List (String × Fragment)} {texts : List (String × String)}

/-- An annotation begins with its type. -/
theorem inline_type (s : Scope) (htype : type.IsProper) :
    Inline s [.text "@", .reference type] ("@" ++ s.nameOf type) :=
  (Inline.text "@" (by decide)).append (.reference (s.isFlat_nameOf htype))

/-- **An annotation inside a line is written by the template.** -/
theorem AnnotationUse.inline_marks (htype : type.IsProper)
    (h : List.Forall₂ (MemberInline s) members texts) :
    Inline s ((⟨type, members⟩ : AnnotationUse).marks true)
      (Layout.annotationText (s.nameOf type) texts) := by
  have hhead := inline_type s htype
  have hopen := hhead.append (.text "(" (by decide))
  have hclose : Inline s [.text ")"] ")" := .text ")" (by decide)
  by_cases hmany : Layout.AreMany members
  · have hlist := (Inline.separated (.text ", " (by decide)) (forall₂_memberMarks h)).indented 2
    have hblank : Inline s [.text ""] "" := .text "" (by decide)
    have hall := (hopen.append ((hblank.append hlist).append hblank)).append hclose
    rw [marks_of_areMany type hmany, Layout.annotationText_of_areMany _ ((areMany_iff h).mp hmany)]
    simpa using hall
  · rcases of_not_areMany h hmany with ⟨rfl, rfl⟩ | ⟨value, text, rfl, rfl, hvalue⟩
    · exact hhead
    · have hall := (hopen.append hvalue).append hclose
      simpa [marks, Layout.annotationText] using hall

/-- **An annotation on lines of its own is written by the template.** -/
theorem AnnotationUse.writes_marks (htype : type.IsProper)
    (h : List.Forall₂ (MemberInline s) members texts) (level : Nat) :
    Writes s level ((⟨type, members⟩ : AnnotationUse).marks false ++ [Mark.text "\n"])
      (Layout.annotationLines level (s.nameOf type) texts) := by
  by_cases hmany : Layout.AreMany members
  · have hopen := ((inline_type s htype).append (.text "(" (by decide))).writes_line rfl level
    have hclose := (Inline.text (s := s) ")" (by decide)).writes_line rfl level
    have hmembers := writes_separated_lines (forall₂_memberMarks h) (begins_memberMarks h)
      (by simpa using hmany.1) level 2
    have hall := (hopen.append hmembers).append hclose
    rw [marks_of_areMany type hmany,
      Layout.annotationLines_of_areMany _ _ ((areMany_iff h).mp hmany)]
    simpa using hall
  · -- without a line for each member the annotation is written as inside a line
    have hline := (AnnotationUse.inline_marks htype h).writes_line rfl level
    rcases of_not_areMany h hmany with ⟨rfl, rfl⟩ | ⟨value, text, rfl, rfl, hvalue⟩
    · exact hline
    · exact hline

theorem AnnotationUse.writes_lineMarks (htype : type.IsProper)
    (h : List.Forall₂ (MemberInline s) members texts) (level : Nat) :
    Writes s level (lineMarks [⟨type, members⟩])
      (Layout.annotationLines level (s.nameOf type) texts) := by
  rw [lineMarks, List.flatMap_singleton]
  exact writes_marks htype h level

end Marks

end Bindery.Java
