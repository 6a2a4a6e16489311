import Bindery.Java.SourceFile
import Bindery.Proofs.Name.TypeText

/-!
# References of source files

A source file is written twice: once to find the classes it refers to, and once with the imports in
effect.  Both passes go over the same marks, so what the second pass writes for a reference is
settled by the class and by the type in whose body the reference stands.  `spellings` pairs every
reference with the name that is written for it, and `SourceFile.text_eq_textOf_spellOut` says that
the text of the file is that of its marks with these names put in.

`SourceFile.classes` lists the classes that the declarations of a file mention, in the order of
writing, without going through marks.  By `SourceFile.references_eq` these are the references of the
file, so no reference is lost on the way to the marks, and none is made up.
-/

namespace Bindery.Java

/-! ### Mentioned classes -/

/-- The classes that a part of a fragment mentions. -/
def Part.classes : Part → List ClassName
  | .type t => t.classes
  | _ => []

/-- The classes that a fragment mentions. -/
def Fragment.classes (f : Fragment) : List ClassName := f.parts.flatMap Part.classes

/-- The classes that an annotation mentions: its type, and those in the values of its members. -/
def AnnotationUse.classes (a : AnnotationUse) : List ClassName :=
  a.type :: a.members.flatMap fun m => m.2.classes

/-- The classes that a parameter mentions. -/
def ParameterEntry.classes (p : ParameterEntry) : List ClassName :=
  p.annotations.flatMap AnnotationUse.classes ++ p.type.classes

/-- The classes that a function mentions; the body counts only where it is written. -/
def Method.classes (m : Method) : List ClassName :=
  m.annotations.flatMap AnnotationUse.classes ++ m.returnType.classes ++
    m.parameters.flatMap ParameterEntry.classes ++ if m.isAbstract then [] else m.body.classes

namespace SourceFile

/-- The classes that the annotations of the declared type mention. -/
def outerClasses (f : SourceFile) : List ClassName := f.annotations.flatMap AnnotationUse.classes

/-- The classes that the body of the declared type mentions. -/
def innerClasses (f : SourceFile) : List ClassName := f.methods.flatMap Method.classes

/-- The classes that a file mentions, in the order of writing. -/
def classes (f : SourceFile) : List ClassName := f.outerClasses ++ f.innerClasses

/-- All marks of a file. -/
def marks (f : SourceFile) : List Mark := f.headMarks ++ f.bodyMarks

end SourceFile

/-! ### Marks that stay in one body -/

/-- The class that a mark refers to. -/
def Mark.class? : Mark → Option ClassName
  | .reference c => some c
  | _ => none

/-- Whether a mark stays in the body it stands in. -/
def Mark.isLocal : Mark → Bool
  | .enter _ | .leave => false
  | _ => true

/-- Marks that stay in one body, with the classes that they refer to. -/
structure Mentions (marks : List Mark) (classes : List ClassName) : Prop where
  isLocal : ∀ m ∈ marks, m.isLocal = true
  classes : marks.filterMap Mark.class? = classes

namespace Mentions

variable {first second : List Mark} {c d : List ClassName}

theorem nil : Mentions [] [] := ⟨by simp, rfl⟩

theorem append (h : Mentions first c) (h' : Mentions second d) :
    Mentions (first ++ second) (c ++ d) := by
  refine ⟨fun m hm => ?_, by rw [List.filterMap_append, h.classes, h'.classes]⟩
  rcases List.mem_append.mp hm with hm | hm
  · exact h.isLocal m hm
  · exact h'.isLocal m hm

/-- Whether marks stay in one body and refer to nothing. -/
def isSilent (marks : List Mark) : Bool := marks.all fun m => m.isLocal && m.class?.isNone

theorem silent {marks : List Mark} (h : isSilent marks = true) : Mentions marks [] := by
  have hall := List.all_eq_true.mp h
  refine ⟨fun m hm => (Bool.and_eq_true_iff.mp (hall m hm)).1, ?_⟩
  rw [List.filterMap_eq_nil_iff]
  exact fun m hm => Option.isNone_iff_eq_none.mp (Bool.and_eq_true_iff.mp (hall m hm)).2

/-- Marks in front that refer to nothing do not count. -/
theorem silent_append (h : Mentions first []) (h' : Mentions second d) :
    Mentions (first ++ second) d :=
  h.append h'

/-- Marks behind that refer to nothing do not count. -/
theorem append_silent (h : Mentions first c) (h' : Mentions second []) :
    Mentions (first ++ second) c := by
  simpa using h.append h'

theorem flatMap {α : Type} {marks : α → List Mark} {classes : α → List ClassName} {items : List α}
    (h : ∀ item ∈ items, Mentions (marks item) (classes item)) :
    Mentions (items.flatMap marks) (items.flatMap classes) := by
  induction items with
  | nil => exact nil
  | cons item items ih =>
      rw [List.flatMap_cons, List.flatMap_cons]
      exact (h item (by simp)).append
        (ih fun other hother => h other (List.mem_cons_of_mem _ hother))

theorem flatMap_silent {α : Type} {marks : α → List Mark} {items : List α}
    (h : ∀ item ∈ items, Mentions (marks item) []) : Mentions (items.flatMap marks) [] := by
  induction items with
  | nil => exact nil
  | cons item items ih =>
      rw [List.flatMap_cons]
      exact (h item (by simp)).silent_append
        (ih fun other hother => h other (List.mem_cons_of_mem _ hother))

theorem separated {α : Type} {marks : α → List Mark} {classes : α → List ClassName}
    {separator : List Mark} {items : List α} (hseparator : Mentions separator [])
    (h : ∀ item ∈ items, Mentions (marks item) (classes item)) :
    Mentions (separated separator (items.map marks)) (items.flatMap classes) := by
  induction items with
  | nil => exact nil
  | cons item items ih =>
      have hitem := h item (by simp)
      have hrest := ih fun other hother => h other (List.mem_cons_of_mem _ hother)
      cases items with
      | nil => simpa [Java.separated] using hitem
      | cons next items => exact (hitem.append_silent hseparator).append hrest

end Mentions

mutual

theorem mentions_markType : (t : TypeName) → Mentions (markType t) t.classes
  | .primitive _ => Mentions.silent rfl
  | .plain c => ⟨by simp [markType, Mark.isLocal], rfl⟩
  | .applied raw arguments => by
      have hraw : Mentions [.reference raw, .text "<"] [raw] := ⟨by simp [Mark.isLocal], rfl⟩
      exact (hraw.append (mentions_markArguments arguments)).append_silent (Mentions.silent rfl)
  | .array component =>
      (mentions_markType component).append_silent (Mentions.silent rfl)

theorem mentions_markArguments :
    (ts : List TypeName) → Mentions (markArguments ts) (TypeName.classesList ts)
  | [] => Mentions.nil
  | [t] => by simpa [markArguments, TypeName.classesList] using mentions_markType t
  | t :: next :: ts =>
      ((mentions_markType t).append_silent (Mentions.silent rfl)).append
        (mentions_markArguments (next :: ts))

end

theorem Part.mentions (p : Part) : Mentions p.marks p.classes := by
  cases p with
  | type t => exact mentions_markType t
  | _ => exact Mentions.silent rfl

theorem Fragment.mentions (f : Fragment) : Mentions f.marks f.classes :=
  Mentions.flatMap fun p _ => p.mentions

theorem AnnotationUse.mentions (inLine : Bool) (a : AnnotationUse) :
    Mentions (a.marks inLine) a.classes := by
  have hmembers : ∀ m ∈ a.members, Mentions (memberMarks m) m.2.classes := fun m _ =>
    (Mentions.silent rfl).silent_append m.2.mentions
  have htype : Mentions [.text "@", .reference a.type] [a.type] := ⟨by simp [Mark.isLocal], rfl⟩
  refine htype.append ?_
  split
  · next h => rw [h]; exact Mentions.nil
  · next value h =>
      have hopen : Mentions [.text "("] [] := Mentions.silent rfl
      have hclose : Mentions [.text ")"] [] := Mentions.silent rfl
      simpa [h] using (hopen.silent_append value.mentions).append_silent hclose
  · exact ((Mentions.silent rfl).silent_append
      (Mentions.separated (Mentions.silent rfl) hmembers)).append_silent (Mentions.silent rfl)

theorem AnnotationUse.mentions_lineMarks (annotations : List AnnotationUse) :
    Mentions (lineMarks annotations) (annotations.flatMap classes) :=
  Mentions.flatMap fun a _ => (a.mentions false).append_silent (Mentions.silent rfl)

theorem Modifier.mentions_marks (modifiers : List Modifier) :
    Mentions (Modifier.marks modifiers) [] :=
  Mentions.flatMap_silent fun _ _ => Mentions.silent rfl

theorem ParameterEntry.mentions (p : ParameterEntry) : Mentions p.marks p.classes := by
  refine Mentions.append_silent (Mentions.append ?_ (mentions_markType p.type))
    (Mentions.silent rfl)
  exact Mentions.flatMap fun a _ => (a.mentions true).append_silent (Mentions.silent rfl)

theorem Method.mentions (m : Method) : Mentions m.marks m.classes := by
  have hannotations := (AnnotationUse.mentions_lineMarks m.annotations).append_silent
    (Modifier.mentions_marks m.modifiers)
  have hname : Mentions [.text " ", .text m.name, .text "("] [] := Mentions.silent rfl
  have hreturn := (hannotations.append (mentions_markType m.returnType)).append_silent hname
  have hcomma : Mentions [.text ",", .space] [] := Mentions.silent rfl
  have hparameters := Mentions.separated hcomma fun p (_ : p ∈ m.parameters) => p.mentions
  refine ((hreturn.append hparameters).append_silent (Mentions.silent rfl)).append ?_
  split
  · exact Mentions.silent rfl
  · exact ((Mentions.silent rfl).silent_append m.body.mentions).append_silent (Mentions.silent rfl)

/-! ### The references of a file -/

/-- Within one body the references are the mentioned classes. -/
theorem Mentions.references {marks : List Mark} {classes : List ClassName}
    (h : Mentions marks classes) (declared : Option String) (rest : List Mark) :
    references declared (marks ++ rest) =
      classes.map (fun c => (declared, c)) ++ references declared rest := by
  obtain ⟨hlocal, rfl⟩ := h
  induction marks with
  | nil => rfl
  | cons m marks ih =>
      have ih := ih fun other hother => hlocal other (List.mem_cons_of_mem _ hother)
      have hm := hlocal m (by simp)
      cases m with
      | reference c => exact congrArg ((declared, c) :: ·) ih
      | enter name => cases hm
      | leave => cases hm
      | _ => exact ih

namespace SourceFile

/-- The marks before the declared class refer to nothing. -/
theorem mentions_headMarks (f : SourceFile) : Mentions f.headMarks [] := by
  refine Mentions.silent_append (Mentions.silent_append ?_ ?_) ?_
  · split <;> exact Mentions.silent rfl
  · exact Mentions.flatMap_silent fun _ _ => Mentions.silent rfl
  · split <;> exact Mentions.silent rfl

/-- The marks of the functions of the declared class. -/
theorem mentions_methods (f : SourceFile) :
    Mentions (separated [.text "\n"] (f.methods.map Method.marks)) f.innerClasses :=
  Mentions.separated (Mentions.silent rfl) fun m _ => m.mentions

/-- **The references of a file are the classes that its declarations mention**, first those
outside and then those inside the body of the declared type. -/
theorem references_eq (f : SourceFile) :
    f.references = f.outerClasses.map (fun c => (none, c)) ++
      f.innerClasses.map (fun c => (some f.name, c)) := by
  have houter : Mentions (AnnotationUse.lineMarks f.annotations ++ Modifier.marks f.modifiers)
      f.outerClasses :=
    (AnnotationUse.mentions_lineMarks _).append_silent (Modifier.mentions_marks _)
  -- outside of the body, then inside, as the marks of the class are entered and left
  rw [SourceFile.references, bodyMarks]
  simp only [List.append_assoc, List.cons_append, List.nil_append]
  rw [← List.append_assoc, houter.references]
  simp only [Java.references]
  rw [f.mentions_methods.references]
  simp [Java.references]

theorem references_map_snd (f : SourceFile) : f.references.map (·.2) = f.classes := by
  simp [references_eq, classes, Function.comp_def]

/-- What a file refers to it mentions. -/
theorem mem_classes_of_mem_references {f : SourceFile} {r : Option String × ClassName}
    (hr : r ∈ f.references) : r.2 ∈ f.classes := by
  rw [← references_map_snd]
  exact List.mem_map_of_mem hr

end SourceFile

/-! ### What is written for references -/

/-- The scope at a place in the body of a type, or outside of any. -/
def Scope.within (s : Scope) (declared : Option String) : Scope := { s with declared := declared }

/-- The references among marks, each with the name that is written for it. -/
def spellings (s : Scope) : List Mark → List (ClassName × String)
  | [] => []
  | .reference c :: marks => (c, s.nameOf c) :: spellings s marks
  | .enter name :: marks => spellings (s.within (some name)) marks
  | .leave :: marks => spellings (s.within none) marks
  | _ :: marks => spellings s marks

/-- Marks with their references replaced by names, in order. -/
def spellOut : List String → List Mark → List Mark
  | _, [] => []
  | name :: names, .reference _ :: marks => .text name :: spellOut names marks
  | names, m :: marks => m :: spellOut names marks

/-- The names written are those that the scope gives to the references. -/
theorem spellings_eq (s : Scope) (marks : List Mark) :
    spellings s marks =
      (references s.declared marks).map fun r => (r.2, (s.within r.1).nameOf r.2) := by
  induction marks generalizing s with
  | nil => rfl
  | cons m marks ih =>
      cases m with
      | reference c => exact congrArg ((c, s.nameOf c) :: ·) (ih s)
      | enter name => exact ih (s.within (some name))
      | leave => exact ih (s.within none)
      | _ => exact ih s

/-- **Marks are written as they are spelled out**, and then in any scope. -/
theorem glyphs_spellOut (s other : Scope) (m : Margin) (marks : List Mark) :
    glyphs other m (spellOut ((spellings s marks).map (·.2)) marks) = glyphs s m marks := by
  -- once spelled out, marks refer to nothing, so the scope they are written in is free
  induction marks generalizing s other m with
  | nil => rfl
  | cons mark marks ih =>
      cases mark with
      | enter name => exact ih (s.within (some name)) _ m
      | leave => exact ih (s.within none) _ m
      | _ => simp [spellings, spellOut, glyphs, ih s other]

/-- The text of marks in which every reference is spelled out. -/
def textOf (marks : List Mark) : String :=
  String.ofList (fill indentUnit columnLimit 0 none (glyphs ⟨"", none, []⟩ {} marks))

namespace SourceFile

/-- The references of a file, each with the name that is written for it. -/
def spellings (f : SourceFile) : List (ClassName × String) := Java.spellings f.scope f.marks

/-- **The text of a file is that of its marks with every reference spelled out.** -/
theorem text_eq_textOf_spellOut (f : SourceFile) :
    f.text = textOf (spellOut (f.spellings.map (·.2)) f.marks) := by
  rw [textOf, spellings, glyphs_spellOut]
  rfl

/-- The spelled references of a file. -/
theorem spellings_eq_map (f : SourceFile) :
    f.spellings = f.references.map fun r => (r.2, (f.scope.within r.1).nameOf r.2) := by
  rw [spellings, spellings_eq, marks, f.mentions_headMarks.references]
  rfl

/-- The spelled classes are the mentioned ones. -/
theorem spellings_map_fst (f : SourceFile) : f.spellings.map (·.1) = f.classes := by
  rw [spellings_eq_map, List.map_map, ← references_map_snd]
  rfl

end SourceFile

end Bindery.Java
