import Bindery.Proofs.Java.PlanClasses
import Bindery.Proofs.Java.Wrapping

/-!
# Statements keep the margin

A statement moves the margin two levels to the right at its first end of a line, which may be the
one behind its semicolon, and moves it back at its end only if there was one.  The indentation does
not follow at once.  It is written when the next text arrives, and by then the statement may be
over.

What comes out shows nothing of this.  Every line that is not empty is indented by where its first
character stands: by two levels more than the margin if that is in a statement and not on the first
line of it, and by the margin otherwise.  What has to be kept on the way is that the margin has
moved exactly if the statement has had the end of a line (`write_inStatement`).

A fragment is cut into stretches, each a text or type outside of statements or a whole statement.
Every stretch leads back to the margin (`emit_stretch`), so an induction over the cut is enough.
There is at most one way to cut a fragment.  That there is one needs the fragment to be built
without statements in statements (`Fragment.IsBuilt`), as those of generated files are
(`isBuilt_of_sourceFile`).
-/

namespace Bindery.Java

/-! ### Fragments as they are put together -/

/-- **Fragments as they are put together.**  Parts are put behind each other or joined, and a statement
is made of a fragment without statements.  The flag tells whether there may be any. -/
inductive Fragment.IsBuilt : Bool → Fragment → Prop where
  | empty {flag : Bool} : IsBuilt flag .empty
  | text {flag : Bool} {f : Fragment} (t : String) (h : IsBuilt flag f) : IsBuilt flag (f.text t)
  | type {flag : Bool} {f : Fragment} (t : TypeName) (h : IsBuilt flag f) : IsBuilt flag (f.type t)
  | literal {flag : Bool} {f : Fragment} (t : String) (h : IsBuilt flag f) :
      IsBuilt flag (f.literal t)
  | append {flag : Bool} {f g : Fragment} (h : IsBuilt flag f) (h' : IsBuilt flag g) :
      IsBuilt flag (f.append g)
  | join {flag : Bool} {fragments : List Fragment} (separator : String)
      (h : ∀ f ∈ fragments, IsBuilt flag f) : IsBuilt flag (.join separator fragments)
  | statement {f : Fragment} (h : IsBuilt false f) : IsBuilt true f.statement

/-- Texts and types are the parts that are written. -/
def Part.isPlain : Part → Bool
  | .text _ | .type _ => true
  | _ => false

/-- A stretch of a fragment. -/
inductive Stretch where
  /-- A text or a type outside of statements. -/
  | outside (p : Part)
  /-- A statement, without the semicolon that ends it. -/
  | statement (content : List Part)

namespace Stretch

/-- The parts of a stretch. -/
def parts : Stretch → List Part
  | .outside p => [p]
  | .statement content => [.openStatement] ++ content ++ [.text ";\n", .closeStatement]

/-- Whether no statement begins inside of a stretch. -/
def isPlain : Stretch → Bool
  | .outside p => p.isPlain
  | .statement content => content.all Part.isPlain

/-- The first stretch of some parts is known from them, as the brackets of statements are not plain. -/
theorem eq_of_parts_append {first second : Stretch} (h : first.isPlain = true)
    (h' : second.isPlain = true) {rest others : List Part}
    (heq : first.parts ++ rest = second.parts ++ others) : first = second ∧ rest = others := by
  have hcontent (content rest : List Part) (hplain : content.all Part.isPlain = true) :
      (content ++ .text ";\n" :: .closeStatement :: rest).takeWhile Part.isPlain =
        content ++ [.text ";\n"] := by
    rw [List.takeWhile_append_of_pos fun p hp => List.all_eq_true.mp hplain p hp]
    rfl
  cases first with
  | outside p =>
      cases second with
      | outside q =>
          obtain ⟨rfl, rfl⟩ := List.cons.inj heq
          exact ⟨rfl, rfl⟩
      | statement content =>
          obtain ⟨rfl, -⟩ := List.cons.inj heq
          cases h
  | statement content =>
      cases second with
      | outside q =>
          obtain ⟨rfl, -⟩ := List.cons.inj heq
          cases h'
      | statement content' =>
          have hparts : content ++ .text ";\n" :: .closeStatement :: rest =
              content' ++ .text ";\n" :: .closeStatement :: others := by
            simpa [parts] using heq
          have htaken := congrArg (List.takeWhile Part.isPlain) hparts
          rw [hcontent content rest h, hcontent content' others h', List.append_cancel_right_eq] at htaken
          subst htaken
          exact ⟨rfl, by simpa using hparts⟩

end Stretch

/-- **A fragment cut into stretches.** -/
structure Fragment.IsCut (f : Fragment) (stretches : List Stretch) : Prop where
  isPlain : ∀ stretch ∈ stretches, stretch.isPlain = true
  parts : f.parts = stretches.flatMap Stretch.parts

namespace Fragment

/-- A property of fragments that is kept by putting them behind each other is kept by joining them. -/
theorem join_induction {motive : Fragment → Prop} (hempty : motive .empty)
    (htext : ∀ f t, motive f → motive (f.text t))
    (happend : ∀ f g, motive f → motive g → motive (f.append g)) (separator : String)
    {fragments : List Fragment} (h : ∀ f ∈ fragments, motive f) :
    motive (join separator fragments) := by
  induction fragments with
  | nil => exact hempty
  | cons f fragments ih =>
      rw [List.forall_mem_cons] at h
      cases fragments with
      | nil => exact h.1
      | cons g others => exact happend _ _ (htext f separator h.1) (ih h.2)

/-- Fragments without statements are plain. -/
theorem IsBuilt.isPlain {f : Fragment} (h : f.IsBuilt false) : ∀ p ∈ f.parts, p.isPlain = true := by
  have hempty : ∀ p ∈ Fragment.empty.parts, p.isPlain = true := by simp [Fragment.empty]
  have htext (f : Fragment) (t : String) (hf : ∀ p ∈ f.parts, p.isPlain = true) :
      ∀ p ∈ (f.text t).parts, p.isPlain = true := by
    rw [Fragment.text]
    split
    next => exact hf
    next => exact List.forall_mem_append.mpr ⟨hf, by simp [Part.isPlain]⟩
  have happend (f g : Fragment) (hf : ∀ p ∈ f.parts, p.isPlain = true)
      (hg : ∀ p ∈ g.parts, p.isPlain = true) : ∀ p ∈ (f.append g).parts, p.isPlain = true :=
    List.forall_mem_append.mpr ⟨hf, hg⟩
  generalize hflag : false = flag at h
  induction h with
  | empty => exact hempty
  | text t _ ih => exact htext _ t (ih hflag)
  | type t _ ih => exact List.forall_mem_append.mpr ⟨ih hflag, by simp [Part.isPlain]⟩
  | literal t _ ih => exact htext _ _ (ih hflag)
  | append _ _ ih ih' => exact happend _ _ (ih hflag) (ih' hflag)
  | join separator _ ih =>
      exact join_induction hempty htext happend separator fun f hf => ih f hf hflag
  | statement => cases hflag

namespace IsCut

variable {f g : Fragment} {first second : List Stretch}

theorem append (h : f.IsCut first) (h' : g.IsCut second) : (f.append g).IsCut (first ++ second) :=
  ⟨List.forall_mem_append.mpr ⟨h.isPlain, h'.isPlain⟩, by
    rw [List.flatMap_append, ← h.parts, ← h'.parts]
    rfl⟩

/-- A part is a stretch of its own. -/
theorem part {p : Part} (h : p.isPlain = true) : (⟨[p]⟩ : Fragment).IsCut [.outside p] :=
  ⟨by simpa [Stretch.isPlain] using h, rfl⟩

/-- **There is one way to cut a fragment.** -/
theorem unique (h : f.IsCut first) (h' : f.IsCut second) : first = second := by
  obtain ⟨hplain, hparts⟩ := h
  obtain ⟨hplain', hparts'⟩ := h'
  rw [hparts] at hparts'
  clear hparts
  induction first generalizing second with
  | nil =>
      cases second with
      | nil => rfl
      | cons stretch others => cases stretch <;> simp [Stretch.parts] at hparts'
  | cons stretch others ih =>
      cases second with
      | nil => cases stretch <;> simp [Stretch.parts] at hparts'
      | cons stretch' others' =>
          rw [List.forall_mem_cons] at hplain hplain'
          rw [List.flatMap_cons, List.flatMap_cons] at hparts'
          obtain ⟨rfl, hrest⟩ := Stretch.eq_of_parts_append hplain.1 hplain'.1 hparts'
          rw [ih hplain.2 hplain'.2 hrest]

end IsCut

/-- **Fragments that are put together can be cut into stretches.** -/
theorem IsBuilt.exists_isCut {flag : Bool} {f : Fragment} (h : f.IsBuilt flag) :
    ∃ stretches, f.IsCut stretches := by
  have hempty : ∃ stretches, Fragment.empty.IsCut stretches := ⟨[], by simp, rfl⟩
  have happend (f g : Fragment) : (∃ stretches, f.IsCut stretches) →
      (∃ stretches, g.IsCut stretches) → ∃ stretches, (f.append g).IsCut stretches := by
    rintro ⟨first, hfirst⟩ ⟨second, hsecond⟩
    exact ⟨first ++ second, hfirst.append hsecond⟩
  have htext (f : Fragment) (t : String) :
      (∃ stretches, f.IsCut stretches) → ∃ stretches, (f.text t).IsCut stretches := by
    intro hf
    rw [Fragment.text]
    split
    next => exact hf
    next => exact happend _ _ hf ⟨_, .part rfl⟩
  induction h with
  | empty => exact hempty
  | text t _ ih => exact htext _ t ih
  | type t _ ih => exact happend _ _ ih ⟨_, .part (p := .type t) rfl⟩
  | literal t _ ih => exact htext _ _ ih
  | append _ _ ih ih' => exact happend _ _ ih ih'
  | join separator _ ih => exact join_induction hempty htext happend separator ih
  | @statement f h _ =>
      have hplain : f.parts.all Part.isPlain = true := List.all_eq_true.mpr h.isPlain
      exact ⟨[.statement f.parts], by simpa [Stretch.isPlain] using hplain, by
        simp [Fragment.statement, Stretch.parts]⟩

end Fragment

/-! ### Lines that are laid out -/

/-- A character of a fragment.  It is continued if it stands in a statement, but not on the first line of
that. -/
structure Placed where
  continued : Bool
  char : Char
  deriving DecidableEq, Repr

/-- What a text or a type is written as. -/
def Part.spelled (s : Scope) : Part → List Char
  | .text t => t.toList
  | .type t => (Layout.typeText s.nameOf t).toList
  | _ => []

/-- The characters of a statement. -/
def placeStatement (text : List Char) : List Placed :=
  (firstLine text).map (⟨false, ·⟩) ++ (text.drop (firstLine text).length).map (⟨true, ·⟩)

/-- The characters of a stretch. -/
def Stretch.placed (s : Scope) : Stretch → List Placed
  | .outside p => (p.spelled s).map (⟨false, ·⟩)
  | .statement content => placeStatement (content.flatMap (Part.spelled s) ++ [';', '\n'])

/-- A line that is indented by where its first character stands. -/
def indentLine (level : Nat) : List Placed → List Char
  | [] => []
  | p :: rest =>
    indentation (if p.continued then level + 2 else level) ++ (p :: rest).map Placed.char

/-- **Characters laid out in lines.**  The first of them go on with the line they stand on, unless nothing
stands on it yet. -/
def layOut (level : Nat) (fresh : Bool) (text : List Placed) : List Char :=
  match text.splitOnP (·.char == '\n') with
  | [] => []
  | first :: others =>
    (if fresh then indentLine level first else first.map Placed.char) ++
      others.flatMap fun line => '\n' :: indentLine level line

/-- Whether nothing stands yet on the line behind a text. -/
def freshBehind (fresh : Bool) (text : List Char) : Bool := text.foldl (fun _ c => c == '\n') fresh

section Lines

variable {level : Nat} {fresh : Bool}

theorem layOut_nil : layOut level fresh [] = [] := by
  cases fresh <;> rfl

theorem layOut_newline (p : Placed) (h : p.char = '\n') (rest : List Placed) :
    layOut level fresh (p :: rest) = '\n' :: layOut level true rest := by
  rw [layOut, layOut, List.splitOnP_cons_eq_if_modifyHead, if_pos (by simpa using h)]
  cases hlines : rest.splitOnP (·.char == '\n') with
  | nil => exact absurd hlines (List.splitOnP_ne_nil _ rest)
  | cons first others => cases fresh <;> simp [indentLine]

theorem layOut_cons (p : Placed) (h : p.char ≠ '\n') (rest : List Placed) :
    layOut level fresh (p :: rest) =
      (if fresh then indentation (if p.continued then level + 2 else level) else []) ++
        p.char :: layOut level false rest := by
  rw [layOut, layOut, List.splitOnP_cons_eq_if_modifyHead, if_neg (by simpa using h)]
  cases hlines : rest.splitOnP (·.char == '\n') with
  | nil => exact absurd hlines (List.splitOnP_ne_nil _ rest)
  | cons first others => cases fresh <;> simp [indentLine]

/-- What is laid out behind a text only depends on whether it begins a line. -/
theorem layOut_append (first second : List Placed) :
    layOut level fresh (first ++ second) =
      layOut level fresh first ++
        layOut level (freshBehind fresh (first.map Placed.char)) second := by
  induction first generalizing fresh with
  | nil => rw [layOut_nil]; rfl
  | cons p first ih =>
      rw [List.cons_append]
      by_cases h : p.char = '\n'
      · rw [layOut_newline p h, layOut_newline p h, ih]
        simp [freshBehind, h]
      · have hbehind : (p.char == '\n') = false := by simpa using h
        rw [layOut_cons p h, layOut_cons p h, ih]
        simp [freshBehind, hbehind]

end Lines

/-! ### The margin behind marks -/

/-- What a mark does to the margin, and the glyphs that it is written as. -/
def Mark.emit (s : Scope) (m : Margin) : Mark → Margin × List Glyph
  | .text t => m.write t.toList
  | .reference c => m.write (s.nameOf c).toList
  | .space => (m, [.space (m.level + 2)])
  | .indent levels => (m.indent levels, [])
  | .unindent levels => (m.unindent levels, [])
  | .openStatement => (m.openStatement, [])
  | .closeStatement => (m.closeStatement, [])
  | .enter _ | .leave => (m, [])

/-- **The margin behind marks and the glyphs that they are written as.**  The scope is that of the body
in which the marks stay. -/
def emit (s : Scope) (m : Margin) : List Mark → Margin × List Glyph
  | [] => (m, [])
  | mark :: marks =>
    let (next, written) := mark.emit s m
    let (behind, others) := emit s next marks
    (behind, written ++ others)

section Emit

variable {s : Scope}

theorem emit_cons (m : Margin) (mark : Mark) (marks : List Mark) :
    emit s m (mark :: marks) =
      ((emit s (mark.emit s m).1 marks).1,
        (mark.emit s m).2 ++ (emit s (mark.emit s m).1 marks).2) := rfl

theorem emit_append (m : Margin) (first second : List Mark) :
    emit s m (first ++ second) =
      ((emit s (emit s m first).1 second).1,
        (emit s m first).2 ++ (emit s (emit s m first).1 second).2) := by
  induction first generalizing m with
  | nil => rfl
  | cons mark first ih => simp [emit_cons, ih]

/-- **What is written behind marks only depends on the margin behind them.** -/
theorem glyphs_append (m : Margin) {first : List Mark} (h : ∀ mark ∈ first, mark.isLocal = true)
    (second : List Mark) :
    glyphs s m (first ++ second) = (emit s m first).2 ++ glyphs s (emit s m first).1 second := by
  induction first generalizing m with
  | nil => rfl
  | cons mark first ih =>
      rw [List.forall_mem_cons] at h
      have ih (m : Margin) := ih m h.2
      cases mark with
      | enter name => cases h.1
      | leave => cases h.1
      | _ => simp [glyphs, emit_cons, Mark.emit, ih]

theorem emit_text (m : Margin) (t : String) : emit s m [.text t] = m.write t.toList := by
  simp [emit, Mark.emit]

theorem emit_of_append {m : Margin} {first second : List Mark} {written other : List Char}
    (h : ∀ m, emit s m first = m.write written) (h' : ∀ m, emit s m second = m.write other) :
    emit s m (first ++ second) = m.write (written ++ other) := by
  rw [emit_append, h, h', write_append]

mutual

/-- A type is written as its text is. -/
theorem emit_markType :
    (t : TypeName) → ∀ m, emit s m (markType t) = m.write (Layout.typeText s.nameOf t).toList
  | .primitive p, m => emit_text m p.keyword
  | .plain c, m => by simp [markType, emit, Mark.emit, Layout.typeText]
  | .applied raw arguments, m => by
      have hraw (m : Margin) :
          emit s m [.reference raw, .text "<"] = m.write (s.nameOf raw ++ "<").toList := by
        simp [emit, Mark.emit, write_append]
      have hhead (m : Margin) := emit_of_append (m := m) hraw (emit_markArguments arguments)
      rw [markType, emit_of_append hhead fun m => emit_text m ">"]
      simp [Layout.typeText]
  | .array component, m => by
      rw [markType, emit_of_append (emit_markType component) fun m => emit_text m "[]"]
      simp [Layout.typeText]

theorem emit_markArguments :
    (ts : List TypeName) → ∀ m, emit s m (markArguments ts) =
      m.write (", ".intercalate (Layout.argumentTexts s.nameOf ts)).toList
  | [], m => rfl
  | [t], m => by
      rw [markArguments, emit_markType t]
      simp [Layout.argumentTexts]
  | t :: next :: ts, m => by
      have hmarks : markArguments (t :: next :: ts) =
          markType t ++ [.text ", "] ++ markArguments (next :: ts) := rfl
      have hhead (m : Margin) := emit_of_append (m := m) (emit_markType t) fun m => emit_text m ", "
      rw [hmarks, emit_of_append hhead (emit_markArguments (next :: ts))]
      simp [Layout.argumentTexts, String.intercalate_cons_cons]

end

/-- **Texts and types are written as one text.** -/
theorem emit_of_isPlain {parts : List Part} (h : ∀ p ∈ parts, p.isPlain = true) (m : Margin) :
    emit s m (parts.flatMap Part.marks) = m.write (parts.flatMap (Part.spelled s)) := by
  induction parts generalizing m with
  | nil => rfl
  | cons p parts ih =>
      rw [List.forall_mem_cons] at h
      have hp (m : Margin) : emit s m p.marks = m.write (p.spelled s) := by
        cases p with
        | text t => exact emit_text m t
        | type t => exact emit_markType t m
        | _ => cases h.1
      rw [List.flatMap_cons, List.flatMap_cons, emit_of_append hp (ih h.2)]

end Emit

/-! ### Writing inside and outside of statements -/

section Write

variable {level lines : Nat} {fresh : Bool}

/-- **Outside of statements a text is laid out at the margin** and leaves it where it is. -/
theorem write_outside (text : List Char) :
    (⟨level, none, fresh⟩ : Margin).write text =
      (⟨level, none, freshBehind fresh text⟩,
        (layOut level fresh (text.map (⟨false, ·⟩))).map .char) := by
  induction text generalizing fresh with
  | nil => rw [List.map_nil, layOut_nil]; rfl
  | cons c text ih =>
      rw [List.map_cons]
      by_cases hc : c = '\n'
      · rw [Margin.write, if_pos hc, layOut_newline _ hc]
        simp [Margin.newline, ih, freshBehind, hc]
      · have hbehind : (c == '\n') = false := by simpa using hc
        rw [Margin.write, if_neg hc, layOut_cons _ hc]
        cases fresh <;> simp [ih, freshBehind, hbehind]

/-- The margin in a statement that begins at a level, behind some ends of lines. -/
def Margin.inStatement (level lines : Nat) (fresh : Bool) : Margin :=
  ⟨if lines = 0 then level else level + 2, some lines, fresh⟩

theorem newline_inStatement :
    (Margin.inStatement level lines fresh).newline = .inStatement level (lines + 1) true := by
  cases lines <;> rfl

/-- The characters of a text in a statement, behind some ends of lines. -/
def placeBehind (lines : Nat) (text : List Char) : List Placed :=
  if lines = 0 then placeStatement text else text.map (⟨true, ·⟩)

theorem placeBehind_newline (text : List Char) :
    placeBehind lines ('\n' :: text) = ⟨true, '\n'⟩ :: placeBehind (lines + 1) text := by
  rw [placeBehind, placeBehind, if_neg (Nat.succ_ne_zero lines)]
  split <;> simp [placeStatement, firstLine]

theorem placeBehind_cons {c : Char} (h : c ≠ '\n') (text : List Char) :
    placeBehind lines (c :: text) = ⟨decide (lines ≠ 0), c⟩ :: placeBehind lines text := by
  rw [placeBehind, placeBehind]
  split
  next hlines => simp [placeStatement, firstLine_cons, h, hlines]
  next hlines => simp [hlines]

/-- **Inside a statement a text is laid out by where it stands.**  The margin has moved exactly if the
statement has had the end of a line. -/
theorem write_inStatement (text : List Char) :
    (Margin.inStatement level lines fresh).write text =
      (.inStatement level (lines + text.count '\n') (freshBehind fresh text),
        (layOut level fresh (placeBehind lines text)).map .char) := by
  induction text generalizing lines fresh with
  | nil => simp [placeBehind, placeStatement, firstLine, layOut_nil, Margin.write, freshBehind]
  | cons c text ih =>
      by_cases hc : c = '\n'
      · subst hc
        rw [Margin.write, if_pos rfl, newline_inStatement, ih, placeBehind_newline, layOut_newline _ rfl]
        simp [freshBehind, Nat.add_assoc, Nat.add_comm 1]
      · have hbehind : (c == '\n') = false := by simpa using hc
        have hnext : { Margin.inStatement level lines fresh with fresh := false } =
            Margin.inStatement level lines false := rfl
        rw [Margin.write, if_neg hc, hnext, ih, placeBehind_cons hc, layOut_cons _ hc]
        cases fresh <;> simp [Margin.inStatement, freshBehind, hbehind, hc]

/-- The end of a statement takes the margin back to where it began. -/
theorem closeStatement_inStatement :
    (Margin.inStatement level lines fresh).closeStatement = ⟨level, none, fresh⟩ := by
  cases lines <;> rfl

end Write

/-! ### Stretches and fragments -/

section Stretches

variable {s : Scope} {level : Nat} {fresh : Bool}

theorem map_char_placeStatement (text : List Char) :
    (placeStatement text).map Placed.char = text := by
  have hfirst : firstLine text = text.take (firstLine text).length :=
    List.prefix_iff_eq_take.mp (List.takeWhile_prefix _)
  rw [placeStatement, List.map_append, List.map_map, List.map_map]
  conv => rhs; rw [← List.take_append_drop (firstLine text).length text, ← hfirst]
  simp [Function.comp_def]

/-- **A stretch leads back to the margin**, and its characters are laid out at it. -/
theorem emit_stretch {stretch : Stretch} (h : stretch.isPlain = true) :
    emit s ⟨level, none, fresh⟩ (stretch.parts.flatMap Part.marks) =
      (⟨level, none, freshBehind fresh ((stretch.placed s).map Placed.char)⟩,
        (layOut level fresh (stretch.placed s)).map .char) := by
  cases stretch with
  | outside p =>
      have hplain : ∀ q ∈ [p], q.isPlain = true := List.forall_mem_singleton.mpr h
      rw [Stretch.parts, emit_of_isPlain hplain, write_outside]
      simp [Stretch.placed, Function.comp_def]
  | statement content =>
      have hplain : ∀ p ∈ content ++ [Part.text ";\n"], p.isPlain = true :=
        List.forall_mem_append.mpr ⟨List.all_eq_true.mp h, by simp [Part.isPlain]⟩
      have hmarks : (Stretch.statement content).parts.flatMap Part.marks =
          .openStatement :: ((content ++ [Part.text ";\n"]).flatMap Part.marks ++ [.closeStatement]) := by
        simp [Stretch.parts, Part.marks]
      have hopen : (Mark.openStatement.emit s ⟨level, none, fresh⟩).1 =
          .inStatement level 0 fresh := rfl
      have hspelled : (content ++ [Part.text ";\n"]).flatMap (Part.spelled s) =
          content.flatMap (Part.spelled s) ++ [';', '\n'] := by
        simp [Part.spelled]
      rw [hmarks, emit_cons, hopen, emit_append, emit_of_isPlain hplain, hspelled, write_inStatement]
      simp [emit, Mark.emit, closeStatement_inStatement, Stretch.placed, placeBehind,
        map_char_placeStatement]

/-- **Stretches lead back to the margin**, and the characters of all of them are laid out at it. -/
theorem emit_stretches {stretches : List Stretch}
    (h : ∀ stretch ∈ stretches, stretch.isPlain = true) :
    emit s ⟨level, none, fresh⟩ ((stretches.flatMap Stretch.parts).flatMap Part.marks) =
      (⟨level, none, freshBehind fresh ((stretches.flatMap (Stretch.placed s)).map Placed.char)⟩,
        (layOut level fresh (stretches.flatMap (Stretch.placed s))).map .char) := by
  induction stretches generalizing fresh with
  | nil => simp [emit, layOut_nil, freshBehind]
  | cons stretch stretches ih =>
      rw [List.forall_mem_cons] at h
      rw [List.flatMap_cons, List.flatMap_append, emit_append, emit_stretch h.1, ih h.2,
        List.flatMap_cons, layOut_append]
      simp [freshBehind]

end Stretches

/-! ### Fragments of generated files -/

theorem isBuilt_ofText {flag : Bool} (t : String) : (Fragment.ofText t).IsBuilt flag := .text t .empty

/-- A call is built around a callee without statements. -/
theorem isBuilt_callStatement {callee : Fragment} (h : callee.IsBuilt false)
    (arguments : List Argument) : (callStatement callee arguments).IsBuilt true := by
  have harguments : (Fragment.join ",\n"
      (arguments.map fun a => Fragment.ofText a.name)).IsBuilt false := by
    refine .join _ fun f hf => ?_
    obtain ⟨a, -, rfl⟩ := List.mem_map.mp hf
    exact isBuilt_ofText a.name
  exact .statement (.text ")" (.append (.text "(\n" (.append (isBuilt_ofText "return ") h)) harguments))

/-- **The bodies of generated functions are put together in this way.** -/
theorem isBuilt_of_sourceFile {settings : GeneratorSettings} {p : Plan} {file : SourceFile}
    (h : sourceFile settings p = .ok file) : ∀ method ∈ file.methods, method.body.IsBuilt true := by
  obtain ⟨method, hfile⟩ := exists_isFileOf h
  rw [hfile.methods, List.forall_mem_singleton]
  rcases entryPoint_cases hfile.entry with ⟨c, -, -, -, hm⟩ | ⟨c, -, -, -, hm⟩ |
    ⟨container, function, receiver, -, -, -, -, hm⟩
  · obtain ⟨entries, -, rfl⟩ := exists_of_provider hm
    exact isBuilt_callStatement (.type (.plain c) (isBuilt_ofText "new ")) p.arguments
  · obtain ⟨-, rfl⟩ := eq_of_binder hm
    exact .empty
  · obtain ⟨entries, -, rfl⟩ := exists_of_provider hm
    exact isBuilt_callStatement (isBuilt_ofText (receiver ++ "." ++ function)) p.arguments

/-- **Statements keep the margin.**  Let a fragment be put together without statements in statements, as
the bodies of all generated functions are, and let it be written outside of a statement, where no space
is undecided.  Then the margin behind it is at the same level and outside of a statement, and no space is
undecided.  What is written are the characters of the fragment, which is cut into stretches in one way,
laid out in lines.  A line that is not
empty is indented by two levels more than the margin if its first character stands in a statement behind
the first line of that, and by the margin otherwise. -/
theorem statements_keep_margin :
    (∀ (settings : GeneratorSettings) (p : Plan) (file : SourceFile),
      sourceFile settings p = .ok file → ∀ method ∈ file.methods, method.body.IsBuilt true) ∧
    ∀ (f : Fragment) (s : Scope) (m : Margin), f.IsBuilt true → m.statement = none →
      ∃ stretches, (∀ cut, f.IsCut cut ↔ cut = stretches) ∧
        (emit s m f.marks).1.level = m.level ∧ (emit s m f.marks).1.statement = none ∧
        ∀ column, ∃ behind, ∀ rest,
          fill indentUnit columnLimit column none (glyphs s m (f.marks ++ rest)) =
            layOut m.level m.fresh (stretches.flatMap (Stretch.placed s)) ++
              fill indentUnit columnLimit behind none (glyphs s (emit s m f.marks).1 rest) := by
  refine ⟨fun _ _ _ => isBuilt_of_sourceFile, ?_⟩
  rintro f s ⟨level, statement, fresh⟩ h rfl
  obtain ⟨stretches, hcut⟩ := h.exists_isCut
  have hemit : emit s ⟨level, none, fresh⟩ f.marks =
      (⟨level, none, freshBehind fresh ((stretches.flatMap (Stretch.placed s)).map Placed.char)⟩,
        (layOut level fresh (stretches.flatMap (Stretch.placed s))).map .char) := by
    rw [Fragment.marks, hcut.parts]
    exact emit_stretches hcut.isPlain
  have hglyphs (rest : List Mark) : glyphs s ⟨level, none, fresh⟩ (f.marks ++ rest) =
      (layOut level fresh (stretches.flatMap (Stretch.placed s))).map .char ++
        glyphs s (emit s ⟨level, none, fresh⟩ f.marks).1 rest := by
    rw [glyphs_append _ f.mentions.isLocal, hemit]
  have honly (cut : List Stretch) : f.IsCut cut ↔ cut = stretches :=
    ⟨fun h => h.unique hcut, fun heq => heq ▸ hcut⟩
  exact ⟨stretches, honly, by rw [hemit], by rw [hemit], fun column =>
    ⟨_, fun rest => (congrArg _ (hglyphs rest)).trans (Wrapper.fill_write column _ _)⟩⟩

/-- A statement of several lines, one of them empty, between two texts. -/
def guardedCall : Fragment :=
  ((Fragment.ofText "if (ready) \x7b\n").append
    ((Fragment.ofText "return ").type (.plain ⟨"app", "Clocks", []⟩)
      |>.text ".of(\nzone,\n\nnow)").statement).text "\x7d\n"

/-- The lines of `guardedCall`, of which the two behind the first one of the statement are moved. -/
theorem statements_keep_margin_guardedCall :
    guardedCall.IsBuilt true ∧ ({ level := 1, fresh := true } : Margin).statement = none ∧
      ∃ stretches, guardedCall.IsCut stretches ∧
        (emit ⟨"app", none, []⟩ { level := 1, fresh := true } guardedCall.marks).1.level = 1 ∧
        layOut 1 true (stretches.flatMap (Stretch.placed ⟨"app", none, []⟩)) =
          "  if (ready) \x7b\n  return Clocks.of(\n      zone,\n\n      now);\n  \x7d\n".toList := by
  have hbuilt : guardedCall.IsBuilt true :=
    .text _ (.append (isBuilt_ofText _) (.statement (.text _ (.type _ (isBuilt_ofText _)))))
  have houtside : ({ level := 1, fresh := true } : Margin).statement = none := rfl
  obtain ⟨stretches, honly, hlevel, -, hwritten⟩ :=
    statements_keep_margin.2 guardedCall ⟨"app", none, []⟩ { level := 1, fresh := true } hbuilt houtside
  obtain ⟨behind, hwritten⟩ := hwritten 0
  refine ⟨hbuilt, houtside, stretches, (honly stretches).mpr rfl, hlevel, ?_⟩
  have hlines := hwritten []
  simp only [List.append_nil, glyphs, fill] at hlines
  rw [← hlines]
  decide +kernel

end Bindery.Java
