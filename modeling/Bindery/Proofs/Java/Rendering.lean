import Bindery.Proofs.Java.PlanClasses

/-!
# Generated modules are written by the template

The marks of every declaration come out as the lines that the template has for it.  A function is
its annotations, a line that may be broken between parameters, and a body that is one statement
(`writes_provider`, `writes_binder`).  The file puts the package and the imports in front of the
class, whose body is the only place with names of its own (`text_eq_contents`).

By `contents_of_renderModule` this is what every rendered module looks like.  The template computes
on texts, but it sorts the imports and asks the scope for names; for a given binding these are found
first, and then the file can be shown literally, as it is for `zonedClock` at the end.
-/

namespace Bindery.Java

section Marks

variable {s : Scope}

/-! ### Fragments of a call -/

theorem Fragment.marks_append (f g : Fragment) : (f.append g).marks = f.marks ++ g.marks := by
  simp [Fragment.append, Fragment.marks]

theorem Fragment.marks_text (f : Fragment) {t : String} (h : t ≠ "") :
    (f.text t).marks = f.marks ++ [Mark.text t] := by
  simp [Fragment.text, Fragment.marks, h, Part.marks]

theorem Fragment.marks_join {separator : String} (h : separator ≠ "") (fragments : List Fragment) :
    (join separator fragments).marks =
      separated [.text separator] (fragments.map Fragment.marks) := by
  induction fragments with
  | nil => rfl
  | cons f fragments ih =>
      cases fragments with
      | nil => rfl
      | cons g others =>
          rw [join, marks_append, marks_text f h, ih]
          rfl

theorem marks_callStatement (callee : Fragment) (arguments : List Argument) :
    (callStatement callee arguments).marks =
      [Mark.openStatement] ++ ([Mark.text "return "] ++ callee.marks) ++ [Mark.text "(\n"] ++
        separated [.text ",\n"] (arguments.map fun a => (Fragment.ofText a.name).marks) ++
        [Mark.text ")", .text ";\n", .closeStatement] := by
  have hstatement (f : Fragment) :
      f.statement.marks = [Mark.openStatement] ++ f.marks ++ [Mark.text ";\n", .closeStatement] := by
    simp [Fragment.statement, Fragment.marks, Part.marks]
  have hreturn : (Fragment.ofText "return ").marks = [Mark.text "return "] := rfl
  rw [callStatement, hstatement, Fragment.marks_text _ (by decide), Fragment.marks_append,
    Fragment.marks_text _ (by decide), Fragment.marks_append, hreturn,
    Fragment.marks_join (by decide)]
  simp [Function.comp_def]

/-! ### Functions -/

theorem IsRepeatable.forall₂ {a : Annotation} (h : IsRepeatable a) :
    List.Forall₂ (MemberInline s) (AnnotationUse.repeating a).members (Layout.membersOf a) := by
  rw [AnnotationUse.repeating, Layout.membersOf, List.forall₂_map_left_iff,
    List.forall₂_map_right_iff, List.forall₂_same]
  intro m hm
  exact ⟨rfl, (h.members m hm).1, inline_ofText (h.members m hm).2⟩

/-- A repeated annotation is written by the template. -/
theorem writes_repeated {a : Option Annotation} (h : ∀ b ∈ a, IsRepeatable b) :
    Writes s 1 (AnnotationUse.lineMarks (a.map AnnotationUse.repeating).toList)
      (Layout.repeatedLines s.nameOf a) := by
  cases a with
  | none => exact .nil
  | some a =>
      exact AnnotationUse.writes_lineMarks (h a rfl).type (h a rfl).forall₂ 1

/-- **The parameter for an argument is written by the template.** -/
theorem inline_parameter {a : Argument} {entry : ParameterEntry} (h : parameterOf a = .ok entry)
    (htype : ∀ c ∈ a.type.classes, c.IsProper) (hqualifier : ∀ q ∈ a.qualifier, IsRepeatable q) :
    Inline s entry.marks (Layout.parameterText s.nameOf a) := by
  obtain ⟨_, hname, h⟩ := bind_eq_ok h
  cases h
  have hname := isFlat_of_isName (isName_of_checkName hname)
  have htype := inline_markType (s := s) a.type htype
  have htail := (htype.append (.text " " (by decide))).append (.text a.name hname)
  -- a qualifier stands in front of the type, on the same line
  rw [ParameterEntry.marks, Layout.parameterText]
  cases hq : a.qualifier with
  | none => simpa using htail
  | some q =>
      have hq := hqualifier q hq
      have hhead := (AnnotationUse.inline_marks hq.type hq.forall₂ (s := s)).append (.text " " (by decide))
      simpa [AnnotationUse.repeating, String.append_assoc] using hhead.append htail

variable {p : Plan}

/-- The annotations of the function are written by the template. -/
theorem writes_entryUses (s : Scope) (h : IsWritable p) {kind : ClassName} (hkind : kind.IsProper) :
    Writes s 1 (AnnotationUse.lineMarks (entryUses kind p))
      (Layout.annotationLines 1 (s.nameOf kind) [] ++ Layout.repeatedLines s.nameOf p.scope ++
        Layout.repeatedLines s.nameOf p.qualifier) := by
  have hline :=
    (AnnotationUse.writes_lineMarks hkind .nil 1 (s := s)).append (writes_repeated h.scope)
  have hall := hline.append (writes_repeated h.qualifier)
  rw [entryUses, AnnotationUse.lineMarks, List.flatMap_append, List.flatMap_append]
  exact hall

theorem inline_publicStatic : Inline s (Modifier.marks [.publicUse, .staticUse]) "public static " :=
  (((Inline.text "public" (by decide)).append (.text " " (by decide))).append
    (.text "static" (by decide))).append (.text " " (by decide))

theorem inline_publicAbstract :
    Inline s (Modifier.marks [.publicUse, .abstractBody]) "public abstract " :=
  (((Inline.text "public" (by decide)).append (.text " " (by decide))).append
    (.text "abstract" (by decide))).append (.text " " (by decide))

/-- **The first line of a function is written by the template.** -/
theorem writes_header {modifiers : List Modifier} {keywords : String}
    (hmodifiers : Inline s (Modifier.marks modifiers) keywords)
    (hbegins : begins (Modifier.marks modifiers) = true) {type : TypeName}
    (htype : ∀ c ∈ type.classes, c.IsProper) {name : String} (hname : IsFlat name)
    {items : List (List Mark)} {texts : List String} (hitems : List.Forall₂ (Inline s) items texts)
    (ending : String) (hending : IsFlat ending) :
    Writes s 1 (Modifier.marks modifiers ++ markType type ++ [Mark.text " ", .text name, .text "("] ++
        separated [.text ",", .space] items ++ [Mark.text ")"] ++ [Mark.text (ending ++ "\n")])
      (Layout.headerLine (keywords ++ Layout.typeText s.nameOf type ++ " " ++ name ++ "(")
        (")" ++ ending)
        texts) := by
  have htype := inline_markType (s := s) type htype
  have hopening := (((hmodifiers.append htype).append (.text " " (by decide))).append
    (.text name hname)).append (.text "(" (by decide))
  have hclosing : Inline s ([Mark.text ")"] ++ [Mark.text ending]) (")" ++ ending) :=
    (Inline.text ")" (by decide)).append (.text ending hending)
  have hne : ")" ++ ending ≠ "" := by simp
  have hfilled :=
    writes_filled 1 hopening (by simpa using begins_append hbegins _) hclosing hne hitems
  have hwidth : (spaces 1).length = 2 := rfl
  -- the declaration ends in one text where the filled line has two
  refine Writes.of_cut ?_
  simpa [Layout.headerLine, String.append_assoc, hwidth] using hfilled

theorem forall₂_parameters {arguments : List Argument} {entries : List ParameterEntry}
    (hentries : List.Forall₂ (fun a entry => parameterOf a = .ok entry) arguments entries)
    (h : ∀ a ∈ arguments, (∀ c ∈ a.type.classes, c.IsProper) ∧ ∀ q ∈ a.qualifier, IsRepeatable q) :
    List.Forall₂ (Inline s) (entries.map ParameterEntry.marks)
      (arguments.map (Layout.parameterText s.nameOf)) := by
  induction hentries with
  | nil => exact .nil
  | @cons a entry arguments entries hentry hentries ih =>
      obtain ⟨htype, hqualifier⟩ := h a List.mem_cons_self
      exact .cons (inline_parameter hentry htype hqualifier)
        (ih fun a ha => h a (List.mem_cons_of_mem _ ha))

/-- The arguments of a call have names. -/
theorem isName_of_forall₂_parameterOf {arguments : List Argument} {entries : List ParameterEntry}
    (hentries : List.Forall₂ (fun a entry => parameterOf a = .ok entry) arguments entries) :
    ∀ a ∈ arguments, isName a.name = true := by
  induction hentries with
  | nil => simp
  | @cons a entry arguments entries hentry hentries ih =>
      rw [List.forall_mem_cons]
      obtain ⟨_, hname, -⟩ := bind_eq_ok hentry
      exact ⟨isName_of_checkName hname, ih⟩

/-- **The body of a function is written by the template.** -/
theorem writes_body {arguments : List Argument} (h : ∀ a ∈ arguments, isName a.name = true)
    {fragment : Fragment} {callee : String} (hcallee : Inline s fragment.marks callee) :
    Writes s 2 (callStatement fragment arguments).marks
      (line 2 ("return " ++ callee ++ "(") ++
        line 4 ((",\n" ++ spaces 4).intercalate (arguments.map (·.name)) ++ ");")) := by
  have hitems : List.Forall₂ (Inline s) (arguments.map fun a => (Fragment.ofText a.name).marks)
      (arguments.map (·.name)) := by
    rw [List.forall₂_map_left_iff, List.forall₂_map_right_iff, List.forall₂_same]
    exact fun a ha => inline_ofText (isFlat_of_isName (h a ha))
  have hbegins :
      ∀ item ∈ arguments.map fun a => (Fragment.ofText a.name).marks, begins item = true := by
    intro item hitem
    obtain ⟨a, ha, rfl⟩ := List.mem_map.mp hitem
    have hne := ne_empty_of_isName (h a ha)
    rw [Fragment.ofText, Fragment.marks_text _ hne]
    exact begins_text (isFlat_of_isName (h a ha)) fun hempty => absurd hempty hne
  have hopening := (Inline.text "return " (by decide)).append hcallee
  rw [marks_callStatement]
  exact writes_callStatement 2 hopening rfl hitems hbegins

/-- **A function that provides something is written by the template.** -/
theorem writes_provider (h : IsWritable p) {name callee : String} {fragment : Fragment} {m : Method}
    (hm : provider name fragment p = .ok m) (hname : IsFlat m.name)
    (hcallee : Inline s fragment.marks callee) :
    Writes s 1 m.marks (Layout.annotationLines 1 (s.nameOf providesType) [] ++
      Layout.repeatedLines s.nameOf p.scope ++ Layout.repeatedLines s.nameOf p.qualifier ++
      Layout.providerLines s.nameOf p name callee) := by
  obtain ⟨entries, hentries, rfl⟩ := exists_of_provider hm
  have hentries := forall₂_of_mapM hentries
  have hparameters := forall₂_parameters (s := s) hentries fun a ha =>
    ⟨h.isProper.argumentType ha, h.argumentQualifier ha⟩
  have hheader :=
    writes_header inline_publicStatic rfl h.isProper.exposed hname hparameters " \x7b" (by decide)
  have hbody := writes_body (isName_of_forall₂_parameterOf hentries) hcallee
  have hclose := writes_text s 1 (t := "\x7d") (by decide) (by decide)
  have hkind : providesType.IsProper := by decide
  have hall :=
    (((writes_entryUses s h hkind).append hheader).append (hbody.indented 1)).append hclose
  rw [Method.marks, if_neg (Bool.eq_false_iff.mp (show Method.isAbstract _ = false from rfl)),
    Layout.providerLines]
  simpa [String.append_assoc] using hall

/-- **A function that binds a class is written by the template.** -/
theorem writes_binder (h : IsWritable p) {c : ClassName} (hc : c.IsProper) {m : Method}
    (hm : binder c p = .ok m) (hname : IsFlat m.name) :
    Writes s 1 m.marks (Layout.annotationLines 1 (s.nameOf bindsType) [] ++
      Layout.repeatedLines s.nameOf p.scope ++ Layout.repeatedLines s.nameOf p.qualifier ++
      Layout.binderLines s.nameOf p c) := by
  obtain ⟨hparameter, rfl⟩ := eq_of_binder hm
  have hentry : Inline s (ParameterEntry.marks ⟨[], .plain c, parameterName c⟩)
      (s.nameOf c ++ " " ++ parameterName c) :=
    ((Inline.reference (s.isFlat_nameOf hc)).append (.text " " (by decide))).append
      (.text _ (isFlat_of_isName hparameter))
  have hkind : bindsType.IsProper := by decide
  have hheader := writes_header inline_publicAbstract rfl h.isProper.exposed hname
    (.cons hentry .nil) ";" (by decide)
  have hall := (writes_entryUses s h hkind).append hheader
  rw [Method.marks, if_pos (show Method.isAbstract _ = true from rfl), Layout.binderLines]
  simpa [String.append_assoc] using hall

/-- **The function of a plan is written by the template.** -/
theorem writes_entryPoint (h : IsWritable p) {name : String} {m : Method}
    (hentry : entryPoint p = .ok (name, m)) (hname : IsFlat m.name) :
    name = p.moduleName ∧ Writes s 1 m.marks (Layout.functionLines s.nameOf p) := by
  have howner := h.isProper.owner
  have hreceiver := h.receiver
  rw [Layout.functionLines, Layout.signatureLines, Plan.moduleName]
  rcases entryPoint_cases hentry with ⟨c, hsource, hstrategy, rfl, hm⟩ |
    ⟨c, hsource, hstrategy, rfl, hm⟩ |
    ⟨container, function, receiver, hsource, hstrategy, rfl, hfunction, hm⟩
  · rw [hsource] at howner
    have hcallee : Inline s ((Fragment.ofText "new ").type (.plain c)).marks
        ("new " ++ s.nameOf c) :=
      (Inline.text "new " (by decide)).append (.reference (s.isFlat_nameOf howner))
    rw [hsource, hstrategy]
    exact ⟨rfl, writes_provider h hm hname hcallee⟩
  · rw [hsource] at howner
    rw [hsource, hstrategy]
    exact ⟨rfl, writes_binder h howner hm hname⟩
  · rw [hsource] at hreceiver
    -- the receiver and the function make one text, which is checked for ends of lines as a whole
    have hdot : IsFlat "." := by decide
    have hflat := (hreceiver.append hdot).append (isFlat_of_isName hfunction)
    rw [hsource, hstrategy]
    exact ⟨rfl, writes_provider h hm hname (inline_ofText hflat)⟩

end Marks

/-! ### Files -/

section Files

variable {s : Scope}

theorem isEmpty_importNames (f : SourceFile) : f.importNames.isEmpty = f.imports.isEmpty := by
  rw [SourceFile.importNames, Bool.eq_iff_iff, List.isEmpty_iff, List.isEmpty_iff,
    ← List.length_eq_zero_iff, List.length_mergeSort, List.length_map, List.length_eq_zero_iff]

/-- The imported names are sorted. -/
theorem pairwise_importNames (f : SourceFile) : f.importNames.Pairwise (· ≤ ·) := by
  refine (List.pairwise_mergeSort (fun a b c hab hbc => ?_) (fun a b => ?_) _).imp
    fun hle => of_decide_eq_true hle
  · exact decide_eq_true (String.le_trans (of_decide_eq_true hab) (of_decide_eq_true hbc))
  · rw [Bool.or_eq_true, decide_eq_true_eq, decide_eq_true_eq]
    exact String.le_total _ _

/-- There is one way to sort the imported names. -/
theorem importNames_eq_of_perm {f : SourceFile} {names : List String}
    (hsorted : names.Pairwise (· ≤ ·))
    (hperm : (f.imports.map fun entry => entry.2.canonicalName).Perm names) :
    f.importNames = names :=
  ((List.mergeSort_perm _ _).trans hperm).eq_of_pairwise (fun _ _ _ _ => String.le_antisymm)
    (pairwise_importNames f) hsorted

theorem writes_imports {names : List String} (h : ∀ name ∈ names, IsFlat name) :
    Writes s 0 (names.flatMap fun name => [Mark.text "import ", .text name, .text ";\n"])
      (String.join (names.map fun name => line 0 ("import " ++ name ++ ";"))) := by
  induction names with
  | nil => exact .nil
  | cons name names ih =>
      rw [List.forall_mem_cons] at h
      have hline := ((Inline.text (s := s) "import " (by decide)).append (.text name h.1)).append
        (.text ";" (by decide))
      have hall := (Writes.of_cut (hline.writes_line rfl 0)).append (ih h.2)
      simpa [String.append_assoc] using hall

/-- The package and the imports are written by the template. -/
theorem writes_headMarks {f : SourceFile} (hpackage : IsFlat f.package)
    (hnames : ∀ name ∈ f.importNames, IsFlat name) :
    Writes s 0 f.headMarks (Layout.packageLines f.package ++ Layout.importLines f.importNames) := by
  -- both the package and the imports are left out where they are empty
  have hhead : Writes s 0
      (if f.package.isEmpty then []
        else [.text "package ", .text f.package, .text ";\n", .text "\n"])
      (Layout.packageLines f.package) := by
    rw [Layout.packageLines]
    by_cases hempty : f.package = ""
    · simpa [hempty] using Writes.nil
    · have hline := ((Inline.text (s := s) "package " (by decide)).append (.text f.package hpackage)).append
        (.text ";" (by decide))
      have hall := (Writes.of_cut (hline.writes_line rfl 0)).append .blank
      simpa [hempty] using hall
  have hend : Writes s 0 (if f.imports.isEmpty then [] else [.text "\n"])
      (if f.importNames.isEmpty then "" else "\n") := by
    rw [isEmpty_importNames]
    split
    next => exact .nil
    next => exact .blank
  rw [SourceFile.headMarks, Layout.importLines, ← String.append_assoc]
  exact (hhead.append (writes_imports hnames)).append hend

/-- A member whose value is a literal. -/
theorem memberInline_literal (name : String) (hname : IsFlat name) (value : String) :
    MemberInline s (name, Fragment.empty.literal value) (name, literal value) := by
  have hvalue := inline_ofText (s := s) (isFlat_literal value)
  rw [Fragment.ofText, ← Fragment.literal] at hvalue
  -- the fragment is not to be opened, as it depends on whether the literal is empty
  generalize Fragment.empty.literal value = fragment at hvalue ⊢
  exact ⟨rfl, hname, hvalue⟩

/-- The annotation of generated code is written by the template. -/
theorem writes_generatedUse (settings : GeneratorSettings) :
    Writes s 0 (AnnotationUse.lineMarks (generatedUse settings))
      (if settings.annotated then
        Layout.annotationLines 0 (s.nameOf generatedType)
          [("value", literal settings.processor), ("comments", literal settings.comments)]
      else "") := by
  have htype : generatedType.IsProper := by decide
  rw [generatedUse]
  split
  next =>
    exact AnnotationUse.writes_lineMarks htype
      (.cons (memberInline_literal "value" (by decide) settings.processor)
        (.cons (memberInline_literal "comments" (by decide) settings.comments) .nil)) 0
  next => exact .nil

/-- The annotation that installs a module is written by the template. -/
theorem writes_installUse (b : Binding) (h : ∀ c ∈ b.target, c.IsProper) :
    Writes s 0 (AnnotationUse.lineMarks (installUse b.toPlan))
      (if h : b.install = true then
        Layout.annotationLines 0 (s.nameOf installType)
          [("value", s.nameOf (b.component h) ++ ".class")]
      else "") := by
  by_cases hinstall : b.install = true
  · -- a sound binding that is installed has a component
    have htarget : b.target = some (b.component hinstall) := (Option.some_get _).symm
    have hvalue : Inline s ((Fragment.empty.className (b.component hinstall)).text ".class").marks
        (s.nameOf (b.component hinstall) ++ ".class") :=
      (Inline.reference (s.isFlat_nameOf (h _ htarget))).append (.text ".class" (by decide))
    have hflat : IsFlat "value" := by decide
    rw [dif_pos hinstall, installUse, hinstall, htarget]
    exact AnnotationUse.writes_lineMarks (by decide) (.cons ⟨rfl, hflat, hvalue⟩ .nil) 0
  · rw [dif_neg hinstall, installUse, Bool.not_eq_true _ |>.mp hinstall]
    exact .nil

/-- The annotations of a module are written by the template. -/
theorem writes_moduleUses (settings : GeneratorSettings) (b : Binding)
    (h : ∀ c ∈ b.target, c.IsProper) :
    Writes s 0 (AnnotationUse.lineMarks (moduleUses settings b.toPlan))
      (Layout.moduleAnnotationLines s.nameOf settings b) := by
  have hmodule : Writes s 0 (AnnotationUse.lineMarks [⟨moduleType, []⟩])
      (Layout.annotationLines 0 (s.nameOf moduleType) []) :=
    AnnotationUse.writes_lineMarks (by decide) .nil 0
  rw [moduleUses, AnnotationUse.lineMarks, List.flatMap_append, List.flatMap_append]
  exact ((writes_generatedUse settings).append hmodule).append (writes_installUse b h)

/-- The declared class is written by the template if its annotations and its function are. -/
theorem writes_bodyMarks {f : SourceFile} {m : Method} {annotations function : String}
    (hmethods : f.methods = [m]) (hmodifiers : f.modifiers = [.publicUse, .abstractBody])
    (hname : IsFlat f.name)
    (hannotations : Writes f.scope 0 (AnnotationUse.lineMarks f.annotations) annotations)
    (hfunction : Writes (f.scope.within (some f.name)) 1 m.marks function) :
    Writes f.scope 0 f.bodyMarks
      (annotations ++ line 0 ("public abstract class " ++ f.name ++ " \x7b") ++ function ++
        line 0 "\x7d") := by
  have hkeywords : Inline f.scope (Modifier.marks [.publicUse, .abstractBody]) "public abstract " :=
    inline_publicAbstract
  have hclass := ((hkeywords.append (.text "class " (by decide))).append (.text f.name hname)).append
    (.text " \x7b" (by decide))
  have hopen := Writes.of_cut (hclass.writes_line rfl 0)
  -- the function is written in the scope of the declared class
  have hbody := (hfunction.indented 1).entered
  have hclose := writes_text f.scope 0 (t := "\x7d") (by decide) (by decide)
  have hall := ((hannotations.append hopen).append hbody).append hclose
  rw [SourceFile.bodyMarks, hmethods, hmodifiers]
  simpa [separated, String.append_assoc] using hall

/-- The declared class begins with an annotation, a keyword or the word that declares it. -/
theorem begins_bodyMarks (f : SourceFile) : begins f.bodyMarks = true := by
  have hkeywords : begins (Modifier.marks f.modifiers ++ [Mark.text "class "]) = true := by
    rw [Modifier.marks]
    cases hkept : Modifier.all.filter f.modifiers.contains with
    | nil => rfl
    | cons modifier others => cases modifier <;> rfl
  rw [SourceFile.bodyMarks]
  cases f.annotations with
  | nil => simpa [AnnotationUse.lineMarks] using begins_append hkeywords _
  | cons a others => rfl

/-- The first line of a file is not empty. -/
theorem begins_marks (f : SourceFile) : begins (f.headMarks ++ f.bodyMarks) = true := by
  rw [SourceFile.headMarks]
  by_cases hpackage : f.package.isEmpty = true
  · rw [if_pos hpackage, List.nil_append]
    cases hnames : f.importNames with
    | nil =>
        have himports := isEmpty_importNames f
        rw [hnames] at himports
        rw [← himports]
        exact begins_bodyMarks f
    | cons name names => rfl
  · rw [if_neg hpackage]
    rfl

/-- A file begins as a line does that is indented by nothing. -/
theorem glyphs_fresh_file (f : SourceFile) {marks : List Mark} (h : begins marks = true) :
    glyphs f.scope ⟨0, none, true⟩ marks = glyphs f.scope {} marks := by
  have hfresh := glyphs_fresh f.scope 0 none h []
  have hspaces : chars (spaces 0) = [] := rfl
  rwa [List.append_nil, hspaces, List.nil_append] at hfresh

/-- The text of a file is what its marks come out as. -/
theorem text_eq_of_writes {f : SourceFile} {text : String}
    (h : Writes f.scope 0 (f.headMarks ++ f.bodyMarks) text) :
    f.text = text := by
  have hwritten := h []
  rw [List.append_nil, glyphs_fresh_file f (begins_marks f)] at hwritten
  rw [SourceFile.text, hwritten, glyphs, fill, List.append_nil, String.ofList_toList]

/-- **The file of a binding is written by the template.** -/
theorem text_eq_contents {settings : GeneratorSettings} {b : Binding} {f : SourceFile}
    (h : sourceFile settings b.toPlan = .ok f) (hwritable : IsWritable b.toPlan) :
    f.text = Layout.contents settings b f.scope.nameOf (f.scope.within (some f.name)).nameOf
      f.importNames := by
  obtain ⟨m, hfile⟩ := exists_isFileOf h
  have himports := isFlat_importNames (isProper_of_mem_classes hfile hwritable.isProper)
  have hpackage : IsFlat f.package := by
    rw [hfile.package, Source.package_eq]
    exact isFlat_package hwritable.isProper.owner.package
  obtain ⟨hname, hfunction⟩ :=
    writes_entryPoint hwritable hfile.entry (isFlat_of_isName hfile.isMethodName)
  have hmodule := writes_moduleUses (s := f.scope) settings b hwritable.isProper.target
  rw [← hfile.annotations] at hmodule
  have hbody :=
    writes_bodyMarks hfile.methods hfile.modifiers (isFlat_of_isName hfile.isName) hmodule hfunction
  have hall := (writes_headMarks hpackage himports).append hbody
  rw [text_eq_of_writes hall, Layout.contents, hfile.package,
    ← hname]
  simp only [String.append_assoc]

/-- **Generated modules are written by the template.**  Each class goes by the shortest name
that the file has for it, outside of the module or inside. -/
theorem contents_of_renderModule {settings : GeneratorSettings} {b : Binding} {artifact : Artifact}
    (h : renderModule settings b = .ok artifact) (hclasses : ∀ c ∈ b.classes, c.IsRead)
    (hreceiver : IsFlat b.source.receiver)
    (hforwarded : ∀ a ∈ b.forwarded, ∀ m ∈ a.members, IsFlat m.name ∧ IsFlat m.value) :
    ∃ f, sourceFile settings b.toPlan = .ok f ∧
      artifact.contents = Layout.contents settings b f.scope.nameOf
        (f.scope.within (some f.name)).nameOf f.importNames := by
  have hwritable : IsWritable b.toPlan :=
    ⟨fun c hc => ClassName.isProper_iff_isRead.mpr (hclasses c hc), hforwarded, hreceiver⟩
  obtain ⟨f, hf, rfl⟩ := renderModule_eq_ok_iff.mp h
  exact ⟨f, hf, text_eq_contents hf hwritable⟩

/-- A module with lines at every level: a qualifier with a line for each member, parameters that take
two lines, and arguments. -/
def zonedClock : Binding where
  source := .call ⟨"app", "Clocks", []⟩ "utc" "Clocks.INSTANCE"
  exposed := .plain ⟨"java.time", "Clock", []⟩
  strategy := .provides
  target := some ⟨"dagger.hilt.components", "SingletonComponent", []⟩
  scope := some ⟨⟨"javax.inject", "Singleton", []⟩, [], []⟩
  qualifier := some ⟨⟨"app", "Zoned", []⟩, [⟨"offset", "2"⟩, ⟨"name", "\"utc\""⟩], []⟩
  arguments := [⟨"zone", .plain ⟨"java.time", "ZoneId", []⟩,
      some ⟨⟨"javax.inject", "Named", []⟩, [⟨"value", "\"utc\""⟩], []⟩⟩,
    ⟨"fallback", .applied ⟨"java.util", "Optional", []⟩ [.plain ⟨"java.time", "Clock", []⟩],
      some ⟨⟨"javax.inject", "Named", []⟩, [⟨"value", "\"local\""⟩], []⟩⟩]
  sound := by decide

/-- The file of `zonedClock`. -/
def zonedClockFile : SourceFile where
  package := "app"
  name := "Clocks_utc_SoloModule"
  annotations := moduleUses {} zonedClock.toPlan
  modifiers := [.publicUse, .abstractBody]
  methods := [{
    name := "provides_app_Clocks_utc"
    annotations := entryUses providesType zonedClock.toPlan
    modifiers := [.publicUse, .staticUse]
    returnType := zonedClock.exposed
    parameters := zonedClock.arguments.map fun a =>
      ⟨(a.qualifier.map AnnotationUse.repeating).toList, a.type, a.name⟩
    body := callStatement (Fragment.ofText "Clocks.INSTANCE.utc") zonedClock.arguments }]

/-- Lines as a text. -/
def ofLines (lines : List String) : String := String.join (lines.map (· ++ "\n"))

/-- The text of `zonedClock`: the package, the imports, the annotations, and the class. -/
def zonedClockText : String :=
  ofLines ["package app;", ""] ++
  ofLines ["import dagger.Module;", "import dagger.Provides;", "import dagger.hilt.InstallIn;",
    "import dagger.hilt.components.SingletonComponent;", "import java.time.Clock;",
    "import java.time.ZoneId;", "import java.util.Optional;", "import javax.annotation.Generated;",
    "import javax.inject.Named;", "import javax.inject.Singleton;", ""] ++
  ofLines [
    "@Generated(",
    "    value = \"pommel.SoloModuleProcessor\",",
    "    comments = \"https://github.com/JuulLabs/pommel\"",
    ")",
    "@Module",
    "@InstallIn(SingletonComponent.class)"] ++
  ofLines ["public abstract class Clocks_utc_SoloModule \x7b"] ++
  ofLines [
    "  @Provides",
    "  @Singleton",
    "  @Zoned(",
    "      offset = 2,",
    "      name = \"utc\"",
    "  )",
    "  public static Clock provides_app_Clocks_utc(@Named(\"utc\") ZoneId zone,",
    "      @Named(\"local\") Optional<Clock> fallback) \x7b",
    "    return Clocks.INSTANCE.utc(",
    "        zone,",
    "        fallback);",
    "  \x7d"] ++
  ofLines ["\x7d"]

/-- The file of `zonedClock`, line by line: indented by two, four, six and eight blanks. -/
theorem contents_of_renderModule_zonedClock :
    renderModule {} zonedClock = .ok zonedClockFile.artifact ∧
    (∀ c ∈ zonedClock.classes, c.IsRead) ∧ IsFlat zonedClock.source.receiver ∧
    (∀ a ∈ zonedClock.forwarded, ∀ m ∈ a.members, IsFlat m.name ∧ IsFlat m.value) ∧
    zonedClockFile.artifact.contents = zonedClockText := by
  have hclasses : ∀ c ∈ zonedClock.classes, c.IsRead := by
    intro c hc
    have hproper : ∀ c ∈ zonedClock.classes, c.IsProper := by decide +kernel
    exact ClassName.isProper_iff_isRead.mp (hproper c hc)
  have hreceiver : IsFlat zonedClock.source.receiver := by decide
  have hforwarded :
      ∀ a ∈ zonedClock.forwarded, ∀ m ∈ a.members, IsFlat m.name ∧ IsFlat m.value := by
    decide
  have hfile : sourceFile {} zonedClock.toPlan = .ok zonedClockFile := by decide +kernel
  have hrendered := renderModule_eq_ok_iff.mpr ⟨zonedClockFile, hfile, rfl⟩
  obtain ⟨f, hf, hcontents⟩ :=
    contents_of_renderModule hrendered hclasses hreceiver hforwarded
  obtain rfl : zonedClockFile = f := Except.ok.inj (hfile.symm.trans hf)
  have hnames : zonedClockFile.importNames = ["dagger.Module", "dagger.Provides",
      "dagger.hilt.InstallIn", "dagger.hilt.components.SingletonComponent", "java.time.Clock",
      "java.time.ZoneId", "java.util.Optional", "javax.annotation.Generated", "javax.inject.Named",
      "javax.inject.Singleton"] :=
    importNames_eq_of_perm (by decide +kernel) (by decide +kernel)
  have hparts {a b c d : String} (h : a = c) (h' : b = d) : a ++ b = c ++ d :=
    congrArg₂ (· ++ ·) h h'
  rw [Layout.contents, hnames] at hcontents
  refine ⟨hrendered, hclasses, hreceiver, hforwarded, hcontents.trans ?_⟩
  -- the kernel compares short texts only, so the parts are compared one by one
  refine hparts (hparts (hparts (hparts (hparts ?_ ?_) ?_) ?_) ?_) ?_
  all_goals decide +kernel

end Files

end Bindery.Java
