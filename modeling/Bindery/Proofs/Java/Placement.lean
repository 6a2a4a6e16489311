import Bindery.Proofs.Declaration.Proper
import Bindery.Proofs.Files.Written
import Bindery.Proofs.Java.Receiver
import Bindery.Proofs.Manifest.RoundTrip
import Bindery.Proofs.Run.Outcomes
import Bindery.Proofs.Run.Schedule

/-!
# The places of generated files

The file for a declaration is named after the words that lead to it (`Declaration.words`): the
simple names of the class or of the container, and then the function that is called.  It lies in the
directories of the package.  Packages and class names were read, so they are made of identifiers,
and the name of the module is checked before it is written; whatever a host calls its functions, no
file is placed outside the directory for generated files (`generated_stays_below_root`).

## Where two files meet

The words are joined to one name (`Declaration.stem`), and that loses where they end.  In the name
for a class they are told apart by dollar signs, which no simple name contains.  In the name for a
function they are told apart by underscores, and these may stand in any word.  So two files can get
the same place, and then one module replaces the other (`not_relativePath_ne`).  There are no
clashes besides: the place shows the package and the joined words, which is `relativePath_eq_iff`.
-/

namespace Bindery

open Text

/-! ### Words of declarations -/

theorem ClassName.simpleNames_ne_nil (c : ClassName) : c.simpleNames ≠ [] :=
  List.cons_ne_nil c.outermost c.nested

namespace Declaration

/-- The class that is declared, or the container of the function that is called. -/
def owner : Declaration → ClassName
  | .ofClass d => d.name
  | .ofFunction d => d.container
  | .ofProperty d => d.container

/-- The function that is called for a declaration, unless it is a class. -/
def called? : Declaration → Option String
  | .ofClass _ => none
  | .ofFunction d => some d.name
  | .ofProperty d => some d.accessorName

/-- **The words that lead to a declaration** inside its package. -/
def words (d : Declaration) : List String := d.owner.simpleNames ++ d.called?.toList

/-- The words as they are joined in the name of the module: those of a class by dollar signs, and
those of a function by underscores. -/
def stem (d : Declaration) : String :=
  joinNames (if d.called?.isSome then '_' else '$') d.words

/-- What the module of a declaration makes an instance from. -/
def sourceIn (kind : ContainerKind) : Declaration → Source
  | .ofClass d => .instance d.name
  | .ofFunction d => .call d.container d.name (receiverOf d.container kind)
  | .ofProperty d => .call d.container d.accessorName (receiverOf d.container kind)

variable {d : Declaration}

theorem words_ne_nil (d : Declaration) : d.words ≠ [] := by simp [words, ClassName.simpleNames]

theorem package_eq_owner (d : Declaration) : d.package = d.owner.package := by
  cases d <;> rfl

theorem IsProper.owner (h : d.IsProper) : d.owner.IsProper := by
  cases d with
  | ofClass d => exact ClassDeclaration.IsProper.name h
  | ofFunction d => exact FunctionDeclaration.IsProper.container h
  | ofProperty d => exact PropertyDeclaration.IsProper.container h

/-- **The display name shows the package and the words**, with dots between them. -/
theorem displayName_eq (d : Declaration) :
    d.displayName = ClassName.qualified d.package (joinNames '.' d.words) := by
  have hcall (container : ClassName) (name : String) :
      toString container.canonicalName ++ "." ++ toString name =
        ClassName.qualified container.package
          (joinNames '.' (container.simpleNames ++ [name])) := by
    rw [joinNames_concat '.' container.simpleNames_ne_nil, ClassName.canonicalName,
      ClassName.qualified, ClassName.qualified]
    have hdot : String.ofList ['.'] = "." := rfl
    split <;> simp [toString, String.append_assoc, hdot]
  cases d with
  | ofClass d => simp [displayName, words, owner, called?, package, ClassName.canonicalName]
  | ofFunction d => exact hcall d.container d.name
  | ofProperty d => exact hcall d.container d.accessorName

/-- The binding of an accepted declaration makes an instance from what is declared. -/
theorem source_of_review {components : Components} {source : KindSource} {cache : KindCache}
    {binding : Binding}
    (h : (d.review components source cache).1 = .ok (.accepted binding)) :
    ∃ kind, binding.source = d.sourceIn kind := by
  have hfunction {f : FunctionDeclaration} (hf : d.function? = some f) :
      ∃ kind, binding.source = .call f.container f.name (receiverOf f.container kind) := by
    rw [fst_review_of_function? hf] at h
    cases hlookup : (cache.lookup source f.container).1 with
    | error fault =>
        rw [hlookup] at h
        cases h
    | ok kind =>
        rw [hlookup] at h
        exact ⟨kind, congrArg Plan.source (Verdict.toPlan_of_accepted h)⟩
  cases d with
  | ofClass c =>
      have hreview : c.review components = .ok (.accepted binding) := h
      rw [ClassDeclaration.review] at hreview
      split at hreview
      · cases hreview
      · exact ⟨.plainClass, congrArg Plan.source (Verdict.toPlan_of_accepted hreview)⟩
  | ofFunction f => exact hfunction rfl
  | ofProperty p => exact hfunction rfl

end Declaration

namespace Java

/-! ### Names of files -/

section Names

variable {settings : GeneratorSettings} {components : Components} {source : KindSource}
    {cache : KindCache} {d e : Declaration} {artifact : Artifact}

/-- The name of a module for a function is joined by underscores throughout. -/
theorem functionModuleName_eq (container : ClassName) (function : String) :
    functionModuleName container function =
      joinNames '_' (container.simpleNames ++ [function]) ++ moduleSuffix := by
  rw [joinNames_concat '_' container.simpleNames_ne_nil]
  rfl

/-- The name of the module for a source. -/
def moduleName : Source → String
  | .instance c => classModuleName c
  | .call container function _ => functionModuleName container function

/-- The file for a plan has the name of the module for its source. -/
theorem IsFileOf.name_eq {p : Plan} {f : SourceFile} {m : Method} (h : IsFileOf settings p f m) :
    f.name = moduleName p.source := by
  rcases entryPoint_cases h.entry with ⟨c, hsource, -, hname, -⟩ | ⟨c, hsource, -, hname, -⟩ |
    ⟨container, function, receiver, hsource, -, hname, -⟩
  all_goals
    rw [hname, hsource]
    rfl

/-- The module for a declaration is named after its words. -/
theorem moduleName_sourceIn (d : Declaration) (kind : ContainerKind) :
    moduleName (d.sourceIn kind) = d.stem ++ moduleSuffix := by
  cases d with
  | ofClass c =>
      have hwords : (Declaration.ofClass c).words = c.name.simpleNames := List.append_nil _
      rw [Declaration.stem, hwords]
      rfl
  | ofFunction function => exact functionModuleName_eq function.container function.name
  | ofProperty property => exact functionModuleName_eq property.container property.accessorName

/-- **A module that was generated for a declaration** is in its package and named after its
words, and the name may name something. -/
theorem exists_file_of_generated {name : String}
    (h : (d.process (renderModule settings) components source cache).1 =
      .ok ⟨name, .generated artifact⟩) :
    ∃ f : SourceFile, artifact = f.artifact ∧ f.package = d.package ∧
      f.name = d.stem ++ moduleSuffix ∧ isName f.name = true := by
  have hbecomes : d.Becomes (renderModule settings) components source cache
      (d.process (renderModule settings) components source cache).1 :=
    Declaration.becomes_process (rejectsOnly_renderModule settings)
  rw [h] at hbecomes
  cases hbecomes with
  | @generated binding _ _ _ hreview hrendered =>
      obtain ⟨kind, hsource⟩ := Declaration.source_of_review hreview
      obtain ⟨f, hf, rfl⟩ := renderModule_eq_ok_iff.mp hrendered
      obtain ⟨m, hfile⟩ := exists_isFileOf hf
      refine ⟨f, rfl, ?package, ?name, hfile.isName⟩
      case package =>
        rw [hfile.package, hsource]
        cases d <;> rfl
      case name => rw [hfile.name_eq, hsource, moduleName_sourceIn]

end Names

/-! ### Places of files -/

section Places

variable {f g : SourceFile}

/-- Words of the characters of identifiers are plain pieces. -/
theorem isPlain_of_isIdentifier {word : List Char} (h : isIdentifier word = true) :
    Path.IsPlain word := by
  have hparts := forall_isIdentifierPart h
  refine ⟨ne_nil_of_isIdentifier h, fun hstroke => ?_, ?_, ?_⟩
  · exact absurd (hparts _ hstroke) (by decide)
  all_goals
    rintro rfl
    exact absurd (hparts '.' (by simp)) (by decide)

/-- The name of a file is a plain piece. -/
theorem isPlain_fileName (h : isIdentifier f.name.toList = true) :
    Path.IsPlain f.fileName.toList := by
  have hlong : 5 ≤ f.fileName.toList.length := by
    have hending : ".java".toList.length = 5 := rfl
    rw [SourceFile.fileName, String.toList_append, List.length_append]
    omega
  have hshort {piece : List Char} (hpiece : piece.length < 5) : f.fileName.toList ≠ piece := by
    rintro rfl
    omega
  refine ⟨hshort (by simp), fun hstroke => ?_, hshort (by simp), hshort (by simp)⟩
  rw [SourceFile.fileName, String.toList_append, List.mem_append] at hstroke
  rcases hstroke with hname | hending
  · exact (isPlain_of_isIdentifier h).noStroke hname
  · exact absurd hending (by decide)

/-- The directories of the package, then the file. -/
def SourceFile.pieces (f : SourceFile) : List String :=
  (packageWords f.package).map String.ofList ++ [f.fileName]

theorem isPlain_of_mem_pieces (hpackage : IsPackage f.package)
    (hname : isIdentifier f.name.toList = true) :
    ∀ piece ∈ f.pieces, Path.IsPlain piece.toList := by
  rw [SourceFile.pieces, List.forall_mem_append, List.forall_mem_singleton]
  refine ⟨fun piece hpiece => ?_, isPlain_fileName hname⟩
  obtain ⟨word, hword, rfl⟩ := List.mem_map.mp hpiece
  rw [String.toList_ofList]
  exact isPlain_of_isIdentifier (hpackage word hword).1

/-- The directories of a package are its words. -/
theorem filter_splitOn_package {package : String} (h : IsPackage package) :
    (splitOn '.' package.toList).filter (fun segment => !segment.isEmpty) =
      packageWords package := by
  rw [IsPackage, packageWords] at h
  rw [packageWords]
  split at h
  · next hempty =>
      rw [if_pos hempty, String.isEmpty_iff.mp hempty]
      rfl
  · next hsome =>
      rw [if_neg hsome]
      refine List.filter_eq_self.mpr fun word hword => ?_
      simpa using ne_nil_of_isIdentifier (h word hword).1

/-- **The place of a file is put together from its pieces.** -/
theorem relativePath_eq (hpackage : IsPackage f.package)
    (hname : isIdentifier f.name.toList = true) :
    f.artifact.relativePath = ⟨joinNames '/' f.pieces⟩ := by
  have hplace : f.artifact.relativePath =
      ((((splitOn '.' f.package.toList).filter fun segment => !segment.isEmpty).map
        String.ofList).foldl Path.push Path.here).push f.fileName := rfl
  rw [hplace, filter_splitOn_package hpackage,
    ← Path.foldl_push (isPlain_of_mem_pieces hpackage hname), SourceFile.pieces, List.foldl_append]
  rfl

/-- A place is taken apart into the words of the package and the name of the file. -/
theorem splitOn_relativePath (hpackage : IsPackage f.package)
    (hname : isIdentifier f.name.toList = true) :
    splitOn '/' f.artifact.relativePath.text.toList =
      packageWords f.package ++ [f.name.toList ++ ".java".toList] := by
  rw [relativePath_eq hpackage hname,
    Path.splitOn_plain (by simp [SourceFile.pieces]) (isPlain_of_mem_pieces hpackage hname),
    SourceFile.pieces, SourceFile.fileName]
  simp [Function.comp_def]

/-- **The place of a file shows its package and its name.** -/
theorem relativePath_eq_iff_package_name (hpackage : IsPackage f.package)
    (hname : isIdentifier f.name.toList = true) (hpackage' : IsPackage g.package)
    (hname' : isIdentifier g.name.toList = true) :
    f.artifact.relativePath = g.artifact.relativePath ↔
      f.package = g.package ∧ f.name = g.name := by
  constructor
  · intro heq
    have hsplit := congrArg (fun path : Path => splitOn '/' path.text.toList) heq
    simp only [splitOn_relativePath hpackage hname, splitOn_relativePath hpackage' hname'] at hsplit
    obtain ⟨hwords, hnames⟩ := List.append_inj' hsplit rfl
    have hname := List.append_cancel_right (List.cons.inj hnames).1
    exact ⟨packageWords_inj hwords, String.toList_inj.mp hname⟩
  · rintro ⟨hpackages, hnames⟩
    rw [relativePath_eq hpackage hname, relativePath_eq hpackage' hname', SourceFile.pieces,
      SourceFile.pieces, SourceFile.fileName, SourceFile.fileName, hpackages, hnames]

end Places

/-! ### Three declarations, two stems -/

/-- A function of a companion. -/
def companionUrl : FunctionDeclaration where
  container := ⟨"test", "Sample", ["Companion"]⟩
  name := "baseUrl"
  returnType := .primitive .int

/-- A function of the object around the companion, with an underscore in its name. -/
def flatUrl : FunctionDeclaration where
  container := ⟨"test", "Sample", []⟩
  name := "Companion_baseUrl"
  returnType := .primitive .int

/-- A property of that object. -/
def hostName : PropertyDeclaration where
  container := ⟨"test", "Sample", []⟩
  property := "hostName"
  returnType := .primitive .int

/-- The manifest of these declarations. -/
def twins : Manifest where
  containers :=
    (Containers.empty.insert "test.Sample" .object).insert "test.Sample$Companion" .companion
  declarations := [.ofFunction companionUrl, .ofFunction flatUrl, .ofProperty hostName]

theorem isProper_twins : twins.IsProper := by
  have hsample : (⟨"test", "Sample", []⟩ : ClassName).IsProper := by decide
  have hcompanion : (⟨"test", "Sample", ["Companion"]⟩ : ClassName).IsProper := by decide
  have hreturn : (TypeName.primitive .int).IsProper := trivial
  intro d hd
  simp only [twins, List.mem_cons, List.not_mem_nil, or_false] at hd
  rcases hd with rfl | rfl | rfl
  · exact ⟨hcompanion, by simp [companionUrl], hreturn, by simp [companionUrl],
      Marker.isProper_empty⟩
  · exact ⟨hsample, by simp [flatUrl], hreturn, by simp [flatUrl], Marker.isProper_empty⟩
  · exact ⟨hsample, hreturn, by simp [hostName], Marker.isProper_empty⟩

/-- The manifest is read back from its text. -/
theorem ofText_text_twins : Manifest.ofText twins.text = .ok twins :=
  Manifest.ofText_text_of_isRereadable isProper_twins (by decide)

/-- A function that nothing is in the way of gets a module. -/
theorem exists_generated {settings : GeneratorSettings} {components : Components}
    {source : KindSource} {d : Declaration} {function : FunctionDeclaration}
    (kind : ContainerKind) (hfunction : d.function? = some function)
    (hkind : source function.container = .ok kind)
    (hcomplaints : function.complaints components kind = [])
    (hwritten : (sourceFile settings (function.plan components kind)).toOption.isSome = true) :
    ∃ artifact, Asking.alone (d.process (renderModule settings) components source) =
      .ok ⟨d.displayName, .generated artifact⟩ := by
  obtain ⟨f, hf⟩ := Option.isSome_iff_exists.mp hwritten
  exact ⟨f.artifact,
    process_of_sourceFile hfunction hkind hcomplaints (toOption_eq_some.mp hf)⟩

/-! ### Generated files stay below their root -/

section Generated

variable {settings : GeneratorSettings} {components : Components} {source : KindSource}
    {cache : KindCache} {d : Declaration} {artifact : Artifact}

/-- What is known of the place of a file that was generated for a proper declaration. -/
theorem exists_place_of_generated (hproper : d.IsProper) {name : String}
    (h : (d.process (renderModule settings) components source cache).1 =
      .ok ⟨name, .generated artifact⟩) :
    ∃ f : SourceFile, artifact = f.artifact ∧ f.package = d.package ∧
      f.name = d.stem ++ moduleSuffix ∧ IsPackage f.package ∧
      isIdentifier f.name.toList = true := by
  obtain ⟨f, rfl, hpackage, hname, hchecked⟩ := exists_file_of_generated h
  refine ⟨f, rfl, hpackage, hname, ?_, (Bool.and_eq_true_iff.mp hchecked).1⟩
  rw [hpackage, d.package_eq_owner]
  exact hproper.owner.package

/-- **The place of a module that was generated** is put together from the words of the package and
the stem. -/
theorem relativePath_of_generated (hproper : d.IsProper) {name : String}
    (h : (d.process (renderModule settings) components source cache).1 =
      .ok ⟨name, .generated artifact⟩) :
    artifact.relativePath = ⟨joinNames '/'
      ((packageWords d.package).map String.ofList ++ [d.stem ++ moduleSuffix ++ ".java"])⟩ := by
  obtain ⟨f, rfl, hpackage, hname, hwords, hchecked⟩ := exists_place_of_generated hproper h
  rw [relativePath_eq hwords hchecked, SourceFile.pieces, SourceFile.fileName, hname, hpackage]

/-- The place of a module that was generated is put together from plain pieces. -/
theorem isInner_of_generated (hproper : d.IsProper) {name : String}
    (h : (d.process (renderModule settings) components source cache).1 =
      .ok ⟨name, .generated artifact⟩) : artifact.relativePath.IsInner := by
  obtain ⟨f, rfl, -, -, hwords, hchecked⟩ := exists_place_of_generated hproper h
  exact ⟨f.pieces, isPlain_of_mem_pieces hwords hchecked, relativePath_eq hwords hchecked⟩

/-- **Generated files stay below the directory that they are written to.**  Take any declaration of
a manifest that was read and a module that was generated for it.

* Its place is made up of the words of the package of the declaration and of a file name, which is
  an identifier followed by `.java`.  The words are not empty and consist of the characters of
  identifiers.
* So every piece between strokes is plain and has no backslash in it, and the place is not
  absolute.
* In every tree the place inside a root leads to the place of the root and from there on along
  its pieces. -/
theorem generated_stays_below_root {text : String} {m : Manifest}
    (hm : Manifest.ofText text = .ok m) (hd : d ∈ m.declarations)
    (h : (d.process (renderModule settings) components source cache).1 =
      .ok ⟨d.displayName, .generated artifact⟩) :
    (∃ name, isIdentifier name = true ∧
      splitOn '/' artifact.relativePath.text.toList =
        packageWords d.package ++ [name ++ ".java".toList]) ∧
    (∀ word ∈ packageWords d.package, word ≠ [] ∧ ∀ c ∈ word, isIdentifierPart c = true) ∧
    (∀ piece ∈ splitOn '/' artifact.relativePath.text.toList,
      Path.IsPlain piece ∧ '\\' ∉ piece) ∧
    artifact.relativePath.isAbsolute = false ∧
    ∀ (t : FileTree) (root : Path) (place : List String),
      t.find (root.push artifact.relativePath.text) = .ok place →
        ∃ base, t.follow (FileTree.origin root) root.pieces = .ok base ∧
          place = base ++ artifact.relativePath.pieces := by
  obtain ⟨f, rfl, hpackage, -, hwords, hname⟩ :=
    exists_place_of_generated (Manifest.isProper_of_ofText hm d hd) h
  have hplain := isPlain_of_mem_pieces hwords hname
  have hplace := relativePath_eq hwords hname
  have hsplit := splitOn_relativePath hwords hname
  rw [← hpackage]
  refine ⟨⟨_, hname, hsplit⟩, fun word hword => ?words, fun piece hpiece => ⟨?plain, ?backslash⟩,
    ?relative, fun t root place hfind => ?below⟩
  case words =>
    obtain ⟨hword, -⟩ := hwords word hword
    exact ⟨ne_nil_of_isIdentifier hword, forall_isIdentifierPart hword⟩
  case plain =>
    rw [hplace, Path.splitOn_plain (by simp [SourceFile.pieces]) hplain] at hpiece
    obtain ⟨name, hmem, rfl⟩ := List.mem_map.mp hpiece
    exact hplain name hmem
  case backslash =>
    intro hbackslash
    rw [hsplit, List.mem_append, List.mem_singleton] at hpiece
    rcases hpiece with hword | rfl
    · exact absurd (forall_isIdentifierPart (hwords piece hword).1 _ hbackslash) (by decide)
    · rcases List.mem_append.mp hbackslash with hmem | hmem
      · exact absurd (forall_isIdentifierPart hname _ hmem) (by decide)
      · exact absurd hmem (by decide)
  case relative =>
    rw [hplace]
    exact Path.not_isAbsolute_joinNames hplain
  case below =>
    rw [hplace] at hfind ⊢
    rw [Path.pieces_joinNames hplain]
    exact FileTree.find_push hplain hfind

/-- In a tree with a directory for the package, the place of the module for a function of a
companion lies inside that directory. -/
theorem generated_stays_below_root_twins :
    ∃ artifact : Artifact,
      Asking.alone ((Declaration.ofFunction companionUrl).process (renderModule {}) {}
        twins.kindOf) =
          .ok ⟨(Declaration.ofFunction companionUrl).displayName, .generated artifact⟩ ∧
      (∀ piece ∈ splitOn '/' artifact.relativePath.text.toList,
        Path.IsPlain piece ∧ '\\' ∉ piece) ∧
      FileTree.find ⟨[(["out"], .directory), (["out", "test"], .directory)]⟩
        ((Path.mk "out").push artifact.relativePath.text) =
          .ok (["out"] ++ artifact.relativePath.pieces) := by
  obtain ⟨artifact, h⟩ : ∃ a, Asking.alone ((Declaration.ofFunction companionUrl).process
      (renderModule {}) {} twins.kindOf) = .ok ⟨_, .generated a⟩ :=
    exists_generated .companion rfl (by decide) (by decide) (by decide)
  have hmem : .ofFunction companionUrl ∈ twins.declarations := List.mem_cons_self
  obtain ⟨-, -, hplain, -, hbelow⟩ := generated_stays_below_root ofText_text_twins hmem h
  have hplace := relativePath_of_generated (isProper_twins _ hmem) h
  have hfind : FileTree.find ⟨[(["out"], .directory), (["out", "test"], .directory)]⟩
      ((Path.mk "out").push artifact.relativePath.text) =
        .ok ["out", "test", "Sample_Companion_baseUrl_SoloModule.java"] := by
    rw [hplace]
    decide
  obtain ⟨base, hbase, hbehind⟩ := hbelow _ _ _ hfind
  have hout : base = ["out"] := by
    cases hbase
    rfl
  exact ⟨artifact, h, hplain, by rw [hfind, hbehind, hout]⟩

end Generated

end Java

/-! ### Clashes -/

namespace Declaration

variable {d e : Declaration}

/-- A package and the words inside it belong to one display name only. -/
theorem words_ne_of_displayName_ne (hpackage : d.package = e.package)
    (h : d.displayName ≠ e.displayName) : d.words ≠ e.words := by
  intro hwords
  rw [displayName_eq, displayName_eq, hpackage, hwords] at h
  exact h rfl

/-- The words of a proper class contain no dollar signs. -/
theorem dollar_not_mem_words (hproper : d.IsProper) (h : d.called? = none) :
    ∀ word ∈ d.words, '$' ∉ word.toList := by
  intro word hword
  rw [words, h, Option.toList_none, List.append_nil] at hword
  exact (hproper.owner.simpleNames _ (List.mem_map_of_mem hword)).dollar_not_mem

/-- Where no word contains an underscore, the stem shows whether a function is called. -/
theorem underscore_mem_stem_iff (h : ∀ word ∈ d.words, '_' ∉ word.toList) :
    '_' ∈ d.stem.toList ↔ d.called?.isSome = true := by
  cases hcalled : d.called? with
  | none =>
      refine iff_of_false (fun hmem => ?_) (by simp)
      rw [stem, hcalled] at hmem
      rcases mem_joinNames hmem with hdollar | ⟨word, hword, hunderscore⟩
      · exact absurd hdollar (by decide)
      · exact h word hword hunderscore
  | some function =>
      refine iff_of_true ?_ rfl
      -- the function stands behind an underscore
      rw [stem, words, hcalled]
      show '_' ∈ (joinNames '_' (d.owner.simpleNames ++ [function])).toList
      rw [joinNames_concat '_' d.owner.simpleNames_ne_nil]
      simp

/-- **Different words are joined to one stem only where an underscore stands in one of them**, and
never for two classes. -/
theorem clash_of_stem_eq (hd : d.IsProper) (he : e.IsProper) (hwords : d.words ≠ e.words)
    (h : d.stem = e.stem) :
    (d.called?.isSome = true ∨ e.called?.isSome = true) ∧
      ∃ word ∈ d.words ++ e.words, '_' ∈ word.toList := by
  have hclasses : ¬ (d.called? = none ∧ e.called? = none) := by
    rintro ⟨hnone, hnone'⟩
    rw [stem, stem, hnone, hnone'] at h
    exact hwords (joinNames_inj d.words_ne_nil e.words_ne_nil (dollar_not_mem_words hd hnone)
      (dollar_not_mem_words he hnone') h)
  refine ⟨?_, ?_⟩
  · by_contra hneither
    rw [not_or] at hneither
    exact hclasses (by simpa using hneither)
  · by_contra hnone
    have hfree : ∀ word ∈ d.words ++ e.words, '_' ∉ word.toList :=
      fun word hword hmem => hnone ⟨word, hword, hmem⟩
    rw [List.forall_mem_append] at hfree
    obtain ⟨hfree, hfree'⟩ := hfree
    have hsame : d.called?.isSome = true ↔ e.called?.isSome = true := by
      rw [← underscore_mem_stem_iff hfree, ← underscore_mem_stem_iff hfree', h]
    cases hcalled : d.called? with
    | none =>
        rw [hcalled] at hsame
        exact hclasses ⟨hcalled, by simpa using hsame⟩
    | some function =>
        rw [hcalled] at hsame
        obtain ⟨function', hcalled'⟩ := Option.isSome_iff_exists.mp (hsame.mp rfl)
        rw [stem, stem, hcalled, hcalled'] at h
        exact hwords (joinNames_inj d.words_ne_nil e.words_ne_nil hfree hfree' h)

end Declaration

namespace Java

section Clashes

variable {settings : GeneratorSettings} {components : Components} {d e : Declaration}
    {a b : Artifact}

/-- **Two modules get one place exactly when their packages and stems are the same.** -/
theorem relativePath_eq_iff_stem {source source' : KindSource} {cache cache' : KindCache}
    (hd : d.IsProper) (he : e.IsProper) {name name' : String}
    (ha : (d.process (renderModule settings) components source cache).1 =
      .ok ⟨name, .generated a⟩)
    (hb : (e.process (renderModule settings) components source' cache').1 =
      .ok ⟨name', .generated b⟩) :
    a.relativePath = b.relativePath ↔ d.package = e.package ∧ d.stem = e.stem := by
  obtain ⟨f, rfl, hpackage, hname, hwords, hchecked⟩ := exists_place_of_generated hd ha
  obtain ⟨g, rfl, hpackage', hname', hwords', hchecked'⟩ := exists_place_of_generated he hb
  rw [relativePath_eq_iff_package_name hwords hchecked hwords' hchecked', hpackage, hpackage',
    hname, hname']
  refine and_congr_right fun _ => ⟨fun hstems => ?_, fun hstems => by rw [hstems]⟩
  have hcharacters := congrArg String.toList hstems
  rw [String.toList_append, String.toList_append] at hcharacters
  exact String.toList_inj.mp (List.append_cancel_right hcharacters)

/-- The reports on these declarations if a module is generated for each of them. -/
def twinReports (a b c : Artifact) : List Report :=
  [⟨(Declaration.ofFunction companionUrl).displayName, .generated a⟩,
    ⟨(Declaration.ofFunction flatUrl).displayName, .generated b⟩,
    ⟨(Declaration.ofProperty hostName).displayName, .generated c⟩]

/-- Two workers generate a module for each of these declarations. -/
theorem exists_ends_twins :
    ∃ published summary a b c,
      Schedule.Ends (renderModule {}) {} twins.kindOf twins.declarations 2 published ∧
      published.result = .ok summary ∧
      (Declaration.ofFunction companionUrl,
        ⟨(Declaration.ofFunction companionUrl).displayName, .generated a⟩) ∈
          twins.declarations.zip summary.reports ∧
      (Declaration.ofFunction flatUrl,
        ⟨(Declaration.ofFunction flatUrl).displayName, .generated b⟩) ∈
          twins.declarations.zip summary.reports ∧
      (Declaration.ofProperty hostName,
        ⟨(Declaration.ofProperty hostName).displayName, .generated c⟩) ∈
          twins.declarations.zip summary.reports := by
  obtain ⟨a, ha⟩ : ∃ a, Asking.alone ((Declaration.ofFunction companionUrl).process
      (renderModule {}) {} twins.kindOf) = .ok ⟨_, .generated a⟩ :=
    exists_generated .companion rfl (by decide) (by decide) (by decide)
  obtain ⟨b, hb⟩ : ∃ b, Asking.alone ((Declaration.ofFunction flatUrl).process
      (renderModule {}) {} twins.kindOf) = .ok ⟨_, .generated b⟩ :=
    exists_generated .object rfl (by decide) (by decide) (by decide)
  obtain ⟨c, hc⟩ : ∃ c, Asking.alone ((Declaration.ofProperty hostName).process
      (renderModule {}) {} twins.kindOf) = .ok ⟨_, .generated c⟩ :=
    exists_generated .object rfl (by decide) (by decide) (by decide)
  have hdeclarations : twins.declarations =
      [.ofFunction companionUrl, .ofFunction flatUrl, .ofProperty hostName] := rfl
  have hreports : (twins.declarations.mapM fun d =>
      Asking.alone (d.process (renderModule {}) {} twins.kindOf)) = .ok (twinReports a b c) := by
    rw [mapM_eq_ok_iff, twinReports, hdeclarations]
    simp only [List.map_cons, List.map_nil, ha, hb, hc]
  have hsummary : Run.summary (renderModule {}) {} twins.kindOf twins.declarations =
      .ok ⟨twinReports a b c⟩ := by
    rw [Run.summary_eq isProper_twins, hreports]
    rfl
  obtain ⟨published, hends, hok⟩ :=
    Schedule.exists_ends_of_summary isProper_twins (by decide : 0 < 2) hsummary
  refine ⟨published, _, a, b, c, hends, hok, ?_⟩
  simp [hdeclarations, twinReports]

/-- The files of a run are the modules that were generated for its declarations. -/
theorem mem_artifacts_iff {declarations : List Declaration} {published : Schedule.Published}
    {source : KindSource} {summary : Summary}
    (halone : Schedule.AsAlone
      (fun d => Asking.alone (d.process (renderModule settings) components source)) declarations
      published)
    (hok : published.result = .ok summary) :
    a ∈ summary.artifacts ↔
      ∃ d, (d, ⟨d.displayName, .generated a⟩) ∈ declarations.zip summary.reports := by
  rw [Summary.artifacts, List.mem_filterMap]
  constructor
  · rintro ⟨⟨name, outcome⟩, hreport, hartifact⟩
    obtain ⟨d, hmem⟩ := halone.exists_mem_zip hok hreport
    obtain rfl : name = d.displayName := Declaration.declaration_of_process
      (rejectsOnly_renderModule settings) (halone.eq_ok_of_mem_zip hok hmem)
    cases outcome with
    | generated artifact =>
        cases hartifact
        exact ⟨d, hmem⟩
    | rejected diagnostics => cases hartifact
    | skipped reason => cases hartifact
  · rintro ⟨d, hmem⟩
    exact ⟨_, (List.of_mem_zip hmem).2, rfl⟩

/-- **Once the modules of a run were written**, the file for a declaration holds its module or that
of a declaration with the same package and stem. -/
theorem readText_of_written {declarations : List Declaration} {published : Schedule.Published}
    {source : KindSource} {summary : Summary} (hproper : ∀ d ∈ declarations, d.IsProper)
    (halone : Schedule.AsAlone
      (fun d => Asking.alone (d.process (renderModule settings) components source)) declarations
      published)
    (hok : published.result = .ok summary)
    (ha : (d, ⟨d.displayName, .generated a⟩) ∈ declarations.zip summary.reports)
    {root : Path} {t t' : FileTree} {report : WriteReport}
    (hwritten : (writeArtifacts (m := StateM FileTree) root summary.artifacts).run t =
      (.ok report, t')) :
    ∃ f c, (f, ⟨f.displayName, .generated c⟩) ∈ declarations.zip summary.reports ∧
      f.package = d.package ∧ f.stem = d.stem ∧
      t'.readText (root.push a.relativePath.text) = .ok c.contents := by
  have hmodule (c : Artifact) (hc : c ∈ summary.artifacts) :
      ∃ f, f.IsProper ∧ (f, ⟨f.displayName, .generated c⟩) ∈ declarations.zip summary.reports := by
    obtain ⟨f, hf⟩ := (mem_artifacts_iff halone hok).mp hc
    exact ⟨f, hproper f (List.of_mem_zip hf).1, hf⟩
  have hinner : ∀ c ∈ summary.artifacts, c.relativePath.IsInner := by
    intro c hc
    obtain ⟨f, hfproper, hf⟩ := hmodule c hc
    exact isInner_of_generated hfproper (halone.eq_ok_of_mem_zip hok hf)
  have hmem : a ∈ summary.artifacts := (mem_artifacts_iff halone hok).mpr ⟨d, ha⟩
  obtain ⟨c, hc, hplace, hread⟩ := readText_of_writeArtifacts hinner hwritten a hmem
  obtain ⟨f, hfproper, hf⟩ := hmodule c hc
  -- one place below the root means one package and one stem
  obtain ⟨hpackage, hstem⟩ :=
    (relativePath_eq_iff_stem hfproper (hproper d (List.of_mem_zip ha).1)
      (halone.eq_ok_of_mem_zip hok hf) (halone.eq_ok_of_mem_zip hok ha)).mp hplace
  exact ⟨f, c, hf, hpackage, hstem, hread⟩

/-- **When two declarations of one run get one place.**  Take a run over a manifest that was read,
with any number of workers, and two declarations that it generated modules for and that go by
different names.

* The modules have the same place exactly when the declarations are in one package and their words
  are joined to one stem: the simple names of a class by dollar signs, and those of a container
  with the function that is called by underscores.
* That never happens to two classes, and only where some word contains an underscore.
* Once all modules of the run were written below a root, the file for a declaration holds its module
  or that of a declaration with the same package and stem. -/
theorem relativePath_eq_iff {text : String} {m : Manifest} (hm : Manifest.ofText text = .ok m)
    {workers : Nat} {published : Schedule.Published} {summary : Summary}
    (hends : Schedule.Ends (renderModule settings) components m.kindOf m.declarations workers
      published)
    (hok : published.result = .ok summary)
    (ha : (d, ⟨d.displayName, .generated a⟩) ∈ m.declarations.zip summary.reports)
    (hb : (e, ⟨e.displayName, .generated b⟩) ∈ m.declarations.zip summary.reports)
    (hne : d.displayName ≠ e.displayName) :
    (a.relativePath = b.relativePath ↔ d.package = e.package ∧ d.stem = e.stem) ∧
      (a.relativePath = b.relativePath →
        (d.called?.isSome = true ∨ e.called?.isSome = true) ∧
          ∃ word ∈ d.words ++ e.words, '_' ∈ word.toList) ∧
      ∀ (root : Path) (t t' : FileTree) (report : WriteReport),
        (writeArtifacts (m := StateM FileTree) root summary.artifacts).run t = (.ok report, t') →
          ∃ f c, (f, ⟨f.displayName, .generated c⟩) ∈ m.declarations.zip summary.reports ∧
            f.package = d.package ∧ f.stem = d.stem ∧
            t'.readText (root.push a.relativePath.text) = .ok c.contents := by
  have hproper := Manifest.isProper_of_ofText hm
  have hd := hproper d (List.of_mem_zip ha).1
  have he := hproper e (List.of_mem_zip hb).1
  have halone := hends.asAlone hproper
  have hplaces := relativePath_eq_iff_stem hd he (halone.eq_ok_of_mem_zip hok ha)
    (halone.eq_ok_of_mem_zip hok hb)
  refine ⟨hplaces, fun hplace => ?_,
    fun root t t' report hwritten => readText_of_written hproper halone hok ha hwritten⟩
  obtain ⟨hpackage, hstem⟩ := hplaces.mp hplace
  exact Declaration.clash_of_stem_eq hd he (Declaration.words_ne_of_displayName_ne hpackage hne)
    hstem

/-- Of three modules that two workers generate, those for the functions have one place, and that for
the accessor has another. -/
theorem relativePath_eq_iff_twins :
    Manifest.ofText twins.text = .ok twins ∧
    ∃ (published : Schedule.Published) (summary : Summary) (a b c : Artifact),
      Schedule.Ends (renderModule {}) {} twins.kindOf twins.declarations 2 published ∧
      published.result = .ok summary ∧
      (Declaration.ofFunction companionUrl).displayName ≠
        (Declaration.ofFunction flatUrl).displayName ∧
      a.relativePath = b.relativePath ∧ a.relativePath ≠ c.relativePath := by
  obtain ⟨published, summary, a, b, c, hends, hok, ha, hb, hc⟩ := exists_ends_twins
  have hurls : (Declaration.ofFunction companionUrl).displayName ≠
      (Declaration.ofFunction flatUrl).displayName := by decide
  have hfunctions := relativePath_eq_iff ofText_text_twins hends hok ha hb hurls
  have haccessor := relativePath_eq_iff ofText_text_twins hends hok ha hc (by decide)
  refine ⟨ofText_text_twins, published, summary, a, b, c, hends, hok, hurls, ?_, ?_⟩
  · exact hfunctions.1.mpr (by decide)
  · exact haccessor.1.not.mpr (by decide)

/-- **Not all declarations with different names get different places**: a function of a companion
and one of the object around it need not. -/
theorem not_relativePath_ne :
    ¬ ∀ (text : String) (m : Manifest), Manifest.ofText text = .ok m →
      ∀ (workers : Nat) (published : Schedule.Published) (summary : Summary),
        Schedule.Ends (renderModule {}) {} m.kindOf m.declarations workers published →
        published.result = .ok summary →
        ∀ (d e : Declaration) (a b : Artifact),
          (d, ⟨d.displayName, .generated a⟩) ∈ m.declarations.zip summary.reports →
          (e, ⟨e.displayName, .generated b⟩) ∈ m.declarations.zip summary.reports →
          d.displayName ≠ e.displayName → a.relativePath ≠ b.relativePath := by
  intro hall
  obtain ⟨published, summary, a, b, -, hends, hok, ha, hb, -⟩ := exists_ends_twins
  have halone := hends.asAlone isProper_twins
  refine hall _ _ ofText_text_twins _ _ _ hends hok _ _ a b ha hb (by decide) ?_
  rw [relativePath_of_generated (isProper_twins _ (List.of_mem_zip ha).1)
      (halone.eq_ok_of_mem_zip hok ha),
    relativePath_of_generated (isProper_twins _ (List.of_mem_zip hb).1)
      (halone.eq_ok_of_mem_zip hok hb)]
  decide +kernel

end Clashes

end Java

end Bindery
