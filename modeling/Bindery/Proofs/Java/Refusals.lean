import Bindery.Proofs.Java.Placement
import Bindery.Proofs.Java.PlanClasses
import Bindery.Proofs.Review.Accepted

/-!
# Bindings that cannot be written

Many words of a generated file have to be names: of the module, of its function, of the function
that is called and of the parameters.  The words that a host chooses may be no names, and then the
binding cannot be written.  The words that are put together here always are names.  They begin with
a simple name or with a word of this library, and simple names, packages and functions consist of
the characters of identifiers; and all of them contain an underscore, which no keyword does.

So of the checks only those of the host's own words can fail (`exists_sourceFile_iff`), and a bound
class is refused besides where it would be bound to a primitive type.  `refused_iff` lists the
bindings of accepted declarations that cannot be written.
-/

namespace Bindery.Java

open Text

/-! ### Words that are put together -/

theorem checkName_eq_ok_iff {role word : String} :
    checkName role word = .ok () ↔ isName word = true := by
  refine ⟨isName_of_checkName, fun h => ?_⟩
  rw [checkName, if_pos h]

/-- No keyword contains an underscore. -/
theorem underscore_not_mem_keyword : ∀ word ∈ keywords, '_' ∉ word.toList := by decide

/-- **Words that are put together may name something** if the first begins as an identifier, both
go on as one and an underscore is among their characters. -/
theorem isName_append {first rest : String} (hbegins : beginsIdentifier first.toList = true)
    (hfirst : ∀ ch ∈ first.toList, isIdentifierPart ch = true)
    (hrest : ∀ ch ∈ rest.toList, isIdentifierPart ch = true)
    (hunderscore : '_' ∈ first.toList ++ rest.toList) : isName (first ++ rest) = true := by
  have hkeyword : first ++ rest ∉ keywords := fun h =>
    underscore_not_mem_keyword _ h (by rwa [String.toList_append])
  have hword : isIdentifier (first ++ rest).toList = true := by
    rw [String.toList_append,
      isIdentifier_eq_beginsIdentifier (List.forall_mem_append.mpr ⟨hfirst, hrest⟩)]
    cases hchars : first.toList with
    | nil => simp [hchars, beginsIdentifier] at hbegins
    | cons ch others => rwa [hchars] at hbegins
  rw [isName, hword]
  simpa using hkeyword

section Names

variable {c : ClassName} {function : String}

theorem isIdentifierPart_of_isName {word : String} (h : isName word = true) :
    ∀ ch ∈ word.toList, isIdentifierPart ch = true :=
  forall_isIdentifierPart (Bool.and_eq_true_iff.mp h).1

/-- Joined simple names begin as the outermost of them. -/
theorem beginsIdentifier_joinNames (h : c.IsProper) (separator : Char) :
    beginsIdentifier (joinNames separator c.simpleNames).toList = true := by
  rw [joinNames, String.toList_ofList, ClassName.simpleNames, List.map_cons,
    beginsIdentifier_joinWith h.outermost.1, h.begins]

/-- Simple names that are joined by a character of identifiers consist of such characters. -/
theorem isIdentifierPart_of_mem_joinNames (h : c.IsProper) {separator : Char}
    (hseparator : isIdentifierPart separator = true) :
    ∀ ch ∈ (joinNames separator c.simpleNames).toList, isIdentifierPart ch = true := by
  intro ch hch
  rcases mem_joinNames hch with rfl | ⟨name, hname, hmem⟩
  · exact hseparator
  · exact (h.simpleNames _ (List.mem_map_of_mem hname)).isIdentifierPart ch hmem

/-- The reflection name of a class, made one word, consists of the characters of identifiers. -/
theorem isIdentifierPart_of_mem_flatName (h : c.IsProper) :
    ∀ ch ∈ (flatName c).toList, isIdentifierPart ch = true := by
  intro ch hch
  rw [flatName, String.toList_ofList] at hch
  obtain ⟨old, hold, rfl⟩ := List.mem_map.mp hch
  split
  · decide
  · next hdot => exact (h.isNameChar_reflectionName old hold).resolve_right hdot

/-- **The module for a class has a name.** -/
theorem isName_classModuleName (h : c.IsProper) : isName (classModuleName c) = true :=
  isName_append (beginsIdentifier_joinNames h '$')
    (isIdentifierPart_of_mem_joinNames h (by decide)) (List.all_eq_true.mp (by decide))
    (List.mem_append_right _ (by decide))

/-- **The module for a function has a name**, if the function has one. -/
theorem isName_functionModuleName (h : c.IsProper) (hfunction : isName function = true) :
    isName (functionModuleName c function) = true := by
  rw [functionModuleName, String.append_assoc, String.append_assoc]
  refine isName_append (beginsIdentifier_joinNames h '_')
    (isIdentifierPart_of_mem_joinNames h (by decide)) ?_ (List.mem_append_right _ ?_)
  · simp only [String.toList_append, List.forall_mem_append]
    exact ⟨List.all_eq_true.mp (by decide), isIdentifierPart_of_isName hfunction,
      List.all_eq_true.mp (by decide)⟩
  · rw [String.toList_append]
    exact List.mem_append_left _ (by decide)

/-- **A function that provides a class has a name.** -/
theorem isName_providerName (h : c.IsProper) : isName (providerName c) = true :=
  isName_append (by decide) (List.all_eq_true.mp (by decide)) (isIdentifierPart_of_mem_flatName h)
    (List.mem_append_left _ (by decide))

/-- **A function that binds a class has a name.** -/
theorem isName_binderName (h : c.IsProper) : isName (binderName c) = true :=
  isName_append (by decide) (List.all_eq_true.mp (by decide)) (isIdentifierPart_of_mem_flatName h)
    (List.mem_append_left _ (by decide))

/-- **A function that provides the result of a function has a name**, if the latter has one. -/
theorem isName_functionProviderName (h : c.IsProper) (hfunction : isName function = true) :
    isName (functionProviderName c function) = true := by
  rw [functionProviderName, String.append_assoc, String.append_assoc]
  refine isName_append (by decide) (List.all_eq_true.mp (by decide)) ?_
    (List.mem_append_left _ (by decide))
  simp only [String.toList_append, List.forall_mem_append]
  exact ⟨isIdentifierPart_of_mem_flatName h, List.all_eq_true.mp (by decide),
    isIdentifierPart_of_isName hfunction⟩

end Names

/-! ### What can be written -/

section Plans

variable {p : Plan} {name : String}

theorem exists_parameterOf_iff {a : Argument} :
    (∃ entry, parameterOf a = .ok entry) ↔ isName a.name = true := by
  rw [parameterOf, checkName]
  split
  next h => exact iff_of_true ⟨_, rfl⟩ h
  next h =>
    refine iff_of_false ?_ h
    rintro ⟨entry, hentry⟩
    cases hentry

/-- A function that provides can be written if its parameters have names. -/
theorem exists_provider_iff (name : String) (callee : Fragment) :
    (∃ m, provider name callee p = .ok m) ↔ ∀ a ∈ p.arguments, isName a.name = true := by
  have hparameters : (∃ entries, p.arguments.mapM parameterOf = .ok entries) ↔
      ∀ a ∈ p.arguments, isName a.name = true := by
    simp only [exists_mapM_eq_ok_iff, exists_parameterOf_iff]
  rw [← hparameters]
  constructor
  · rintro ⟨m, hm⟩
    obtain ⟨entries, hentries, -⟩ := exists_of_provider hm
    exact ⟨entries, hentries⟩
  · rintro ⟨entries, hentries⟩
    rw [provider, hentries]
    exact ⟨_, rfl⟩

/-- A function that binds can be written if the exposed type is not primitive and its parameter
has a name. -/
theorem exists_binder_iff {c : ClassName} :
    (∃ m, binder c p = .ok m) ↔
      p.exposed.isPrimitive = false ∧ isName (parameterName c) = true := by
  rw [binder]
  split
  next hprimitive =>
    refine iff_of_false ?_ (by simp [hprimitive])
    rintro ⟨m, hm⟩
    cases hm
  next hprimitive =>
    rw [Bool.not_eq_true] at hprimitive
    cases hname : isName (parameterName c) with
    | true =>
        rw [checkName_eq_ok_iff.mpr hname]
        exact iff_of_true ⟨_, rfl⟩ ⟨hprimitive, rfl⟩
    | false =>
        rw [checkName, hname]
        refine iff_of_false ?_ (by simp)
        rintro ⟨m, hm⟩
        cases hm

/-- **The words of a host that have to be names are names**, and no class is bound to a primitive
type. -/
structure HasNames (p : Plan) : Prop where
  called : ∀ container function receiver, p.source = .call container function receiver →
    isName function = true
  arguments : p.strategy = .provides → ∀ a ∈ p.arguments, isName a.name = true
  exposed : p.strategy = .binds → p.exposed.isPrimitive = false
  parameter : p.strategy = .binds → ∀ c, p.source = .instance c → isName (parameterName c) = true

/-- What it means that a plan lacks names. -/
theorem not_hasNames_iff : ¬ HasNames p ↔
    (∃ container function receiver, p.source = .call container function receiver ∧
      isName function = false) ∨
    (p.strategy = .provides ∧ ∃ a ∈ p.arguments, isName a.name = false) ∨
    (p.strategy = .binds ∧ (p.exposed.isPrimitive = true ∨
      ∃ c, p.source = .instance c ∧ isName (parameterName c) = false)) := by
  have hfields : HasNames p ↔
      (∀ container function receiver, p.source = .call container function receiver →
        isName function = true) ∧
      (p.strategy = .provides → ∀ a ∈ p.arguments, isName a.name = true) ∧
      (p.strategy = .binds → p.exposed.isPrimitive = false ∧
        ∀ c, p.source = .instance c → isName (parameterName c) = true) :=
    ⟨fun h => ⟨h.called, h.arguments, fun hbinds => ⟨h.exposed hbinds, h.parameter hbinds⟩⟩,
      fun ⟨hcalled, harguments, hbound⟩ => ⟨hcalled, harguments, fun hbinds => (hbound hbinds).1,
        fun hbinds => (hbound hbinds).2⟩⟩
  simp only [hfields, not_and_or, not_forall, exists_prop, Bool.not_eq_true, Bool.not_eq_false]

theorem hasNames_of_entryPoint {m : Method} (h : entryPoint p = .ok (name, m)) : HasNames p := by
  rcases entryPoint_cases h with ⟨c, hsource, hstrategy, -, hm⟩ | ⟨c, hsource, hstrategy, -, hm⟩ |
    ⟨container, function, receiver, hsource, hstrategy, -, hfunction, hm⟩
  · exact ⟨by simp [hsource], fun _ => (exists_provider_iff _ _).mp ⟨m, hm⟩, by simp [hstrategy],
      by simp [hstrategy]⟩
  · obtain ⟨hexposed, hparameter⟩ := exists_binder_iff.mp ⟨m, hm⟩
    refine ⟨by simp [hsource], by simp [hstrategy], fun _ => hexposed, fun _ other hother => ?_⟩
    cases hsource.symm.trans hother
    exact hparameter
  · refine ⟨fun other name expression hother => ?_, fun _ => (exists_provider_iff _ _).mp ⟨m, hm⟩,
      by simp [hstrategy], by simp [hsource]⟩
    cases hsource.symm.trans hother
    exact hfunction

theorem exists_entryPoint_of_hasNames (h : HasNames p)
    (hprovided : ∀ container function receiver, p.source = .call container function receiver →
      p.strategy = .provides) : ∃ entry, entryPoint p = .ok entry := by
  cases hsource : p.source with
  | «instance» c =>
      cases hstrategy : p.strategy with
      | provides =>
          obtain ⟨m, hm⟩ := (exists_provider_iff (providerName c)
            ((Fragment.ofText "new ").type (.plain c))).mpr (h.arguments hstrategy)
          refine ⟨(classModuleName c, m), ?_⟩
          simp only [entryPoint, hsource, hstrategy, hm]
          rfl
      | binds =>
          obtain ⟨m, hm⟩ := exists_binder_iff.mpr
            ⟨h.exposed hstrategy, h.parameter hstrategy c hsource⟩
          refine ⟨(classModuleName c, m), ?_⟩
          simp only [entryPoint, hsource, hstrategy, hm]
          rfl
  | call container function receiver =>
      have hstrategy := hprovided container function receiver hsource
      have hfunction := h.called container function receiver hsource
      obtain ⟨m, hm⟩ := (exists_provider_iff (functionProviderName container function)
        (Fragment.ofText (receiver ++ "." ++ function))).mpr (h.arguments hstrategy)
      refine ⟨(functionModuleName container function, m), ?_⟩
      simp only [entryPoint, hsource, hstrategy, checkName_eq_ok_iff.mpr hfunction, hm]
      rfl

/-- **The names that are put together for a plan are names**, if the words of the host are. -/
theorem isName_of_entryPoint (hproper : p.source.owner.IsProper) {m : Method}
    (h : entryPoint p = .ok (name, m)) : isName name = true ∧ isName m.name = true := by
  rcases entryPoint_cases h with ⟨c, hsource, -, rfl, hm⟩ | ⟨c, hsource, -, rfl, hm⟩ |
    ⟨container, function, receiver, hsource, -, rfl, hfunction, hm⟩
  all_goals rw [hsource] at hproper
  · obtain ⟨entries, -, rfl⟩ := exists_of_provider hm
    exact ⟨isName_classModuleName hproper, isName_providerName hproper⟩
  · obtain ⟨-, rfl⟩ := eq_of_binder hm
    exact ⟨isName_classModuleName hproper, isName_binderName hproper⟩
  · obtain ⟨entries, -, rfl⟩ := exists_of_provider hm
    exact ⟨isName_functionModuleName hproper hfunction,
      isName_functionProviderName hproper hfunction⟩

/-- **A plan can be written if the words of the host have names**: the checks of the names that
are put together never fail. -/
theorem exists_sourceFile_iff (settings : GeneratorSettings) (hproper : p.source.owner.IsProper)
    (hprovided : ∀ container function receiver, p.source = .call container function receiver →
      p.strategy = .provides) :
    (∃ file, sourceFile settings p = .ok file) ↔ HasNames p := by
  constructor
  · rintro ⟨file, hfile⟩
    obtain ⟨m, hfile⟩ := exists_isFileOf hfile
    exact hasNames_of_entryPoint hfile.entry
  · intro h
    obtain ⟨⟨name, m⟩, hentry⟩ := exists_entryPoint_of_hasNames h hprovided
    obtain ⟨hname, hmethod⟩ := isName_of_entryPoint hproper hentry
    simp only [sourceFile, hentry, bind, Except.bind, checkName_eq_ok_iff.mpr hname,
      checkName_eq_ok_iff.mpr hmethod]
    exact ⟨_, rfl⟩

end Plans

/-! ### Bindings of accepted declarations -/

section Accepted

variable {components : Components} {source : KindSource} {cache : KindCache} {d : Declaration}
    {b : Binding}

/-- Functions are only provided. -/
theorem strategy_of_accepted (h : (d.review components source cache).1 = .ok (.accepted b))
    (container : ClassName) (function receiver : String)
    (hsource : b.source = .call container function receiver) : b.strategy = .provides := by
  have hcalled {f : FunctionDeclaration} (hf : d.function? = some f) : b.strategy = .provides := by
    obtain ⟨kind, -, hbinding⟩ := Declaration.isOfFunction_of_accepted hf h
    exact hbinding.strategy
  cases d with
  | ofClass c =>
      have hbinding := ClassDeclaration.isOfClass_of_accepted (d := c) h
      cases hbinding.source.symm.trans hsource
  | ofFunction f => exact hcalled rfl
  | ofProperty q => exact hcalled rfl

/-- The binding of an accepted declaration has the name and the class of the declaration. -/
theorem owner_of_accepted (h : (d.review components source cache).1 = .ok (.accepted b)) :
    b.source.owner = d.owner ∧ b.source.displayName = d.displayName := by
  obtain ⟨kind, hsource⟩ := Declaration.source_of_review h
  rw [hsource]
  cases d <;> exact ⟨rfl, rfl⟩

theorem exists_renderModule_error_iff (settings : GeneratorSettings) :
    (∃ failure, renderModule settings b = .error failure) ↔
      ¬ ∃ file, sourceFile settings b.toPlan = .ok file := by
  rw [renderModule]
  cases sourceFile settings b.toPlan with
  | ok file => simp
  | error fault => simp

/-- **Which bindings cannot be written.**  Take the binding of any decoded declaration that was
accepted.

* It cannot be written exactly if it calls a function whose name may not name anything, if it
  provides with an argument of such a name, or if it binds to a primitive type or by a parameter of
  such a name, which is the innermost name of the class with its first letter in lower case.
* Then the declaration is reported as one that cannot be rendered.
* If nothing of this is in the way, the names of the module and of its function pass their
  checks. -/
theorem refused_iff {origin : Origin} {document : Document}
    (hd : Declaration.decode origin document = .ok d)
    (h : (d.review components source cache).1 = .ok (.accepted b)) (settings : GeneratorSettings) :
    ((∃ failure, renderModule settings b = .error failure) ↔
      (∃ container function receiver, b.source = .call container function receiver ∧
        isName function = false) ∨
      (b.strategy = .provides ∧ ∃ a ∈ b.arguments, isName a.name = false) ∨
      (b.strategy = .binds ∧ (b.exposed.isPrimitive = true ∨
        ∃ c, b.source = .instance c ∧ isName (parameterName c) = false))) ∧
    (∀ failure, renderModule settings b = .error failure →
      ∃ reason, failure = .render d.displayName reason) ∧
    ∀ name m, entryPoint b.toPlan = .ok (name, m) →
      checkName "module name" name = .ok () ∧ checkName "method name" m.name = .ok () := by
  obtain ⟨howner, hdisplay⟩ := owner_of_accepted h
  have hproper : b.source.owner.IsProper := by
    rw [howner]
    exact (Declaration.yields_decode.of_ok hd).owner
  refine ⟨?refused, fun failure hfailure => ?reported, fun name m hentry => ?names⟩
  case refused =>
    rw [exists_renderModule_error_iff,
      exists_sourceFile_iff settings hproper (strategy_of_accepted h), not_hasNames_iff]
  case reported =>
    rw [renderModule, hdisplay] at hfailure
    split at hfailure
    next => cases hfailure
    next fault _ =>
      cases hfailure
      exact ⟨fault.message, rfl⟩
  case names =>
    obtain ⟨hname, hmethod⟩ := isName_of_entryPoint hproper hentry
    exact ⟨checkName_eq_ok_iff.mpr hname, checkName_eq_ok_iff.mpr hmethod⟩

/-- A class whose name becomes a keyword where an instance of it is passed. -/
def newClass : ClassDeclaration where
  name := ⟨"app", "New", []⟩
  interfaces := [.plain ⟨"app", "Maker", []⟩]
  constructors := [⟨.publicUse, true, []⟩]

/-- The binding of `newClass` as its interface cannot be written, and this is reported for the
class. -/
theorem refused_iff_newClass :
    ∃ b : Binding,
      ((Declaration.ofClass newClass).review {} (fun _ => .ok .object) {}).1 =
        .ok (.accepted b) ∧
      (∃ failure, renderModule {} b = .error failure) ∧
      ∀ failure, renderModule {} b = .error failure →
        ∃ reason, failure = .render "app.New" reason := by
  have hdecoded : Declaration.decode .text (Declaration.ofClass newClass).document =
      .ok (.ofClass newClass) := by decide +kernel
  obtain ⟨b, hb⟩ : ∃ b, ((Declaration.ofClass newClass).review {} (fun _ => .ok .object) {}).1 =
      .ok (.accepted b) := ⟨_, rfl⟩
  have hplan : b.source = .instance newClass.name ∧ b.strategy = .binds := by
    cases hb
    exact ⟨rfl, rfl⟩
  obtain ⟨hrefused, hreported, -⟩ := refused_iff hdecoded hb {}
  have hname : isName (parameterName newClass.name) = false := by decide
  exact ⟨b, hb, hrefused.mpr (.inr (.inr ⟨hplan.2, .inr ⟨_, hplan.1, hname⟩⟩)), hreported⟩

end Accepted

end Bindery.Java
