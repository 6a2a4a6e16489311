import Bindery.Proofs.Java.References
import Bindery.Proofs.Lookup
import Bindery.Proofs.Name.Proper

/-!
# What names mean in a source file

A file writes a class either by its qualified name or by its simple names alone.  The latter is
shorter, but its first name is looked up in the file: it means the type whose body it stands in,
else the class imported under that name, else the class of that name in the package of the file.
`SourceFile.topLevelNamed` is this rule, and `SourceFile.Means` extends it to a whole text; neither
knows how references are written.

Two passes decide how a class is written.  The first collects imports as if there were none, the
second writes with these imports.  What connects them is that imports are *top-level* classes under
their own names (`Imports.IsSound`), and that a name which the first pass needed for a class of the
package is never imported (`lookup_suggestedImports_of_neighbour`).  With both, `Scope.nameOf_eq`
says when the short form is taken, and `SourceFile.spelling_means` that what is written means the
class referred to and no other.
-/

namespace Bindery

open Text

namespace ClassName

/-- The simple names of a class, without its package. -/
def relativeName (c : ClassName) : String := joinNames '.' c.simpleNames

/-- The class of the default package with the same simple names. -/
def unpackaged (c : ClassName) : ClassName := { c with package := "" }

variable {c d : ClassName}

theorem canonicalName_unpackaged (c : ClassName) :
    c.unpackaged.canonicalName = c.relativeName := rfl

theorem IsProper.unpackaged (h : c.IsProper) : c.unpackaged.IsProper :=
  ⟨by simp [ClassName.unpackaged, IsPackage], h.outermost, h.begins, h.capital, h.nested⟩

/-- The simple names show which class of the default package they name. -/
theorem relativeName_inj (hc : c.IsProper) (hd : d.IsProper) (h : c.relativeName = d.relativeName) :
    c.unpackaged = d.unpackaged :=
  canonicalName_inj hc.unpackaged hd.unpackaged h

/-- A class is written alike with and without its package only in the default package. -/
theorem canonicalName_eq_relativeName (hc : c.IsProper) (hd : d.IsProper) :
    c.canonicalName = d.relativeName ↔ c = d.unpackaged := by
  rw [← canonicalName_unpackaged]
  exact ⟨canonicalName_inj hc hd.unpackaged, congrArg canonicalName⟩

/-! ### Qualified simple names -/

/-- A top-level class is written by its only name, qualified. -/
theorem canonicalName_mk (package name : String) :
    (⟨package, name, []⟩ : ClassName).canonicalName = qualified package name := by
  simp [canonicalName, simpleNames, joinNames, joinWith]

/-- Qualified names of the same simple name are told apart by their packages. -/
theorem qualified_inj_left {p q name : String} (h : qualified p name = qualified q name) :
    p = q := by
  have hlength := congrArg (fun s => s.toList.length) h
  unfold qualified at h hlength
  split at h
  · next hp =>
      split at h
      · next hq => rw [String.isEmpty_iff.mp hp, String.isEmpty_iff.mp hq]
      · next hq =>
          rw [if_pos hp, if_neg hq] at hlength
          simp [toString] at hlength
          omega
  · next hp =>
      split at h
      · next hq =>
          rw [if_neg hp, if_pos hq] at hlength
          simp [toString] at hlength
          omega
      · have hlists := congrArg String.toList h
        simp only [toString, String.toList_append, List.append_cancel_right_eq] at hlists
        exact String.toList_inj.mp hlists

/-- The innermost name of a nested class ends its simple names. -/
theorem nested_eq_dropLast_append (h : c.nested ≠ []) :
    c.nested = c.nested.dropLast ++ [c.simpleName] := by
  rw [simpleName, List.getLastD_eq_getLast?, List.getLast?_eq_some_getLast h, Option.getD_some,
    List.dropLast_concat_getLast h]

/-- **A nested class is never written like a top-level class of its innermost name**, because
the names around it are no package words. -/
theorem qualified_ne_canonicalName {package : String} (hpackage : IsPackage package)
    (h : c.IsProper) (hnested : c.nested ≠ []) :
    qualified package c.simpleName ≠ c.canonicalName := by
  intro heq
  have hsimple : IsSimpleName c.simpleName.toList := by
    refine h.nested _ ?_
    rw [nested_eq_dropLast_append hnested]
    simp
  have hwords := congrArg (fun name => splitOn '.' name.toList) heq
  simp only [splitOn_canonicalName h, splitOn_qualified, simpleNames, List.map_cons,
    splitOn_of_not_mem (dot_not_mem hsimple.isIdentifierPart)] at hwords
  rw [nested_eq_dropLast_append hnested, List.map_append, List.map_singleton, ← List.cons_append,
    ← List.append_assoc, List.append_cancel_right_eq] at hwords
  have hword := hpackage c.outermost.toList (by rw [hwords]; simp)
  rw [IsPackageWord, h.capital] at hword
  exact absurd hword.2 (by simp)

/-! ### The chain of classes around a class -/

/-- **Of a chain in which no nested class is found, only the top-level class can be found.** -/
theorem find?_chain {p : ClassName → Bool} (c : ClassName)
    (h : ∀ init rest, c.nested = init ++ rest → init ≠ [] → p { c with nested := init } = false) :
    c.chain.find? p = if p c.topLevel then some c.topLevel else none := by
  -- on the number of names that are left
  induction hlength : c.nested.length generalizing c with
  | zero =>
      have hnil : c.nested = [] := List.length_eq_zero_iff.mp hlength
      have htop : c.topLevel = c := by rw [topLevel, ← hnil]
      rw [chain, if_pos (by simp [hnil]), htop, List.find?_singleton]
  | succ n ih =>
      have hne : c.nested ≠ [] := List.ne_nil_of_length_eq_add_one hlength
      have hself : p c = false := h c.nested [] (by simp) hne
      rw [chain, if_neg (by simpa using hne), List.find?_cons_of_neg (by simp [hself])]
      refine ih { c with nested := c.nested.dropLast } (fun init rest hinit hne' => ?_) ?_
      · refine h init (rest ++ [c.simpleName]) ?_ hne'
        conv => lhs; rw [nested_eq_dropLast_append hne]
        rw [← List.append_assoc]
        exact congrArg (· ++ _) hinit
      · simp [hlength]

/-- Nested classes around a proper class are proper. -/
theorem IsProper.of_nested_prefix (h : c.IsProper) {init rest : List String}
    (hinit : c.nested = init ++ rest) : ({ c with nested := init } : ClassName).IsProper :=
  ⟨h.package, h.outermost, h.begins, h.capital, fun name hname =>
    h.nested name (by rw [hinit]; exact List.mem_append_left _ hname)⟩

end ClassName

namespace Java

/-! ### Scopes -/

/-- Imports are top-level classes, each under its own simple name. -/
def Imports.IsSound (imports : Imports) : Prop :=
  ∀ entry ∈ imports, entry.2.IsProper ∧ entry.2 = ⟨entry.2.package, entry.1, []⟩

namespace Scope

/-- What every scope of a generated file satisfies. -/
structure IsSound (s : Scope) : Prop where
  package : IsPackage s.package
  imports : s.imports.IsSound

/-- **The top-level class that a simple name means**: the type whose body the place is in, else
an imported class, else the class of the package. -/
def referent (s : Scope) (name : String) : ClassName := (s.meaning? name).getD ⟨s.package, name, []⟩

variable {s : Scope} {c d : ClassName} {name : String}

/-- What a simple name means, classes of the package aside, is a top-level class of that name. -/
theorem IsSound.meaning? (h : s.IsSound) (hd : s.meaning? name = some d) :
    IsPackage d.package ∧ d = ⟨d.package, name, []⟩ := by
  unfold Scope.meaning? at hd
  split at hd
  · cases hd
    exact ⟨h.package, rfl⟩
  · obtain ⟨before, after, himports, -⟩ := List.lookup_eq_some_iff.mp hd
    obtain ⟨hproper, heq⟩ := h.imports (name, d) (by rw [himports]; simp)
    exact ⟨hproper.package, heq⟩

/-- A nested class does not go by its simple name. -/
theorem IsSound.isVisible_of_nested (h : s.IsSound) (hc : c.IsProper) (hnested : c.nested ≠ []) :
    s.isVisible c = false := by
  unfold isVisible
  cases hmeaning : s.meaning? c.simpleName with
  | none => rfl
  | some d =>
      obtain ⟨hpackage, hd⟩ := h.meaning? hmeaning
      simp only [beq_eq_false_iff_ne]
      rw [hd, ClassName.canonicalName_mk]
      exact ClassName.qualified_ne_canonicalName hpackage hc hnested

/-- A top-level class goes by its simple name exactly when that means the class. -/
theorem IsSound.isVisible_topLevel (h : s.IsSound) :
    s.isVisible c.topLevel = decide (s.meaning? c.outermost = some c.topLevel) := by
  have hsimple : c.topLevel.simpleName = c.outermost := rfl
  rw [isVisible, hsimple]
  cases hmeaning : s.meaning? c.outermost with
  | none => simp
  | some d =>
      obtain ⟨-, hd⟩ := h.meaning? hmeaning
      simp only [Option.some.injEq]
      refine Bool.eq_iff_iff.mpr ?_
      rw [beq_iff_eq, decide_eq_true_iff]
      refine ⟨fun heq => ?_, fun heq => by rw [heq]⟩
      rw [hd] at heq ⊢
      have hpackage : d.package = c.package := ClassName.qualified_inj_left heq
      rw [hpackage]
      rfl

/-- **How a class stands to a sound scope** depends on what its outermost name means alone. -/
theorem IsSound.standing_eq (h : s.IsSound) (hc : c.IsProper) :
    s.standing c =
      match s.meaning? c.outermost with
      | some d => if d = c.topLevel then .visible c.topLevel else .shadowed
      | none => if c.package = s.package then .neighbour else .foreign := by
  have hchain := ClassName.find?_chain (p := s.isVisible) c fun init rest hinit hne =>
    h.isVisible_of_nested (hc.of_nested_prefix hinit) hne
  rw [h.isVisible_topLevel] at hchain
  unfold standing
  rw [hchain]
  cases hmeaning : s.meaning? c.outermost with
  | none => simp
  | some d =>
      by_cases hd : d = c.topLevel
      · simp [hd]
      · simp [hd]

/-- **A class is written by its simple names exactly when the outermost of them means the
top-level class around it**, and by its qualified name otherwise. -/
theorem IsSound.nameOf_eq (h : s.IsSound) (hc : c.IsProper) :
    s.nameOf c =
      if s.referent c.outermost = c.topLevel then c.relativeName else c.canonicalName := by
  unfold nameOf referent
  rw [h.standing_eq hc]
  cases hmeaning : s.meaning? c.outermost with
  | none =>
      by_cases hpackage : c.package = s.package
      · simp [hpackage, ClassName.topLevel, ClassName.relativeName]
      · simp [hpackage, ClassName.topLevel, Ne.symm hpackage]
  | some d =>
      by_cases hd : d = c.topLevel
      · simp [hd, ClassName.topLevel, ClassName.relativeName]
      · simp [hd]

end Scope

/-! ### The collected imports -/

theorem Imports.isSound_offer {imports : Imports} {c : ClassName} (h : imports.IsSound)
    (hc : c.IsProper) : (imports.offer c).IsSound := by
  unfold Imports.offer
  split
  · exact h
  · intro entry hentry
    rcases List.mem_append.mp hentry with hold | hnew
    · exact h entry hold
    · obtain rfl := List.mem_singleton.mp hnew
      exact ⟨hc.topLevel, rfl⟩

theorem Imports.isSound_foldl_offer {imports : Imports} {classes : List ClassName}
    (h : imports.IsSound) (hclasses : ∀ c ∈ classes, c.IsProper) :
    Imports.IsSound (classes.foldl Imports.offer imports) := by
  induction classes generalizing imports with
  | nil => exact h
  | cons c classes ih =>
      exact ih (Imports.isSound_offer h (hclasses c (by simp)))
        fun d hd => hclasses d (List.mem_cons_of_mem _ hd)

/-- **The first pass collects top-level classes under their own names.** -/
theorem isSound_suggestedImports {package : String} {references : List (Option String × ClassName)}
    (h : ∀ r ∈ references, r.2.IsProper) : (suggestedImports package references).IsSound := by
  have hcollected : Imports.IsSound ((importable package references).foldl Imports.offer []) := by
    refine Imports.isSound_foldl_offer (by simp [Imports.IsSound]) fun c hc => ?_
    obtain ⟨r, hr, rfl⟩ := List.mem_map.mp hc
    exact h r (List.mem_filter.mp hr).1
  exact fun entry hentry => hcollected entry (List.mem_filter.mp hentry).1

/-- The first class to ask for a name gets it, unless it is taken. -/
theorem Imports.lookup_foldl_offer (classes : List ClassName) (imports : Imports) (name : String) :
    (classes.foldl Imports.offer imports).lookup name =
      (imports.lookup name).or ((classes.find? (·.outermost == name)).map ClassName.topLevel) := by
  induction classes generalizing imports with
  | nil => simp
  | cons c classes ih =>
      rw [List.foldl_cons, ih, Imports.offer, List.find?_cons]
      by_cases hname : c.outermost = name
      · subst hname
        cases hlookup : imports.lookup c.outermost <;> simp [hlookup, List.lookup_append]
      · have hne : (name == c.outermost) = false := by simpa using Ne.symm hname
        have hne' : (c.outermost == name) = false := by simpa using hname
        split <;> simp [List.lookup_append, List.lookup_cons, hne, hne']

section Suggested

variable {package : String} {references : List (Option String × ClassName)}

theorem mem_reserved_iff {name : String} : name ∈ reserved package references ↔
    ∃ r ∈ references, standingOf package r = .neighbour ∧ r.2.outermost = name := by
  simp [reserved, and_assoc]

/-- **The class that the first pass imports under a name** is the first to ask for it, unless the
name is needed for a class of the package. -/
theorem lookup_suggestedImports (name : String) :
    (suggestedImports package references).lookup name =
      if name ∈ reserved package references then none
      else ((importable package references).find? (·.outermost == name)).map ClassName.topLevel := by
  rw [suggestedImports,
    lookup_filter (fun name => !(reserved package references).contains name),
    Imports.lookup_foldl_offer, List.lookup_nil, Option.none_or]
  by_cases hreserved : name ∈ reserved package references <;> simp [hreserved]

/-- A name that the first pass needs for a class of the package is not imported. -/
theorem lookup_suggestedImports_of_neighbour {r : Option String × ClassName}
    (hr : r ∈ references) (hstanding : standingOf package r = .neighbour) :
    (suggestedImports package references).lookup r.2.outermost = none := by
  rw [lookup_suggestedImports, if_pos (mem_reserved_iff.mpr ⟨r, hr, hstanding, rfl⟩)]

end Suggested

/-- The empty package and the packages of classes that can be read. -/
theorem isPackage_of_isRead {package : String}
    (h : package = "" ∨ ∃ c : ClassName, c.IsRead ∧ c.package = package) : IsPackage package := by
  rcases h with rfl | ⟨c, hread, rfl⟩
  · simp [IsPackage]
  · exact (ClassName.isProper_iff_isRead.mpr hread).package

namespace SourceFile

variable {f : SourceFile} {c d : ClassName}

/-- **The top-level class that a simple name means in a file**: the class imported under that
name, else the class of the package of the file. -/
def topLevelNamed (f : SourceFile) (name : String) : ClassName :=
  (f.imports.lookup name).getD ⟨f.package, name, []⟩

/-- **What a text means in a file.**  A qualified name means its class.  Simple names mean the
class that they lead to from the top-level class which the first of them means. -/
def Means (f : SourceFile) (text : String) (c : ClassName) : Prop :=
  (c.package ≠ "" ∧ text = c.canonicalName) ∨
    (text = c.relativeName ∧ f.topLevelNamed c.outermost = c.topLevel)

theorem isProper_of_mem_references (h : ∀ c ∈ f.classes, c.IsProper) :
    ∀ r ∈ f.references, r.2.IsProper :=
  fun r hr => h r.2 (mem_classes_of_mem_references hr)

/-- Every scope of a file is sound. -/
theorem isSound_scope (hpackage : IsPackage f.package) (h : ∀ c ∈ f.classes, c.IsProper)
    (declared : Option String) : (f.scope.within declared).IsSound :=
  ⟨hpackage, isSound_suggestedImports (isProper_of_mem_references h)⟩

/-- A name that is not the one of the declared type means the same everywhere in a file. -/
theorem referent_within {declared : Option String} {name : String} (h : declared ≠ some name) :
    (f.scope.within declared).referent name = f.topLevelNamed name := by
  rw [Scope.referent, Scope.meaning?]
  show (if declared = some name then _ else _ : Option ClassName).getD _ = _
  rw [if_neg h]
  rfl

/-- The body that a reference stands in is that of the declared type, if any. -/
theorem declared_of_mem_references {r : Option String × ClassName} (hr : r ∈ f.references) :
    r.1 = none ∨ r.1 = some f.name := by
  rw [references_eq] at hr
  rcases List.mem_append.mp hr with hr | hr
  · obtain ⟨c, -, rfl⟩ := List.mem_map.mp hr
    exact .inl rfl
  · obtain ⟨c, -, rfl⟩ := List.mem_map.mp hr
    exact .inr rfl

/-- A class that is not called like the declared type is not obscured by it. -/
theorem declared_ne_of_mem_references {r : Option String × ClassName} (hr : r ∈ f.references)
    (hname : r.2.outermost ≠ f.name) : r.1 ≠ some r.2.outermost := by
  rcases declared_of_mem_references hr with hnone | hsome
  · simp [hnone]
  · rw [hsome]
    exact fun heq => hname (Option.some.inj heq).symm

/-- **A class of the package of the file is not obscured by an import** where the file refers to
it. -/
theorem topLevelNamed_of_neighbour (hpackage : IsPackage f.package)
    (hproper : ∀ c ∈ f.classes, c.IsProper) {r : Option String × ClassName} (hr : r ∈ f.references)
    (hown : r.2.package = f.package) (hname : r.1 ≠ some r.2.outermost) :
    f.topLevelNamed r.2.outermost = r.2.topLevel := by
  -- without imports nothing but the declared type could stand in front of the package
  have hstanding : standingOf f.package r = .neighbour := by
    have hbare : Scope.IsSound ⟨f.package, r.1, []⟩ := ⟨hpackage, by simp [Imports.IsSound]⟩
    rw [standingOf, hbare.standing_eq (isProper_of_mem_references hproper r hr)]
    simp [Scope.meaning?, hname, hown]
  rw [topLevelNamed, imports, lookup_suggestedImports_of_neighbour hr hstanding, Option.getD_none,
    ← hown]
  rfl

/-! ### What is written for references -/

/-- What a file writes for a class that is not obscured by the declared type is short exactly
when the simple names mean the class. -/
theorem spelling_eq (hpackage : IsPackage f.package) (hproper : ∀ c ∈ f.classes, c.IsProper)
    (hname : ∀ c ∈ f.classes, c.outermost ≠ f.name) {w : ClassName × String}
    (hw : w ∈ f.spellings) :
    ∃ r ∈ f.references, r.2 = w.1 ∧ r.1 ≠ some w.1.outermost ∧
      w.2 = if f.topLevelNamed w.1.outermost = w.1.topLevel then w.1.relativeName
        else w.1.canonicalName := by
  rw [spellings_eq_map] at hw
  obtain ⟨r, hr, rfl⟩ := List.mem_map.mp hw
  have hclass := mem_classes_of_mem_references hr
  have hdeclared := declared_ne_of_mem_references hr (hname r.2 hclass)
  refine ⟨r, hr, rfl, hdeclared, ?_⟩
  show (f.scope.within r.1).nameOf r.2 = _
  rw [(isSound_scope hpackage hproper r.1).nameOf_eq (hproper r.2 hclass),
    referent_within hdeclared]

/-- Where a class is written by its simple names, its outermost name means the top-level class
around it. -/
theorem eq_relativeName_iff (hc : c.IsProper)
    (hdefault : c.package = "" → f.topLevelNamed c.outermost = c.topLevel) {text : String}
    (htext : text = if f.topLevelNamed c.outermost = c.topLevel then c.relativeName
      else c.canonicalName) :
    text = c.relativeName ↔ f.topLevelNamed c.outermost = c.topLevel := by
  by_cases htop : f.topLevelNamed c.outermost = c.topLevel
  · simp only [htop, if_true] at htext ⊢
    exact iff_true_intro htext
  · rw [if_neg htop] at htext
    refine iff_of_false (fun hshort => htop (hdefault ?_)) htop
    have hc' := (ClassName.canonicalName_eq_relativeName hc hc).mp (htext.symm.trans hshort)
    rw [hc']
    rfl

/-- **What is written for a class means no other class**, as long as it is short exactly when
its outermost name means the top-level class. -/
theorem Means.unique (hc : c.IsProper) (hd : d.IsProper)
    (hdefault : c.package = "" → f.topLevelNamed c.outermost = c.topLevel) {text : String}
    (htext : text = if f.topLevelNamed c.outermost = c.topLevel then c.relativeName
      else c.canonicalName) (h : f.Means text d) : d = c := by
  have hshort := eq_relativeName_iff hc hdefault htext
  rcases h with ⟨hqualified, hlong⟩ | ⟨hrelative, hmeans⟩
  · -- a qualified name is short for no class, and the canonical name of one class only
    split at htext
    · rw [htext, eq_comm, ClassName.canonicalName_eq_relativeName hd hc] at hlong
      exact absurd (by rw [hlong]; rfl) hqualified
    · exact ClassName.canonicalName_inj hd hc (hlong.symm.trans htext)
  · have hrelative' : c.relativeName = d.relativeName := by
      split at htext
      · exact htext.symm.trans hrelative
      · have hc' := (ClassName.canonicalName_eq_relativeName hc hd).mp (htext.symm.trans hrelative)
        rw [hc']
        rfl
    -- the same simple names and the same top-level class leave no choice
    have htop := hshort.mp (hrelative.trans hrelative'.symm)
    have hsame := ClassName.relativeName_inj hc hd hrelative'
    simp only [ClassName.unpackaged, ClassName.mk.injEq, true_and] at hsame
    rw [← hsame.1, htop] at hmeans
    simp only [ClassName.topLevel, ClassName.mk.injEq] at hmeans
    cases c
    cases d
    simp_all

/-- What is written for a class means it, unless the class is of the default package and
obscured. -/
theorem means_self (hdefault : c.package = "" → f.topLevelNamed c.outermost = c.topLevel)
    {text : String} (htext : text = if f.topLevelNamed c.outermost = c.topLevel then c.relativeName
      else c.canonicalName) : f.Means text c := by
  by_cases htop : f.topLevelNamed c.outermost = c.topLevel
  · rw [if_pos htop] at htext
    exact .inr ⟨htext, htop⟩
  · rw [if_neg htop] at htext
    exact .inl ⟨fun hempty => htop (hdefault hempty), htext⟩

/-- **Name resolution in source files is sound.**  Let the package of a file be empty or that of
a class that can be read, and let every class which the file mentions be one that can be read,
have a package other than the default one or be of the package of the file, and not be obscured
by the declared type.  Then the text of the file is that of its marks with the mentioned classes
spelled out in order; each is spelled by its canonical name or by its simple names, the latter
exactly when the outermost of them means the top-level class around it; and what is spelled
means that class alone. -/
theorem spelling_means (f : SourceFile)
    (hpackage : f.package = "" ∨ ∃ c : ClassName, c.IsRead ∧ c.package = f.package)
    (hclasses : ∀ c ∈ f.classes, c.IsRead ∧ (c.package ≠ "" ∨ c.package = f.package) ∧
      c.outermost ≠ f.name) :
    f.text = textOf (spellOut (f.spellings.map (·.2)) f.marks) ∧
      f.spellings.map (·.1) = f.classes ∧
      ∀ w ∈ f.spellings,
        (w.2 = w.1.canonicalName ∨ w.2 = w.1.relativeName) ∧
        (w.2 = w.1.relativeName ↔ f.topLevelNamed w.1.outermost = w.1.topLevel) ∧
        ∀ d : ClassName, d.IsRead → (f.Means w.2 d ↔ d = w.1) := by
  have hpackage := isPackage_of_isRead hpackage
  have hproper : ∀ c ∈ f.classes, c.IsProper := fun c hc =>
    ClassName.isProper_iff_isRead.mpr (hclasses c hc).1
  refine ⟨f.text_eq_textOf_spellOut, f.spellings_map_fst, fun w hw => ?_⟩
  have hmem : w.1 ∈ f.classes := by
    rw [← spellings_map_fst]
    exact List.mem_map_of_mem hw
  have hc := hproper w.1 hmem
  obtain ⟨r, hr, hclass, hdeclared, htext⟩ :=
    spelling_eq hpackage hproper (fun c hc => (hclasses c hc).2.2) hw
  -- a class of the default package is one of the file, so nothing obscures it
  have hdefault : w.1.package = "" → f.topLevelNamed w.1.outermost = w.1.topLevel := by
    intro hempty
    have hown : w.1.package = f.package := (hclasses w.1 hmem).2.1.resolve_left fun h => h hempty
    rw [← hclass] at hown hdeclared ⊢
    exact topLevelNamed_of_neighbour hpackage hproper hr hown hdeclared
  refine ⟨?_, eq_relativeName_iff hc hdefault htext, fun d hd => ⟨fun h => ?_, fun h => ?_⟩⟩
  · by_cases htop : f.topLevelNamed w.1.outermost = w.1.topLevel
    · exact .inr (by rw [htext, if_pos htop])
    · exact .inl (by rw [htext, if_neg htop])
  · exact Means.unique hc (ClassName.isProper_iff_isRead.mpr hd) hdefault htext h
  · rw [h]
    exact means_self hdefault htext

/-- A file that refers to two classes called `Map`, one of them by a class nested in it, to a
class of its own package, and to one of another package that has the same name. -/
def twoMaps : SourceFile where
  package := "app"
  name := "Tables"
  annotations := [⟨⟨"dagger", "Module", []⟩, []⟩]
  methods := [{
    name := "table"
    returnType := .applied ⟨"a", "Map", ["Entry"]⟩
      [.plain ⟨"b", "Map", []⟩, .array (.plain ⟨"app", "Row", []⟩)]
    body := Fragment.empty.className ⟨"b", "Row", []⟩ }]

/-- In `twoMaps` every spelled reference means the class referred to and no other. -/
theorem spelling_means_twoMaps :
    (∃ c : ClassName, c.IsRead ∧ c.package = twoMaps.package) ∧
      (∀ c ∈ twoMaps.classes, c.IsRead ∧ (c.package ≠ "" ∨ c.package = twoMaps.package) ∧
        c.outermost ≠ twoMaps.name) ∧
      twoMaps.spellings.map (·.1) = [⟨"dagger", "Module", []⟩, ⟨"a", "Map", ["Entry"]⟩,
        ⟨"b", "Map", []⟩, ⟨"app", "Row", []⟩, ⟨"b", "Row", []⟩] ∧
      ∀ w ∈ twoMaps.spellings, ∀ d : ClassName, d.IsRead → (twoMaps.Means w.2 d ↔ d = w.1) := by
  have hpackage : ∃ c : ClassName, c.IsRead ∧ c.package = twoMaps.package :=
    ⟨⟨"app", "Row", []⟩, ClassName.isProper_iff_isRead.mp (by decide +kernel), rfl⟩
  have hproper : ∀ c ∈ twoMaps.classes, c.IsProper ∧
      (c.package ≠ "" ∨ c.package = twoMaps.package) ∧ c.outermost ≠ twoMaps.name := by
    decide +kernel
  have hclasses : ∀ c ∈ twoMaps.classes, c.IsRead ∧
      (c.package ≠ "" ∨ c.package = twoMaps.package) ∧ c.outermost ≠ twoMaps.name :=
    fun c hc => ⟨ClassName.isProper_iff_isRead.mp (hproper c hc).1, (hproper c hc).2⟩
  obtain ⟨-, hfirst, hmeans⟩ := spelling_means twoMaps (.inr hpackage) hclasses
  exact ⟨hpackage, hclasses, hfirst.trans (by decide), fun w hw => (hmeans w hw).2.2⟩

end SourceFile

end Java

end Bindery
