import Bindery.Manifest.Basic
import Bindery.Proofs.Lookup
import Bindery.Proofs.Name.Proper

/-!
# Kinds in manifests

A manifest lists containers under texts, and a class has two written forms: a kind is recorded under
the reflection name, but where nothing stands there it is looked for under the canonical name, too.
So an entry that was recorded for one class could be found for another.  It is not.  A reflection
name has one word behind the package and a canonical name has one for each simple name; where the
two are the same text, the class is a top-level one and it is the same class.

This is what `Manifest.kindOf_withContainer` needs: what is recorded for a class changes the answer
for this class only.
-/

namespace Bindery

variable {c d : ClassName}

namespace Manifest

/-- **A manifest knows a container under either of its names**, and otherwise it is missing under
its reflection name. -/
theorem kindOf_eq_error_iff (m : Manifest) (c : ClassName) (fault : HostFault) :
    m.kindOf c = .error fault ↔
      c.reflectionName ∉ m.containers.entries.map (·.1) ∧
        c.canonicalName ∉ m.containers.entries.map (·.1) ∧
        fault = .missingMetadata c.reflectionName := by
  rw [← lookup_eq_none_iff_not_mem, ← lookup_eq_none_iff_not_mem, kindOf, Containers.get?,
    Containers.get?]
  cases m.containers.entries.lookup c.reflectionName with
  | some kind => simp
  | none =>
      cases m.containers.entries.lookup c.canonicalName with
      | some kind => simp
      | none => simp [eq_comm]

/-- What is listed under a name, once a kind was recorded. -/
theorem get?_withContainer (m : Manifest) (c : ClassName) (kind : ContainerKind) (name : String) :
    (m.withContainer c kind).containers.get? name =
      if name = c.reflectionName then some kind else m.containers.get? name :=
  Containers.get?_insert m.containers c.reflectionName name kind

/-- **Recording the kind of a class changes the answer for this class only**, under whichever of
its names another class may be listed. -/
theorem kindOf_withContainer (m : Manifest) (kind : ContainerKind) (hc : c.IsRead)
    (hd : d.IsRead) :
    (m.withContainer c kind).kindOf d = if d = c then .ok kind else m.kindOf d := by
  rw [← ClassName.isProper_iff_isRead] at hc hd
  rw [kindOf, get?_withContainer, get?_withContainer]
  by_cases hsame : d = c
  · rw [if_pos hsame, if_pos (congrArg ClassName.reflectionName hsame)]
  · have hreflection : d.reflectionName ≠ c.reflectionName := fun h =>
      hsame (ClassName.reflectionName_inj hd hc h)
    have hcanonical : d.canonicalName ≠ c.reflectionName := fun h =>
      hsame (ClassName.eq_of_reflectionName_eq_canonicalName hc hd h.symm).symm
    rw [if_neg hsame, if_neg hreflection, if_neg hcanonical, kindOf]

/-- A companion that is listed under its canonical name. -/
def companionOnly : Manifest where
  containers := .insert .empty "app$v2.Hosts.Companion" .companion

/-- Recording the class around a companion leaves the companion what it is, and recording the
companion itself wins over what is listed under its other name. -/
theorem kindOf_withContainer_companion :
    (⟨"app$v2", "Hosts", []⟩ : ClassName).IsRead ∧
    (⟨"app$v2", "Hosts", ["Companion"]⟩ : ClassName).IsRead ∧
    (companionOnly.withContainer ⟨"app$v2", "Hosts", []⟩ .plainClass).kindOf
      ⟨"app$v2", "Hosts", ["Companion"]⟩ = .ok .companion ∧
    (companionOnly.withContainer ⟨"app$v2", "Hosts", ["Companion"]⟩ .object).kindOf
      ⟨"app$v2", "Hosts", ["Companion"]⟩ = .ok .object := by
  have hhosts : (⟨"app$v2", "Hosts", []⟩ : ClassName).IsRead :=
    ClassName.isProper_iff_isRead.mp (by decide +kernel)
  have hcompanion : (⟨"app$v2", "Hosts", ["Companion"]⟩ : ClassName).IsRead :=
    ClassName.isProper_iff_isRead.mp (by decide +kernel)
  refine ⟨hhosts, hcompanion, ?_, ?_⟩
  · rw [kindOf_withContainer companionOnly .plainClass hhosts hcompanion, if_neg (by decide)]
    decide +kernel
  · rw [kindOf_withContainer companionOnly .object hcompanion hcompanion, if_pos rfl]

end Manifest

end Bindery
