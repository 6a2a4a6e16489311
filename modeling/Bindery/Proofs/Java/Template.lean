import Bindery.Java.Module
import Bindery.Proofs.Java.Filling
import Bindery.Proofs.Name.TypeText

/-!
# The template of generated modules

A generated module is written by a template: the package, the imports, the annotations, and one
function that is either abstract or returns a call with one argument to a line.  `Layout.contents`
is the template as a function on texts.  It knows nothing of marks, margins and undecided spaces,
and whatever it writes itself is literal, blanks and class names included, so it says what a reader
of the file sees.

The names of the classes of a plan are the only thing that the template leaves open, as they depend
on the imports.  A class in the body of the module is written by the name for it there.
-/

namespace Bindery

/-! ### What a plan is written from -/

/-- The class that a source belongs to. -/
def Source.owner : Source → ClassName
  | .instance c => c
  | .call container _ _ => container

theorem Source.package_eq (s : Source) : s.package = s.owner.package := by
  cases s <;> rfl

/-- What a function is called on. -/
def Source.receiver : Source → String
  | .instance _ => ""
  | .call _ _ receiver => receiver

namespace Plan

/-- The annotations that are repeated in the module. -/
def forwarded (p : Plan) : List Annotation :=
  p.scope.toList ++ p.qualifier.toList ++ p.arguments.flatMap (·.qualifier.toList)

/-- The classes of a plan. -/
def classes (p : Plan) : List ClassName :=
  [p.source.owner] ++ p.exposed.classes ++ p.target.toList ++ p.forwarded.map (·.type) ++
    p.arguments.flatMap (·.type.classes)

/-- The name of the module for a plan. -/
def moduleName (p : Plan) : String :=
  match p.source with
  | .instance c => Java.classModuleName c
  | .call container function _ => Java.functionModuleName container function

end Plan

/-- An installed module has a component to be installed in. -/
theorem Binding.isSome_target {b : Binding} (h : b.install = true) : b.target.isSome = true := by
  have hsound := b.sound
  rw [Plan.flaw?] at hsound
  cases htarget : b.target with
  | none => simp [h, htarget] at hsound
  | some target => rfl

/-- The component that a module is installed in. -/
def Binding.component (b : Binding) (h : b.install = true) : ClassName :=
  b.target.get (Binding.isSome_target h)

namespace Java

namespace Layout

/-! ### The template -/

section Texts

variable (name : ClassName → String)

mutual

/-- The text of a type, by the names of its classes. -/
def typeText : TypeName → String
  | .primitive p => p.keyword
  | .plain c => name c
  | .applied raw arguments => name raw ++ "<" ++ ", ".intercalate (argumentTexts arguments) ++ ">"
  | .array component => typeText component ++ "[]"

/-- The texts of type arguments. -/
def argumentTexts : List TypeName → List String
  | [] => []
  | t :: ts => typeText t :: argumentTexts ts

end

/-- The text of a member of an annotation. -/
def memberText (member : String × String) : String := member.1 ++ " = " ++ member.2

/-- The text of an annotation inside a line. -/
def annotationText (type : String) : List (String × String) → String
  | [] => "@" ++ type
  | [("value", value)] => "@" ++ type ++ "(" ++ value ++ ")"
  | members => "@" ++ type ++ "(" ++ ", ".intercalate (members.map memberText) ++ ")"

/-- The lines of an annotation.  Several members, or one with a name of its own, have a line
each. -/
def annotationLines (level : Nat) (type : String) : List (String × String) → String
  | [] => line level ("@" ++ type)
  | [("value", value)] => line level ("@" ++ type ++ "(" ++ value ++ ")")
  | members =>
    line level ("@" ++ type ++ "(") ++
      line (level + 2) ((",\n" ++ spaces (level + 2)).intercalate (members.map memberText)) ++
      line level ")"

/-- The members of an annotation as texts. -/
def membersOf (a : Annotation) : List (String × String) := a.members.map fun m => (m.name, m.value)

/-- The lines of an annotation of the function that is repeated from its source. -/
def repeatedLines : Option Annotation → String
  | none => ""
  | some a => annotationLines 1 (name a.type) (membersOf a)

/-- The text of the parameter for an argument. -/
def parameterText (a : Argument) : String :=
  (match a.qualifier with
    | none => ""
    | some q => annotationText (name q.type) (membersOf q) ++ " ") ++
    typeText name a.type ++ " " ++ a.name

/-- The first line of a function, broken behind commas where the next parameter does not fit. -/
def headerLine (opening closing : String) (parameters : List String) : String :=
  line 1 (filled 3 2 (pieces opening closing parameters))

/-- The lines of a function that returns a call with an argument to a line. -/
def providerLines (p : Plan) (function callee : String) : String :=
  headerLine ("public static " ++ typeText name p.exposed ++ " " ++ function ++ "(") ") \x7b"
      (p.arguments.map (parameterText name)) ++
    line 2 ("return " ++ callee ++ "(") ++
    line 4 ((",\n" ++ spaces 4).intercalate (p.arguments.map (·.name)) ++ ");") ++
    line 1 "\x7d"

/-- The line of an abstract function that takes an instance of a class. -/
def binderLines (p : Plan) (c : ClassName) : String :=
  headerLine ("public abstract " ++ typeText name p.exposed ++ " " ++ binderName c ++ "(") ");"
    [name c ++ " " ++ parameterName c]

/-- The lines of the function behind its annotations. -/
def signatureLines (p : Plan) : String :=
  match p.source, p.strategy with
  | .instance c, .provides => providerLines name p (providerName c) ("new " ++ name c)
  | .instance c, .binds => binderLines name p c
  | .call container function receiver, _ =>
    providerLines name p (functionProviderName container function) (receiver ++ "." ++ function)

/-- The annotation that tells what the function does. -/
def kindType : Strategy → ClassName
  | .provides => ⟨"dagger", "Provides", []⟩
  | .binds => ⟨"dagger", "Binds", []⟩

/-- The lines of the function. -/
def functionLines (p : Plan) : String :=
  annotationLines 1 (name (kindType p.strategy)) [] ++ repeatedLines name p.scope ++
    repeatedLines name p.qualifier ++ signatureLines name p

/-- The lines of the annotations of the module. -/
def moduleAnnotationLines (settings : GeneratorSettings) (b : Binding) : String :=
  (if settings.annotated then
      annotationLines 0 (name ⟨"javax.annotation", "Generated", []⟩)
        [("value", literal settings.processor), ("comments", literal settings.comments)]
    else "") ++
    annotationLines 0 (name ⟨"dagger", "Module", []⟩) [] ++
    if h : b.install = true then
      annotationLines 0 (name ⟨"dagger.hilt", "InstallIn", []⟩)
        [("value", name (b.component h) ++ ".class")]
    else ""

/-- Members with a line each: several, or one with a name of its own. -/
def AreMany {α : Type} (members : List (String × α)) : Prop :=
  members ≠ [] ∧ ∀ value, members ≠ [("value", value)]

theorem annotationText_of_areMany (type : String) {members : List (String × String)}
    (h : AreMany members) : annotationText type members =
      "@" ++ type ++ "(" ++ ", ".intercalate (members.map memberText) ++ ")" := by
  unfold annotationText
  split
  next => exact absurd rfl h.1
  next value => exact absurd rfl (h.2 value)
  next => rfl

theorem annotationLines_of_areMany (level : Nat) (type : String) {members : List (String × String)}
    (h : AreMany members) : annotationLines level type members =
      line level ("@" ++ type ++ "(") ++
        line (level + 2) ((",\n" ++ spaces (level + 2)).intercalate (members.map memberText)) ++
        line level ")" := by
  unfold annotationLines
  split
  next => exact absurd rfl h.1
  next value => exact absurd rfl (h.2 value)
  next => rfl

end Texts

/-- The line of the package with an empty line behind it. -/
def packageLines (package : String) : String :=
  if package = "" then "" else line 0 ("package " ++ package ++ ";") ++ "\n"

/-- The lines of the imports with an empty line behind them. -/
def importLines (imports : List String) : String :=
  String.join (imports.map fun name => line 0 ("import " ++ name ++ ";")) ++
    if imports.isEmpty then "" else "\n"

/-- **The template of a module.**  Classes go by one name outside of the module and by another
inside. -/
def contents (settings : GeneratorSettings) (b : Binding) (outside inside : ClassName → String)
    (imports : List String) : String :=
  packageLines b.source.package ++ importLines imports ++
    moduleAnnotationLines outside settings b ++
    line 0 ("public abstract class " ++ b.moduleName ++ " \x7b") ++ functionLines inside b.toPlan ++
    line 0 "\x7d"

end Layout

end Java

end Bindery
