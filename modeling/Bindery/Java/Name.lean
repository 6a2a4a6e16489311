import Bindery.Name.ClassName
import Bindery.Text.Case

/-!
# Java names

Which words may name something in Java source (`isName`), and what the generated types and functions
are called.  A module is called by the names of its class and of what is inside it, joined by `_`.
This keeps names short and readable, and it is the reason why two declarations may share one.

A binding that would need another name cannot be written, and a `RenderFault` says why.
-/

namespace Bindery.Java

open Text

/-- The words that Java keeps for itself. -/
def keywords : List String :=
  ["abstract", "assert", "boolean", "break", "byte", "case", "catch", "char", "class", "const",
   "continue", "default", "do", "double", "else", "enum", "extends", "final", "finally", "float",
   "for", "goto", "if", "implements", "import", "instanceof", "int", "interface", "long",
   "native", "new", "package", "private", "protected", "public", "return", "short", "static",
   "strictfp", "super", "switch", "synchronized", "this", "throw", "throws", "transient", "try",
   "void", "volatile", "while", "true", "false", "null"]

/-- Whether a word may name something: an identifier that is no keyword. -/
def isName (word : String) : Bool := isIdentifier word.toList && !keywords.contains word

/-- Why a binding cannot be written. -/
inductive RenderFault where
  /-- A word cannot be a name where it would have to be one. -/
  | badName (word role : String)
  /-- A function was to be bound instead of provided. -/
  | boundFunction (type : String)
  /-- A class was to be bound to a primitive type. -/
  | boundPrimitive (type : String)
  deriving DecidableEq, Repr

namespace RenderFault

/-- The number of a kind of fault. -/
def code : RenderFault → Nat
  | .badName _ _ => 1
  | .boundFunction _ | .boundPrimitive _ => 2

/-- The wording of a fault. -/
def message : RenderFault → String
  | .badName word role => s!"invalid {role} '{word}'"
  | .boundFunction type => s!"cannot render {type}: functions can only be provided, not bound"
  | .boundPrimitive type =>
    s!"cannot render {type}: a primitive cannot be bound to an implementation"

end RenderFault

/-- A word may stand as a name in a role, or not. -/
def checkName (role word : String) : Except RenderFault Unit :=
  if isName word then .ok () else .error (.badName word role)

/-! ### Generated names -/

/-- What the names of generated types end in. -/
def moduleSuffix : String := "_SoloModule"

/-- The type generated for a class, which keeps the nesting in its name. -/
def classModuleName (c : ClassName) : String := joinNames '$' c.simpleNames ++ moduleSuffix

/-- The type generated for a function of a container. -/
def functionModuleName (container : ClassName) (function : String) : String :=
  joinNames '_' container.simpleNames ++ "_" ++ function ++ moduleSuffix

/-- The reflection name with its dots made part of a word. -/
def flatName (c : ClassName) : String :=
  String.ofList (c.reflectionName.toList.map fun ch => if ch = '.' then '_' else ch)

/-- The function that provides a class. -/
def providerName (c : ClassName) : String := "provides_" ++ flatName c

/-- The function that binds a class. -/
def binderName (c : ClassName) : String := "binds_" ++ flatName c

/-- The function that provides the result of a function of a container. -/
def functionProviderName (container : ClassName) (function : String) : String :=
  "provides_" ++ flatName container ++ "_" ++ function

/-- The name of a parameter that takes an instance of a class. -/
def parameterName (c : ClassName) : String := String.ofList (decapitalize c.simpleName.toList)

end Bindery.Java
