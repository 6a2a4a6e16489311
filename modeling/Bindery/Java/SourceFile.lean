import Bindery.Declaration.Annotation
import Bindery.Java.Margin

/-!
# Source files

A `SourceFile` declares one class with annotated functions.  Its body becomes marks first
(`SourceFile.bodyMarks`); the classes that these refer to give `SourceFile.imports`, and with the
imports in scope `SourceFile.text` writes the same marks behind the package and the import lines.
Imported names need no scope to be written, so they are texts and not references.
-/

namespace Bindery.Java

/-- The modifiers of classes and functions. -/
inductive Modifier where
  | publicUse
  | abstractBody
  | staticUse
  deriving DecidableEq, Repr

namespace Modifier

/-- Every modifier, in the order in which they are written. -/
def all : List Modifier := [.publicUse, .abstractBody, .staticUse]

/-- The keyword of a modifier. -/
def keyword : Modifier → String
  | .publicUse => "public"
  | .abstractBody => "abstract"
  | .staticUse => "static"

/-- The marks of modifiers, each once and in order. -/
def marks (modifiers : List Modifier) : List Mark :=
  (all.filter modifiers.contains).flatMap fun m => [.text m.keyword, .text " "]

end Modifier

/-! ### Declarations -/

/-- An annotation as it is written in a file. -/
structure AnnotationUse where
  type : ClassName
  members : List (String × Fragment) := []
  deriving DecidableEq, Repr

/-- A parameter of a function. -/
structure ParameterEntry where
  annotations : List AnnotationUse := []
  type : TypeName
  name : String
  deriving DecidableEq, Repr

/-- A function of the declared class. -/
structure Method where
  name : String
  annotations : List AnnotationUse := []
  modifiers : List Modifier := []
  returnType : TypeName
  parameters : List ParameterEntry := []
  /-- What the function does, unless it is abstract. -/
  body : Fragment := .empty
  deriving DecidableEq, Repr

/-- A file with one class. -/
structure SourceFile where
  package : String
  name : String
  annotations : List AnnotationUse := []
  modifiers : List Modifier := []
  methods : List Method := []
  deriving DecidableEq, Repr

/-! ### Marks -/

/-- Lists of marks in order, with a separator between each two. -/
def separated (separator : List Mark) : List (List Mark) → List Mark
  | [] => []
  | [marks] => marks
  | marks :: rest => marks ++ separator ++ separated separator rest

namespace AnnotationUse

/-- An annotation of a declaration, repeated as it is. -/
def repeating (a : Annotation) : AnnotationUse :=
  ⟨a.type, a.members.map fun m => (m.name, .ofText m.value)⟩

/-- The marks of a member. -/
def memberMarks (member : String × Fragment) : List Mark :=
  [.text member.1, .text " = "] ++ member.2.marks

/-- The marks of an annotation, either on one line or with a line for each member.  A single member named
`value` is written without its name. -/
def marks (inLine : Bool) (a : AnnotationUse) : List Mark :=
  let blank := if inLine then "" else "\n"
  let separator := if inLine then ", " else ",\n"
  [.text "@", .reference a.type] ++
    match a.members with
    | [] => []
    | [("value", value)] => [.text "("] ++ value.marks ++ [.text ")"]
    | members =>
      [.text "(", .text blank, .indent 2] ++
        separated [.text separator] (members.map memberMarks) ++
        [.unindent 2, .text blank, .text ")"]

/-- The marks of annotations, each on lines of its own. -/
def lineMarks (annotations : List AnnotationUse) : List Mark :=
  annotations.flatMap fun a => a.marks false ++ [.text "\n"]

end AnnotationUse

/-- The marks of a parameter. -/
def ParameterEntry.marks (p : ParameterEntry) : List Mark :=
  p.annotations.flatMap (fun a => a.marks true ++ [.text " "]) ++
    markType p.type ++ [.text " ", .text p.name]

namespace Method

/-- Abstract functions have no body. -/
def isAbstract (m : Method) : Bool := m.modifiers.contains .abstractBody

/-- The marks of a function. -/
def marks (m : Method) : List Mark :=
  AnnotationUse.lineMarks m.annotations ++ Modifier.marks m.modifiers ++ markType m.returnType ++
    [.text " ", .text m.name, .text "("] ++
    separated [.text ",", .space] (m.parameters.map ParameterEntry.marks) ++ [.text ")"] ++
    if m.isAbstract then [.text ";\n"]
    else [.text " \x7b\n", .indent 1] ++ m.body.marks ++ [.unindent 1, .text "\x7d\n"]

end Method

namespace SourceFile

/-- The name of the file. -/
def fileName (f : SourceFile) : String := f.name ++ ".java"

/-- The marks of the declared class. -/
def bodyMarks (f : SourceFile) : List Mark :=
  AnnotationUse.lineMarks f.annotations ++ Modifier.marks f.modifiers ++
    [.text "class ", .text f.name, .text " \x7b\n", .enter f.name, .indent 1] ++
    separated [.text "\n"] (f.methods.map Method.marks) ++
    [.unindent 1, .leave, .text "\x7d\n"]

/-- The classes that the file refers to, each with the type in whose body the reference stands. -/
def references (f : SourceFile) : List (Option String × ClassName) := Java.references none f.bodyMarks

/-- The imported classes by their simple names. -/
def imports (f : SourceFile) : Imports := suggestedImports f.package f.references

/-- The names of the imported classes, sorted. -/
def importNames (f : SourceFile) : List String :=
  (f.imports.map fun entry => entry.2.canonicalName).mergeSort fun a b => decide (a ≤ b)

/-- The marks before the declared class: the package and the imports. -/
def headMarks (f : SourceFile) : List Mark :=
  (if f.package.isEmpty then [] else [.text "package ", .text f.package, .text ";\n", .text "\n"]) ++
    f.importNames.flatMap (fun name => [.text "import ", .text name, .text ";\n"]) ++
    if f.imports.isEmpty then [] else [.text "\n"]

/-- The scope of a file outside the body of its class. -/
def scope (f : SourceFile) : Scope := ⟨f.package, none, f.imports⟩

/-- The text of a file. -/
def text (f : SourceFile) : String :=
  String.ofList (fill indentUnit columnLimit 0 none (glyphs f.scope {} (f.headMarks ++ f.bodyMarks)))

end SourceFile

end Bindery.Java
