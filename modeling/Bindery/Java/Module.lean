import Bindery.Binding.Basic
import Bindery.Java.Name
import Bindery.Java.SourceFile
import Bindery.Run
import Bindery.Settings.Basic

/-!
# Generated modules

A binding is written as an abstract class with one function, which either provides the exposed type
(`provider`) or declares that an instance of the source serves as it (`binder`).  `sourceFile` is
the whole file, and `renderModule` makes it an artifact.

Names that come from declarations are checked where they are written, as they need not be names in
Java.  The names of the module and of its function are checked at the very end, since they are put
together from others.
-/

namespace Bindery.Java

/-! ### Annotations -/

/-- The annotation of modules. -/
def moduleType : ClassName := ⟨"dagger", "Module", []⟩

/-- The annotation of functions that provide. -/
def providesType : ClassName := ⟨"dagger", "Provides", []⟩

/-- The annotation of functions that bind. -/
def bindsType : ClassName := ⟨"dagger", "Binds", []⟩

/-- The annotation that names the component a module is installed in. -/
def installType : ClassName := ⟨"dagger.hilt", "InstallIn", []⟩

/-- The annotation that names the origin of a file. -/
def generatedType : ClassName := ⟨"javax.annotation", "Generated", []⟩

/-- The annotation that names the origin of a file, if the settings ask for it. -/
def generatedUse (settings : GeneratorSettings) : List AnnotationUse :=
  if settings.annotated then
    [⟨generatedType, [("value", Fragment.empty.literal settings.processor),
      ("comments", Fragment.empty.literal settings.comments)]⟩]
  else []

/-- The annotation that names the component, if the module is installed. -/
def installUse (p : Plan) : List AnnotationUse :=
  match p.install, p.target with
  | true, some target => [⟨installType, [("value", (Fragment.empty.className target).text ".class")]⟩]
  | _, _ => []

/-- The annotations of the generated class. -/
def moduleUses (settings : GeneratorSettings) (p : Plan) : List AnnotationUse :=
  generatedUse settings ++ [⟨moduleType, []⟩] ++ installUse p

/-- The annotations of the function: what it does, then the scope, then the qualifier. -/
def entryUses (kind : ClassName) (p : Plan) : List AnnotationUse :=
  [⟨kind, []⟩] ++ (p.scope.map AnnotationUse.repeating).toList ++
    (p.qualifier.map AnnotationUse.repeating).toList

/-! ### Functions -/

/-- The parameter for an argument, whose name has to be a Java name. -/
def parameterOf (a : Argument) : Except RenderFault ParameterEntry := do
  checkName "parameter name" a.name
  return ⟨(a.qualifier.map AnnotationUse.repeating).toList, a.type, a.name⟩

/-- A statement that returns a call with one argument to a line. -/
def callStatement (callee : Fragment) (arguments : List Argument) : Fragment :=
  Fragment.statement
    ((((Fragment.ofText "return ").append callee).text "(\n").append
      (Fragment.join ",\n" (arguments.map fun a => Fragment.ofText a.name)) |>.text ")")

/-- The function that provides something by a call. -/
def provider (name : String) (callee : Fragment) (p : Plan) : Except RenderFault Method := do
  let parameters ← p.arguments.mapM parameterOf
  return {
    name := name
    annotations := entryUses providesType p
    modifiers := [.publicUse, .staticUse]
    returnType := p.exposed
    parameters := parameters
    body := callStatement callee p.arguments }

/-- The function that binds a class to the exposed type, which cannot be primitive. -/
def binder (c : ClassName) (p : Plan) : Except RenderFault Method := do
  if p.exposed.isPrimitive then throw (.boundPrimitive p.exposed.text)
  checkName "parameter name" (parameterName c)
  return {
    name := binderName c
    annotations := entryUses bindsType p
    modifiers := [.publicUse, .abstractBody]
    returnType := p.exposed
    parameters := [⟨[], .plain c, parameterName c⟩] }

/-- The name of the generated class and its function. -/
def entryPoint (p : Plan) : Except RenderFault (String × Method) :=
  match p.source, p.strategy with
  | .instance c, .provides =>
    (provider (providerName c) ((Fragment.ofText "new ").type (.plain c)) p).map (classModuleName c, ·)
  | .instance c, .binds => (binder c p).map (classModuleName c, ·)
  | .call _ _ _, .binds => .error (.boundFunction p.exposed.text)
  | .call container name receiver, .provides => do
    checkName "function name" name
    let method ← provider (functionProviderName container name)
      (Fragment.ofText (receiver ++ "." ++ name)) p
    return (functionModuleName container name, method)

/-! ### Files -/

/-- The file for a plan. -/
def sourceFile (settings : GeneratorSettings) (p : Plan) : Except RenderFault SourceFile := do
  let (name, method) ← entryPoint p
  checkName "module name" name
  checkName "method name" method.name
  return {
    package := p.source.package
    name := name
    annotations := moduleUses settings p
    modifiers := [.publicUse, .abstractBody]
    methods := [method] }

/-- A file as an artifact. -/
def SourceFile.artifact (f : SourceFile) : Artifact := ⟨f.package, f.name, f.fileName, f.text⟩

/-- The artifact for a binding. -/
def renderModule (settings : GeneratorSettings) : Renderer := fun binding =>
  match sourceFile settings binding.toPlan with
  | .ok file => .ok file.artifact
  | .error fault => .error (.render binding.source.displayName fault.message)

end Bindery.Java
