import Bindery.Declaration.Format
import Bindery.Document.Toml.Reader
import Bindery.Settings.Level

/-!
# Settings

What shapes the generated modules, where they go, and how much a run tells about itself.  Everything
has a default, so an empty text holds settings.

Decoding settles only whether the values have the right form.  Some of them may still make no sense,
such as a component without a package, and `Settings.fault?` is the first reason why settings cannot
be used.  `Settings.ofText` gives settings without such a reason.
-/

namespace Bindery

/-- What shapes the generated modules. -/
structure GeneratorSettings where
  /-- The processor that the modules name as their origin. -/
  processor : String := "pommel.SoloModuleProcessor"
  /-- The comments that go with it. -/
  comments : String := "https://github.com/JuulLabs/pommel"
  /-- Whether the modules name their origin at all. -/
  annotated : Bool := true
  /-- The component of bindings without a scope, and of singletons. -/
  component : ClassName := ⟨"dagger.hilt.components", "SingletonComponent", []⟩
  deriving DecidableEq, Repr

/-- Where the generated files go. -/
structure OutputSettings where
  directory : String := "build/generated/source/pommel"
  deriving DecidableEq, Repr

/-- How much a run tells about itself. -/
structure LogSettings where
  level : Level := .info
  deriving DecidableEq, Repr

/-- All settings. -/
structure Settings where
  generator : GeneratorSettings := {}
  output : OutputSettings := {}
  logging : LogSettings := {}
  deriving DecidableEq, Repr

namespace GeneratorSettings

/-- The components, of which the settings choose that of the application. -/
def components (g : GeneratorSettings) : Components := ⟨g.component⟩

/-- The fields of the settings for modules. -/
def shape : Shape GeneratorSettings :=
  let default : GeneratorSettings := {}
  ((((Shape.done GeneratorSettings.mk).optional "processor" default.processor Decoder.string).optional
    "comments" default.comments Decoder.string).optional
    "generated_annotation" default.annotated Decoder.boolean).optional
    "application_component" default.component ClassName.decode

/-- The settings for modules from a document. -/
def decode : Decoder GeneratorSettings := shape.decode "GeneratorConfig"

/-- The settings for modules as a document. -/
def document (g : GeneratorSettings) : Document :=
  .record [("processor", .str g.processor), ("comments", .str g.comments),
    ("generated_annotation", .bool g.annotated), ("application_component", g.component.document)]

end GeneratorSettings

namespace OutputSettings

/-- The settings for output from a document. -/
def decode : Decoder OutputSettings :=
  ((Shape.done OutputSettings.mk).optional "directory" ({} : OutputSettings).directory
    Decoder.path).decode "OutputConfig"

/-- The settings for output as a document. -/
def document (o : OutputSettings) : Document := .record [("directory", .str o.directory)]

end OutputSettings

namespace LogSettings

/-- The settings for the log from a document. -/
def decode : Decoder LogSettings :=
  ((Shape.done LogSettings.mk).optional "level" ({} : LogSettings).level Level.decode).decode
    "LoggingConfig"

/-- The settings for the log as a document. -/
def document (l : LogSettings) : Document := .record [("level", l.level.document)]

end LogSettings

namespace Settings

/-- The name of the file that settings are looked for in. -/
def fileName : String := "pommel.toml"

/-- All settings from a document. -/
def decode : Decoder Settings :=
  ((((Shape.done Settings.mk).optional "generator" {} GeneratorSettings.decode).optional
    "output" {} OutputSettings.decode).optional
    "logging" {} LogSettings.decode).decode "PommelConfig"

/-- All settings as a document. -/
def document (s : Settings) : Document :=
  .record [("generator", s.generator.document), ("output", s.output.document),
    ("logging", s.logging.document)]

/-- The first reason why settings cannot be used. -/
def fault? (s : Settings) : Option SettingsFault :=
  if (Text.trim s.generator.processor.toList).isEmpty then some .emptyProcessor
  else if s.generator.component.package.isEmpty then
    some (.unqualifiedComponent s.generator.component)
  else if s.output.directory.isEmpty then some .emptyDirectory
  else none

/-- Settings from their text. -/
def ofText (text : String) : Except SettingsFault Settings :=
  match Toml.readDocument text.toList with
  | .error .malformed => .error (.undecodable .unreadable)
  | .error .deepKey => .error .deepKey
  | .ok document =>
    match decode .settings document with
    | .error fault => .error (.undecodable fault)
    | .ok s =>
      match s.fault? with
      | none => .ok s
      | some fault => .error fault

end Settings

end Bindery
