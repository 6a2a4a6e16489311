import Bindery.Files.System
import Bindery.Manifest.Basic
import Bindery.Settings.Basic

/-!
# Loading manifests and settings

Manifests and settings are read from files.  Without a stated file, `discoverSettings` looks for
settings under their usual name, and where there are none the defaults hold.  A stated file that is
not there is a failure, and so is any file that cannot be read.
-/

namespace Bindery

variable {m : Type → Type} [Monad m] [FileSystem m]

/-- A manifest from a file. -/
def loadManifest (path : Path) : m (Except HostFault Manifest) := do
  match ← FileSystem.readText path with
  | .error fault => return .error (.unread fault)
  | .ok text => return (Manifest.ofText text).mapError .manifest

/-- Settings from a file. -/
def loadSettings (path : Path) : m (Except Failure Settings) := do
  match ← FileSystem.readText path with
  | .error fault => return .error (.unread fault)
  | .ok text => return (Settings.ofText text).mapError .settings

/-- Settings from a stated file, from the usual one in a directory, or the defaults. -/
def discoverSettings (stated : Option Path) (directory : Path) : m (Except Failure Settings) := do
  match stated with
  | some path => loadSettings path
  | none =>
    let usual := directory.push Settings.fileName
    if ← FileSystem.isFile usual then loadSettings usual else return .ok {}

end Bindery
