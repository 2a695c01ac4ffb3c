import ExprLexer.Host
import ExprLexer.RunError

/-!
# Configuration files

Loading a configuration reads the file at a path and reads its text as a configuration; a path
where nothing exists is reported as a missing configuration rather than a failure to read.
Saving makes the directories above the path first, then writes the text of the configuration.
Both go through a TOML library; the tool's own is this library's (`load`, `save`).
-/

namespace ExprLexer

namespace Config

/-- The configuration in the file at `path`, read with the TOML library `codec`. -/
def loadWith (codec : Toml.Codec) {m : Type → Type} [Monad m] (host : Host m) (path : String) :
    m (Except RunError Config) := do
  if !(← host.pathExists path) then
    return .error (.config (.notFound path))
  match ← host.readFile path with
  | .error e => return .error (.io e)
  | .ok bytes =>
    match Utf8.decodeString? bytes with
    | none => return .error (.io .invalidData)
    | some text => return (ofText codec text).mapError .config

/-- The configuration in the file at `path`, read with this library's TOML reader. -/
def load {m : Type → Type} [Monad m] (host : Host m) (path : String) :
    m (Except RunError Config) :=
  loadWith Toml.codec host path

/-- The directory part of a path: all its named components but the last, from the root for an
absolute path, or `none` for the empty path. -/
def parentOf (path : String) : Option String :=
  if path.isEmpty then none
  else some ((if isAbsolute path then "/" else "") ++ "/".intercalate (pathParts path).dropLast)

/-- The tree with the configuration written to `path` by the TOML library `codec`, its
directories made first. -/
def saveWith (codec : Toml.Codec) (c : Config) (t : Tree) (path : String) :
    Except RunError Tree := do
  let t ← match parentOf path with
    | some dir => (t.createDirs dir).mapError .io
    | none => pure t
  (t.writeFile path (Utf8.bytes (c.toText codec)).toList).mapError .io

/-- The tree with the configuration written to `path` by this library's TOML writer. -/
def save (c : Config) (t : Tree) (path : String) : Except RunError Tree :=
  saveWith Toml.codec c t path

end Config

end ExprLexer
