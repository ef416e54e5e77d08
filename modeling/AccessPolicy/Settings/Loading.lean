import AccessPolicy.Data.Layer
import AccessPolicy.Settings.Reading
import AccessPolicy.Settings.Surroundings
import AccessPolicy.Settings.Validation
import AccessPolicy.Toml.Reader

/-!
Loading settings: a file, if there is one, below the variables that override it. What is loaded has
been validated.
-/
namespace AccessPolicy

namespace Settings

/-- Read a tree and validate what it says. -/
def ofTree (tree : Value) : Except ConfigError Settings :=
  match ofValue? .converting tree with
  | none => .error .malformed
  | some s => s.validate.map fun _ => s

def ofLayers (layers : List (List (String × Value))) : Except ConfigError Settings :=
  ofTree (Value.ofLayers layers)

/-- The layer of a settings file. -/
def layerOf (text : String) : Except ConfigError (List (String × Value)) :=
  match Toml.read text with
  | none => .error .malformed
  | some es => .ok es

def ofText (text : String) : Except ConfigError Settings := do
  ofLayers [← layerOf text]

/-- The files that are looked for when none is named; the first that is there is loaded. -/
def defaultPaths : List String :=
  ["gatekeeper.toml", ".gatekeeper.toml", "~/.config/gatekeeper/config.toml",
    "/etc/gatekeeper/config.toml"]

/-- The paths where the file to load may be. -/
def candidates (s : Surroundings) : Option String → List String
  | some path => [s.expand path]
  | none => defaultPaths.map s.expand

/-- The path of the file to load. One that is named has to be there. -/
def findFile (s : Surroundings) (named : Option String) : Except ConfigError (Option String) :=
  match (candidates s named).find? s.exists?, named with
  | none, some path => .error (.fileNotFound path)
  | found, _ => .ok found

/-- The layer of the file under a path. -/
def layerAt (s : Surroundings) (path : String) : Except ConfigError (List (String × Value)) :=
  match s.read? path with
  | none => .error .malformed
  | some text => layerOf text

/-- Load the settings for these surroundings. -/
def load (s : Surroundings) (path : Option String) : Except ConfigError Settings := do
  match ← findFile s path with
  | none => ofLayers [s.environment.layer]
  | some file => ofLayers [← layerAt s file, s.environment.layer]

end Settings

end AccessPolicy
