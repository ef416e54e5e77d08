import AccessPolicy.CommandLine.Options
import AccessPolicy.Settings.Surroundings

/-!
What a command line asks for.
-/
namespace AccessPolicy.CommandLine

/-- Whether an identity holds one of several permissions. -/
structure CheckRequest where
  principal : Option String := none
  anonymous : Bool := false
  groups : List String := []
  permissions : List String
  object : Option String := none
  json : Bool := false
  deriving DecidableEq, Repr

inductive Command where
  | check (r : CheckRequest)
  | listPermissions
  | listSids
  | writeSettings
  | validate
  deriving DecidableEq, Repr

structure Request where
  /-- The settings file that was named. -/
  config : Option String
  command : Command
  deriving DecidableEq, Repr

/-- Options that may stand before and behind the name of a command. -/
def sharedOptions : List OptionForm :=
  [{ long := "config", short := some 'c' }, { long := "log-level" }]

def checkOptions : List OptionForm :=
  [{ long := "principal", short := some 'u' },
    { long := "group", short := some 'g', repeatable := true },
    { long := "anonymous", takesValue := false },
    { long := "permission", short := some 'p', repeatable := true },
    { long := "object", short := some 'o' },
    { long := "json", takesValue := false }]

def commandNames : List String := ["check", "permissions", "sids", "export", "validate"]

def programLevel : Level :=
  { options := sharedOptions, commands := commandNames ++ ["help"], hasVersion := true }

def checkLevel : Level := { options := sharedOptions ++ checkOptions }

def plainLevel : Level := { options := sharedOptions }

/-- At least one permission has to be named, and a principal is not anonymous. -/
def checkRequest? (g : Given) : Option CheckRequest :=
  let permissions := g.values "permission"
  if permissions.isEmpty || (g.has "principal" && g.has "anonymous") then none
  else some {
    principal := g.value? "principal"
    anonymous := g.has "anonymous"
    groups := g.values "group"
    permissions
    object := g.value? "object"
    json := g.has "json" }

/-- Read what follows the name of a command. -/
def readCommand (name : String) (args : List String) : Except Stop (Given × Command) :=
  let plain (c : Command) : Except Stop (Given × Command) :=
    (plainLevel.scan [] args).map fun (g, _) => (g, c)
  if name == "check" then
    match checkLevel.scan [] args with
    | .error stop => .error stop
    | .ok (g, _) =>
      match checkRequest? g with
      | none => .error .usage
      | some r => .ok (g, .check r)
  else if name == "permissions" then plain .listPermissions
  else if name == "sids" then plain .listSids
  else if name == "export" then plain .writeSettings
  else plain .validate

/-- Help is given for the program or for one command. -/
def readHelp (args : List String) : Stop :=
  match args with
  | [] => .help
  | [name] => if (commandNames ++ ["help"]).contains name then .help else .usage
  | _ => .usage

/-- The variable that names the settings file if no option does. -/
def configVariable : String := "GATEKEEPER_CONFIG"

/-- The request that a command line makes. An option behind the name of the command wins over one
before it, and both win over the variable. -/
def Request.ofArguments (vs : Variables) (args : List String) : Except Stop Request :=
  match programLevel.scan [] args with
  | .error stop => .error stop
  | .ok (_, none) => .error .usage
  | .ok (outer, some (name, rest)) =>
    if name == "help" then .error (readHelp rest)
    else
      match readCommand name rest with
      | .error stop => .error stop
      | .ok (inner, command) =>
        let named := (inner.value? "config").or (outer.value? "config")
        .ok ⟨named.or (vs.lookup configVariable), command⟩

end AccessPolicy.CommandLine
