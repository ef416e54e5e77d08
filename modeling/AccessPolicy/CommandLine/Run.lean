import AccessPolicy.CommandLine.Request
import AccessPolicy.Data.Json
import AccessPolicy.Policy.Basic
import AccessPolicy.Settings.Loading
import AccessPolicy.Settings.Writing
import AccessPolicy.VariableFile

/-!
Running a command line: load the settings, build the policy, carry out the command. Whatever goes
wrong ends the run with a code other than zero, and only a check that passes or another command
that is carried out ends it with zero.
-/
namespace AccessPolicy.CommandLine

/-- What a command line may fail with. -/
inductive RunError where
  | settings (e : ConfigError)
  | policy (e : PolicyError)
  | identityMissing
  | permissionUnknown (id : String)
  | misuse (e : AclError)
  deriving DecidableEq, Repr

namespace RunError

def message : RunError → String
  | settings _ => "failed to load configuration"
  | policy e => e.message
  | identityMissing => "either --principal or --anonymous is required"
  | permissionUnknown id => "unknown permission '" ++ id ++ "'"
  | misuse e => (CheckError.misuse e).message

/-- The message of what lies behind the failure. -/
def cause? : RunError → Option String
  | settings e => some e.message
  | policy e => some e.innerMessage
  | identityMissing => none
  | permissionUnknown _ => none
  | misuse e => some e.message

end RunError

inductive Outcome where
  /-- Text was written; the code says whether a check passed. -/
  | finished (code : Nat) (output : String)
  | failed (e : RunError)
  | badUsage
  deriving DecidableEq, Repr

namespace Outcome

def code : Outcome → Nat
  | finished c _ => c
  | failed _ => 1
  | badUsage => 2

def output : Outcome → String
  | finished _ s => s
  | failed _ => ""
  | badUsage => ""

def error? : Outcome → Option RunError
  | failed e => some e
  | _ => none

end Outcome

def versionText : String := "gatekeeper 0.1.0\n"

def helpText : String :=
  "Permission resolution for build platforms\n\n"
    ++ "Usage: gatekeeper [-c FILE] [--log-level LEVEL] COMMAND\n\n"
    ++ "Commands:\n"
    ++ "  check        Decide whether an identity holds a permission\n"
    ++ "  permissions  List the permission catalog\n"
    ++ "  sids         List the sids the active strategy mentions\n"
    ++ "  export       Print the configuration with matrices as they were loaded\n"
    ++ "  validate     Load the configuration and report problems\n"

/-- Text of several lines. -/
def unlines (lines : List String) : String := String.join (lines.map (· ++ "\n"))

def CheckRequest.identity? (r : CheckRequest) : Option Identity :=
  if r.anonymous then some ⟨.anonymous, r.groups⟩
  else r.principal.map fun name => ⟨.user name, r.groups⟩

/-- The permissions called for; the first id that is unknown is reported. -/
def lookupAll (c : Catalog) : List String → Except RunError (List Permission)
  | [] => .ok []
  | id :: ids =>
    match c.lookup id with
    | none => .error (.permissionUnknown id)
    | some p => (lookupAll c ids).map (p :: ·)

/-- The object called for, or the root. -/
def findObject (p : Policy) : Option String → Except RunError (Option SecuredItem)
  | none => .ok none
  | some name =>
    match p.requireItem name with
    | .error e => .error (.policy e)
    | .ok i => .ok (some i)

/-- The answer to a check, as a value to be written. -/
def CheckRequest.report (r : CheckRequest) (who : Identity) (denial : Option Denial) : Value :=
  let texts (ss : List String) : Value := .array (ss.map .text)
  let headers := match denial with
    | none => []
    | some d =>
      [("headers", Value.array (d.headers.map fun h => .array [.text h.1, .text h.2]))]
  .table (
    [("principal", .text who.principal), ("anonymous", .bool who.isAnonymous),
      ("groups", texts who.groups), ("object", (r.object.map .text).getD .null),
      ("permissions", texts r.permissions), ("allowed", .bool denial.isNone)] ++ headers)

def CheckRequest.answer (r : CheckRequest) (who : Identity) (denial : Option Denial) : Outcome :=
  let text :=
    if r.json then (r.report who denial).json 0 ++ "\n"
    else match denial with
      | none => "allowed\n"
      | some d => "denied: " ++ d.report
  .finished (if denial.isNone then 0 else 1) text

def CheckRequest.run (r : CheckRequest) (p : Policy) : Outcome :=
  match r.identity? with
  | none => .failed .identityMissing
  | some who =>
    match lookupAll p.catalog r.permissions with
    | .error e => .failed e
    | .ok ps =>
      match findObject p r.object with
      | .error e => .failed e
      | .ok item =>
        match (p.controller.aclAt item).checkAny p.catalog.isEnabled who ps with
        | .ok () => r.answer who none
        | .error (.denied d) => r.answer who (some d)
        | .error (.misuse e) => .failed (.misuse e)

def permissionLine (c : Catalog) (p : Permission) : String :=
  "  " ++ p.id
    ++ (match p.parent? with
      | none => ""
      | some q => " <- " ++ q.id)
    ++ if c.isEnabled p then "" else " [disabled]"

def groupLines (c : Catalog) (g : Group) : List String :=
  (g.title ++ " (" ++ g.owner ++ ")") :: g.permissions.map (permissionLine c)

def summary (p : Policy) : String :=
  "ok: strategy=" ++ p.controller.strategy.kind
    ++ " permissions=" ++ p.catalog.entries.length.repr
    ++ " objects=" ++ p.items.length.repr
    ++ " overrides=" ++ p.controller.hooks.length.repr

def Command.run (p : Policy) (s : Settings) : Command → Outcome
  | check r => r.run p
  | listPermissions => .finished 0 (unlines (p.catalog.groups.flatMap (groupLines p.catalog)))
  | listSids => .finished 0 (unlines p.controller.strategy.sids)
  | writeSettings => .finished 0 (p.exportSettings s).toText
  | validate => .finished 0 (summary p ++ "\n")

/-- The parts of a path in front of its slashes, the longest first. The path is read backwards. -/
def partsBeforeSlash : (backwards : List Char) → List String
  | [] => []
  | '/' :: r => String.ofList r.reverse :: partsBeforeSlash r
  | _ :: r => partsBeforeSlash r

/-- Where the file of variables may be: in a directory and in those around it, the nearest first. -/
def variableFiles (directory : String) : List String :=
  (directory :: partsBeforeSlash directory.toList.reverse).map (· ++ "/.env")

/-- The first text under the paths. One that cannot be read ends the search. -/
def firstText? (find : String → Found) : (paths : List String) → Option String
  | [] => none
  | path :: rest =>
    match find path with
    | .file text => some text
    | .unreadable => none
    | .nothing | .directory => firstText? find rest

/-- The variables, with those added that the file of variables sets. Home is one of them. -/
def withVariableFile (s : Surroundings) : Surroundings :=
  match firstText? s.find (variableFiles s.directory) with
  | none => s
  | some text =>
    let vs := VariableFile.load s.environment text
    { s with environment := vs, home := s.home.or (vs.lookup "HOME") }

def Request.run (r : Request) (s : Surroundings) : Outcome :=
  match Settings.load s r.config with
  | .error e => .failed (.settings e)
  | .ok settings =>
    match Policy.load 0 settings with
    | .error e => .failed (.policy e)
    | .ok p => r.command.run p settings

def run (s : Surroundings) (args : List String) : Outcome :=
  let s := withVariableFile s
  match Request.ofArguments s.environment args with
  | .error .usage => .badUsage
  | .error .version => .finished 0 versionText
  | .error .help => .finished 0 helpText
  | .ok r => r.run s

end AccessPolicy.CommandLine
