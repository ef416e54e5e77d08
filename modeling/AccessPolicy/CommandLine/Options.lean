import AccessPolicy.Text.Cut

/-!
Options on a command line. At each level, that of the program and that of a command, a table says
which options there are; scanning collects what was given, up to the name of a command. The first
mistake ends the scan, and so does a request for the version or for help.
-/
namespace AccessPolicy.CommandLine

structure OptionForm where
  long : String
  short : Option Char := none
  takesValue : Bool := true
  repeatable : Bool := false
  deriving DecidableEq, Repr

/-- Why a scan ends before the end of the line. -/
inductive Stop where
  | usage
  | version
  | help
  deriving DecidableEq, Repr

/-- What one level of a command line may hold. -/
structure Level where
  options : List OptionForm
  commands : List String := []
  /-- The version may be asked for here. -/
  hasVersion : Bool := false

/-- The options that were given, by their long names. -/
abbrev Given := List (String × String)

namespace Given

def value? (g : Given) (long : String) : Option String := g.lookup long

def values (g : Given) (long : String) : List String :=
  (g.filter fun e => e.1 == long).map (·.2)

def has (g : Given) (long : String) : Bool := (g.lookup long).isSome

/-- Note an option. Most options may be given once only. -/
def add (g : Given) (o : OptionForm) (v : String) : Except Stop Given :=
  if !o.repeatable && g.has o.long then .error .usage else .ok (g ++ [(o.long, v)])

end Given

namespace Level

/-- A request that is answered at once. -/
def request? (l : Level) (long : String) : Option Stop :=
  if long == "help" then some .help
  else if l.hasVersion && long == "version" then some .version
  else none

def shortRequest? (l : Level) (c : Char) : Option Stop :=
  if c == 'h' then some .help else if l.hasVersion && c == 'V' then some .version else none

/-- A long option, with the value attached to it. An option that still needs its value is returned
beside what was given. -/
def readLong (l : Level) (g : Given) (name : String) (attached : Option String) :
    Except Stop (Given × Option OptionForm) :=
  match l.options.find? fun o => o.long == name with
  | none =>
    match l.request? name, attached with
    | some stop, none => .error stop
    | _, _ => .error .usage
  | some o =>
    match o.takesValue, attached with
    | true, some v => (g.add o v).map fun g => (g, none)
    | true, none => .ok (g, some o)
    | false, none => (g.add o "").map fun g => (g, none)
    | false, some _ => .error .usage

/-- The value attached to a short option, where an equals sign may stand between. -/
def attachedTo : List Char → Option String
  | [] => none
  | '=' :: r => some (String.ofList r)
  | r => some (String.ofList r)

/-- A cluster of short options. -/
def readShort (l : Level) (g : Given) : List Char → Except Stop (Given × Option OptionForm)
  | [] => .ok (g, none)
  | c :: r =>
    match l.options.find? fun o => o.short == some c with
    | none => .error ((l.shortRequest? c).getD .usage)
    | some o =>
      if o.takesValue then
        match attachedTo r with
        | some v => (g.add o v).map fun g => (g, none)
        | none => .ok (g, some o)
      else
        match g.add o "" with
        | .error stop => .error stop
        | .ok g => l.readShort g r

/-- Text that can be an option only. A single dash is none. -/
def isOption (arg : String) : Bool := arg.startsWith "-" && arg != "-"

def readOption (l : Level) (g : Given) (arg : String) :
    Except Stop (Given × Option OptionForm) :=
  match arg.toList with
  | '-' :: '-' :: r =>
    match Text.cutFirst '=' r with
    | none => l.readLong g (String.ofList r) none
    | some (name, v) => l.readLong g (String.ofList name) (some (String.ofList v))
  | '-' :: r => l.readShort g r
  | _ => .error .usage

/-- Collect options up to the name of a command; with it comes what follows it. Two dashes say that
no more options follow, and as nothing else may follow either, they may only stand last. -/
def scan (l : Level) : Given → List String → Except Stop (Given × Option (String × List String))
  | g, [] => .ok (g, none)
  | g, arg :: rest =>
    if l.commands.contains arg then .ok (g, some (arg, rest))
    else if arg == "--" then if rest.isEmpty then .ok (g, none) else .error .usage
    else if !isOption arg then .error .usage
    else
      match l.readOption g arg with
      | .error stop => .error stop
      | .ok (g, none) => l.scan g rest
      | .ok (g, some o) =>
        match rest with
        | [] => .error .usage
        | v :: rest' =>
          if isOption v then .error .usage
          else
            match g.add o v with
            | .error stop => .error stop
            | .ok g => l.scan g rest'

end Level

end AccessPolicy.CommandLine
