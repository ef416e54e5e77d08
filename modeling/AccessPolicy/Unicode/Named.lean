import AccessPolicy.Unicode.Age
import AccessPolicy.Unicode.Break
import AccessPolicy.Unicode.Casing
import AccessPolicy.Unicode.Property
import AccessPolicy.Unicode.ScriptExtension

/-!
Sets of characters by name. Names are compared loosely: case, spaces, hyphens and low lines do not
matter, nor does an `is` in front.
-/
namespace AccessPolicy.Unicode

/-- The yes-or-no properties by their loose names. -/
def Property.named : List (List String × CharSet) :=
  [(["ahex", "asciihexdigit"], asciiHexDigit), (["alpha", "alphabetic"], alphabetic),
    (["bidic", "bidicontrol"], bidiControl), (["ci", "caseignorable"], caseIgnorable),
    (["cased"], cased), (["cwcf", "changeswhencasefolded"], Casing.casefolded),
    (["cwcm", "changeswhencasemapped"], Casing.casemapped),
    (["cwl", "changeswhenlowercased"], Casing.lowercased),
    (["cwt", "changeswhentitlecased"], Casing.titlecased),
    (["cwu", "changeswhenuppercased"], Casing.uppercased), (["dash"], dash),
    (["dep", "deprecated"], deprecated),
    (["di", "defaultignorablecodepoint"], defaultIgnorable), (["dia", "diacritic"], diacritic),
    (["ebase", "emojimodifierbase"], emojiModifierBase), (["ecomp", "emojicomponent"], emojiComponent),
    (["emod", "emojimodifier"], emojiModifier), (["emoji"], emoji),
    (["epres", "emojipresentation"], emojiPresentation), (["ext", "extender"], extender),
    (["extpict", "extendedpictographic"], extendedPictographic),
    (["grbase", "graphemebase"], graphemeBase), (["grext", "graphemeextend"], graphemeExtend),
    (["grlink", "graphemelink"], graphemeLink), (["hex", "hexdigit"], hexDigit),
    (["hyphen"], hyphen), (["idc", "idcontinue"], idContinue),
    (["idcompatmathcontinue"], idCompatMathContinue), (["idcompatmathstart"], idCompatMathStart),
    (["ideo", "ideographic"], ideographic), (["ids", "idstart"], idStart),
    (["idsb", "idsbinaryoperator"], idsBinaryOperator),
    (["idst", "idstrinaryoperator"], idsTrinaryOperator),
    (["idsu", "idsunaryoperator"], idsUnaryOperator), (["joinc", "joincontrol"], joinControl),
    (["loe", "logicalorderexception"], logicalOrderException), (["lower", "lowercase"], lowercase),
    (["math"], math), (["mcm", "modifiercombiningmark"], modifierCombiningMark),
    (["nchar", "noncharactercodepoint"], noncharacter), (["oalpha", "otheralphabetic"], otherAlphabetic),
    (["odi", "otherdefaultignorablecodepoint"], otherDefaultIgnorable),
    (["ogrext", "othergraphemeextend"], otherGraphemeExtend),
    (["oidc", "otheridcontinue"], otherIdContinue), (["oids", "otheridstart"], otherIdStart),
    (["olower", "otherlowercase"], otherLowercase), (["omath", "othermath"], otherMath),
    (["oupper", "otheruppercase"], otherUppercase), (["patsyn", "patternsyntax"], patternSyntax),
    (["patws", "patternwhitespace"], patternWhiteSpace),
    (["pcm", "prependedconcatenationmark"], prependedMark), (["qmark", "quotationmark"], quotationMark),
    (["radical"], radical), (["ri", "regionalindicator"], regionalIndicator),
    (["sd", "softdotted"], softDotted), (["sterm", "sentenceterminal"], sentenceTerminal),
    (["term", "terminalpunctuation"], terminalPunctuation),
    (["uideo", "unifiedideograph"], unifiedIdeograph), (["upper", "uppercase"], uppercase),
    (["vs", "variationselector"], variationSelector), (["wspace", "whitespace", "space"], whiteSpace),
    (["xidc", "xidcontinue"], xidContinue), (["xids", "xidstart"], xidStart)]

/-- A name as it is compared. An `is` in front is not part of it, but of `isc` nothing is left out. -/
def looseName (name : List Char) : String :=
  let keep (cs : List Char) : List Char :=
    (cs.filter fun c => c.toNat < 128 && c != ' ' && c != '_' && c != '-').map Char.toLower
  match name with
  | i :: s :: r =>
    if i.toLower = 'i' ∧ s.toLower = 's' then
      if keep r = ['c'] then "isc" else String.ofList (keep r)
    else String.ofList (keep name)
  | _ => String.ofList (keep name)

/-- The set under a loose name. -/
def findNamed (n : String) (table : List (List String × CharSet)) : Option CharSet :=
  (table.find? fun e => e.1.contains n).map (·.2)

/-- The set that a name stands for: a property, a general category or a script. -/
def setNamed? (name : List Char) : Option CharSet :=
  let n := looseName name
  findNamed n Property.named <|> findNamed n Category.named <|> findNamed n scripts

/-- The two ways to write a version. -/
def versionNames (v : Nat × Nat) : List String :=
  [toString v.1 ++ "." ++ toString v.2, "v" ++ toString v.1 ++ toString v.2]

/-- The characters with a value of a property that has many. -/
def setValued? (name value : List Char) : Option CharSet :=
  let n := looseName name
  let v := looseName value
  if n = "gc" ∨ n = "generalcategory" then findNamed v Category.named
  else if n = "sc" ∨ n = "script" then findNamed v scripts
  else if n = "scx" ∨ n = "scriptextensions" then
    (scripts.find? fun s => s.1.contains v).map fun s => scriptUses s.1 s.2
  else if n = "age" then
    (ages.find? fun a => (versionNames a.1).contains v).bind fun a => usedIn? a.1
  else if n = "gcb" ∨ n = "graphemeclusterbreak" then findNamed v ClusterBreak.named
  else if n = "wb" ∨ n = "wordbreak" then findNamed v WordBreak.named
  else if n = "sb" ∨ n = "sentencebreak" then findNamed v SentenceBreak.named
  else none

end AccessPolicy.Unicode
