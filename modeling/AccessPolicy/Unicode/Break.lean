import AccessPolicy.Unicode.Property
import AccessPolicy.Unicode.Script

/-!
Breaks: what a character does to the division of a text into characters as a reader sees them, into
words and into sentences. Each class is given by the properties that it is derived from.
-/
namespace AccessPolicy.Unicode

/-- The characters of a script, by its code. -/
def scriptOf (code : String) : CharSet :=
  ((scripts.find? fun s => s.1.contains code).map (·.2)).getD .nothing

namespace ClusterBreak

def extend : CharSet := .union Property.graphemeExtend Property.emojiModifier

def control : CharSet :=
  .diff (.unions [Category.lineSeparator, Category.paragraphSeparator, Category.control,
      Category.format, .inter Category.unassigned Property.defaultIgnorable])
    (.unions [.ofText "A D 200C-200D", Property.prependedMark, extend])

/-- Spacing marks that stand by themselves all the same. -/
def loose : CharSet :=
  .ofText "102B-102C 1038 1062-1064 1067-106D 1083 1087-108C 108F 109A-109C 1A61 1A63-1A64 AA7B AA7D
  11720-11721"

def spacingMark : CharSet :=
  .union (.diff Category.spacingMark (.union extend loose)) (.ofText "E33 EB3")

/-- Syllables of two letters; each is followed by those that add a third one to it. -/
def pairSyllable : CharSet :=
  .unions ((List.range 399).map fun i => .codes (0xAC00 + 28 * i) (0xAC00 + 28 * i))

def named : List (List String × CharSet) :=
  [(["cn", "control"], control), (["cr"], .single '\r'), (["ex", "extend"], extend),
    (["l"], .ofText "1100-115F A960-A97C"), (["lf"], .single '\n'), (["lv"], pairSyllable),
    (["lvt"], .diff (.codes 0xAC00 0xD7A3) pairSyllable),
    (["pp", "prepend"], .union Property.prependedMark
      (.ofText "D4E 111C2-111C3 113D1 1193F 11941 11A3A 11A84-11A89 11D46 11F02")),
    (["ri", "regionalindicator"], Property.regionalIndicator), (["sm", "spacingmark"], spacingMark),
    (["t"], .ofText "11A8-11FF D7CB-D7FB"),
    (["v"], .ofText "1160-11A7 D7B0-D7C6 16D63 16D67-16D6A"), (["zwj"], .codes 0x200D 0x200D)]

end ClusterBreak

namespace WordBreak

def extend : CharSet :=
  .unions [Property.graphemeExtend, Category.spacingMark, Property.emojiModifier]

def format : CharSet :=
  .diff Category.format (.unions [.ofText "200B-200D", extend, Property.prependedMark])

def katakana : CharSet :=
  .union (scriptOf "kana") (.ofText "3031-3035 309B-309C 30A0 30FC FF70")

def hebrewLetter : CharSet := .inter (scriptOf "hebr") Category.otherLetter

/-- Letters of scripts that do not mark where words end. -/
def unspaced : CharSet :=
  .ofText "E01-E30 E32-E33 E40-E46 E81-E82 E84 E86-E8A E8C-EA3 EA5 EA7-EB0 EB2-EB3 EBD EC0-EC4 EC6
  EDC-EDF 1000-102A 103F 1050-1055 105A-105D 1061 1065-1066 106E-1070 1075-1081 108E 1780-17B3 17D7
  17DC 1950-196D 1970-1974 1980-19AB 19B0-19C9 1A20-1A54 1AA7 A9E0-A9E4 A9E6-A9EF A9FA-A9FE AA60-AA76
  AA7A AA7E-AAAF AAB1 AAB5-AAB6 AAB9-AABD AAC0 AAC2 AADB-AADD 11700-1171A 11740-11746"

def letter : CharSet :=
  .diff (.union Property.alphabetic (.ofText
      "2C2-2C5 2D2-2D7 2DE-2DF 2E5-2EB 2ED 2EF-2FF 55A-55C 55E 58A 5F3 70F A708-A716 A720-A721
  A789-A78A AB5B"))
    (.unions [Property.ideographic, katakana, scriptOf "hira", extend, hebrewLetter, unspaced])

def numeric : CharSet :=
  .diff (.unions [Category.decimalNumber, .ofText "66B", Property.prependedMark]) (.ofText "70F")

def named : List (List String × CharSet) :=
  [(["le", "aletter"], letter), (["cr"], .single '\r'), (["dq", "doublequote"], .single '"'),
    (["extend"], extend),
    (["ex", "extendnumlet"], .union Category.connectorPunctuation (.ofText "202F")),
    (["fo", "format"], format), (["hl", "hebrewletter"], hebrewLetter),
    (["ka", "katakana"], katakana), (["lf"], .single '\n'),
    (["ml", "midletter"], .ofText "3A B7 387 55F 5F4 2027 FE13 FE55 FF1A"),
    (["mn", "midnum"],
      .ofText "2C 3B 37E 589 60C-60D 66C 7F8 2044 FE10 FE14 FE50 FE54 FF0C FF1B"),
    (["mb", "midnumlet"], .ofText "2E 2018-2019 2024 FE52 FF07 FF0E"),
    (["nl", "newline"], .ofText "B-C 85 2028-2029"), (["nu", "numeric"], numeric),
    (["ri", "regionalindicator"], Property.regionalIndicator),
    (["sq", "singlequote"], .single '\''),
    (["wsegspace"], .ofText "20 1680 2000-2006 2008-200A 205F 3000"),
    (["zwj"], .codes 0x200D 0x200D)]

end WordBreak

namespace SentenceBreak

def extend : CharSet :=
  .unions [Property.graphemeExtend, Category.spacingMark, .codes 0x200D 0x200D]

/-- What ends a paragraph. -/
def separator : CharSet := .ofText "85 2028-2029"

def lower : CharSet :=
  .diff Property.lowercase (.union Property.graphemeExtend (.ofText "10D0-10FA 10FD-10FF"))

def upper : CharSet :=
  .diff (.union Category.titlecaseLetter Property.uppercase) (.ofText "1C90-1CBA 1CBD-1CBF")

def otherLetter : CharSet :=
  .diff (.union Property.alphabetic (.ofText "5F3")) (.unions [lower, upper, extend])

/-- Full stops, which do not always end a sentence. -/
def fullStop : CharSet := .ofText "2E 2024 FE52 FF0E"

def terminal : CharSet := .diff Property.sentenceTerminal fullStop

def close : CharSet :=
  .diff (.unions [Category.openPunctuation, Category.closePunctuation, Category.initialPunctuation,
      Category.finalPunctuation, .ofText "22 27 275B-2760 2E00-2E01 2E06-2E08 2E0B 1F676-1F678"])
    (.union fullStop terminal)

def named : List (List String × CharSet) :=
  [(["at", "aterm"], fullStop), (["cl", "close"], close), (["cr"], .single '\r'),
    (["ex", "extend"], extend), (["fo", "format"], .diff Category.format extend),
    (["lf"], .single '\n'), (["lo", "lower"], lower),
    (["nu", "numeric"], .union Category.decimalNumber (.ofText "66B-66C")),
    (["le", "oletter"], otherLetter), (["st", "sterm"], terminal), (["se", "sep"], separator),
    (["sc", "scontinue"],
      .ofText "2C-2D 3A-3B 37E 55D 60C-60D 7F8 1802 1808 2013-2014 3001 FE10-FE11 FE13-FE14
  FE31-FE32 FE50-FE51 FE54-FE55 FE58 FE63 FF0C-FF0D FF1A-FF1B FF64"),
    (["sp"], .diff Property.whiteSpace (.union separator (.ofText "A D"))), (["up", "upper"], upper)]

end SentenceBreak

end AccessPolicy.Unicode
