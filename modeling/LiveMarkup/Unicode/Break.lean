import LiveMarkup.Unicode.Property
import LiveMarkup.Unicode.Script

/-!
The classes by which a text is broken into clusters, words and sentences. A character that is in no
class of a kind has no name there.
-/

namespace LiveMarkup.Unicode

def spacingMark : CharSet :=
  inCategories ["Mc"]

/-- Signs that stand before the digits they belong to, apart from the Syriac abbreviation mark. -/
def numberSigns : CharSet :=
  prependedConcatenationMark \ .range 0x70F 0x70F

/-! ### Clusters -/

def clusterExtend : CharSet :=
  graphemeExtend ∪ emojiModifier

def clusterPrepend : CharSet :=
  prependedConcatenationMark ∪ .ofRuns
    [(0xD4E, 0xD4F), (0x111C2, 0x111C4), (0x113D1, 0x113D2), (0x1193F, 0x11940),
      (0x11941, 0x11942), (0x11A84, 0x11A8A), (0x11D46, 0x11D47), (0x11F02, 0x11F03)]

def clusterControl : CharSet :=
  (inCategories ["Zl", "Zp", "Cc", "Cf"] ∪ (defaultIgnorable ∩ inCategories ["Cn"])) \
    (.ofList [0xA, 0xD, 0x200C, 0x200D] ∪ prependedConcatenationMark ∪ clusterExtend)

/-- Spacing marks, apart from those that stand alone as a vowel or a tone. -/
def clusterSpacing : CharSet :=
  (spacingMark ∪ .ofList [0xE33, 0xEB3]) \
    (clusterExtend ∪ .ofRuns
      [(0x102B, 0x102D), (0x1038, 0x1039), (0x1062, 0x1065), (0x1067, 0x106E), (0x1083, 0x1084),
        (0x1087, 0x108D), (0x108F, 0x1090), (0x109A, 0x109D), (0x1A61, 0x1A62), (0x1A63, 0x1A65),
        (0xAA7B, 0xAA7C), (0xAA7D, 0xAA7E), (0x11720, 0x11722)])

/-- Syllables of a leading consonant and a vowel: every twenty-eighth from the first. -/
def syllableOpen : CharSet :=
  .ofRuns ((List.range 399).map fun k => (0xAC00 + 28 * k, 0xAC01 + 28 * k))

def clusterClasses : List (List String × (Unit → CharSet)) :=
  [(["control", "cn"], fun _ => clusterControl),
   (["cr"], fun _ => .ofList [0xD]),
   (["extend", "ex"], fun _ => clusterExtend),
   (["l"], fun _ => .ofRuns [(0x1100, 0x1160), (0xA960, 0xA97D)]),
   (["lf"], fun _ => .ofList [0xA]),
   (["lv"], fun _ => syllableOpen),
   (["lvt"], fun _ => .range 0xAC00 0xD7A3 \ syllableOpen),
   (["prepend", "pp"], fun _ => clusterPrepend),
   (["regionalindicator", "ri"], fun _ => regionalIndicator),
   (["spacingmark", "sm"], fun _ => clusterSpacing),
   (["t"], fun _ => .ofRuns [(0x11A8, 0x1200), (0xD7CB, 0xD7FC)]),
   (["v"], fun _ => .ofRuns [(0x1160, 0x11A8), (0xD7B0, 0xD7C7), (0x16D63, 0x16D64),
      (0x16D67, 0x16D6B)]),
   (["zwj"], fun _ => .ofList [0x200D])]

/-! ### Words -/

def wordExtend : CharSet :=
  graphemeExtend ∪ spacingMark ∪ emojiModifier

def katakana : CharSet :=
  inScript "Kana".toList ∪ .ofRuns
    [(0x3031, 0x3036), (0x309B, 0x309D), (0x30A0, 0x30A1), (0x30FC, 0x30FD), (0xFF70, 0xFF71)]

def hebrewLetter : CharSet :=
  inScript "Hebr".toList ∩ inCategories ["Lo"]

/-- Scripts whose words are not separated. -/
def unseparated : CharSet :=
  (["Thai", "Laoo", "Mymr", "Khmr", "Tale", "Talu", "Lana", "Tavt", "Ahom", "Hira"].map
    fun code => inScript code.toList).foldl (· ∪ ·) .empty

def wordLetter : CharSet :=
  (alphabetic ∪ .ofRuns
    [(0x2C2, 0x2C6), (0x2D2, 0x2D8), (0x2DE, 0x2E0), (0x2E5, 0x2EC), (0x2ED, 0x2EE),
      (0x2EF, 0x300), (0x55A, 0x55D), (0x55E, 0x55F), (0x58A, 0x58B), (0x5F3, 0x5F4),
      (0x70F, 0x710), (0xA708, 0xA717), (0xA720, 0xA722), (0xA789, 0xA78B), (0xAB5B, 0xAB5C)]) \
    (unifiedIdeograph ∪ ideographicOther ∪ katakana ∪ hebrewLetter ∪ wordExtend ∪ unseparated)

def wordClasses : List (List String × (Unit → CharSet)) :=
  [(["aletter", "le"], fun _ => wordLetter),
   (["cr"], fun _ => .ofList [0xD]),
   (["doublequote", "dq"], fun _ => .ofList [0x22]),
   (["extend"], fun _ => wordExtend),
   (["extendnumlet", "ex"], fun _ => inCategories ["Pc"] ∪ .ofList [0x202F]),
   (["format", "fo"], fun _ => inCategories ["Cf"] \
      (.ofList [0x200B, 0x200C, 0x200D] ∪ wordExtend ∪ prependedConcatenationMark)),
   (["hebrewletter", "hl"], fun _ => hebrewLetter),
   (["katakana", "ka"], fun _ => katakana),
   (["lf"], fun _ => .ofList [0xA]),
   (["midletter", "ml"], fun _ =>
      .ofList [0x3A, 0xB7, 0x387, 0x55F, 0x5F4, 0x2027, 0xFE13, 0xFE55, 0xFF1A]),
   (["midnum", "mn"], fun _ =>
      .ofList [0x2C, 0x3B, 0x37E, 0x589, 0x60C, 0x60D, 0x66C, 0x7F8, 0x2044, 0xFE10, 0xFE14,
        0xFE50, 0xFE54, 0xFF0C, 0xFF1B]),
   (["midnumlet", "mb"], fun _ =>
      .ofList [0x2E, 0x2018, 0x2019, 0x2024, 0xFE52, 0xFF07, 0xFF0E]),
   (["newline", "nl"], fun _ => .ofList [0xB, 0xC, 0x85, 0x2028, 0x2029]),
   (["numeric", "nu"], fun _ => digit ∪ .ofList [0x66B] ∪ numberSigns),
   (["regionalindicator", "ri"], fun _ => regionalIndicator),
   (["singlequote", "sq"], fun _ => .ofList [0x27]),
   (["wsegspace"], fun _ => inCategories ["Zs"] \ .ofList [0xA0, 0x2007, 0x202F]),
   (["zwj"], fun _ => .ofList [0x200D])]

/-! ### Sentences -/

def sentenceSeparator : CharSet :=
  .ofList [0x85, 0x2028, 0x2029]

def sentenceExtend : CharSet :=
  graphemeExtend ∪ spacingMark ∪ .ofList [0x200D]

/-- Full stops that may stand inside of a sentence. -/
def fullStop : CharSet :=
  .ofList [0x2E, 0x2024, 0xFE52, 0xFF0E]

/-- Lower case letters, but not those of Georgian, which has no cases in a sentence. -/
def sentenceLower : CharSet :=
  lowercase \ (graphemeExtend ∪ .range 0x10D0 0x10FA ∪ .range 0x10FD 0x10FF)

def sentenceUpper : CharSet :=
  (uppercase ∪ titlecase) \ (.range 0x1C90 0x1CBA ∪ .range 0x1CBD 0x1CBF)

def sentenceClasses : List (List String × (Unit → CharSet)) :=
  [(["aterm", "at"], fun _ => fullStop),
   (["close", "cl"], fun _ => inCategories ["Ps", "Pe", "Pi", "Pf"] ∪ .ofRuns
      [(0x22, 0x23), (0x27, 0x28), (0x275B, 0x2761), (0x2E00, 0x2E02), (0x2E06, 0x2E09),
        (0x2E0B, 0x2E0C), (0x1F676, 0x1F679)]),
   (["cr"], fun _ => .ofList [0xD]),
   (["extend", "ex"], fun _ => sentenceExtend),
   (["format", "fo"], fun _ => inCategories ["Cf"] \
      (.ofList [0x200C] ∪ sentenceExtend ∪ prependedConcatenationMark)),
   (["lf"], fun _ => .ofList [0xA]),
   (["lower", "lo"], fun _ => sentenceLower),
   (["numeric", "nu"], fun _ => digit ∪ .ofList [0x66B, 0x66C] ∪ numberSigns),
   (["oletter", "le"], fun _ => (alphabetic ∪ .ofList [0x5F3, 0x70F]) \
      (sentenceLower ∪ sentenceUpper ∪ sentenceExtend)),
   (["scontinue", "sc"], fun _ =>
      .ofRuns [(0x2C, 0x2E), (0x3A, 0x3C), (0x37E, 0x37F), (0x55D, 0x55E), (0x60C, 0x60E),
        (0x7F8, 0x7F9), (0x1802, 0x1803), (0x1808, 0x1809), (0x2013, 0x2015), (0x3001, 0x3002),
        (0xFE10, 0xFE12), (0xFE13, 0xFE15), (0xFE31, 0xFE33), (0xFE50, 0xFE52), (0xFE54, 0xFE56),
        (0xFE58, 0xFE59), (0xFE63, 0xFE64), (0xFF0C, 0xFF0E), (0xFF1A, 0xFF1C), (0xFF64, 0xFF65)]),
   (["sep", "se"], fun _ => sentenceSeparator),
   (["sp"], fun _ => whiteSpace \ (.ofList [0xA, 0xD] ∪ sentenceSeparator)),
   (["sterm", "st"], fun _ => sentenceTerminal \ fullStop),
   (["upper", "up"], fun _ => sentenceUpper)]

/-- The class of a name among those of a kind. -/
def breakClass? (classes : List (List String × (Unit → CharSet))) (name : Text) :
    Option CharSet :=
  (classes.find? (·.1.any (·.toList == name))).map (·.2 ())

end LiveMarkup.Unicode
