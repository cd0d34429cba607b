import LiveMarkup.Unicode.Category
import LiveMarkup.Unicode.Property.Basic

/-!
Properties that a character has or has not. Most follow from the categories by the rules of the
standard; the rest are tables.
-/

namespace LiveMarkup.Unicode

/-- The letters, in any case or in none. -/
def letters : CharSet :=
  inCategories ["Lu", "Ll", "Lt", "Lm", "Lo"]

def alphabetic : CharSet :=
  letters ∪ inCategories ["Nl"] ∪ otherAlphabetic

def lowercase : CharSet :=
  inCategories ["Ll"] ∪ otherLowercase

def uppercase : CharSet :=
  inCategories ["Lu"] ∪ otherUppercase

def titlecase : CharSet :=
  inCategories ["Lt"]

/-- Characters with a lower case of their own. -/
def lowered : CharSet :=
  (uppercase ∪ titlecase) \ uppercaseFixed

/-- Characters with an upper case of their own. -/
def uppered : CharSet :=
  lowercase.symmDiff lowercaseFixed

/-- Characters with a title case of their own. -/
def titled : CharSet :=
  (uppered \ titlecaseFixed) ∪ titlecaseOther

def defaultIgnorable : CharSet :=
  ((otherDefaultIgnorable ∪ inCategories ["Cf"] ∪ variationSelector) \ whiteSpace) \
    (.range 0xFFF9 0xFFFB ∪ .range 0x13430 0x13440 ∪ prependedConcatenationMark)

def graphemeExtend : CharSet :=
  inCategories ["Me", "Mn"] ∪ otherGraphemeExtend

def graphemeBase : CharSet :=
  .compl (inCategories ["Cc", "Cf", "Cn", "Co", "Zl", "Zp"] ∪ graphemeExtend)

/-- Marks and signs that the search for cased letters passes over. -/
def caseIgnorable : CharSet :=
  inCategories ["Mn", "Me", "Cf", "Lm", "Sk"] ∪
    .ofList [0x27, 0x2E, 0x3A, 0xB7, 0x387, 0x55F, 0x5F4, 0x2018, 0x2019, 0x2024, 0x2027, 0xFE13,
      0xFE52, 0xFE55, 0xFF07, 0xFF0E, 0xFF1A]

def idStart : CharSet :=
  (letters ∪ inCategories ["Nl"] ∪ otherIdStart) \ (patternSyntax ∪ patternWhiteSpace)

def idContinue : CharSet :=
  (idStart ∪ inCategories ["Mn", "Mc", "Nd", "Pc"] ∪ otherIdContinue) \
    (patternSyntax ∪ patternWhiteSpace)

/-- The characters of words: letters, marks, decimal digits, and signs that join. -/
def word : CharSet :=
  alphabetic ∪ inCategories ["Mc", "Me", "Mn", "Nd", "Pc"] ∪ joinControl

/-- Decimal digits. -/
def digit : CharSet :=
  inCategories ["Nd"]

/-- The names of the properties, in lower case and without separators, with the characters that
have each. -/
def properties : List (List String × (Unit → CharSet)) :=
  [(["asciihexdigit", "ahex"], fun _ => asciiHexDigit),
   (["alphabetic", "alpha"], fun _ => alphabetic),
   (["bidicontrol", "bidic"], fun _ => bidiControl),
   (["bidimirrored", "bidim"], fun _ => bidiMirrored),
   (["caseignorable", "ci"], fun _ => caseIgnorable),
   (["cased"], fun _ => lowercase ∪ uppercase ∪ titlecase),
   (["changeswhencasefolded", "cwcf"], fun _ => (lowered \ foldedFixed) ∪ foldedOther),
   (["changeswhencasemapped", "cwcm"], fun _ => lowered ∪ uppered ∪ titled),
   (["changeswhenlowercased", "cwl"], fun _ => lowered),
   (["changeswhentitlecased", "cwt"], fun _ => titled),
   (["changeswhenuppercased", "cwu"], fun _ => uppered),
   (["dash"], fun _ => dash),
   (["defaultignorablecodepoint", "di"], fun _ => defaultIgnorable),
   (["deprecated", "dep"], fun _ => deprecated),
   (["diacritic", "dia"], fun _ => diacritic),
   (["emoji"], fun _ => emoji),
   (["emojicomponent", "ecomp"], fun _ => emojiComponent),
   (["emojimodifier", "emod"], fun _ => emojiModifier),
   (["emojimodifierbase", "ebase"], fun _ => emojiModifierBase),
   (["emojipresentation", "epres"], fun _ => emojiPresentation),
   (["extendedpictographic", "extpict"], fun _ => extendedPictographic),
   (["extender", "ext"], fun _ => extender),
   (["graphemebase", "grbase"], fun _ => graphemeBase),
   (["graphemeextend", "grext"], fun _ => graphemeExtend),
   (["graphemelink", "grlink"], fun _ => graphemeLink),
   (["hexdigit", "hex"], fun _ => hexDigit),
   (["hyphen"], fun _ => hyphen),
   (["idsbinaryoperator", "idsb"], fun _ => idsBinaryOperator),
   (["idstrinaryoperator", "idst"], fun _ => idsTrinaryOperator),
   (["idsunaryoperator", "idsu"], fun _ => idsUnaryOperator),
   (["idcompatmathcontinue"], fun _ => idCompatMathStart ∪ idCompatMathOther),
   (["idcompatmathstart"], fun _ => idCompatMathStart),
   (["idcontinue", "idc"], fun _ => idContinue),
   (["idstart", "ids"], fun _ => idStart),
   (["ideographic", "ideo"], fun _ => unifiedIdeograph ∪ ideographicOther),
   (["joincontrol", "joinc"], fun _ => joinControl),
   (["logicalorderexception", "loe"], fun _ => logicalOrderException),
   (["lowercase", "lower"], fun _ => lowercase),
   (["math"], fun _ => inCategories ["Sm"] ∪ otherMath),
   (["modifiercombiningmark", "mcm"], fun _ => modifierCombiningMark),
   (["noncharactercodepoint", "nchar"], fun _ => noncharacterCodePoint),
   (["otheralphabetic", "oalpha"], fun _ => otherAlphabetic),
   (["otherdefaultignorablecodepoint", "odi"], fun _ => otherDefaultIgnorable),
   (["othergraphemeextend", "ogrext"], fun _ => otherGraphemeExtend),
   (["otheridcontinue", "oidc"], fun _ => otherIdContinue),
   (["otheridstart", "oids"], fun _ => otherIdStart),
   (["otherlowercase", "olower"], fun _ => otherLowercase),
   (["othermath", "omath"], fun _ => otherMath),
   (["otheruppercase", "oupper"], fun _ => otherUppercase),
   (["patternsyntax", "patsyn"], fun _ => patternSyntax),
   (["patternwhitespace", "patws"], fun _ => patternWhiteSpace),
   (["prependedconcatenationmark", "pcm"], fun _ => prependedConcatenationMark),
   (["quotationmark", "qmark"], fun _ => quotationMark),
   (["radical"], fun _ => radical),
   (["regionalindicator", "ri"], fun _ => regionalIndicator),
   (["sentenceterminal", "sterm"], fun _ => sentenceTerminal),
   (["softdotted", "sd"], fun _ => softDotted),
   (["terminalpunctuation", "term"], fun _ => terminalPunctuation),
   (["unifiedideograph", "uideo"], fun _ => unifiedIdeograph),
   (["uppercase", "upper"], fun _ => uppercase),
   (["variationselector", "vs"], fun _ => variationSelector),
   (["whitespace", "wspace", "space"], fun _ => whiteSpace),
   (["xidcontinue", "xidc"], fun _ => idContinue \ notXidContinue),
   (["xidstart", "xids"], fun _ => idStart \ notXidStart)]

/-- The characters that have the property of a name. -/
def property? (name : Text) : Option CharSet :=
  (properties.find? (·.1.any (·.toList == name))).map (·.2 ())

end LiveMarkup.Unicode
