import CodeSearch.Unicode.Category
import CodeSearch.Unicode.PropertyRuns

/-!
Yes-or-no properties of characters. A property has a table of its own or is put together from
categories and the tables of what they leave out.
-/
namespace CodeSearch.Unicode

inductive Property where
  | alphabetic | asciiHexDigit | bidiControl | bidiMirrored | caseIgnorable | cased
  | changesWhenCasefolded | changesWhenCasemapped | changesWhenLowercased | changesWhenTitlecased
  | changesWhenUppercased | dash | defaultIgnorable | deprecated | diacritic | emoji
  | emojiComponent | emojiModifier | emojiModifierBase | emojiPresentation | extendedPictographic
  | extender | graphemeBase | graphemeExtend | graphemeLink | hexDigit | hyphen
  | idCompatMathContinue | idCompatMathStart | idContinue | idStart | ideographic
  | idsBinaryOperator | idsTrinaryOperator | idsUnaryOperator | joinControl
  | logicalOrderException | lowercase | math | modifierCombiningMark | noncharacter
  | otherAlphabetic | otherDefaultIgnorable | otherGraphemeExtend | otherIdContinue
  | otherIdStart | otherLowercase | otherMath | otherUppercase | patternSyntax
  | patternWhiteSpace | prependedConcatenationMark | quotationMark | radical | regionalIndicator
  | sentenceTerminal | softDotted | terminalPunctuation | unifiedIdeograph | uppercase
  | variationSelector | whiteSpace | xidContinue | xidStart
deriving DecidableEq, Repr

namespace Property

open Category in
/-- Lower-case letters, and what is used as one. -/
def lowercaseSet : CharSet :=
  lowercaseLetter.charSet.union (Runs.charSet PropertyRuns.otherLowercase)

open Category in
def uppercaseSet : CharSet :=
  uppercaseLetter.charSet.union (Runs.charSet PropertyRuns.otherUppercase)

open Category in
def alphabeticSet : CharSet :=
  CharSet.unionAll [anyOf letters, letterNumber.charSet, lowercaseSet, uppercaseSet,
    Runs.charSet PropertyRuns.otherAlphabetic]

open Category in
def graphemeExtendSet : CharSet :=
  CharSet.unionAll [nonspacingMark.charSet, enclosingMark.charSet,
    Runs.charSet PropertyRuns.otherGraphemeExtend]

/-- What the syntax of a language may use, and so no name. -/
def patternSet : CharSet :=
  (Runs.charSet PropertyRuns.patternSyntax).union (Runs.charSet PropertyRuns.patternWhiteSpace)

open Category in
def idStartSet : CharSet :=
  ((anyOf (letterNumber :: letters)).diff patternSet).union (Runs.charSet PropertyRuns.otherIdStart)

open Category in
def idContinueSet : CharSet :=
  ((idStartSet.union (anyOf [nonspacingMark, spacingMark, decimalNumber,
    connectorPunctuation])).diff patternSet).union (Runs.charSet PropertyRuns.otherIdContinue)

/-- What changes in lower case differs from the upper-case letters by a short table. -/
def changesWhenLowercasedSet : CharSet :=
  uppercaseSet.apart (Runs.charSet PropertyRuns.lowercasedApart)

def changesWhenUppercasedSet : CharSet :=
  lowercaseSet.apart (Runs.charSet PropertyRuns.uppercasedApart)

def changesWhenTitlecasedSet : CharSet :=
  changesWhenUppercasedSet.apart (Runs.charSet PropertyRuns.titlecasedApart)

open Category in
def charSet : Property → CharSet
  | asciiHexDigit => Runs.charSet PropertyRuns.asciiHexDigit
  | bidiControl => Runs.charSet PropertyRuns.bidiControl
  | bidiMirrored => Runs.charSet PropertyRuns.bidiMirrored
  | dash => Runs.charSet PropertyRuns.dash
  | defaultIgnorable => Runs.charSet PropertyRuns.defaultIgnorable
  | deprecated => Runs.charSet PropertyRuns.deprecated
  | diacritic => Runs.charSet PropertyRuns.diacritic
  | emoji => Runs.charSet PropertyRuns.emoji
  | emojiComponent => Runs.charSet PropertyRuns.emojiComponent
  | emojiModifier => Runs.charSet PropertyRuns.emojiModifier
  | emojiModifierBase => Runs.charSet PropertyRuns.emojiModifierBase
  | emojiPresentation => Runs.charSet PropertyRuns.emojiPresentation
  | extendedPictographic => Runs.charSet PropertyRuns.extendedPictographic
  | extender => Runs.charSet PropertyRuns.extender
  | graphemeLink => Runs.charSet PropertyRuns.graphemeLink
  | hexDigit => Runs.charSet PropertyRuns.hexDigit
  | hyphen => Runs.charSet PropertyRuns.hyphen
  | idCompatMathContinue => Runs.charSet PropertyRuns.idCompatMathContinue
  | idCompatMathStart => Runs.charSet PropertyRuns.idCompatMathStart
  | ideographic => Runs.charSet PropertyRuns.ideographic
  | idsBinaryOperator => Runs.charSet PropertyRuns.idsBinaryOperator
  | idsTrinaryOperator => Runs.charSet PropertyRuns.idsTrinaryOperator
  | idsUnaryOperator => Runs.charSet PropertyRuns.idsUnaryOperator
  | joinControl => Runs.charSet PropertyRuns.joinControl
  | logicalOrderException => Runs.charSet PropertyRuns.logicalOrderException
  | modifierCombiningMark => Runs.charSet PropertyRuns.modifierCombiningMark
  | noncharacter => Runs.charSet PropertyRuns.noncharacter
  | otherAlphabetic => Runs.charSet PropertyRuns.otherAlphabetic
  | otherDefaultIgnorable => Runs.charSet PropertyRuns.otherDefaultIgnorable
  | otherGraphemeExtend => Runs.charSet PropertyRuns.otherGraphemeExtend
  | otherIdContinue => Runs.charSet PropertyRuns.otherIdContinue
  | otherIdStart => Runs.charSet PropertyRuns.otherIdStart
  | otherLowercase => Runs.charSet PropertyRuns.otherLowercase
  | otherMath => Runs.charSet PropertyRuns.otherMath
  | otherUppercase => Runs.charSet PropertyRuns.otherUppercase
  | patternSyntax => Runs.charSet PropertyRuns.patternSyntax
  | patternWhiteSpace => Runs.charSet PropertyRuns.patternWhiteSpace
  | prependedConcatenationMark => Runs.charSet PropertyRuns.prependedConcatenationMark
  | quotationMark => Runs.charSet PropertyRuns.quotationMark
  | radical => Runs.charSet PropertyRuns.radical
  | regionalIndicator => Runs.charSet PropertyRuns.regionalIndicator
  | sentenceTerminal => Runs.charSet PropertyRuns.sentenceTerminal
  | softDotted => Runs.charSet PropertyRuns.softDotted
  | terminalPunctuation => Runs.charSet PropertyRuns.terminalPunctuation
  | unifiedIdeograph => Runs.charSet PropertyRuns.unifiedIdeograph
  | variationSelector => Runs.charSet PropertyRuns.variationSelector
  | whiteSpace => Runs.charSet PropertyRuns.whiteSpace
  | alphabetic => alphabeticSet
  | lowercase => lowercaseSet
  | uppercase => uppercaseSet
  | cased => CharSet.unionAll [lowercaseSet, uppercaseSet, titlecaseLetter.charSet]
  | caseIgnorable =>
    (anyOf [nonspacingMark, enclosingMark, format, modifierLetter, modifierSymbol]).union
      (Runs.charSet PropertyRuns.otherCaseIgnorable)
  | changesWhenLowercased => changesWhenLowercasedSet
  | changesWhenUppercased => changesWhenUppercasedSet
  | changesWhenTitlecased => changesWhenTitlecasedSet
  | changesWhenCasefolded =>
    changesWhenLowercasedSet.apart (Runs.charSet PropertyRuns.casefoldedApart)
  | changesWhenCasemapped =>
    CharSet.unionAll [changesWhenLowercasedSet, changesWhenUppercasedSet, changesWhenTitlecasedSet]
  | graphemeBase =>
    (CharSet.unionAll [other, anyOf [lineSeparator, paragraphSeparator],
      graphemeExtendSet]).complement
  | graphemeExtend => graphemeExtendSet
  | idStart => idStartSet
  | idContinue => idContinueSet
  | xidStart => idStartSet.diff (Runs.charSet PropertyRuns.notXidStart)
  | xidContinue => idContinueSet.diff (Runs.charSet PropertyRuns.notXidContinue)
  | math => mathSymbol.charSet.union (Runs.charSet PropertyRuns.otherMath)

/-- Names in comparison form. -/
def named : List (String × Property) := [
  ("alphabetic", .alphabetic), ("alpha", .alphabetic), ("asciihexdigit", .asciiHexDigit),
  ("ahex", .asciiHexDigit), ("bidicontrol", .bidiControl), ("bidic", .bidiControl),
  ("bidimirrored", .bidiMirrored), ("bidim", .bidiMirrored), ("caseignorable", .caseIgnorable),
  ("ci", .caseIgnorable), ("cased", .cased), ("changeswhencasefolded", .changesWhenCasefolded),
  ("cwcf", .changesWhenCasefolded), ("changeswhencasemapped", .changesWhenCasemapped),
  ("cwcm", .changesWhenCasemapped), ("changeswhenlowercased", .changesWhenLowercased),
  ("cwl", .changesWhenLowercased), ("changeswhentitlecased", .changesWhenTitlecased),
  ("cwt", .changesWhenTitlecased), ("changeswhenuppercased", .changesWhenUppercased),
  ("cwu", .changesWhenUppercased), ("dash", .dash),
  ("defaultignorablecodepoint", .defaultIgnorable), ("di", .defaultIgnorable),
  ("deprecated", .deprecated), ("dep", .deprecated), ("diacritic", .diacritic),
  ("dia", .diacritic), ("emoji", .emoji), ("emojicomponent", .emojiComponent),
  ("ecomp", .emojiComponent), ("emojimodifier", .emojiModifier), ("emod", .emojiModifier),
  ("emojimodifierbase", .emojiModifierBase), ("ebase", .emojiModifierBase),
  ("emojipresentation", .emojiPresentation), ("epres", .emojiPresentation),
  ("extendedpictographic", .extendedPictographic), ("extpict", .extendedPictographic),
  ("extender", .extender), ("ext", .extender), ("graphemebase", .graphemeBase),
  ("grbase", .graphemeBase), ("graphemeextend", .graphemeExtend), ("grext", .graphemeExtend),
  ("graphemelink", .graphemeLink), ("grlink", .graphemeLink), ("hexdigit", .hexDigit),
  ("hex", .hexDigit), ("hyphen", .hyphen), ("idcompatmathcontinue", .idCompatMathContinue),
  ("idcompatmathstart", .idCompatMathStart), ("idcontinue", .idContinue), ("idc", .idContinue),
  ("idstart", .idStart), ("ids", .idStart), ("ideographic", .ideographic),
  ("ideo", .ideographic), ("idsbinaryoperator", .idsBinaryOperator),
  ("idsb", .idsBinaryOperator), ("idstrinaryoperator", .idsTrinaryOperator),
  ("idst", .idsTrinaryOperator), ("idsunaryoperator", .idsUnaryOperator),
  ("idsu", .idsUnaryOperator), ("joincontrol", .joinControl), ("joinc", .joinControl),
  ("logicalorderexception", .logicalOrderException), ("loe", .logicalOrderException),
  ("lowercase", .lowercase), ("lower", .lowercase), ("math", .math),
  ("modifiercombiningmark", .modifierCombiningMark), ("mcm", .modifierCombiningMark),
  ("noncharactercodepoint", .noncharacter), ("nchar", .noncharacter),
  ("otheralphabetic", .otherAlphabetic), ("oalpha", .otherAlphabetic),
  ("otherdefaultignorablecodepoint", .otherDefaultIgnorable), ("odi", .otherDefaultIgnorable),
  ("othergraphemeextend", .otherGraphemeExtend), ("ogrext", .otherGraphemeExtend),
  ("otheridcontinue", .otherIdContinue), ("oidc", .otherIdContinue),
  ("otheridstart", .otherIdStart), ("oids", .otherIdStart), ("otherlowercase", .otherLowercase),
  ("olower", .otherLowercase), ("othermath", .otherMath), ("omath", .otherMath),
  ("otheruppercase", .otherUppercase), ("oupper", .otherUppercase),
  ("patternsyntax", .patternSyntax), ("patsyn", .patternSyntax),
  ("patternwhitespace", .patternWhiteSpace), ("patws", .patternWhiteSpace),
  ("prependedconcatenationmark", .prependedConcatenationMark),
  ("pcm", .prependedConcatenationMark), ("quotationmark", .quotationMark),
  ("qmark", .quotationMark), ("radical", .radical), ("regionalindicator", .regionalIndicator),
  ("ri", .regionalIndicator), ("sentenceterminal", .sentenceTerminal),
  ("sterm", .sentenceTerminal), ("softdotted", .softDotted), ("sd", .softDotted),
  ("terminalpunctuation", .terminalPunctuation), ("term", .terminalPunctuation),
  ("unifiedideograph", .unifiedIdeograph), ("uideo", .unifiedIdeograph),
  ("uppercase", .uppercase), ("upper", .uppercase), ("variationselector", .variationSelector),
  ("vs", .variationSelector), ("whitespace", .whiteSpace), ("wspace", .whiteSpace),
  ("space", .whiteSpace), ("xidcontinue", .xidContinue), ("xidc", .xidContinue),
  ("xidstart", .xidStart), ("xids", .xidStart)]

def named? (name : String) : Option CharSet := (named.lookup name).map charSet

end Property

end CodeSearch.Unicode
