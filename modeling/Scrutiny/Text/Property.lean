import Scrutiny.Text.Category
import Scrutiny.Text.Property.Tables
import Scrutiny.Text.Script
import Scrutiny.Text.WhiteSpace

/-! # Named sets of characters

General categories, scripts and binary properties are all sets of characters with names. A name is
read without regard to case, spaces, hyphens and underscores.
-/

namespace Scrutiny.Text

namespace Property

/-- Letters, letter numbers and the further alphabetic characters. -/
def isAlphabetic (c : Char) : Bool :=
  inTables Category.letterTables c || Category.letterNumberRanges.has c ||
    alphabeticMarksRanges.has c || otherAlphabeticRanges.has c

/-- Decimal digits, letter numbers and other numbers. -/
def isNumeric (c : Char) : Bool :=
  inTables Category.numberTables c

/-- Characters in lower case. -/
def isLowercase (c : Char) : Bool :=
  Category.lowercaseLetterRanges.has c || otherLowercaseRanges.has c

/-- Characters in upper case. -/
def isUppercase (c : Char) : Bool :=
  Category.uppercaseLetterRanges.has c || otherUppercaseRanges.has c

/-- Characters that take part in case. -/
def isCased (c : Char) : Bool :=
  isLowercase c || isUppercase c || Category.titlecaseLetterRanges.has c

/-- Characters that extend the character before them. -/
def isGraphemeExtend (c : Char) : Bool :=
  Category.nonspacingMarkRanges.has c || Category.enclosingMarkRanges.has c ||
    otherGraphemeExtendRanges.has c

/-- Characters that may begin an identifier. -/
def isIdentifierStart (c : Char) : Bool :=
  (inTables Category.letterTables c || Category.letterNumberRanges.has c ||
    otherIdentifierStartRanges.has c) && !notIdentifierStartRanges.has c

/-- Characters that may continue an identifier. -/
def isIdentifierContinue (c : Char) : Bool :=
  isIdentifierStart c || Category.nonspacingMarkRanges.has c || Category.spacingMarkRanges.has c ||
    Category.decimalNumberRanges.has c || Category.connectorPunctuationRanges.has c ||
    otherIdentifierContinueRanges.has c

/-- Characters that case conversion looks through. -/
def isCaseIgnorable (c : Char) : Bool :=
  Category.nonspacingMarkRanges.has c || Category.enclosingMarkRanges.has c ||
    Category.formatRanges.has c || Category.modifierLetterRanges.has c ||
    Category.modifierSymbolRanges.has c || otherCaseIgnorableRanges.has c

/-- Characters of words: alphabetic characters, marks, digits, connectors and joiners. -/
def isWord (c : Char) : Bool :=
  isAlphabetic c || isMark c || Category.decimalNumberRanges.has c ||
    Category.connectorPunctuationRanges.has c || joinControlRanges.has c

/-- Binary properties by name. -/
def table : List (List String × (Char → Bool)) := [
  (["alphabetic", "alpha"], isAlphabetic),
  (["lowercase", "lower"], isLowercase),
  (["uppercase", "upper"], isUppercase),
  (["whitespace", "wspace", "space"], isWhiteSpace),
  (["cased"], isCased),
  (["caseignorable", "ci"], isCaseIgnorable),
  (["graphemeextend", "grext"], isGraphemeExtend),
  (["idstart", "ids"], isIdentifierStart),
  (["idcontinue", "idc"], isIdentifierContinue),
  (["xidstart", "xids"], fun c => isIdentifierStart c && !notExtendedStartRanges.has c),
  (["xidcontinue", "xidc"], fun c => isIdentifierContinue c && !notExtendedContinueRanges.has c),
  (["emoji"], emojiRanges.has),
  (["emojipresentation", "epres"], emojiPresentationRanges.has),
  (["emojimodifier", "emod"], emojiModifierRanges.has),
  (["emojimodifierbase", "ebase"], emojiModifierBaseRanges.has),
  (["emojicomponent", "ecomp"], emojiComponentRanges.has),
  (["extendedpictographic", "extpict"], extendedPictographicRanges.has),
  (["math"], mathRanges.has),
  (["dash"], dashRanges.has),
  (["hexdigit", "hex"], hexDigitRanges.has),
  (["asciihexdigit", "ahex"], asciiHexDigitRanges.has),
  (["ideographic", "ideo"], ideographicRanges.has),
  (["unifiedideograph", "uideo"], unifiedIdeographRanges.has),
  (["diacritic", "dia"], diacriticRanges.has),
  (["defaultignorablecodepoint", "di"], defaultIgnorableCodePointRanges.has),
  (["joincontrol", "joinc"], joinControlRanges.has),
  (["quotationmark", "qmark"], quotationMarkRanges.has),
  (["extender", "ext"], extenderRanges.has),
  (["noncharactercodepoint", "nchar"], noncharacterCodePointRanges.has),
  (["variationselector", "vs"], variationSelectorRanges.has),
  (["regionalindicator", "ri"], regionalIndicatorRanges.has),
  (["sentenceterminal", "sterm"], sentenceTerminalRanges.has),
  (["terminalpunctuation", "term"], terminalPunctuationRanges.has),
  (["softdotted", "sd"], softDottedRanges.has),
  (["radical"], radicalRanges.has),
  (["patternwhitespace", "patws"], patternWhiteSpaceRanges.has),
  (["patternsyntax", "patsyn"], patternSyntaxRanges.has),
  (["bidicontrol", "bidic"], bidiControlRanges.has),
  (["logicalorderexception", "loe"], logicalOrderExceptionRanges.has),
  (["deprecated", "dep"], deprecatedRanges.has)]

/-- Drop the spaces, hyphens, underscores and foreign characters of a name, and lower its case. -/
def plainChars (name : List Char) : List Char :=
  name.filterMap fun c =>
    if c == ' ' || c == '-' || c == '_' || c.toNat ≥ 128 then none else some c.toLower

/-- The plain form of a name. A leading "is" does not count, except in the name "isc". -/
def plainName (name : List Char) : String :=
  let rest := plainChars (name.drop 2)
  if (name.take 2).map Char.toLower = ['i', 's'] && rest ≠ ['c'] then String.ofList rest
  else String.ofList (plainChars name)

/-- The category or group of categories of a name. -/
def category? (name : String) : Option (Char → Bool) :=
  if name == "any" then some fun _ => true
  else if name == "assigned" then some isAssigned
  else if name == "ascii" then some fun c => c.toNat < 128
  else if Category.unassignedNames.contains name then some fun c => !isAssigned c
  else if Category.otherNames.contains name then
    some fun c => inTables Category.otherTables c || !isAssigned c
  else
    (Category.table.find? fun entry => entry.1.contains name).map fun entry => inTables entry.2

/-- The script of a name. -/
def script? (name : String) : Option (Char → Bool) :=
  (Script.find? name).map Ranges.has

/-- Names that are read as a category though a property has the same short name. -/
def categoryFirst : List String := ["cf", "sc", "lc"]

/-- The set of a bare name: a property, else a category, else a script. -/
def named? (name : List Char) : Option (Char → Bool) :=
  let plain := plainName name
  let property :=
    if categoryFirst.contains plain then none
    else (table.find? fun entry => entry.1.contains plain).map Prod.snd
  property <|> category? plain <|> script? plain

/-- The set of a kind and a name. -/
def valued? (kind name : List Char) : Option (Char → Bool) :=
  let kind := plainName kind
  if kind == "generalcategory" || kind == "gc" then category? (plainName name)
  else if kind == "script" || kind == "sc" then script? (plainName name)
  else none

end Property

end Scrutiny.Text
