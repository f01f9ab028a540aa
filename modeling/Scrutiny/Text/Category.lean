import Scrutiny.Text.Category.Letters
import Scrutiny.Text.Category.Marks
import Scrutiny.Text.Category.Numbers
import Scrutiny.Text.Category.Punctuation
import Scrutiny.Text.Category.Symbols
import Scrutiny.Text.Category.Others

/-! # General categories

Every code point has one general category. Categories form groups with names of their own, and a
code point in none of the tables is unassigned.
-/

namespace Scrutiny.Text

namespace Category

/-- Letters of every kind. -/
def letterTables : List Ranges :=
  [uppercaseLetterRanges, lowercaseLetterRanges, titlecaseLetterRanges, modifierLetterRanges,
    otherLetterRanges]

/-- Marks of every kind. -/
def markTables : List Ranges :=
  [nonspacingMarkRanges, spacingMarkRanges, enclosingMarkRanges]

/-- Numbers of every kind. -/
def numberTables : List Ranges :=
  [decimalNumberRanges, letterNumberRanges, otherNumberRanges]

/-- Punctuation of every kind. -/
def punctuationTables : List Ranges :=
  [connectorPunctuationRanges, dashPunctuationRanges, openPunctuationRanges,
    closePunctuationRanges, initialPunctuationRanges, finalPunctuationRanges,
    otherPunctuationRanges]

/-- Symbols of every kind. -/
def symbolTables : List Ranges :=
  [mathSymbolRanges, currencySymbolRanges, modifierSymbolRanges, otherSymbolRanges]

/-- Separators of every kind. -/
def separatorTables : List Ranges :=
  [spaceSeparatorRanges, lineSeparatorRanges, paragraphSeparatorRanges]

/-- Control, format, surrogate and private-use code points. -/
def otherTables : List Ranges :=
  [controlRanges, formatRanges, surrogateRanges, privateUseRanges]

/-- The tables of all assigned code points. -/
def assignedTables : List Ranges :=
  letterTables ++ markTables ++ numberTables ++ punctuationTables ++ symbolTables ++
    separatorTables ++ otherTables

end Category

/-- Whether a character lies in one of several tables. -/
def inTables (tables : List Ranges) (c : Char) : Bool :=
  tables.any fun ranges => ranges.has c

/-- Whether a character has a category at all. -/
def isAssigned (c : Char) : Bool :=
  inTables Category.assignedTables c

/-- Whether a character is a mark that combines with the character before it. -/
def isMark (c : Char) : Bool :=
  inTables Category.markTables c

namespace Category

/-- The categories and their groups by name, in lower case and without separators. -/
def table : List (List String × List Ranges) := [
  (["l", "letter"], letterTables),
  (["lc", "casedletter"], [uppercaseLetterRanges, lowercaseLetterRanges, titlecaseLetterRanges]),
  (["lu", "uppercaseletter"], [uppercaseLetterRanges]),
  (["ll", "lowercaseletter"], [lowercaseLetterRanges]),
  (["lt", "titlecaseletter"], [titlecaseLetterRanges]),
  (["lm", "modifierletter"], [modifierLetterRanges]),
  (["lo", "otherletter"], [otherLetterRanges]),
  (["m", "mark", "combiningmark"], markTables),
  (["mn", "nonspacingmark"], [nonspacingMarkRanges]),
  (["mc", "spacingmark"], [spacingMarkRanges]),
  (["me", "enclosingmark"], [enclosingMarkRanges]),
  (["n", "number"], numberTables),
  (["nd", "decimalnumber", "digit"], [decimalNumberRanges]),
  (["nl", "letternumber"], [letterNumberRanges]),
  (["no", "othernumber"], [otherNumberRanges]),
  (["p", "punctuation", "punct"], punctuationTables),
  (["pc", "connectorpunctuation"], [connectorPunctuationRanges]),
  (["pd", "dashpunctuation"], [dashPunctuationRanges]),
  (["ps", "openpunctuation"], [openPunctuationRanges]),
  (["pe", "closepunctuation"], [closePunctuationRanges]),
  (["pi", "initialpunctuation"], [initialPunctuationRanges]),
  (["pf", "finalpunctuation"], [finalPunctuationRanges]),
  (["po", "otherpunctuation"], [otherPunctuationRanges]),
  (["s", "symbol"], symbolTables),
  (["sm", "mathsymbol"], [mathSymbolRanges]),
  (["sc", "currencysymbol"], [currencySymbolRanges]),
  (["sk", "modifiersymbol"], [modifierSymbolRanges]),
  (["so", "othersymbol"], [otherSymbolRanges]),
  (["z", "separator"], separatorTables),
  (["zs", "spaceseparator"], [spaceSeparatorRanges]),
  (["zl", "lineseparator"], [lineSeparatorRanges]),
  (["zp", "paragraphseparator"], [paragraphSeparatorRanges]),
  (["cc", "control", "cntrl"], [controlRanges]),
  (["cf", "format"], [formatRanges]),
  (["cs", "surrogate"], [surrogateRanges]),
  (["co", "privateuse"], [privateUseRanges])]

/-- The names of the group of everything that is not a letter, mark, number, sign or space. -/
def otherNames : List String := ["c", "other"]

/-- The names of the category of unassigned code points. -/
def unassignedNames : List String := ["cn", "unassigned"]

end Category

end Scrutiny.Text
