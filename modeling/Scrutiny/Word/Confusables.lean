import Scrutiny.Pattern.Escape

/-! # Confusable characters

Characters that readers take for one another form classes, and every character of a class is matched
by the same pattern. A builder takes the classes one after the other. It keeps them in numbered
slots, with an index from each character to the slot of its class. A class that shares characters
with others is merged with them: the slots of the others are emptied into the first one. In the end
the slots that are not empty give each character its pattern.
-/

namespace Scrutiny.Word

namespace Confusables

section Ordered

variable {α : Type} [LT α] [DecidableLT α] [DecidableEq α]

/-- Put an item into an ascending list, unless it is there. -/
def insertAscending (item : α) : List α → List α
  | [] => [item]
  | first :: rest =>
    if item < first then item :: first :: rest
    else if item = first then first :: rest
    else first :: insertAscending item rest

/-- Put several items into an ascending list. -/
def unite (sorted items : List α) : List α :=
  items.foldl (fun sorted item => insertAscending item sorted) sorted

/-- The items of a list in ascending order, each once. -/
def ascending (items : List α) : List α :=
  unite [] items

end Ordered

section Assigning

variable {α : Type}

/-- Give a character a value, in place of the one it had. -/
def assign (entries : List (Char × α)) (c : Char) (value : α) : List (Char × α) :=
  (c, value) :: entries.filter fun entry => entry.1 != c

/-- Give several characters one value. -/
def assignAll (entries : List (Char × α)) (members : List Char) (value : α) : List (Char × α) :=
  members.foldl (fun entries c => assign entries c value) entries

end Assigning

/-- The bracketed pattern of a class: its characters in order, each standing for itself. -/
def bracketed (members : List Char) : List Char :=
  '[' :: (Pattern.escapeChars members ++ [']'])

/-- Classes that are being put together. -/
structure Builder where
  /-- The classes, each in ascending order. One that has been merged into another leaves an empty
  slot. -/
  slots : List (List Char)
  /-- The slot of each character that has a class. -/
  index : List (Char × Nat)

namespace Builder

/-- No classes at all. -/
def empty : Builder := ⟨[], []⟩

/-- What a slot holds. -/
def slotAt (slots : List (List Char)) (place : Nat) : List Char :=
  slots.getD place []

/-- Empty a slot into another one. -/
def merge (target : Nat) (slots : List (List Char)) (other : Nat) : List (List Char) :=
  let moved := slotAt slots other
  (slots.set other []).modify target fun members => unite members moved

/-- Put characters into a slot, together with what some other slots hold. These are emptied. -/
def gather (slots : List (List Char)) (target : Nat) (others : List Nat) (chars : List Char) :
    List (List Char) :=
  (others.foldl (merge target) slots).modify target fun members => unite members chars

/-- The slots that hold some of several characters. -/
def touched (builder : Builder) (chars : List Char) : List Nat :=
  ascending (chars.filterMap fun c => builder.index.lookup c)

/-- Make all characters of a list confusable with one another, and with whatever any of them was
confusable with. A list with fewer than two different characters says nothing. -/
def addClass (builder : Builder) (chars : List Char) : Builder :=
  let incoming := ascending chars
  if incoming.length < 2 then builder
  else
    -- The class goes to the first slot that it touches, or to a new one.
    let (target, others, slots) := match builder.touched incoming with
      | first :: rest => (first, rest, builder.slots)
      | [] => (builder.slots.length, [], builder.slots ++ [[]])
    let slots := gather slots target others incoming
    ⟨slots, assignAll builder.index (slotAt slots target) target⟩

/-- Add several classes in turn. -/
def addAll (builder : Builder) (lists : List (List Char)) : Builder :=
  lists.foldl addClass builder

/-- The pattern of every character that has a class. -/
def build (builder : Builder) : List (Char × List Char) :=
  let classes := builder.slots.filter fun members => !members.isEmpty
  classes.foldl (fun fragments members => assignAll fragments members (bracketed members)) []

end Builder

end Confusables

/-- A table of the patterns of characters, with the builder that it was built by. -/
structure Confusables where
  builder : Confusables.Builder
  fragments : List (Char × List Char)
  fragments_eq : fragments = builder.build

namespace Confusables

/-- The table that a builder builds. -/
def ofBuilder (builder : Builder) : Confusables :=
  ⟨builder, builder.build, rfl⟩

/-- A table without characters. -/
def none : Confusables :=
  ofBuilder .empty

/-- The table with several classes more. -/
def addAll (confusables : Confusables) (lists : List (List Char)) : Confusables :=
  ofBuilder (confusables.builder.addAll lists)

/-- The pattern that stands for a character, if it has a class. -/
def fragment (confusables : Confusables) (c : Char) : Option (List Char) :=
  confusables.fragments.lookup c

/-- The number of characters that have a class. -/
def size (confusables : Confusables) : Nat :=
  confusables.fragments.length

/-- Accented forms of Latin letters. -/
def accented : List (Char × String) := [
  ('a', "àÀáÁâÂãÃäÄåÅāĀăĂąĄ"),
  ('c', "çÇćĆĉĈċĊčČ"),
  ('d', "ďĎđĐ"),
  ('e', "èÈéÉêÊëËēĒĕĔėĖęĘěĚ"),
  ('g', "ĝĜğĞġĠģĢ"),
  ('h', "ĥĤħĦ"),
  ('i', "ìÌíÍîÎïÏĩĨīĪĭĬįĮıI"),
  ('j', "ĵĴ"),
  ('k', "ķĶ"),
  ('l', "ĺĹļĻľĽŀĿłŁ"),
  ('n', "ñÑńŃņŅňŇ"),
  ('o', "òÒóÓôÔõÕöÖøØōŌŏŎőŐ"),
  ('r', "ŕŔŗŖřŘ"),
  ('s', "śŚŝŜşŞšŠ"),
  ('t', "ţŢťŤŧŦ"),
  ('u', "ùÙúÚûÛüÜũŨūŪŭŬůŮűŰųŲ"),
  ('w', "ŵŴ"),
  ('y', "ýÝÿŸŷŶ"),
  ('z', "źŹżŻžŽ")]

/-- Cyrillic and Greek letters that look like Latin ones. -/
def lookalikes : List (Char × String) := [
  ('a', "аАαΑ"),
  ('c', "сС"),
  ('e', "еЕ"),
  ('h', "һҺ"),
  ('i', "іІιΙ"),
  ('j', "јЈ"),
  ('k', "κΚ"),
  ('o', "оОοΟ"),
  ('p', "рРρΡ"),
  ('s', "ѕЅ"),
  ('x', "хХχΧ"),
  ('y', "уУ")]

/-- The variants that a table lists for a letter. -/
def variants (table : List (Char × String)) (letter : Char) : List Char :=
  (table.filter fun entry => entry.1 == letter).flatMap fun entry => entry.2.toList

/-- A number of characters in a row. -/
def row (first count : Nat) : List Char :=
  (List.range count).map fun offset => Char.ofNat (first + offset)

/-- The first members of the rows of Latin letters: full-width small and capital, circled small and
capital, in parentheses, and squared in two ways. -/
def letterRows : List Nat := [0xFF41, 0xFF21, 0x24D0, 0x24B6, 0x249C, 0x1F130, 0x1F170]

/-- The class of each Latin letter. -/
def latinLetters : List (List Char) :=
  (List.range 26).map fun offset =>
    let letter := Char.ofNat ('a'.toNat + offset)
    [letter, letter.toUpper] ++ letterRows.map (fun first => Char.ofNat (first + offset)) ++
      variants accented letter ++ variants lookalikes letter

/-- The first members of the rows of the digits from one on: circled, in parentheses, with a full
stop, and circled in negative. -/
def digitRows : List Nat := [0x2460, 0x2474, 0x2488, 0x2776]

/-- The class of each digit. -/
def digits : List (List Char) :=
  (List.range 10).map fun digit =>
    [Char.ofNat ('0'.toNat + digit), Char.ofNat (0xFF10 + digit)] ++
      (if digit = 0 then [Char.ofNat 0x24EA]
        else digitRows.map fun first => Char.ofNat (first + digit - 1))

/-- The katakana that have a half-width form, in the order of those forms. -/
def halfWidthKatakana : List Char :=
  "アイウエオカキクケコサシスセソタチツテトナニヌネノハヒフヘホマミムメモヤユヨラリルレロワン".toList

/-- Hiragana with katakana, katakana with their half-width forms, and the long vowel marks. -/
def kana : List (List Char) :=
  ((row 0x3041 86).zip (row 0x30A1 86)).map (fun pair => [pair.1, pair.2]) ++
    ((row 0xFF71 halfWidthKatakana.length).zip halfWidthKatakana).map
      (fun pair => [pair.1, pair.2]) ++
    [['ー', 'ｰ', '－']]

/-- Latin letters, digits and kana. -/
def standard : Confusables :=
  none.addAll (latinLetters ++ digits ++ kana)

end Confusables

end Scrutiny.Word
