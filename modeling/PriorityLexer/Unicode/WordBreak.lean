import PriorityLexer.Unicode.GraphemeBreak
import PriorityLexer.Unicode.Script

/-!
# WordBreak — how characters join into words

The classes that the rules for words speak of, in Unicode 16.  Letters and numbers follow from other
properties; letters of a script that is written without spaces have no class, since rules alone do
not find the words in it.

* `WordBreak` — the classes; a character without one is a word of its own;
* `WordBreak.set` — the characters of a class;
* `WordBreak.find?` — the characters of a class by its long or short name in loose form.
-/

namespace PriorityLexer.Unicode

inductive WordBreak where
  | carriageReturn | lineFeed | newline | extend | zeroWidthJoiner | format | regionalIndicator
  | katakana | hebrewLetter | letter | singleQuote | doubleQuote | midNumLet | midLetter | midNum
  | numeric | extendNumLet | segmentSpace
deriving DecidableEq, Repr

namespace WordBreak

/-! ## Marks and signs -/

def extending : CharSet :=
  GraphemeBreak.extending.union GeneralCategory.spacingMark.set

/-- Format characters that neither join what is around them nor part words. -/
def formatting : CharSet :=
  GeneralCategory.format.set.diff
    ((GraphemeBreak.prepended.union extending).union (.ofText "200B-200D"))

/-! ## Numbers -/

/-- Digits, separators inside numbers, and signs before them; a line is not broken in between. -/
def unbrokenNumbers : CharSet :=
  ((GeneralCategory.decimalNumber.set.diff (.ofText "FF10-FF19")).union
    (Property.prependedConcatenationMark.diff (.ofText "70F"))).union (.ofText "66B-66C 19DA")

def numbers : CharSet :=
  (unbrokenNumbers.union (.ofText "FF10-FF19")).diff (.ofText "66C")

/-! ## Letters -/

def katakanaLetters : CharSet :=
  ((Script.find? "katakana").getD .empty).union
    (.ofText "3031-3035 309B-309C 30A0 30FC FF70")

def hebrewLetters : CharSet :=
  ((Script.find? "hebrew").getD .empty).inter GeneralCategory.otherLetter.set

/-- Letters and marks of scripts in which words are not set apart. -/
def unspaced : CharSet :=
  .ofText "E01-E3A E40-E4E E81-E82 E84 E86-E8A E8C-EA3 EA5 EA7-EBD EC0-EC4 EC6 EC8-ECE EDC-EDF
    1000-103F 1050-108F 109A-109F 1780-17D3 17D7 17DC-17DD 1950-196D 1970-1974 1980-19AB
    19B0-19C9 19DE-19DF 1A20-1A5E 1A60-1A7C 1AA0-1AAD A9E0-A9EF A9FA-A9FE AA60-AAC2 AADB-AADF
    11700-1171A 1171D-1172B 1173A-1173B 1173F-11746"

/-- Signs that are used like letters although they are not alphabetic. -/
def letterLike : CharSet :=
  .ofText "B8 2C2-2C5 2D2-2D7 2DE-2DF 2E5-2EB 2ED 2EF-2FF 55A-55C 55E 58A 5F3 70F A708-A716
    A720-A721 A789-A78A AB5B"

def letters : CharSet :=
  let hiragana := (Script.find? "hiragana").getD .empty
  let syllabic := (Property.ideographic.union katakanaLetters).union (hiragana.union unspaced)
  let classed := (extending.union hebrewLetters).union unbrokenNumbers
  (Property.alphabetic.union letterLike).diff (syllabic.union classed)

/-! ## Classes -/

def set : WordBreak → CharSet
  | carriageReturn => .ofText "D"
  | lineFeed => .ofText "A"
  | newline => .ofText "B-C 85 2028-2029"
  | extend => extending
  | zeroWidthJoiner => .ofText "200D"
  | format => formatting
  | regionalIndicator => Property.regionalIndicator
  | katakana => katakanaLetters
  | hebrewLetter => hebrewLetters
  | letter => letters
  | singleQuote => .ofText "27"
  | doubleQuote => .ofText "22"
  | midNumLet => .ofText "2E 2018-2019 2024 FE52 FF07 FF0E"
  | midLetter => .ofText "3A B7 387 55F 5F4 2027 FE13 FE55 FF1A"
  | midNum => .ofText "2C 3B 37E 589 60C-60D 66C 7F8 2044 FE10 FE14 FE50 FE54 FF0C FF1B"
  | numeric => numbers
  | extendNumLet => GeneralCategory.connectorPunctuation.set.union (.ofText "202F")
  | segmentSpace => .ofText "20 1680 2000-2006 2008-200A 205F 3000"

/-- The classes by short and long names, in lower case and without separators. -/
def named : List (List String × WordBreak) :=
  [(["cr"], carriageReturn),
   (["lf"], lineFeed),
   (["nl", "newline"], newline),
   (["extend"], extend),
   (["zwj"], zeroWidthJoiner),
   (["fo", "format"], format),
   (["ri", "regionalindicator"], regionalIndicator),
   (["ka", "katakana"], katakana),
   (["hl", "hebrewletter"], hebrewLetter),
   (["le", "aletter"], letter),
   (["sq", "singlequote"], singleQuote),
   (["dq", "doublequote"], doubleQuote),
   (["mb", "midnumlet"], midNumLet),
   (["ml", "midletter"], midLetter),
   (["mn", "midnum"], midNum),
   (["nu", "numeric"], numeric),
   (["ex", "extendnumlet"], extendNumLet),
   (["wsegspace"], segmentSpace)]

def find? (name : String) : Option CharSet :=
  (named.find? (·.1.contains name)).map (set ·.2)

end WordBreak

end PriorityLexer.Unicode
