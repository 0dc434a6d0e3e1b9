import PriorityLexer.Unicode.WordBreak

/-!
# SentenceBreak — how characters join into sentences

The classes that the rules for sentences speak of, in Unicode 16.

* `SentenceBreak` — the classes; a character without one neither ends a sentence nor keeps it going;
* `SentenceBreak.set` — the characters of a class;
* `SentenceBreak.find?` — the characters of a class by its long or short name in loose form.
-/

namespace PriorityLexer.Unicode

inductive SentenceBreak where
  | carriageReturn | lineFeed | separator | extend | format | space | lower | upper | otherLetter
  | numeric | ambiguousTerminal | terminal | close | continuation
deriving DecidableEq, Repr

namespace SentenceBreak

/-! ## Marks, spaces and numbers -/

def extending : CharSet :=
  (Property.graphemeExtend.union GeneralCategory.spacingMark.set).union (.ofText "200D")

def formatting : CharSet :=
  GeneralCategory.format.set.diff
    ((extending.union WordBreak.unbrokenNumbers).union (.ofText "200C-200D"))

/-- Characters that end a paragraph, apart from line feed and carriage return. -/
def separators : CharSet :=
  .ofText "85 2028-2029"

def spaces : CharSet :=
  Property.whiteSpace.diff (separators.union (.ofText "A D"))

def numbers : CharSet :=
  WordBreak.unbrokenNumbers.union (.ofText "FF10-FF19")

/-! ## Letters -/

/-- Georgian letters, which have capital forms and do not begin a sentence with one. -/
def mkhedruli : CharSet :=
  .ofText "10D0-10FA 10FD-10FF"

/-- The capital forms of the Georgian letters. -/
def mtavruli : CharSet :=
  .ofText "1C90-1CBA 1CBD-1CBF"

def lowerLetters : CharSet :=
  Property.lowercase.diff (Property.graphemeExtend.union mkhedruli)

def upperLetters : CharSet :=
  (Property.titlecase.union Property.uppercase).diff mtavruli

/-- Letters without case, and two signs that are used like them. -/
def otherLetters : CharSet :=
  (Property.alphabetic.union (.ofText "A0 5F3")).diff
    ((lowerLetters.union upperLetters).union ((extending.union spaces).union numbers))

/-! ## Punctuation -/

/-- Full stops, which end a sentence or an abbreviation. -/
def fullStops : CharSet :=
  .ofText "2E 2024 FE52 FF0E"

def terminals : CharSet :=
  Property.sentenceTerminal.diff fullStops

/-- Quotation marks, of which the same one may open and close. -/
def quotations : CharSet :=
  .ofText "22 27 AB BB 2018-2019 201B-201D 201F 2039-203A 275B-2760 2E00-2E0D 2E1C-2E1D
    2E20-2E21 1F676-1F678"

def closing : CharSet :=
  ((GeneralCategory.setOf [.openPunctuation, .closePunctuation]).union quotations).diff
    (fullStops.union terminals)

/-! ## Classes -/

def set : SentenceBreak → CharSet
  | carriageReturn => .ofText "D"
  | lineFeed => .ofText "A"
  | separator => separators
  | extend => extending
  | format => formatting
  | space => spaces
  | lower => lowerLetters
  | upper => upperLetters
  | otherLetter => otherLetters
  | numeric => numbers
  | ambiguousTerminal => fullStops
  | terminal => terminals
  | close => closing
  | continuation =>
    .ofText "2C-2D 3A-3B 37E 55D 60C-60D 7F8 1802 1808 2013-2014 3001 FE10-FE11 FE13-FE14
      FE31-FE32 FE50-FE51 FE54-FE55 FE58 FE63 FF0C-FF0D FF1A-FF1B FF64"

/-- The classes by short and long names, in lower case and without separators. -/
def named : List (List String × SentenceBreak) :=
  [(["cr"], carriageReturn),
   (["lf"], lineFeed),
   (["se", "sep"], separator),
   (["ex", "extend"], extend),
   (["fo", "format"], format),
   (["sp"], space),
   (["lo", "lower"], lower),
   (["up", "upper"], upper),
   (["le", "oletter"], otherLetter),
   (["nu", "numeric"], numeric),
   (["at", "aterm"], ambiguousTerminal),
   (["st", "sterm"], terminal),
   (["cl", "close"], close),
   (["sc", "scontinue"], continuation)]

def find? (name : String) : Option CharSet :=
  (named.find? (·.1.contains name)).map (set ·.2)

end SentenceBreak

end PriorityLexer.Unicode
