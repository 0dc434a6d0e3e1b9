import PriorityLexer.Unicode.Property

/-!
# GraphemeBreak — how characters join into what a reader sees as one

The classes that the rules for grapheme clusters speak of, in Unicode 16.  Only three of them need
tables of their own: the signs written before their base, the spacing marks that stand apart, and
the Hangul letters.

* `GraphemeBreak` — the classes; a character without one is a cluster of its own;
* `GraphemeBreak.set` — the characters of a class;
* `GraphemeBreak.find?` — the characters of a class by its long or short name in loose form.
-/

namespace PriorityLexer.Unicode

inductive GraphemeBreak where
  | carriageReturn | lineFeed | control | extend | zeroWidthJoiner | regionalIndicator | prepend
  | spacingMark | leadingConsonant | vowel | trailingConsonant | openSyllable | closedSyllable
deriving DecidableEq, Repr

namespace GraphemeBreak

/-! ## Signs and marks -/

/-- Signs that join the character after them. -/
def prepended : CharSet :=
  Property.prependedConcatenationMark.union
    (.ofText "D4E 111C2-111C3 113D1 1193F 11941 11A3A 11A84-11A89 11D46 11F02")

/-- Marks and modifiers that join the character before them whatever it is. -/
def extending : CharSet :=
  Property.graphemeExtend.union Property.emojiModifier

/-- Spacing marks that stand apart. -/
def detached : CharSet :=
  .ofText "102B-102C 1038 1062-1064 1067-106D 1083 1087-108C 108F 109A-109C 1A61 1A63-1A64 AA7B
    AA7D 11720-11721"

/-- Vowels that are letters by their category and joined like spacing marks. -/
def joinedVowels : CharSet :=
  .ofText "E33 EB3"

/-- Vowels of Kirat Rai, which join one another. -/
def joiningVowels : CharSet :=
  .ofText "16D63 16D67-16D6A"

/-- Characters that are not shown, apart from line feed and carriage return and from those that
have a class of their own. -/
def controls : CharSet :=
  let hidden := GeneralCategory.setOf
    [.lineSeparator, .paragraphSeparator, .control, .surrogate, .format]
  let reserved := GeneralCategory.unassigned.set.inter Property.defaultIgnorableCodePoint
  (hidden.union reserved).diff ((prepended.union extending).union (.ofText "A D 200C-200D"))

def spacing : CharSet :=
  (GeneralCategory.spacingMark.set.diff ((extending.union detached).union joiningVowels)).union
    joinedVowels

/-! ## Hangul syllables -/

/-- Where the blocks of syllables begin; a block holds a syllable that ends with its vowel and the
27 that close it with a consonant. -/
def syllableBlocks : List Nat :=
  (List.range 399).map (0xAC00 + 28 * ·)

def openSyllables : CharSet :=
  .ofRanges (syllableBlocks.map fun n => ⟨n, n⟩)

def closedSyllables : CharSet :=
  .ofRanges (syllableBlocks.map fun n => ⟨n + 1, n + 27⟩)

/-! ## Classes -/

def set : GraphemeBreak → CharSet
  | carriageReturn => .ofText "D"
  | lineFeed => .ofText "A"
  | control => controls
  | extend => extending
  | zeroWidthJoiner => .ofText "200D"
  | regionalIndicator => Property.regionalIndicator
  | prepend => prepended
  | spacingMark => spacing
  | leadingConsonant => .ofText "1100-115F A960-A97C"
  | vowel => (CharSet.ofText "1160-11A7 D7B0-D7C6").union joiningVowels
  | trailingConsonant => .ofText "11A8-11FF D7CB-D7FB"
  | openSyllable => openSyllables
  | closedSyllable => closedSyllables

/-- The classes by short and long names, in lower case and without separators. -/
def named : List (List String × GraphemeBreak) :=
  [(["cr"], carriageReturn),
   (["lf"], lineFeed),
   (["cn", "control"], control),
   (["ex", "extend"], extend),
   (["zwj"], zeroWidthJoiner),
   (["ri", "regionalindicator"], regionalIndicator),
   (["pp", "prepend"], prepend),
   (["sm", "spacingmark"], spacingMark),
   (["l"], leadingConsonant),
   (["v"], vowel),
   (["t"], trailingConsonant),
   (["lv"], openSyllable),
   (["lvt"], closedSyllable)]

def find? (name : String) : Option CharSet :=
  (named.find? (·.1.contains name)).map (set ·.2)

end GraphemeBreak

end PriorityLexer.Unicode
