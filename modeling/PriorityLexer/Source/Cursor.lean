import PriorityLexer.Source.Tree
import PriorityLexer.Unicode.Additions

/-!
# Cursor — a place in the source of a regular expression

Where blanks are ignored, moving over a character also moves over the white space and comments that
follow it; a comment reaches from `#` to the end of the line.

* `Cursor.skipBlanks`, `Cursor.next` — moving on;
* `Cursor.gather` — reading a run of characters;
* `isMeta`, `isBlank`, `isNameStart`, `isNamePart` — the classes of characters of the grammar.
-/

namespace PriorityLexer.Source

/-! ## Classes of characters -/

/-- Characters with a meaning of their own somewhere in the grammar. -/
def isMeta (c : Char) : Bool :=
  "\\.+*?()|[]\x7b\x7d^$#&-~".toList.contains c

/-- Characters that stand for themselves after a backslash. -/
def isEscapable (c : Char) : Bool :=
  c.toNat < 0x80 && !c.isAlphanum && c != '<' && c != '>'

def isBlank (c : Char) : Bool :=
  Unicode.Property.whiteSpace.contains c

/-- Names may hold the letters of Unicode 17, one version later than patterns match. -/
def isNameLetter (c : Char) : Bool :=
  Unicode.Property.alphabetic.contains c || Unicode.Additions.alphabetic.contains c

def isNameNumber (c : Char) : Bool :=
  Unicode.Property.numeric.contains c || Unicode.Additions.numeric.contains c

def isNameStart (c : Char) : Bool :=
  c = '_' || isNameLetter c

def isNamePart (c : Char) : Bool :=
  c = '_' || c = '.' || c = '[' || c = ']' || isNameLetter c || isNameNumber c

/-! ## Moving -/

/-- An index and the characters from there on. -/
structure Cursor where
  pos : Nat
  rest : List Char
deriving DecidableEq, Repr

namespace Cursor

def ofSource (source : List Char) : Cursor := ⟨0, source⟩

def atEnd (c : Cursor) : Bool := c.rest.isEmpty

def peek? (c : Cursor) : Option Char := c.rest.head?

/-- Moves over one character. -/
def bump (c : Cursor) : Cursor :=
  match c.rest with
  | [] => c
  | _ :: rest => ⟨c.pos + 1, rest⟩

/-- Skips white space and comments; `comment` tells whether a comment has begun. -/
def skipFrom (comment : Bool) (pos : Nat) : List Char → Cursor
  | [] => ⟨pos, []⟩
  | a :: rest =>
    if comment then skipFrom (a != '\n') (pos + 1) rest
    else if isBlank a then skipFrom false (pos + 1) rest
    else if a = '#' then skipFrom true (pos + 1) rest
    else ⟨pos, a :: rest⟩

/-- Skips white space and comments if blanks are ignored. -/
def skipBlanks (ignoreSpace : Bool) (c : Cursor) : Cursor :=
  if ignoreSpace then skipFrom false c.pos c.rest else c

/-- Moves over one character and the blanks behind it. -/
def next (ignoreSpace : Bool) (c : Cursor) : Cursor :=
  c.bump.skipBlanks ignoreSpace

def skipWhiteFrom (pos : Nat) : List Char → Cursor
  | [] => ⟨pos, []⟩
  | a :: rest => if isBlank a then skipWhiteFrom (pos + 1) rest else ⟨pos, a :: rest⟩

/-- Skips white space, even if blanks are not ignored. -/
def skipWhite (c : Cursor) : Cursor :=
  skipWhiteFrom c.pos c.rest

/-- Reads characters that satisfy `p` and passes over blanks between them. -/
def gatherFrom (ignoreSpace : Bool) (p : Char → Bool) (comment : Bool) (pos : Nat) :
    List Char → List Char × Cursor
  | [] => ([], ⟨pos, []⟩)
  | a :: rest =>
    if comment then gatherFrom ignoreSpace p (a != '\n') (pos + 1) rest
    else if ignoreSpace && isBlank a then gatherFrom ignoreSpace p false (pos + 1) rest
    else if ignoreSpace && a = '#' then gatherFrom ignoreSpace p true (pos + 1) rest
    else if p a then
      let (as, c) := gatherFrom ignoreSpace p false (pos + 1) rest
      (a :: as, c)
    else ([], ⟨pos, a :: rest⟩)

def gather (ignoreSpace : Bool) (p : Char → Bool) (c : Cursor) : List Char × Cursor :=
  gatherFrom ignoreSpace p false c.pos c.rest

/-- Moves over a text that comes next. -/
def skipText? (text : List Char) (c : Cursor) : Option Cursor :=
  if text.isPrefixOf c.rest then some ⟨c.pos + text.length, c.rest.drop text.length⟩ else none

end Cursor

end PriorityLexer.Source
