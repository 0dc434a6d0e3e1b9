import PriorityLexer.Text.Hex
import PriorityLexer.Unicode.Additions
import PriorityLexer.Unicode.Property

/-!
# Quoted — text in quotation marks, as messages show it

Quotation marks and backslashes are escaped, and so is every character that cannot be seen: control
and format characters, those without a shape of their own, spaces other than the blank, what
Unicode 17 leaves unassigned, and marks that would join the character before them.

* `quotedChar` — the form of one character;
* `quoted` — the form of a text.
-/

namespace PriorityLexer

/-- Characters that show nothing. -/
def blankShape : CharSet :=
  let known := (Unicode.GeneralCategory.setOf
    [.control, .format, .surrogate, .privateUse, .unassigned, .lineSeparator, .paragraphSeparator,
      .spaceSeparator]).diff (Unicode.Additions.assigned.union (.singleton ' '))
  known.union Unicode.Property.defaultIgnorableCodePoint

/-- Characters that show only together with the one before them; the two halfwidth sound marks have
a width of their own. -/
def joinedShape : CharSet :=
  (Unicode.Property.graphemeExtend.union Unicode.Additions.graphemeExtend).diff
    (.ofText "FF9E-FF9F")

def invisible : CharSet :=
  blankShape.union joinedShape

def quotedChar : Char → List Char
  | '"' => ['\\', '"']
  | '\\' => ['\\', '\\']
  | '\n' => ['\\', 'n']
  | '\r' => ['\\', 'r']
  | '\t' => ['\\', 't']
  | '\x00' => ['\\', '0']
  | c =>
      if invisible.contains c then "\\u\x7b".toList ++ (hexText c.toNat).toList ++ ['\x7d']
      else [c]

def quoted (text : String) : String :=
  .ofList ('"' :: text.toList.flatMap quotedChar ++ ['"'])

end PriorityLexer
