/-!
# Escape — texts as regular expressions that match only themselves

Each character with a meaning in regular expressions gets a backslash before it.

* `isSyntaxChar` — the characters with such a meaning;
* `escape` — the escaped form of a text.
-/

namespace PriorityLexer

def isSyntaxChar (c : Char) : Bool :=
  match c with
  | '^' | '$' | '\\' | '.' | '*' | '+' | '?' | '(' | ')' | '[' | ']' | '\x7b' | '\x7d' | '|' => true
  | _ => false

def escapeChars : List Char → List Char
  | [] => []
  | c :: cs => if isSyntaxChar c then '\\' :: c :: escapeChars cs else c :: escapeChars cs

def escape (text : String) : String :=
  .ofList (escapeChars text.toList)

theorem toList_escape (text : String) : (escape text).toList = escapeChars text.toList :=
  String.toList_ofList

end PriorityLexer
