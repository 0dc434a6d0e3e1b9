import PriorityLexer.Decimal.Shortest
import PriorityLexer.Json.Value
import PriorityLexer.Text.Hex

/-!
# Printer — the text of a JSON value

Strings escape quotation marks, backslashes and control characters, and nothing else.  Values are
written without white space.

* `quoteChar` — the form of a character inside a string;
* `Number.write`, `Value.write` — texts of numbers and values.
-/

namespace PriorityLexer.Json

def quoteChar : Char → List Char
  | '"' => ['\\', '"']
  | '\\' => ['\\', '\\']
  | '\x08' => ['\\', 'b']
  | '\x0c' => ['\\', 'f']
  | '\n' => ['\\', 'n']
  | '\r' => ['\\', 'r']
  | '\t' => ['\\', 't']
  | c =>
    if c.toNat < 0x10 then "\\u000".toList ++ (hexText c.toNat).toList
    else if c.toNat < 0x20 then "\\u00".toList ++ (hexText c.toNat).toList
    else [c]

def writeString (s : String) : List Char :=
  '"' :: s.toList.flatMap quoteChar ++ ['"']

def Number.write : Number → List Char
  | .natural n => (toString n).toList
  | .negative n => '-' :: (toString n).toList
  | .double sign magnitude => (if sign then ['-'] else []) ++ magnitude.text.toList

mutual

def Value.write : Value → List Char
  | .null => "null".toList
  | .bool true => "true".toList
  | .bool false => "false".toList
  | .number n => n.write
  | .string s => writeString s
  | .array items => '[' :: Value.writeItems items ++ [']']
  | .object entries => '\x7b' :: Value.writeEntries entries ++ ['\x7d']

def Value.writeItems : List Value → List Char
  | [] => []
  | [v] => v.write
  | v :: vs => v.write ++ ',' :: Value.writeItems vs

def Value.writeEntries : List (String × Value) → List Char
  | [] => []
  | [(key, v)] => writeString key ++ ':' :: v.write
  | (key, v) :: entries => writeString key ++ ':' :: v.write ++ ',' :: Value.writeEntries entries

end

def Value.text (v : Value) : String :=
  .ofList v.write

end PriorityLexer.Json
