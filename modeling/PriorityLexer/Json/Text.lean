import PriorityLexer.Json.Number
import PriorityLexer.Text.Hex
import PriorityLexer.Text.Place

/-!
# Text — strings of a JSON text

A string is first read as units, characters and numbers written as `\u` with four digits; the
numbers are then joined to characters.  A number from `D800` to `DBFF` needs one from `DC00` to
`DFFF` behind it, and neither stands alone.

* `scanUnits` — the units of a string up to its closing quotation mark;
* `joinUnits` — the characters of the units;
* `scanString` — a string behind its opening quotation mark.
-/

namespace PriorityLexer.Json

/-! ## Units -/

inductive CodeUnit where
  | char (c : Char)
  | code (n : Nat)
deriving DecidableEq, Repr

/-- The character that a letter behind a backslash writes. -/
def escaped? : Char → Option Char
  | '"' => some '"'
  | '\\' => some '\\'
  | '/' => some '/'
  | 'b' => some '\x08'
  | 'f' => some '\x0c'
  | 'n' => some '\n'
  | 'r' => some '\r'
  | 't' => some '\t'
  | _ => none

def hexNumber? (a b c d : Char) : Option Nat := do
  let a ← hexDigit? a
  let b ← hexDigit? b
  let c ← hexDigit? c
  let d ← hexDigit? d
  pure (((a * 16 + b) * 16 + c) * 16 + d)

/-- The units up to the closing quotation mark, and the rest of the text or the flaw that comes
first.  A text that ends within the next four bytes ends inside a number. -/
def scanUnits : List Char → List CodeUnit × Except Flaw (List Char)
  | [] => ([], .error .truncated)
  | '\\' :: 'u' :: a :: b :: c :: d :: rest =>
    match hexNumber? a b c d with
    | some n =>
      let (units, stop) := scanUnits rest
      (.code n :: units, stop)
    | none => ([], .error .malformed)
  | ['\\'] => ([], .error .truncated)
  | '\\' :: a :: rest =>
    -- Fewer than four characters follow.
    if a = 'u' then ([], .error (if byteLength rest < 4 then .truncated else .malformed))
    else
      match escaped? a with
      | some c =>
        let (units, stop) := scanUnits rest
        (.char c :: units, stop)
      | none => ([], .error .malformed)
  | c :: rest =>
    if c = '"' then ([], .ok rest)
    else if c.toNat < 0x20 then ([], .error .malformed)
    else
      let (units, stop) := scanUnits rest
      (.char c :: units, stop)

/-! ## Characters -/

inductive Joined where
  | text (cs : List Char)
  /-- Half of a pair stands alone. -/
  | unpaired
  /-- The units end with the first half of a pair. -/
  | unfinished
deriving DecidableEq, Repr

def isLead (n : Nat) : Bool := 0xD800 ≤ n && n ≤ 0xDBFF

def isTrail (n : Nat) : Bool := 0xDC00 ≤ n && n ≤ 0xDFFF

def Joined.cons (c : Char) : Joined → Joined
  | .text cs => .text (c :: cs)
  | .unpaired => .unpaired
  | .unfinished => .unfinished

def joinUnits : List CodeUnit → Joined
  | [] => .text []
  | .char c :: us => .cons c (joinUnits us)
  | [.code n] =>
    if isTrail n then .unpaired else if isLead n then .unfinished else .text [.ofNat n]
  | .code n :: u :: us =>
    if isTrail n then .unpaired
    else if isLead n then
      match u with
      | .char _ => .unpaired
      | .code m =>
        if isTrail m then
          .cons (.ofNat (0x10000 + (n - 0xD800) * 0x400 + (m - 0xDC00))) (joinUnits us)
        else .unpaired
    else .cons (.ofNat n) (joinUnits (u :: us))

/-! ## Strings -/

/-- Reads a string; the opening quotation mark has been read. -/
def scanString (cs : List Char) : Scan String :=
  match scanUnits cs with
  | (units, .ok rest) =>
    match joinUnits units with
    | .text cs => .found (.ofList cs) rest
    | .unpaired | .unfinished => .valueless rest
  | (units, .error flaw) =>
    match joinUnits units with
    | .unpaired => .broken .malformed flaw
    | .text _ | .unfinished => .broken flaw flaw

end PriorityLexer.Json
