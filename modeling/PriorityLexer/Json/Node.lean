import PriorityLexer.Json.Text
import PriorityLexer.Json.Value

/-!
# Node — the parts of a JSON text that may break off

A text is read into a tree that holds everything up to its first flaw, and the flaw in its place.
What a text means is decided by walking over its tree from left to right, so a fault of meaning that
comes early wins over a flaw that comes late.

* `Node`, `Document` — the tree of a text;
* `Document.ofText` — reads a text;
* `Node.read` — the value of a tree, whose containers may be nested `room` deep;
* `Node.skip` — passes over a tree, however deep it is;
* `Document.finish` — what follows the value of a text: nothing but white space.
-/

namespace PriorityLexer.Json

/-! ## Trees -/

/-- The text of a key. -/
inductive KeyText where
  | text (s : String)
  /-- Complete, but half of a pair stands alone. -/
  | valueless
  | broken (read skip : Flaw)
deriving DecidableEq, Repr

/-- A key with the whole text from its opening quotation mark on, which is read again where a key
stands for a number. -/
structure Key where
  raw : List Char
  text : KeyText
deriving DecidableEq, Repr

inductive Node where
  | null
  | bool (b : Bool)
  | number (n : Number)
  | string (s : String)
  /-- A complete number or string without a value. -/
  | valueless
  /-- The items, and the flaw after the last one if the array is not closed. -/
  | array (items : List Node) (stop : Option Flaw)
  | object (entries : List (Key × Node)) (stop : Option Flaw)
  | broken (read skip : Flaw)
deriving Repr

structure Document where
  root : Node
  /-- Whether anything but white space follows the root. -/
  trailing : Bool
deriving Repr

/-! ## Reading a text -/

/-- What has been read, and the rest of the text unless it broke off. -/
abbrev Step (α : Type) := α × Option (List Char)

/-- Reads the rest of a word. -/
def scanWord (value : Node) : List Char → List Char → Step Node
  | [], rest => (value, some rest)
  | _ :: _, [] => (.broken .truncated .truncated, none)
  | w :: ws, c :: cs =>
    if c = w then scanWord value ws cs else (.broken .malformed .malformed, none)

def numberNode (cs : List Char) : Step Node :=
  match scanNumber cs with
  | .found n rest => (.number n, some rest)
  | .valueless rest => (.valueless, some rest)
  | .broken read skip => (.broken read skip, none)

def stringNode (cs : List Char) : Step Node :=
  match scanString cs with
  | .found s rest => (.string s, some rest)
  | .valueless rest => (.valueless, some rest)
  | .broken read skip => (.broken read skip, none)

/-- Reads a key behind its quotation mark. -/
def scanKey (cs : List Char) : Step Key :=
  match scanString cs with
  | .found s rest => (⟨cs, .text s⟩, some rest)
  | .valueless rest => (⟨cs, .valueless⟩, some rest)
  | .broken read skip => (⟨cs, .broken read skip⟩, none)

/-- A flaw where something else was needed, or nothing was left. -/
def flawAt (rest : List Char) : Flaw :=
  if rest.isEmpty then .truncated else .malformed

mutual

/-- Reads a value; `fuel` is more than the length of the text. -/
def scanNode : Nat → List Char → Step Node
  -- Never reached: every container takes at least one character for two of fuel.
  | 0, _ => (.broken .malformed .malformed, none)
  | fuel + 1, cs =>
    match skipSpace cs with
    | [] => (.broken .truncated .truncated, none)
    | 'n' :: rest => scanWord .null ['u', 'l', 'l'] rest
    | 't' :: rest => scanWord (.bool true) ['r', 'u', 'e'] rest
    | 'f' :: rest => scanWord (.bool false) ['a', 'l', 's', 'e'] rest
    | '"' :: rest => stringNode rest
    | '[' :: rest =>
      match skipSpace rest with
      | ']' :: rest => (.array [] none, some rest)
      | [] => (.array [] (some .truncated), none)
      | rest =>
        let ((items, stop), after) := scanItems fuel rest
        (.array items stop, after)
    | '\x7b' :: rest =>
      match skipSpace rest with
      | '\x7d' :: rest => (.object [] none, some rest)
      | '"' :: rest =>
        let ((entries, stop), after) := scanEntries fuel rest
        (.object entries stop, after)
      | rest => (.object [] (some (flawAt rest)), none)
    | c :: rest =>
      if c = '-' || isDigit c then numberNode (c :: rest)
      else (.broken .malformed .malformed, none)

/-- Reads the items of an array up to its end. -/
def scanItems : Nat → List Char → Step (List Node × Option Flaw)
  | 0, _ => (([], some .malformed), none)
  | fuel + 1, cs =>
    match scanNode fuel cs with
    | (item, none) => (([item], none), none)
    | (item, some rest) =>
      match skipSpace rest with
      | ']' :: rest => (([item], none), some rest)
      | ',' :: rest =>
        let ((items, stop), after) := scanItems fuel rest
        ((item :: items, stop), after)
      | rest => (([item], some (flawAt rest)), none)

/-- Reads the entries of an object up to its end; the first quotation mark has been read. -/
def scanEntries : Nat → List Char → Step (List (Key × Node) × Option Flaw)
  | 0, _ => (([], some .malformed), none)
  | fuel + 1, cs =>
    match scanKey cs with
    -- The flaw of the key is met first, so that of the value is not seen.
    | (key, none) => (([(key, .broken .malformed .malformed)], none), none)
    | (key, some rest) =>
      match skipSpace rest with
      | ':' :: rest =>
        match scanNode fuel rest with
        | (value, none) => (([(key, value)], none), none)
        | (value, some rest) =>
          match skipSpace rest with
          | '\x7d' :: rest => (([(key, value)], none), some rest)
          | ',' :: rest =>
            match skipSpace rest with
            | '"' :: rest =>
              let ((entries, stop), after) := scanEntries fuel rest
              (((key, value) :: entries, stop), after)
            | rest => (([(key, value)], some (flawAt rest)), none)
          | rest => (([(key, value)], some (flawAt rest)), none)
      | rest => (([(key, .broken (flawAt rest) (flawAt rest))], none), none)

end

def Document.ofText (text : List Char) : Document :=
  match scanNode (2 * text.length + 2) text with
  | (root, none) => ⟨root, false⟩
  | (root, some rest) => ⟨root, !(skipSpace rest).isEmpty⟩

/-! ## Taking in and passing over -/

/-- How deep containers may be nested in a text. -/
def nestLimit : Nat := 127

def KeyText.read : KeyText → Except Flaw String
  | .text s => .ok s
  | .valueless => .error .malformed
  | .broken read _ => .error read

def KeyText.skip : KeyText → Except Flaw Unit
  | .text _ | .valueless => .ok ()
  | .broken _ skip => .error skip

/-- The end of a container. -/
def readStop : Option Flaw → Except Flaw Unit
  | none => .ok ()
  | some flaw => .error flaw

mutual

def Node.read (room : Nat) : Node → Except Flaw Value
  | .null => .ok .null
  | .bool b => .ok (.bool b)
  | .number n => .ok (.number n)
  | .string s => .ok (.string s)
  | .valueless => .error .malformed
  | .broken read _ => .error read
  | .array items stop =>
    if room = 0 then .error .malformed
    else do
      let vs ← Node.readItems (room - 1) items
      readStop stop
      .ok (.array vs)
  | .object entries stop =>
    if room = 0 then .error .malformed
    else do
      let vs ← Node.readEntries (room - 1) entries
      readStop stop
      .ok (.object vs)

def Node.readItems (room : Nat) : List Node → Except Flaw (List Value)
  | [] => .ok []
  | n :: ns => do
    let v ← n.read room
    let vs ← Node.readItems room ns
    .ok (v :: vs)

def Node.readEntries (room : Nat) : List (Key × Node) → Except Flaw (List (String × Value))
  | [] => .ok []
  | (key, n) :: entries => do
    let k ← key.text.read
    let v ← n.read room
    let vs ← Node.readEntries room entries
    .ok ((k, v) :: vs)

end

mutual

def Node.skip : Node → Except Flaw Unit
  | .null | .bool _ | .number _ | .string _ | .valueless => .ok ()
  | .broken _ skip => .error skip
  | .array items stop => do
    Node.skipItems items
    readStop stop
  | .object entries stop => do
    Node.skipEntries entries
    readStop stop

def Node.skipItems : List Node → Except Flaw Unit
  | [] => .ok ()
  | n :: ns => do
    n.skip
    Node.skipItems ns

def Node.skipEntries : List (Key × Node) → Except Flaw Unit
  | [] => .ok ()
  | (key, n) :: entries => do
    key.text.skip
    n.skip
    Node.skipEntries entries

end

def Document.finish (d : Document) : Except Flaw Unit :=
  if d.trailing then .error .malformed else .ok ()

/-- The value of a text. -/
def Value.ofText? (text : List Char) : Except Flaw Value := do
  let d := Document.ofText text
  let v ← d.root.read nestLimit
  d.finish
  .ok v

end PriorityLexer.Json
