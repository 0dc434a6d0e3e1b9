import PriorityLexer.Source.Cursor

/-!
# Escape — reading what follows a backslash

* `readEscape` — an escape as an atom, inside a class or outside;
* `scalar?` — the character with a hexadecimal number.

All readers take whether blanks are ignored and a cursor, and answer with the cursor behind what
they read or with the first fault.
-/

namespace PriorityLexer.Source

/-! ## Hexadecimal escapes -/

def scalar? (digits : List Char) : Option Char :=
  let n := digits.foldl (fun n d => 16 * n + (hexDigit? d).getD 0) 0
  if n < 0xD800 ∨ (0xDFFF < n ∧ n < 0x110000) then some (Char.ofNat n) else none

/-- Reads exactly `count` digits. -/
def readDigits (ignoreSpace : Bool) : Nat → Cursor → Except Fault (List Char × Cursor)
  | 0, c => .ok ([], c)
  | count + 1, c =>
    match c.peek? with
    | none => .error (.of .escapeIncomplete (.point c.pos))
    | some d =>
      if (hexDigit? d).isNone then .error (.of .hexDigit (.char c.pos))
      else
        match readDigits ignoreSpace count (c.next ignoreSpace) with
        | .error e => .error e
        | .ok (ds, c') => .ok (d :: ds, c')

/-- Reads digits between braces; the cursor stands on the first brace. -/
def readBracedHex (ignoreSpace : Bool) (start : Nat) (c : Cursor) : Except Fault (Atom × Cursor) :=
  let (digits, last) := c.bump.gather ignoreSpace fun d => (hexDigit? d).isSome
  match last.peek? with
  | none => .error (.of .escapeIncomplete ⟨c.pos, last.pos⟩)
  | some a =>
    if a = '\x7d' then
      let after := last.next ignoreSpace
      if digits.isEmpty then .error (.of .hexEmpty ⟨c.pos, after.pos⟩)
      else
        match scalar? digits with
        | none => .error (.of .hexInvalid ⟨c.pos + 1, last.pos⟩)
        | some char => .ok (.literal ⟨⟨start, after.pos⟩, char, false⟩, after)
    else .error (.of .hexDigit (.char last.pos))

/-- Reads the number behind the letter of a hexadecimal escape; without braces it has `count`
digits, and two digits write a byte. -/
def readHex (ignoreSpace : Bool) (start count : Nat) (c : Cursor) : Except Fault (Atom × Cursor) :=
  match c.peek? with
  | none => .error (.of .escapeIncomplete (.point c.pos))
  | some a =>
    if a = '\x7b' then readBracedHex ignoreSpace start c
    else
      match readDigits ignoreSpace count c with
      | .error e => .error e
      | .ok (digits, after) =>
        match scalar? digits with
        | none => .error (.of .hexInvalid ⟨c.pos, after.pos⟩)
        | some char => .ok (.literal ⟨⟨start, after.pos⟩, char, count = 2⟩, after)

/-! ## Properties -/

/-- Cuts a text at the first occurrence of a separator. -/
def cutAt? (separator : List Char) : List Char → Option (List Char × List Char)
  | [] => none
  | a :: rest =>
    if separator.isPrefixOf (a :: rest) then some ([], (a :: rest).drop separator.length)
    else (cutAt? separator rest).map fun (before, after) => (a :: before, after)

/-- The query between braces, and whether it asks for the characters without the value. -/
def queryOf (text : List Char) : Bool × Unicode.Query :=
  match cutAt? ['!', '='] text with
  | some (property, value) => (true, .valued (.ofList property) (.ofList value))
  | none =>
    match cutAt? [':'] text with
    | some (property, value) => (false, .valued (.ofList property) (.ofList value))
    | none =>
      match cutAt? ['='] text with
      | some (property, value) => (false, .valued (.ofList property) (.ofList value))
      | none => (false, .named (.ofList text))

/-- Reads the name of a property: one letter, or any text between braces. -/
def readProperty (ignoreSpace : Bool) (start : Nat) (negated : Bool) (c : Cursor) :
    Except Fault (Atom × Cursor) :=
  match c.peek? with
  | none => .error (.of .escapeIncomplete (.point c.pos))
  | some a =>
    if a = '\x7b' then
      let (text, last) := c.bump.gather ignoreSpace (· != '\x7d')
      if last.atEnd then .error (.of .escapeIncomplete (.point last.pos))
      else
        let (without, query) := queryOf text
        .ok (.property ⟨start, last.bump.pos⟩ (negated != without) query, last.bump)
    else if a = '\\' then .error (.of .propertyInvalid (.char c.pos))
    else
      let after := c.next ignoreSpace
      .ok (.property ⟨start, after.pos⟩ negated (.named (.ofList [a])), after)

/-! ## Word boundaries -/

def boundaryNamed? : String → Option Assertion
  | "start" => some .wordStart
  | "end" => some .wordEnd
  | "start-half" => some .wordStartHalf
  | "end-half" => some .wordEndHalf
  | _ => none

/-- Reads what follows `\b`: the name of a special boundary between braces, or nothing, also if the
braces hold a number of repetitions. -/
def readBoundary (ignoreSpace : Bool) (start : Nat) (c : Cursor) : Except Fault (Atom × Cursor) :=
  let isNameChar (a : Char) : Bool := a.isAlpha || a = '-'
  let plain : Except Fault (Atom × Cursor) := .ok (.assertion ⟨start, c.pos⟩ .boundary, c)
  if c.peek? = some '\x7b' then
    let first := c.next ignoreSpace
    match first.peek? with
    | none => .error (.of .boundaryOrCountUnfinished ⟨start, first.pos⟩)
    | some a =>
      if isNameChar a then
        let (name, last) := first.gather ignoreSpace isNameChar
        if last.peek? = some '\x7d' then
          match boundaryNamed? (.ofList name) with
          | none => .error (.of .boundaryUnknown ⟨first.pos, last.pos⟩)
          | some kind => .ok (.assertion ⟨start, last.bump.pos⟩ kind, last.bump)
        else .error (.of .boundaryUnclosed ⟨c.pos, last.pos⟩)
      else plain
  else plain

/-! ## Escapes -/

/-- The control character that a letter writes. -/
def controlLetter? : Char → Option Char
  | 'a' => some '\x07'
  | 'f' => some '\x0c'
  | 't' => some '\t'
  | 'n' => some '\n'
  | 'r' => some '\r'
  | 'v' => some '\x0b'
  | _ => none

def assertionLetter? : Char → Option Assertion
  | 'A' => some .textStart
  | 'z' => some .textEnd
  | 'B' => some .notBoundary
  | '<' => some .wordStart
  | '>' => some .wordEnd
  | _ => none

def shorthandLetter? : Char → Option (Bool × Shorthand)
  | 'd' => some (false, .digit)
  | 'D' => some (true, .digit)
  | 's' => some (false, .space)
  | 'S' => some (true, .space)
  | 'w' => some (false, .word)
  | 'W' => some (true, .word)
  | _ => none

/-- The number of digits behind the letter of a hexadecimal escape. -/
def hexLetter? : Char → Option Nat
  | 'x' => some 2
  | 'u' => some 4
  | 'U' => some 8
  | _ => none

/-- Reads an escape; the cursor stands on the backslash. -/
def readEscape (ignoreSpace : Bool) (c : Cursor) : Except Fault (Atom × Cursor) :=
  let start := c.pos
  let letter := c.bump
  match letter.peek? with
  | none => .error (.of .escapeIncomplete ⟨start, letter.pos⟩)
  | some a =>
    let after := letter.bump
    let span : Span := ⟨start, after.pos⟩
    if a.isDigit then .error (.of .backreference span)
    else if let some count := hexLetter? a then
      readHex ignoreSpace start count (letter.next ignoreSpace)
    else if a = 'p' ∨ a = 'P' then
      readProperty ignoreSpace start (a = 'P') (letter.next ignoreSpace)
    else if let some (negated, kind) := shorthandLetter? a then
      .ok (.shorthand span negated kind, after)
    else if isMeta a || isEscapable a then .ok (.literal ⟨span, a, false⟩, after)
    else if let some char := controlLetter? a then .ok (.literal ⟨span, char, false⟩, after)
    else if let some kind := assertionLetter? a then .ok (.assertion span kind, after)
    else if a = 'b' then readBoundary ignoreSpace start after
    else .error (.of .escapeUnknown span)

end PriorityLexer.Source
