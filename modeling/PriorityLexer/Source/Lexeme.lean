import PriorityLexer.Source.Bracket

/-!
# Lexeme — the pieces that a regular expression is built from

A class between brackets is one lexeme, and so is the opening of a group with its flags or name.

* `Lexeme` — a piece;
* `readLexeme` — reads the piece that a cursor stands on.

A quantifier needs something to repeat, so the reader is told whether the last piece is such a
thing.
-/

namespace PriorityLexer.Source

inductive Lexeme where
  | part (t : Tree)
  | quantifier (q : Quantifier)
  | directive (changes : FlagChanges)
  | opening (kind : GroupKind)
  | closing
  | bar
deriving Repr

/-! ## Quantifiers -/

/-- The greatest number of repetitions that can be written. -/
def lastCount : Nat := 0xFFFFFFFF

/-- Reads a number with white space around it; its fault may have to wait for another one. -/
def readCount (ignoreSpace : Bool) (c : Cursor) : Except Fault Nat × Cursor :=
  let first := c.skipWhite
  let (digits, last) := first.gather ignoreSpace Char.isDigit
  let n := digits.foldl (fun n d => 10 * n + (d.toNat - '0'.toNat)) 0
  let span : Span := ⟨first.pos, last.pos⟩
  let count : Except Fault Nat :=
    if digits.isEmpty then .error (.of .countMissing span)
    else if lastCount < n then .error (.of .decimalTooLarge span)
    else .ok n
  (count, last.skipWhite)

/-- Reads the counts up to the closing brace; the cursor stands on the opening one. -/
def readBounds (ignoreSpace : Bool) (c : Cursor) :
    Except Fault ((Nat × Option Nat) × Cursor) := do
  let first := c.next ignoreSpace
  if first.atEnd then .error (.of .countUnclosed ⟨c.pos, first.pos⟩)
  else
    let (lower, last) := readCount ignoreSpace first
    match last.peek? with
    | none => .error (.of .countUnclosed ⟨c.pos, last.pos⟩)
    | some a =>
      if a = ',' then
        let second := last.next ignoreSpace
        if second.atEnd then .error (.of .countUnclosed ⟨c.pos, second.pos⟩)
        else
          -- Only now does a fault of the first count come up.
          let lower ← lower
          if second.peek? = some '\x7d' then .ok ((lower, none), second)
          else
            let (upper, last) := readCount ignoreSpace second
            let upper ← upper
            .ok ((lower, some upper), last)
      else
        let count ← lower
        .ok ((count, some count), last)

/-- Reads a quantifier with counts; the cursor stands on the opening brace. -/
def readCounted (ignoreSpace : Bool) (c : Cursor) : Except Fault (Quantifier × Cursor) := do
  let ((lower, upper), last) ← readBounds ignoreSpace c
  if last.peek? ≠ some '\x7d' then .error (.of .countUnclosed ⟨c.pos, last.pos⟩)
  else
    let closed := last.next ignoreSpace
    let lazy := closed.peek? = some '?'
    let after := if lazy then closed.bump else closed
    if upper.any (· < lower) then .error (.of .countOrder ⟨c.pos, after.pos⟩)
    else .ok (⟨lower, upper, !lazy⟩, after)

/-- A quantifier of one sign, with a question mark behind it if it prefers less. -/
def readSign (lower : Nat) (upper : Option Nat) (c : Cursor) : Quantifier × Cursor :=
  let sign := c.bump
  let lazy := sign.peek? = some '?'
  (⟨lower, upper, !lazy⟩, if lazy then sign.bump else sign)

/-! ## Groups -/

def Flag.find? : Char → Option Flag
  | 'i' => some .ignoreCase
  | 'm' => some .multiLine
  | 's' => some .dotAll
  | 'R' => some .crlf
  | 'U' => some .swapGreed
  | 'u' => some .unicode
  | 'x' => some .ignoreSpace
  | _ => none

/-- Reads flags up to a colon or a parenthesis: `negation` is the place of the hyphen, `dangling`
tells whether it came last, and `seen` holds the flags so far, last first. -/
def readFlagsFrom (negation : Option Span) (dangling : Bool)
    (seen : List (Flag × Bool × Span)) (pos : Nat) :
    List Char → Except Fault ((FlagChanges × Char) × Cursor)
  | [] => .error (.of .flagUnfinished (.point pos))
  | a :: rest =>
    if a = ':' ∨ a = ')' then
      match negation with
      | some span =>
        if dangling then .error (.of .flagDangling span)
        else .ok ((seen.reverse.map fun (flag, on, _) => (flag, on), a), ⟨pos + 1, rest⟩)
      | none => .ok ((seen.reverse.map fun (flag, on, _) => (flag, on), a), ⟨pos + 1, rest⟩)
    else if a = '-' then
      match negation with
      | some span => .error ⟨.flagNegatedTwice, .char pos, some span⟩
      | none => readFlagsFrom (some (.char pos)) true seen (pos + 1) rest
    else
      match Flag.find? a with
      | none => .error (.of .flagUnknown (.char pos))
      | some flag =>
        match seen.find? (·.1 = flag) with
        | some (_, _, span) => .error ⟨.flagRepeated, .char pos, some span⟩
        | none =>
          readFlagsFrom negation false ((flag, negation.isNone, .char pos) :: seen) (pos + 1) rest

/-- Reads the name of a group up to the closing angle bracket. -/
def readNameFrom (first : Bool) (pos : Nat) : List Char → Except Fault (List Char × Cursor)
  | [] => .error (.of .groupNameUnclosed (.point pos))
  | a :: rest =>
    if a = '>' then .ok ([], ⟨pos + 1, rest⟩)
    else if if first then isNameStart a else isNamePart a then
      match readNameFrom false (pos + 1) rest with
      | .error e => .error e
      | .ok (name, after) => .ok (a :: name, after)
    else .error (.of .groupNameInvalid (.char pos))

def readNamed (c : Cursor) : Except Fault (Lexeme × Cursor) := do
  let (name, after) ← readNameFrom true c.pos c.rest
  if name.isEmpty then .error (.of .groupNameEmpty (.point c.pos))
  else .ok (.opening (.named ⟨c.pos, c.pos + name.length⟩ (.ofList name)), after)

/-- What starts a group that looks ahead or behind. -/
def lookArounds : List (List Char) :=
  [['?', '='], ['?', '!'], ['?', '<', '='], ['?', '<', '!']]

/-- Reads the opening of a group, or a group that only sets flags. -/
def readGroup (ignoreSpace : Bool) (c : Cursor) : Except Fault (Lexeme × Cursor) := do
  let inner := c.next ignoreSpace
  if let some after := lookArounds.findSome? fun text => inner.skipText? text then
    .error (.of .lookAround ⟨c.pos, after.pos⟩)
  else if let some after := (inner.skipText? ['?', 'P', '<']).or (inner.skipText? ['?', '<']) then
    readNamed after
  else if inner.peek? = some '?' then
    let flags := inner.bump
    if flags.atEnd then .error (.of .groupUnclosed (.char c.pos))
    else
      let ((changes, last), after) ← readFlagsFrom none false [] flags.pos flags.rest
      if last = ':' then .ok (.opening (.plain changes), after)
      else if changes.isEmpty then .error (.of .repetitionMissing (.point inner.pos))
      else .ok (.directive changes, after)
  else .ok (.opening .capture, inner)

/-! ## Lexemes -/

/-- Reads what starts with `a`, the character that the cursor stands on. -/
def readLexeme (ignoreSpace repeatable : Bool) (a : Char) (c : Cursor) :
    Except Fault (Lexeme × Cursor) := do
  let quantifier (q : Except Fault (Quantifier × Cursor)) : Except Fault (Lexeme × Cursor) :=
    if repeatable then q.map fun (q, after) => (.quantifier q, after)
    else .error (.of .repetitionMissing (.point c.pos))
  match a with
  | '(' => readGroup ignoreSpace c
  | ')' => .ok (.closing, c.bump)
  | '|' => .ok (.bar, c.bump)
  | '[' =>
    let (t, after) ← readBracket ignoreSpace c
    .ok (.part t, after)
  | '?' => quantifier (.ok (readSign 0 (some 1) c))
  | '*' => quantifier (.ok (readSign 0 none c))
  | '+' => quantifier (.ok (readSign 1 none c))
  | '\x7b' => quantifier (readCounted ignoreSpace c)
  | '\\' =>
    let (atom, after) ← readEscape ignoreSpace c
    .ok (.part (.atom atom), after)
  | '.' => .ok (.part (.atom (.dot (.char c.pos))), c.bump)
  | '^' => .ok (.part (.atom (.assertion (.char c.pos) .lineStart)), c.bump)
  | '$' => .ok (.part (.atom (.assertion (.char c.pos) .lineEnd)), c.bump)
  | _ => .ok (.part (.atom (.literal ⟨.char c.pos, a, false⟩)), c.bump)

end PriorityLexer.Source
