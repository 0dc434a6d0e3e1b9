import PriorityLexer.Source.Escape

/-!
# Bracket — reading a class between brackets

Brackets nest, so the reader keeps the open classes on a stack of levels.  Each level gathers the
members that were read since its start or its last operator.

* `Level` — an open class;
* `readBracket` — reads a class from its opening bracket to the matching closing one.
-/

namespace PriorityLexer.Source

/-! ## Members -/

/-- The members read so far, last first, and the span from the first to the last. -/
structure Members where
  span : Span
  reversed : List ClassTree

namespace Members

def none (pos : Nat) : Members := ⟨.point pos, []⟩

def add (m : Members) (member : ClassTree) : Members :=
  ⟨⟨if m.reversed.isEmpty then member.span.start else m.span.start, member.span.stop⟩,
    member :: m.reversed⟩

def toTree (m : Members) : ClassTree :=
  match m.reversed with
  | [] => .empty m.span
  | [member] => member
  | members => .union m.span members.reverse

end Members

/-! ## Levels -/

/-- An open class: where it starts, the span of its opening, and what has been read of it. -/
structure Level where
  opening : Span
  negated : Bool
  /-- The operator read last, with all that is left of it. -/
  pending : Option (SetOperator × ClassTree)
  members : Members

namespace Level

def add (l : Level) (member : ClassTree) : Level :=
  { l with members := l.members.add member }

/-- Joins the members with what is left of the last operator. -/
def toTree (l : Level) : ClassTree :=
  let rhs := l.members.toTree
  match l.pending with
  | none => rhs
  | some (operator, lhs) => .operation ⟨lhs.span.start, rhs.span.stop⟩ operator lhs rhs

/-- An operator at index `pos - 2` has been read. -/
def operate (l : Level) (operator : SetOperator) (pos : Nat) : Level :=
  { l with pending := some (operator, l.toTree), members := .none pos }

def unclosed (l : Level) : Fault :=
  .of .classUnclosed l.opening

end Level

/-! ## Parts of a class -/

/-- Reads hyphens at the start of a class, which stand for themselves. -/
def readHyphens (ignoreSpace : Bool) (start : Nat) :
    Nat → Members → Cursor → Except Fault (Members × Cursor)
  | 0, m, c => .ok (m, c)
  | fuel + 1, m, c =>
    if c.peek? = some '-' then
      let after := c.next ignoreSpace
      if after.atEnd then .error (.of .classUnclosed (.point start))
      else readHyphens ignoreSpace start fuel (m.add (.literal ⟨.char c.pos, '-', false⟩)) after
    else .ok (m, c)

/-- Reads the opening of a class: the bracket, a circumflex, and what stands for itself there. -/
def readOpening (ignoreSpace : Bool) (c : Cursor) : Except Fault (Level × Cursor) :=
  let start := c.pos
  let first := c.next ignoreSpace
  if first.atEnd then .error (.of .classUnclosed ⟨start, first.pos⟩)
  else
    let negated := first.peek? = some '^'
    let second := if negated then first.next ignoreSpace else first
    if second.atEnd then .error (.of .classUnclosed ⟨start, second.pos⟩)
    else
      match readHyphens ignoreSpace start second.rest.length (.none second.pos) second with
      | .error e => .error e
      | .ok (members, third) =>
        if members.reversed.isEmpty && third.peek? = some ']' then
          let after := third.next ignoreSpace
          if after.atEnd then .error (.of .classUnclosed ⟨start, after.pos⟩)
          else
            let members := members.add (.literal ⟨.char third.pos, ']', false⟩)
            .ok (⟨⟨start, after.pos⟩, negated, none, members⟩, after)
        else .ok (⟨⟨start, third.pos⟩, negated, none, members⟩, third)

/-- Reads a class of ASCII characters such as `[:alpha:]`, if there is one; blanks count here. -/
def readAscii? (c : Cursor) : Option (ClassTree × Cursor) := do
  let first ← c.skipText? ['[', ':']
  let negated := first.peek? = some '^'
  let name := if negated then first.bump else first
  let letters := name.rest.takeWhile (· != ':')
  let after ← (Cursor.mk (name.pos + letters.length) (name.rest.drop letters.length)).skipText?
    [':', ']']
  let kind ← AsciiClass.find? (.ofList letters)
  pure (.ascii ⟨c.pos, after.pos⟩ negated kind, after)

/-- The character that decides whether a hyphen makes a range: the next one after the hyphen that is
no white space, where the sign of a comment counts once as white space too. -/
def peekAfterFrom (comment : Bool) : List Char → Option Char
  | [] => none
  | a :: rest =>
    if isBlank a then peekAfterFrom comment rest
    else if !comment && a = '#' then peekAfterFrom true rest
    else some a

def peekAfter? (ignoreSpace : Bool) (c : Cursor) : Option Char :=
  let rest := c.rest.drop 1
  if ignoreSpace then (peekAfterFrom false rest).or rest.head? else rest.head?

/-- Reads one character or escape. -/
def readMember (ignoreSpace : Bool) (c : Cursor) : Except Fault (Atom × Cursor) :=
  match c.peek? with
  | some '\\' => readEscape ignoreSpace c
  | some a => .ok (.literal ⟨.char c.pos, a, false⟩, c.bump)
  | none => .error (.of .classUnclosed (.point c.pos))

def memberOf : Atom → Except Fault ClassTree
  | .literal l => .ok (.literal l)
  | .shorthand span negated kind => .ok (.shorthand span negated kind)
  | .property span negated query => .ok (.property span negated query)
  | .dot span | .assertion span _ => .error (.of .classEscape span)

def boundOf : Atom → Except Fault Literal
  | .literal l => .ok l
  | a => .error (.of .classRangeBound a.span)

/-- Reads a member or a range of a class whose opening has the given span. -/
def readRange (ignoreSpace : Bool) (l : Level) (c : Cursor) :
    Except Fault (ClassTree × Cursor) := do
  let (first, c) ← readMember ignoreSpace c
  let c := c.skipBlanks ignoreSpace
  if c.atEnd then .error l.unclosed
  else if c.peek? ≠ some '-' ∨ peekAfter? ignoreSpace c = some ']' ∨
      peekAfter? ignoreSpace c = some '-' then
    let member ← memberOf first
    .ok (member, c)
  else
    let c := c.next ignoreSpace
    if c.atEnd then .error l.unclosed
    else
      let (second, c) ← readMember ignoreSpace c
      -- Both members are read before either is refused as a bound.
      let lo ← boundOf first
      let hi ← boundOf second
      let span : Span := ⟨first.span.start, second.span.stop⟩
      if hi.char < lo.char then .error (.of .classRangeOrder span)
      else .ok (.range span lo hi, c)

/-! ## Classes -/

def operatorAt? (c : Cursor) : Option SetOperator :=
  match c.rest with
  | '&' :: '&' :: _ => some .inter
  | '-' :: '-' :: _ => some .diff
  | '~' :: '~' :: _ => some .symmDiff
  | _ => none

/-- Reads the rest of the class `l`, which lies in the classes `outer`, innermost first. -/
def readLevels (ignoreSpace : Bool) :
    Nat → List Level → Level → Cursor → Except Fault (Tree × Cursor)
  | 0, _, l, _ => .error l.unclosed
  | fuel + 1, outer, l, c =>
    let c := c.skipBlanks ignoreSpace
    match c.peek? with
    | none => .error l.unclosed
    | some a =>
      if a = '[' then
        match readAscii? c with
        | some (member, after) => readLevels ignoreSpace fuel outer (l.add member) after
        -- An unknown name is no fault: its letters are the members of a nested class.
        | none =>
          match readOpening ignoreSpace c with
          | .error e => .error e
          | .ok (inner, after) => readLevels ignoreSpace fuel (l :: outer) inner after
      else if a = ']' then
        let after := c.bump
        let span : Span := ⟨l.opening.start, after.pos⟩
        match outer with
        | [] => .ok (.bracketed span l.negated l.toTree, after)
        | parent :: outer =>
          readLevels ignoreSpace fuel outer (parent.add (.bracketed span l.negated l.toTree)) after
      else
        match operatorAt? c with
        | some operator =>
          let after := c.bump.bump
          readLevels ignoreSpace fuel outer (l.operate operator after.pos) after
        | none =>
          match readRange ignoreSpace l c with
          | .error e => .error e
          | .ok (member, after) => readLevels ignoreSpace fuel outer (l.add member) after

/-- Reads a class; the cursor stands on its opening bracket. -/
def readBracket (ignoreSpace : Bool) (c : Cursor) : Except Fault (Tree × Cursor) :=
  match readOpening ignoreSpace c with
  | .error e => .error e
  | .ok (l, after) => readLevels ignoreSpace (after.rest.length + 1) [] l after

end PriorityLexer.Source
