import PriorityLexer.Source.Parse
import PriorityLexer.Regex.Alternation
import PriorityLexer.Unicode.CaseFolding

/-!
# Meaning — the expression that a tree stands for

Flags are in force from where they are set to the end of the group, across its branches.

* `Mode` — the flags that matter for the meaning;
* `ClassTree.set` — the characters of a class;
* `Tree.regex` — the expression that a tree stands for, or the first part that stands for none.

A set that ignores case is closed under case variants before it is complemented.  Without the
Unicode flag sets are sets of bytes, of which only those of ASCII are characters; a set that holds
others is refused.
-/

namespace PriorityLexer.Source

/-! ## Modes -/

structure Mode where
  ignoreCase : Bool
  multiLine : Bool
  dotAll : Bool
  crlf : Bool
  swapGreed : Bool
  unicode : Bool
deriving DecidableEq, Repr

namespace Mode

/-- The flags at the start of a source. -/
def initial (ignoreCase : Bool) : Mode :=
  ⟨ignoreCase, false, false, false, false, true⟩

def set (m : Mode) (flag : Flag) (on : Bool) : Mode :=
  match flag with
  | .ignoreCase => { m with ignoreCase := on }
  | .multiLine => { m with multiLine := on }
  | .dotAll => { m with dotAll := on }
  | .crlf => { m with crlf := on }
  | .swapGreed => { m with swapGreed := on }
  | .unicode => { m with unicode := on }
  | .ignoreSpace => m

def change (m : Mode) (changes : FlagChanges) : Mode :=
  changes.foldl (fun m (flag, on) => m.set flag on) m

def folding (m : Mode) : Folding :=
  if m.unicode then simpleFolding else asciiFolding

/-- Adds case variants if case is ignored. -/
def fold (m : Mode) (s : CharSet) : CharSet :=
  if m.ignoreCase then m.folding.close s else s

def complement (m : Mode) (s : CharSet) : CharSet :=
  if m.unicode then s.complement else s.complementUpTo 0xFF

def wordKind (m : Mode) : WordKind :=
  if m.unicode then .unicode else .ascii

/-- Refuses bytes that are no characters. -/
def check (m : Mode) (span : Span) (s : CharSet) : Except Fault CharSet :=
  if m.unicode || s.isAscii then .ok s else .error (.of .invalidUtf8 span)

/-- What takes a member of a set: a character, or a byte without the Unicode flag. -/
def oneOf (m : Mode) (s : CharSet) : Regex :=
  if m.unicode then .chars s else .bytes s

/-- The set itself or its complement, under the flags. -/
def close (m : Mode) (span : Span) (negated : Bool) (s : CharSet) : Except Fault CharSet :=
  m.check span (if negated then m.complement (m.fold s) else m.fold s)

end Mode

/-! ## Sets -/

def AsciiClass.set : AsciiClass → CharSet
  | .alnum => .ofText "30-39 41-5A 61-7A"
  | .alpha => .ofText "41-5A 61-7A"
  | .ascii => .ofText "0-7F"
  | .blank => .ofText "9 20"
  | .cntrl => .ofText "0-1F 7F"
  | .digit => .ofText "30-39"
  | .graph => .ofText "21-7E"
  | .lower => .ofText "61-7A"
  | .print => .ofText "20-7E"
  | .punct => .ofText "21-2F 3A-40 5B-60 7B-7E"
  | .space => .ofText "9-D 20"
  | .upper => .ofText "41-5A"
  | .word => .ofText "30-39 41-5A 5F 61-7A"
  | .xdigit => .ofText "30-39 41-46 61-66"

def Shorthand.unicodeSet : Shorthand → CharSet
  | .digit => Unicode.Property.digit
  | .space => Unicode.Property.space
  | .word => Unicode.Property.word

def Shorthand.asciiSet : Shorthand → CharSet
  | .digit => AsciiClass.digit.set
  | .space => AsciiClass.space.set
  | .word => AsciiClass.word.set

/-- A shorthand ignores case by itself. -/
def Shorthand.set (m : Mode) (span : Span) (negated : Bool) (kind : Shorthand) :
    Except Fault CharSet :=
  let s := if m.unicode then kind.unicodeSet else kind.asciiSet
  m.check span (if negated then m.complement s else s)

def causeOf : Unicode.QueryError → Cause
  | .unknownProperty => .propertyUnknown
  | .unknownValue => .propertyValueUnknown

def propertySet (m : Mode) (span : Span) (negated : Bool) (query : Unicode.Query) :
    Except Fault CharSet :=
  if m.unicode then
    match query.resolve with
    | .ok s => m.close span negated s
    | .error e => .error (.of (causeOf e) span)
  else .error (.of .unicodeNotAllowed span)

/-- A byte that is written as such has to be a character when it stands for itself. -/
def checkByte (m : Mode) (l : Literal) : Except Fault Unit :=
  if !m.unicode && l.isByte && 0x7F < l.char.toNat then .error (.of .invalidUtf8 l.span)
  else .ok ()

/-- A character inside a class. -/
def memberChar (m : Mode) (l : Literal) : Except Fault Char := do
  checkByte m l
  if !m.unicode && 0x7F < l.char.toNat then .error (.of .unicodeNotAllowed l.span)
  else .ok l.char

def SetOperator.apply : SetOperator → CharSet → CharSet → CharSet
  | .inter, s, t => s.inter t
  | .diff, s, t => s.diff t
  | .symmDiff, s, t => s.symmDiff t

mutual

def ClassTree.set (m : Mode) : ClassTree → Except Fault CharSet
  | .empty _ => .ok .empty
  | .literal l => do
    let c ← memberChar m l
    .ok (.singleton c)
  | .range _ lo hi => do
    let lo ← memberChar m lo
    let hi ← memberChar m hi
    .ok (.range lo hi)
  | .ascii span negated kind => m.close span negated kind.set
  | .shorthand span negated kind => kind.set m span negated
  | .property span negated query => propertySet m span negated query
  | .bracketed span negated inner => do
    let s ← inner.set m
    m.close span negated s
  | .union _ members => ClassTree.unionSet m .empty members
  | .operation _ operator lhs rhs => do
    let s ← lhs.set m
    let t ← rhs.set m
    -- Both sides are closed under case variants before they are compared.
    .ok (operator.apply (m.fold s) (m.fold t))

/-- The union of `s` and the sets of the members. -/
def ClassTree.unionSet (m : Mode) (s : CharSet) : List ClassTree → Except Fault CharSet
  | [] => .ok s
  | t :: ts => do
    let r ← t.set m
    ClassTree.unionSet m (s.union r) ts

end

/-! ## Atoms -/

def Assertion.look (m : Mode) : Assertion → Look
  | .lineStart =>
    if m.multiLine then if m.crlf then .crlfLineStart else .lineStart else .textStart
  | .lineEnd => if m.multiLine then if m.crlf then .crlfLineEnd else .lineEnd else .textEnd
  | .textStart => .textStart
  | .textEnd => .textEnd
  | .boundary => .boundary m.wordKind
  | .notBoundary => .notBoundary m.wordKind
  | .wordStart => .wordStart m.wordKind
  | .wordEnd => .wordEnd m.wordKind
  | .wordStartHalf => .wordStartHalf m.wordKind
  | .wordEndHalf => .wordEndHalf m.wordKind

/-- What a dot matches: everything, or all but the characters that end lines. -/
def dotSet (m : Mode) : CharSet :=
  if m.dotAll then CharSet.empty.complement
  else if m.crlf then ((CharSet.singleton '\n').union (.singleton '\r')).complement
  else (CharSet.singleton '\n').complement

def Atom.regex (m : Mode) : Atom → Except Fault Regex
  | .literal l =>
    let s := m.fold (.singleton l.char)
    -- Only a character beyond ASCII that is written as such is more than one byte.
    if m.unicode || !l.isByte && 0x7F < l.char.toNat then .ok (.chars s)
    else do
      let s ← m.check l.span s
      .ok (.bytes s)
  | .dot span => if m.unicode then .ok (.chars (dotSet m)) else .error (.of .invalidUtf8 span)
  | .assertion _ kind => .ok (.look (kind.look m))
  | .shorthand span negated kind => do
    let s ← kind.set m span negated
    .ok (m.oneOf s)
  | .property span negated query => do
    let s ← propertySet m span negated query
    .ok (m.oneOf s)

/-! ## Trees -/

def GroupKind.mode (m : Mode) : GroupKind → Mode
  | .plain changes => m.change changes
  | .capture | .named _ _ => m

def GroupKind.regex (r : Regex) : GroupKind → Regex
  | .plain _ => r
  | .capture | .named _ _ => .capture r

mutual

/-- The expression of a tree, and the flags behind it. -/
def Tree.meaning (m : Mode) : Tree → Except Fault (Regex × Mode)
  | .empty _ => .ok (.empty, m)
  | .flags _ changes => .ok (.empty, m.change changes)
  | .atom a => do
    let r ← a.regex m
    .ok (r, m)
  | .bracketed span negated inner => do
    let s ← inner.set m
    let s ← m.close span negated s
    .ok (m.oneOf s, m)
  | .repetition _ q inner => do
    let (r, m) ← inner.meaning m
    .ok (.repeated q.min q.max (q.greedy != m.swapGreed) r, m)
  | .group _ kind inner => do
    -- What is set inside ends with the group.
    let (r, _) ← inner.meaning (kind.mode m)
    .ok (kind.regex r, m)
  | .concat _ parts => do
    let (rs, m) ← Tree.meanings m parts
    .ok (.catOf rs, m)
  | .alternation _ branches => do
    let (rs, m) ← Tree.meanings m branches
    .ok (.altOf rs, m)

def Tree.meanings (m : Mode) : List Tree → Except Fault (List Regex × Mode)
  | [] => .ok ([], m)
  | t :: ts => do
    let (r, m) ← t.meaning m
    let (rs, m) ← Tree.meanings m ts
    .ok (r :: rs, m)

end

/-- Groups have told branches from one another, and nothing else depends on them. -/
def Tree.regex (ignoreCase : Bool) (t : Tree) : Except Fault Regex := do
  let (r, _) ← t.meaning (.initial ignoreCase)
  .ok r.ungrouped

end PriorityLexer.Source
