/-!
# Fault — what can be wrong with the source of a regular expression

A fault has a cause and the span of the source that shows it; two causes also point at an earlier
place.  Spans count characters.

* `Cause`, `Cause.text` — the causes and their wording;
* `Fault` — a cause with its place;
* `Fault.message` — the source with the place marked below it, and the wording.

A source of one line is shown indented by four blanks.  One of several lines is shown with line
numbers between two rulers; a span that crosses lines is described below the second one.
-/

namespace PriorityLexer.Source

/-- The characters from index `start` up to but without `stop`. -/
structure Span where
  start : Nat
  stop : Nat
deriving DecidableEq, Repr

namespace Span

/-- The empty span at an index. -/
def point (pos : Nat) : Span := ⟨pos, pos⟩

/-- The span of the character at an index. -/
def char (pos : Nat) : Span := ⟨pos, pos + 1⟩

end Span

inductive Cause where
  | classEscape | classRangeOrder | classRangeBound | classUnclosed
  | decimalTooLarge
  | hexEmpty | hexInvalid | hexDigit
  | escapeIncomplete | escapeUnknown
  | flagDangling | flagRepeated | flagNegatedTwice | flagUnfinished | flagUnknown
  | groupNameRepeated | groupNameEmpty | groupNameInvalid | groupNameUnclosed
  | groupUnclosed | groupUnopened
  | nestedTooDeep
  | countOrder | countMissing | countUnclosed
  | repetitionMissing
  | propertyInvalid
  | boundaryUnclosed | boundaryUnknown | boundaryOrCountUnfinished
  | backreference | lookAround
  | unicodeNotAllowed | invalidUtf8 | propertyUnknown | propertyValueUnknown
deriving DecidableEq, Repr

/-- How many classes, groups, repetitions and other nodes may be nested. -/
def nestLimit : Nat := 250

def Cause.text : Cause → String
  | .classEscape => "invalid escape sequence found in character class"
  | .classRangeOrder => "invalid character class range, the start must be <= the end"
  | .classRangeBound => "invalid range boundary, must be a literal"
  | .classUnclosed => "unclosed character class"
  | .decimalTooLarge => "decimal literal invalid"
  | .hexEmpty => "hexadecimal literal empty"
  | .hexInvalid => "hexadecimal literal is not a Unicode scalar value"
  | .hexDigit => "invalid hexadecimal digit"
  | .escapeIncomplete => "incomplete escape sequence, reached end of pattern prematurely"
  | .escapeUnknown => "unrecognized escape sequence"
  | .flagDangling => "dangling flag negation operator"
  | .flagRepeated => "duplicate flag"
  | .flagNegatedTwice => "flag negation operator repeated"
  | .flagUnfinished => "expected flag but got end of regex"
  | .flagUnknown => "unrecognized flag"
  | .groupNameRepeated => "duplicate capture group name"
  | .groupNameEmpty => "empty capture group name"
  | .groupNameInvalid => "invalid capture group character"
  | .groupNameUnclosed => "unclosed capture group name"
  | .groupUnclosed => "unclosed group"
  | .groupUnopened => "unopened group"
  | .nestedTooDeep =>
    "exceed the maximum number of nested parentheses/brackets (" ++ toString nestLimit ++ ")"
  | .countOrder => "invalid repetition count range, the start must be <= the end"
  | .countMissing => "repetition quantifier expects a valid decimal"
  | .countUnclosed => "unclosed counted repetition"
  | .repetitionMissing => "repetition operator missing expression"
  | .propertyInvalid => "invalid Unicode character class"
  | .boundaryUnclosed =>
    "special word boundary assertion is either unclosed or contains an invalid character"
  | .boundaryUnknown =>
    "unrecognized special word boundary assertion, valid choices are: start, end, start-half or " ++
      "end-half"
  | .boundaryOrCountUnfinished =>
    "found either the beginning of a special word boundary or a bounded repetition on a \\b " ++
      "with an opening brace, but no closing brace"
  | .backreference => "backreferences are not supported"
  | .lookAround => "look-around, including look-ahead and look-behind, is not supported"
  | .unicodeNotAllowed => "Unicode not allowed here"
  | .invalidUtf8 => "pattern can match invalid UTF-8"
  | .propertyUnknown => "Unicode property not found"
  | .propertyValueUnknown => "Unicode property value not found"

structure Fault where
  cause : Cause
  span : Span
  /-- The place of the first of two things that exclude each other. -/
  earlier : Option Span
deriving DecidableEq, Repr

namespace Fault

def of (cause : Cause) (span : Span) : Fault := ⟨cause, span, none⟩

/-- The spans to mark, in ascending order. -/
def spans (f : Fault) : List Span :=
  f.earlier.toList ++ [f.span]

/-! ## Lines and columns -/

/-- A place in a text of several lines, both counted from one. -/
structure Position where
  line : Nat
  column : Nat
deriving DecidableEq, Repr

/-- The position of an index, where `p` is the position of the first character. -/
def positionFrom (p : Position) : Nat → List Char → Position
  | 0, _ => p
  | _ + 1, [] => p
  | n + 1, c :: cs =>
    positionFrom (if c = '\n' then ⟨p.line + 1, 1⟩ else ⟨p.line, p.column + 1⟩) n cs

def position (source : List Char) (index : Nat) : Position :=
  positionFrom ⟨1, 1⟩ index source

/-- The lines of a text without their ends, `acc` being the reversed start of the first.  An end is
a line feed with the carriage return before it; what follows the last one is a line if it is not
empty. -/
def linesFrom (acc : List Char) : List Char → List (List Char)
  | [] => if acc.isEmpty then [] else [acc.reverse]
  | c :: cs =>
    if c = '\n' then
      (match acc with
        | '\r' :: line => line.reverse
        | line => line.reverse) :: linesFrom [] cs
    else linesFrom (c :: acc) cs

def lines (source : List Char) : List (List Char) :=
  linesFrom [] source

/-! ## Marked source -/

/-- Marks below one line: `column` blanks and marks are written already. -/
def marks (column : Nat) : List (Position × Position) → List Char
  | [] => []
  | (start, stop) :: rest =>
    let blanks := start.column - 1 - column
    let width := max 1 (stop.column - start.column)
    List.replicate blanks ' ' ++ List.replicate width '^' ++ marks (column + blanks + width) rest

/-- The mark line of a line, if one of the spans lies in it. -/
def markLine (padding line : Nat) (places : List (Position × Position)) : List Char :=
  match places.filter (fun (start, stop) => start.line = line && stop.line = line) with
  | [] => []
  | here => List.replicate padding ' ' ++ marks 0 here ++ ['\n']

def padLeft (width : Nat) (text : String) : List Char :=
  List.replicate (width - text.length) ' ' ++ text.toList

def note (start stop : Position) : List Char :=
  ("on line " ++ toString start.line ++ " (column " ++ toString start.column ++ ") through line " ++
    toString stop.line ++ " (column " ++ toString (stop.column - 1) ++ ")\n").toList

/-- The lines from number `first` on, each followed by its marks; `width` is the width of line
numbers. -/
def markedLines (width : Nat) (places : List (Position × Position)) :
    Nat → List (List Char) → List Char
  | _, [] => []
  | first, line :: rest =>
    padLeft width (toString first) ++ ": ".toList ++ line ++ ['\n'] ++
      markLine (width + 2) first places ++ markedLines width places (first + 1) rest

def markedSource (source : List Char) (places : List (Position × Position)) : List Char :=
  if source.contains '\n' then
    let shown := lines source
    let count := shown.length + if source.getLast? = some '\n' then 1 else 0
    let ruler := List.replicate 79 '~' ++ ['\n']
    ruler ++ markedLines (toString count).length places 1 shown ++ ruler ++
      (places.filter (fun (start, stop) => start.line ≠ stop.line)).flatMap
        (fun (start, stop) => note start stop)
  else "    ".toList ++ source ++ ['\n'] ++ markLine 4 1 places

def message (source : List Char) (f : Fault) : String :=
  let places := f.spans.map fun s => (position source s.start, position source s.stop)
  .ofList ("regex parse error:\n".toList ++ markedSource source places ++
    ("error: " ++ f.cause.text).toList)

end Fault

end PriorityLexer.Source
