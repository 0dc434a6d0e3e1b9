import PriorityLexer.Stream

/-!
# Session — many streams over one lexer

A session opens streams and numbers them in order.  A command is about one stream, or about the
lexer alone.

* `Step`, `Stream.step` — ways to consume a stream, with what is seen of it afterwards;
* `Command`, `Session.run` — commands of a session and their answers.
-/

namespace PriorityLexer

/-! ## Steps on one stream -/

inductive Step where
  /-- Consumes nothing. -/
  | state
  | next
  | nth (n : Nat)
  | take (n : Nat)
  | collect
  | count
  | last
deriving DecidableEq, Repr

/-- What a step yields. -/
inductive Yield (κ : Type) where
  | nothing
  | item (i : Option (Item κ))
  | items (is : List (Item κ))
  | tokens (ts : Except TokenizeError (List (Token κ)))
  | number (n : Nat)

/-- What is seen of a stream after a step. -/
structure Report (κ : Type) where
  yielded : Yield κ
  offset : Nat
  bound : Nat
  inputLength : Nat

namespace Stream

variable {κ : Type}

def consume (s : Stream κ) : Step → Yield κ × Stream κ
  | .state => (.nothing, s)
  | .next =>
    match s.next? with
    | none => (.item none, s)
    | some (i, s) => (.item (some i), s)
  | .nth n =>
    let (i, s) := s.nth n
    (.item i, s)
  | .take n =>
    let (is, s) := s.take n
    (.items is, s)
  | .collect =>
    let (ts, s) := s.collect
    (.tokens ts, s)
  | .count =>
    let (n, s) := s.count
    (.number n, s)
  | .last =>
    let (i, s) := s.last
    (.item i, s)

def step (s : Stream κ) (step : Step) : Report κ × Stream κ :=
  let (yielded, s) := s.consume step
  (⟨yielded, s.offset, s.bound, s.input.utf8ByteSize⟩, s)

end Stream

/-! ## Sessions -/

inductive Command where
  | «open» (input : String) (offset : Nat)
  | step (stream : Nat) (step : Step)
  | matchAt (input : String) (offset : Nat)
  | matchEach (input : String)
  | tokenizeAll (input : String)
  | tokenizeFrom (input : String) (offset : Nat)
deriving DecidableEq, Repr

inductive Answer (κ : Type) where
  /-- The number of the stream that was opened. -/
  | opened (stream : Nat)
  | report (r : Report κ)
  | noStream
  | token (t : Option (Token κ))
  | matches (ts : List (Option (Token κ)))
  | tokens (ts : Except TokenizeError (List (Token κ)))
  | items (is : List (Item κ))

structure Session (κ : Type) where
  lexer : Lexer κ
  streams : List (Stream κ)

namespace Session

variable {κ : Type}

def start (lexer : Lexer κ) : Session κ := ⟨lexer, []⟩

def run (s : Session κ) : Command → Answer κ × Session κ
  | .open input offset =>
    (.opened s.streams.length,
      { s with streams := s.streams ++ [s.lexer.tokenizeFrom input offset] })
  | .step k step =>
    match s.streams[k]? with
    | none => (.noStream, s)
    | some stream =>
      let (report, stream) := stream.step step
      (.report report, { s with streams := s.streams.set k stream })
  | .matchAt input offset => (.token (s.lexer.matchAt input offset), s)
  | .matchEach input => (.matches (s.lexer.matchEach input), s)
  | .tokenizeAll input => (.tokens (s.lexer.tokenizeAll input), s)
  | .tokenizeFrom input offset => (.items (s.lexer.tokenizeFrom input offset).all.1, s)

/-- The answers to commands in their order. -/
def runAll (s : Session κ) : List Command → List (Answer κ) × Session κ
  | [] => ([], s)
  | c :: cs =>
    let (answer, s) := s.run c
    let (answers, s) := runAll s cs
    (answer :: answers, s)

end Session

end PriorityLexer
