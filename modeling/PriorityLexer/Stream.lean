import PriorityLexer.Lexer

/-!
# Stream — dividing an input into tokens

A stream yields one token after the other, each where the last one ended.  At the end of the input
it is over; where no token starts it yields one error and is over.

* `Stream` — the state of a stream;
* `Stream.next?` — the next item and the state after it;
* `Stream.drain` — several items;
* `Stream.nth`, `take`, `collect`, `count`, `last` — other ways to consume a stream;
* `Lexer.tokenize`, `tokenizeFrom`, `tokenizeAll` — streams over an input, and all its tokens.

Every token takes at least one byte, so the bytes that are left bound the number of items.
-/

namespace PriorityLexer

structure Stream (κ : Type) where
  lexer : Lexer κ
  input : String
  /-- Where the next token starts. -/
  offset : Nat
  failed : Bool
  /-- The place at the offset, kept so that it need not be looked for. -/
  place : Option Place
  place_eq : place = place? input.toList offset

/-- What a stream yields. -/
abbrev Item (κ : Type) := Except TokenizeError (Token κ)

namespace Stream

variable {κ : Type}

def start (lexer : Lexer κ) (input : String) (offset : Nat) : Stream κ :=
  ⟨lexer, input, offset, false, place? input.toList offset, rfl⟩

def isOver (s : Stream κ) : Bool :=
  s.failed || s.input.utf8ByteSize ≤ s.offset

/-- The most items that can still come. -/
def bound (s : Stream κ) : Nat :=
  if s.failed then 0 else s.input.utf8ByteSize - s.offset

/-- The state behind `n` more characters. -/
def advance (s : Stream κ) (p : Place) (h : s.place = some p) (n : Nat) : Stream κ where
  lexer := s.lexer
  input := s.input
  offset := s.offset + byteLength (p.after.take n)
  failed := s.failed
  place := some (p.move n)
  place_eq := (place?_add_byteLength_take (s.place_eq ▸ h) n).symm

/-- The state after an error at the offset. -/
def fail (s : Stream κ) : Item κ × Stream κ :=
  (.error ⟨s.offset⟩, { s with failed := true })

def next? (s : Stream κ) : Option (Item κ × Stream κ) :=
  if s.isOver then none
  else
    match h : s.place with
    | none => some s.fail
    | some p =>
      match s.lexer.matchPlace? p with
      | none => some s.fail
      | some (kind, n) => some (.ok (Lexer.tokenAt kind n p s.offset), s.advance p h n)

/-! ## Consuming -/

/-- Up to `n` items, and the state after them. -/
def drain : Nat → Stream κ → List (Item κ) × Stream κ
  | 0, s => ([], s)
  | n + 1, s =>
    match s.next? with
    | none => ([], s)
    | some (item, s) =>
      let (items, s) := drain n s
      (item :: items, s)

/-- The first `n` items; nothing is looked for behind them. -/
def take (n : Nat) (s : Stream κ) : List (Item κ) × Stream κ :=
  s.drain (min n s.bound)

/-- All items. -/
def all (s : Stream κ) : List (Item κ) × Stream κ :=
  s.drain s.bound

/-- The item after the next `n` ones. -/
def nth (n : Nat) (s : Stream κ) : Option (Item κ) × Stream κ :=
  -- A stream that ends among them stays over.
  let (_, s) := s.take n
  match s.next? with
  | none => (none, s)
  | some (item, s) => (some item, s)

/-- The tokens among items up to the first error, or that error. -/
def gather : List (Item κ) → Except TokenizeError (List (Token κ))
  | [] => .ok []
  | .error e :: _ => .error e
  | .ok t :: items =>
    match gather items with
    | .error e => .error e
    | .ok ts => .ok (t :: ts)

/-- All tokens, or the error. -/
def collect (s : Stream κ) : Except TokenizeError (List (Token κ)) × Stream κ :=
  let (items, s) := s.all
  (gather items, s)

/-- The number of items that are left, an error included. -/
def count (s : Stream κ) : Nat × Stream κ :=
  let (items, s) := s.all
  (items.length, s)

def last (s : Stream κ) : Option (Item κ) × Stream κ :=
  let (items, s) := s.all
  (items.getLast?, s)

end Stream

namespace Lexer

variable {κ : Type}

def tokenizeFrom (l : Lexer κ) (input : String) (offset : Nat) : Stream κ :=
  .start l input offset

def tokenize (l : Lexer κ) (input : String) : Stream κ :=
  l.tokenizeFrom input 0

def tokenizeAll (l : Lexer κ) (input : String) : Except TokenizeError (List (Token κ)) :=
  (l.tokenize input).collect.1

end Lexer

end PriorityLexer
