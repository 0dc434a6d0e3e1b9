import PriorityLexer.Compile
import PriorityLexer.Regex.Machine
import PriorityLexer.Token

/-!
# Lexer — matching one token

A lexer has one program for all its definitions.  The first definition that matches at a place
decides, however long other matches would be; if its match is empty, there is no token.

* `Lexer` — definitions with the program that was compiled from them;
* `Lexer.build`, `Lexer.ofConfig` — compile a lexer;
* `Lexer.matchAt` — the token at an offset.
-/

namespace PriorityLexer

structure Lexer (κ : Type) where
  definitions : Definitions κ
  matcher : Program
  options : Options
  compiled : compile options (definitions.toList.map (·.pattern)) = .ok matcher

namespace Lexer

variable {κ : Type}

/-! ## Building -/

/-- Compiles definitions, highest priority first. -/
def build (ds : Definitions κ) (options : Options) : Except InvalidPattern (Lexer κ) :=
  match h : compile options (ds.toList.map (·.pattern)) with
  | .error e => .error e
  | .ok matcher => .ok ⟨ds, matcher, options, h⟩

def ofConfig (c : Config κ) : Except InvalidPattern (Lexer κ) :=
  build c.tokens c.options

/-! ## Matching -/

/-- The kind of the token at a place and the number of its characters. -/
def matchPlace? (l : Lexer κ) (p : Place) : Option (κ × Nat) :=
  match l.matcher.search? p with
  | none => none
  | some found =>
    -- Definitions behind the one that matches the empty text are not tried.
    if found.length = 0 then none
    else
      match l.definitions.get? found.pattern with
      | none => none
      | some d => some (d.kind, found.length)

/-- The token of `n` characters at a place with the given offset. -/
def tokenAt (kind : κ) (n : Nat) (p : Place) (offset : Nat) : Token κ :=
  let image := p.after.take n
  ⟨kind, .ofList image, offset, offset + byteLength image⟩

/-- The token that starts exactly at an offset.  There is none inside a character or past the end of
the input, and none where the empty text is matched. -/
def matchAt (l : Lexer κ) (input : String) (offset : Nat) : Option (Token κ) :=
  match place? input.toList offset with
  | none => none
  | some p =>
    match l.matchPlace? p with
    | none => none
    | some (kind, n) => some (tokenAt kind n p offset)

/-- What starts at each offset, up to the first one past the end of the input. -/
def matchEach (l : Lexer κ) (input : String) : List (Option (Token κ)) :=
  (List.range (input.utf8ByteSize + 2)).map (l.matchAt input)

end Lexer

end PriorityLexer
