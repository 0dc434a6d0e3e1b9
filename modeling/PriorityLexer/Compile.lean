import PriorityLexer.Error
import PriorityLexer.Options
import PriorityLexer.Regex.Program
import PriorityLexer.Source.Meaning

/-!
# Compile — from definitions to one matching program

Each definition is parsed by itself, so nothing in one reaches into another.  All of them are parsed
before the first is given a meaning, and only then their common size is looked at.  What they mean
becomes one program, in which a definition keeps its number.

* `CompiledRegex` — a regular expression that was compiled by itself;
* `compile` — the program of definitions, or the first error.
-/

namespace PriorityLexer

/-- The memory that may be used for matching, in bytes. -/
def sizeLimit : Nat := 10485760

/-! ## One regular expression -/

/-- A source that has a meaning, with the setting under which it has. -/
structure CompiledRegex where
  source : String
  ignoreCase : Bool
  regex : Regex

inductive CompileError where
  | fault (source : String) (f : Source.Fault)
  | tooLarge
deriving DecidableEq, Repr

def CompileError.message : CompileError → String
  | .fault source f => f.message source.toList
  | .tooLarge => "Compiled regex exceeds size limit of " ++ toString sizeLimit ++ " bytes."

def CompiledRegex.compile (source : String) (ignoreCase : Bool) :
    Except CompileError CompiledRegex :=
  match Source.parse source.toList >>= Source.Tree.regex ignoreCase with
  | .error f => .error (.fault source f)
  | .ok r => if sizeLimit < r.weight then .error .tooLarge else .ok ⟨source, ignoreCase, r⟩

/-- The source alone: the setting is that of the lexer. -/
def Pattern.ofCompiled (r : CompiledRegex) : Pattern := .regex r.source

/-! ## Definitions -/

def Pattern.source (p : Pattern) : List Char := p.fragment.toList

def faultAt (index : Nat) (p : Pattern) (f : Source.Fault) : InvalidPattern :=
  ⟨some index, f.message p.source⟩

/-- Lays a fault to the pattern of that index. -/
def blame {α : Type} (index : Nat) (p : Pattern) (r : Except Source.Fault α) :
    Except InvalidPattern α :=
  r.mapError (faultAt index p)

/-- What `check` makes of each element, where elements are numbered from `index` on, or the first
error. -/
def checkAll {α β ε : Type} (check : Nat → α → Except ε β) (index : Nat) :
    List α → Except ε (List β)
  | [] => .ok []
  | a :: as => do
    let b ← check index a
    let bs ← checkAll check (index + 1) as
    .ok (b :: bs)

def parseAt (index : Nat) (p : Pattern) : Except InvalidPattern (Pattern × Source.Tree) := do
  let t ← blame index p (Source.parse p.source)
  .ok (p, t)

/-- Gives a meaning to the tree of a pattern. -/
def regexAt (ignoreCase : Bool) (index : Nat) (t : Pattern × Source.Tree) :
    Except InvalidPattern Regex :=
  blame index t.1 (t.2.regex ignoreCase)

def tooLarge : InvalidPattern := ⟨none, "error building NFA"⟩

def compile (options : Options) (patterns : List Pattern) :
    Except InvalidPattern Program := do
  let trees ← checkAll parseAt 0 patterns
  -- All sources are well formed from here on.
  let rs ← checkAll (regexAt options.ignoreCase) 0 trees
  if sizeLimit < Regex.totalWeight rs then .error tooLarge
  else .ok (.ofRegexes rs)

end PriorityLexer
