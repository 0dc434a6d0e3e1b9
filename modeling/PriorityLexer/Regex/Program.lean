import PriorityLexer.Regex.Basic

/-!
# Program — matching programs

Expressions become one list of instructions.  Every instruction names those that may come next, the
preferred one first.

* `Inst`, `Program` — instructions, and programs with the addresses where they start;
* `Regex.size`, `Regex.weight` — the number of instructions of an expression, and their memory;
* `Regex.code` — its instructions, laid out from a base address on and left for an exit address;
* `Program.ofRegexes` — the program of several expressions, one behind the other, each of which ends
  with an `accept` of its own.

An expression always starts at its base address.
-/

namespace PriorityLexer

inductive Inst where
  /-- Takes one character of the set. -/
  | chars (s : CharSet) (next : Nat)
  /-- Takes one byte of the set. -/
  | bytes (s : CharSet) (next : Nat)
  | look (l : Look) (next : Nat)
  | jump (next : Nat)
  /-- Prefers `first`. -/
  | split (first second : Nat)
  /-- The expression of that number matches. -/
  | accept (pattern : Nat)

namespace Inst

/-- Goes on with a body or leaves for an exit; greedy means that the body is preferred. -/
def choice (greedy : Bool) (body exit : Nat) : Inst :=
  if greedy then .split body exit else .split exit body

end Inst

namespace Regex

/-- The number of instructions of a repetition, where one copy has `n` of them. -/
def repetitionSize (min : Nat) (max : Option Nat) (canBeEmpty : Bool) (n : Nat) : Nat :=
  match max with
  | some max => min * n + (max - min) * (n + 1) + 1
  | none =>
    if min = 0 then if canBeEmpty then n + 2 else n + 1
    else min * n + 1

def size : Regex → Nat
  | .empty | .chars _ | .bytes _ | .look _ => 1
  | .cat a b => a.size + b.size
  | .alt a b => 1 + a.size + b.size
  | .repetition min max _ r => repetitionSize min max r.canBeEmpty r.size
  | .capture r => r.size

/-- An estimate of the memory that matching needs, in bytes.  Each instruction is put down for 100
of them, while its real need grows with its set.  Where the limit lies is thus an assumption and no
exact rule: a text of 104858 characters is too large, and `\w{1000}` is not. -/
def weight (r : Regex) : Nat := 100 * r.size

/-- The memory that several expressions need together. -/
def totalWeight : List Regex → Nat
  | [] => 0
  | r :: rs => r.weight + totalWeight rs

/-- `count` copies of `n` instructions, one behind the other; each leaves for the next. -/
def copies (code : Nat → Nat → List Inst) (n : Nat) : Nat → Nat → List Inst
  | 0, _ => []
  | count + 1, base => code base (base + n) ++ copies code n count (base + n)

/-- `count` copies of which each may be the last: before each, the exit can be taken instead. -/
def optionalCopies (code : Nat → Nat → List Inst) (n : Nat) (greedy : Bool) (exit : Nat) :
    Nat → Nat → List Inst
  | 0, _ => []
  | count + 1, base =>
    .choice greedy (base + 1) exit :: code (base + 1) (base + 1 + n) ++
      optionalCopies code n greedy exit count (base + 1 + n)

/-- The code of a repetition.

* With an upper bound, the copies that are needed come first and then those that may be left out.
* Without one, the last copy is followed by a choice to repeat it.  Where no copy is needed, a
  choice comes first; the two choices are one unless a copy can match the empty text. -/
def repetitionCode (code : Nat → Nat → List Inst) (n : Nat) (canBeEmpty : Bool) (min : Nat)
    (max : Option Nat) (greedy : Bool) (base exit : Nat) : List Inst :=
  match max with
  | some max =>
    copies code n min base ++ optionalCopies code n greedy exit (max - min) (base + min * n) ++
      [.jump exit]
  | none =>
    if min = 0 then
      if canBeEmpty then
        .choice greedy (base + 1) exit :: code (base + 1) (base + 1 + n) ++
          [.choice greedy (base + 1) exit]
      -- A copy goes back to the choice in front of it.
      else .choice greedy (base + 1) exit :: code (base + 1) base
    else
      -- The choice goes back to the start of the last copy.
      copies code n min base ++ [.choice greedy (base + (min - 1) * n) exit]

def code : Regex → Nat → Nat → List Inst
  | .empty, _, exit => [.jump exit]
  | .chars s, _, exit => [.chars s exit]
  | .bytes s, _, exit => [.bytes s exit]
  | .look l, _, exit => [.look l exit]
  | .cat a b, base, exit => a.code base (base + a.size) ++ b.code (base + a.size) exit
  | .alt a b, base, exit =>
    .split (base + 1) (base + 1 + a.size) :: a.code (base + 1) exit ++
      b.code (base + 1 + a.size) exit
  | .repetition min max greedy r, base, exit =>
    repetitionCode r.code r.size r.canBeEmpty min max greedy base exit
  | .capture r, base, exit => r.code base exit

end Regex

structure Program where
  insts : Array Inst
  /-- Where the expressions start, preferred ones first. -/
  starts : List Nat

namespace Program

/-- The instructions of expressions that are numbered from `pattern` on, laid out from `base` on. -/
def codeFrom (pattern base : Nat) : List Regex → List Inst
  | [] => []
  | r :: rs =>
    r.code base (base + r.size) ++
      .accept pattern :: codeFrom (pattern + 1) (base + r.size + 1) rs

/-- Where expressions start that are laid out from `base` on. -/
def startsFrom (base : Nat) : List Regex → List Nat
  | [] => []
  | r :: rs => base :: startsFrom (base + r.size + 1) rs

def ofRegexes (rs : List Regex) : Program :=
  ⟨(codeFrom 0 0 rs).toArray, startsFrom 0 rs⟩

def size (p : Program) : Nat := p.insts.size

end Program

/-! ## Layout -/

namespace Regex

theorem length_copies {code : Nat → Nat → List Inst} {n : Nat}
    (h : ∀ base exit, (code base exit).length = n) (count base : Nat) :
    (copies code n count base).length = count * n := by
  induction count generalizing base with
  | zero => simp [copies]
  | succ count ih => simp [copies, h, ih, Nat.succ_mul, Nat.add_comm]

theorem length_optionalCopies {code : Nat → Nat → List Inst} {n : Nat}
    (h : ∀ base exit, (code base exit).length = n) (greedy : Bool) (exit count base : Nat) :
    (optionalCopies code n greedy exit count base).length = count * (n + 1) := by
  induction count generalizing base with
  | zero => simp [optionalCopies]
  | succ count ih => simp [optionalCopies, h, ih, Nat.succ_mul]; omega

@[simp] theorem length_code (r : Regex) (base exit : Nat) : (r.code base exit).length = r.size := by
  induction r generalizing base exit with
  | empty | chars | bytes | look => rfl
  | cat a b iha ihb => simp [code, size, iha, ihb]
  | alt a b iha ihb => simp [code, size, iha, ihb]; omega
  | repetition min max greedy r ih =>
      have hc := length_copies (n := r.size) ih
      have ho := length_optionalCopies (n := r.size) ih
      simp only [code, size, repetitionCode, repetitionSize]
      split
      · simp [hc, ho, Nat.add_assoc]
      · split
        · split <;> simp [ih]
        · simp [hc]
  | capture r ih => exact ih base exit

end Regex

end PriorityLexer
