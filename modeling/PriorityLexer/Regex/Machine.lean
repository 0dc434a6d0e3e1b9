import PriorityLexer.Regex.Marks
import PriorityLexer.Regex.Program

/-!
# Machine — running a matching program

All threads of a program run side by side over the text, the preferred ones first.  At each place an
instruction is visited at most once, by the first thread that reaches it; it counts as visited
before an assertion is tested.  A thread that accepts ends all threads that are less preferred.

* `Frontier` — what the threads at a place have led to;
* `Program.explore` — follows threads at one place up to the instructions that take a character;
* `Program.search?` — which expression matches at a place, and how many characters it takes.

What matches at a place depends on the program and the place alone.
-/

namespace PriorityLexer

/-- Where an instruction leads at a place without taking a character, preferred first. -/
def Inst.targets (place : Place) : Inst → List Nat
  | .chars _ _ | .bytes _ _ | .accept _ => []
  | .look l next => if l.holds place then [next] else []
  | .jump next => [next]
  | .split first second => [first, second]

theorem Inst.length_targets_le (place : Place) (inst : Inst) :
    (inst.targets place).length ≤ 2 := by
  cases inst with
  | look l next => simp only [targets]; split <;> simp
  | _ => simp [targets]

/-- What the threads at a place have led to: where they take a character, last ones first, and the
expression that one of them accepts.  The marks hold the instructions visited. -/
structure Frontier where
  waiting : List Nat
  accepted : Option Nat
  marks : Marks

namespace Frontier

/-- Nothing has been visited; the marks are used again. -/
def begin (marks : Marks) : Frontier := ⟨[], none, marks.clear⟩

/-- Whether a thread ends at an address: another one has been there before, or one that is preferred
accepts. -/
def stops (f : Frontier) (i : Nat) : Bool :=
  f.accepted.isSome || f.marks.contains i

/-- Visits an instruction. -/
def visit (f : Frontier) (i : Nat) : Inst → Frontier
  | .chars _ _ | .bytes _ _ => ⟨i :: f.waiting, f.accepted, f.marks.insert i⟩
  | .accept pattern => ⟨f.waiting, some pattern, f.marks.insert i⟩
  | .look _ _ | .jump _ | .split _ _ => ⟨f.waiting, f.accepted, f.marks.insert i⟩

@[simp] theorem marks_visit (f : Frontier) (i : Nat) (inst : Inst) :
    (f.visit i inst).marks = f.marks.insert i := by
  cases inst <;> rfl

end Frontier

namespace Program

/-- Follows threads from their addresses on, preferred ones first. -/
def explore (p : Program) (place : Place) (threads : List Nat) (f : Frontier) : Frontier :=
  match threads with
  | [] => f
  | i :: rest =>
    if f.stops i then explore p place rest f
    else
      match p.insts[i]? with
      | none => explore p place rest f
      -- A thread that comes later is stopped here, even where an assertion fails.
      | some inst => explore p place (inst.targets place ++ rest) (f.visit i inst)
termination_by threads.length + 2 * f.marks.missing
decreasing_by
  · simp
  · simp
  · have hm : f.marks.contains i = false := by simp_all [Frontier.stops]
    have hmissing := Marks.missing_insert hm
    have htargets := inst.length_targets_le place
    simp only [List.length_append, List.length_cons, Frontier.marks_visit]
    omega

/-- Where a thread goes that takes a character.  Bytes are characters of their own here, as those of
ASCII are. -/
def take? (p : Program) (c : Char) (i : Nat) : Option Nat :=
  match p.insts[i]? with
  | some (.chars s next) | some (.bytes s next) => if s.contains c then some next else none
  | _ => none

/-- The threads that go on behind a character, preferred ones first. -/
def advance (p : Program) (c : Char) (f : Frontier) : List Nat :=
  f.waiting.reverse.filterMap (p.take? c)

/-- An expression that matches, and the number of characters that it takes. -/
structure Found where
  pattern : Nat
  length : Nat
deriving DecidableEq, Repr

/-- Runs threads over the rest of a text; `taken` characters lie behind them, and `best` is the
preferred match so far. -/
def runFrom (p : Program) (before : Option Char) (threads : List Nat) (marks : Marks) (taken : Nat)
    (best : Option Found) : List Char → Option Found
  | [] =>
    let f := p.explore ⟨before, []⟩ threads (.begin marks)
    (f.accepted.map (⟨·, taken⟩)).or best
  | c :: rest =>
    let f := p.explore ⟨before, c :: rest⟩ threads (.begin marks)
    -- Threads that wait are preferred to the one that accepts here.
    let best := (f.accepted.map (⟨·, taken⟩)).or best
    match p.advance c f with
    | [] => best
    | threads => runFrom p (some c) threads f.marks (taken + 1) best rest

/-- The preferred match at a place. -/
def search? (p : Program) (place : Place) : Option Found :=
  p.runFrom place.before p.starts (.ofSize p.size) 0 none place.after

end Program

end PriorityLexer
