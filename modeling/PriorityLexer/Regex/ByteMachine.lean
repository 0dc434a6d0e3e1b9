import PriorityLexer.Regex.Machine
import PriorityLexer.Regex.Utf8

/-!
# ByteMachine — running a matching program over the bytes of a text

A thread that takes a character goes on as one strand for each sequence of bytes that writes a
member of the set; a thread that takes a single byte is content with that byte, whatever comes
behind it.  Strands go on byte by byte, the preferred ones first, so that a match can end at any
offset.

* `Strand`, `Inst.strands` — threads that wait for bytes;
* `ByteFrontier`, `Program.exploreBytes` — follows strands at one offset;
* `Program.runBytes`, `Program.searchBytes` — which expression matches, and the offset where its
  match ends.

What an assertion says inside of a character is left open.
-/

namespace PriorityLexer

/-! ## Strands -/

/-- The ranges of the bytes that have to come next, and the instruction behind them. -/
structure Strand where
  ranges : List ByteRange
  next : Nat

namespace Strand

/-- A thread that stands at an instruction. -/
def ready (i : Nat) : Strand := ⟨[], i⟩

/-- The strand behind a byte, if it goes on with it. -/
def read? (b : Nat) (s : Strand) : Option Strand :=
  (ByteRange.follow? b s.ranges).map (⟨·, s.next⟩)

end Strand

namespace Inst

/-- How an instruction goes on that takes a character or a byte. -/
def strands : Inst → List Strand
  | .chars s next => s.sequences.map (⟨·, next⟩)
  | .bytes s next => s.ranges.map fun r => ⟨[⟨r.lo, r.hi⟩], next⟩
  | .look _ _ | .jump _ | .split _ _ | .accept _ => []

/-- Where an instruction leads without taking anything; `holds` tells which assertions hold. -/
def leads (holds : Look → Bool) : Inst → List Nat
  | .chars _ _ | .bytes _ _ | .accept _ => []
  | .look l next => if holds l then [next] else []
  | .jump next => [next]
  | .split first second => [first, second]

theorem length_leads_le (holds : Look → Bool) (inst : Inst) : (inst.leads holds).length ≤ 2 := by
  cases inst with
  | look l next => simp only [leads]; split <;> simp
  | _ => simp [leads]

end Inst

/-! ## Frontiers -/

/-- What the strands at an offset have led to, as in a `Frontier`. -/
structure ByteFrontier where
  waiting : List Strand
  accepted : Option Nat
  marks : Marks

namespace ByteFrontier

def begin (marks : Marks) : ByteFrontier := ⟨[], none, marks.clear⟩

/-- A strand inside of a character waits for the next byte, unless one that is preferred accepts. -/
def wait (f : ByteFrontier) (s : Strand) : ByteFrontier :=
  if f.accepted.isSome then f else { f with waiting := s :: f.waiting }

def stops (f : ByteFrontier) (i : Nat) : Bool :=
  f.accepted.isSome || f.marks.contains i

/-- Visits an instruction. -/
def visit (f : ByteFrontier) (i : Nat) (inst : Inst) : ByteFrontier where
  waiting := inst.strands.reverse ++ f.waiting
  accepted :=
    match inst with
    | .accept pattern => some pattern
    | _ => f.accepted
  marks := f.marks.insert i

@[simp] theorem marks_wait (f : ByteFrontier) (s : Strand) : (f.wait s).marks = f.marks := by
  unfold wait
  split <;> rfl

end ByteFrontier

/-! ## Runs -/

namespace Program

/-- Follows strands, preferred ones first. -/
def exploreBytes (p : Program) (holds : Look → Bool) (strands : List Strand) (f : ByteFrontier) :
    ByteFrontier :=
  match strands with
  | [] => f
  | s :: rest =>
    match s.ranges with
    | _ :: _ => exploreBytes p holds rest (f.wait s)
    | [] =>
      if f.stops s.next then exploreBytes p holds rest f
      else
        match p.insts[s.next]? with
        | none => exploreBytes p holds rest f
        | some inst =>
          exploreBytes p holds ((inst.leads holds).map .ready ++ rest) (f.visit s.next inst)
termination_by strands.length + 2 * f.marks.missing
decreasing_by
  · simp
  · simp
  · simp
  · have hm : f.marks.contains s.next = false := by simp_all [ByteFrontier.stops]
    have hmissing := Marks.missing_insert hm
    have hleads := inst.length_leads_le holds
    simp only [List.length_append, List.length_map, List.length_cons, ByteFrontier.visit]
    omega

/-- What the strands at an offset lead to. -/
def byteFrontier (p : Program) (holds : Look → Bool) (strands : List Strand) : ByteFrontier :=
  p.exploreBytes holds strands (.begin (.ofSize p.size))

/-- An expression that matches, and the offset where its match ends. -/
structure ByteFound where
  pattern : Nat
  stop : Nat
deriving DecidableEq, Repr

/-- Runs strands over the rest of the bytes; `holds` tells which assertions hold at each offset. -/
def runBytes (p : Program) (holds : Nat → Look → Bool) (strands : List Strand) (offset : Nat) :
    List Nat → Option ByteFound
  | [] => (p.byteFrontier (holds offset) strands).accepted.map (⟨·, offset⟩)
  | b :: bytes =>
    let f := p.byteFrontier (holds offset) strands
    -- Strands that wait are preferred to the one that accepts here.
    (runBytes p holds (f.waiting.reverse.filterMap (Strand.read? b)) (offset + 1) bytes).or
      (f.accepted.map (⟨·, offset⟩))

end Program

/-- Which assertions hold at an offset of a text; inside of a character, `inside` tells. -/
def holdsAt (inside : Nat → Look → Bool) (text : List Char) (offset : Nat) (l : Look) : Bool :=
  match place? text offset with
  | some p => l.holds p
  | none => inside offset l

/-- The bytes of an input as numbers. -/
def inputBytes (input : String) : List Nat :=
  input.toByteArray.data.toList.map UInt8.toNat

/-- The preferred match that starts at an offset. -/
def Program.searchBytes (p : Program) (inside : Nat → Look → Bool) (input : String) (offset : Nat) :
    Option ByteFound :=
  p.runBytes (holdsAt inside input.toList) (p.starts.map .ready) offset
    ((inputBytes input).drop offset)

end PriorityLexer
