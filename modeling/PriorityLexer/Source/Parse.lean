import PriorityLexer.Source.Lexeme

/-!
# Parse — building the tree of a regular expression

Lexemes are read one after the other and added to the innermost open group.

* `Branches` — what has been read of a group: finished branches and the branch at hand;
* `State` — the innermost group, the groups around it, and what has been seen of flags and names;
* `State.add` — the state after one more lexeme;
* `parse` — the tree of a source, or its first fault.
-/

namespace PriorityLexer.Source

/-! ## Branches -/

/-- The branches of a group: `finished` ones and the parts of the last one, both last first. -/
structure Branches where
  start : Nat
  finished : List Tree
  partStart : Nat
  parts : List Tree

namespace Branches

def begin (pos : Nat) : Branches := ⟨pos, [], pos, []⟩

def add (b : Branches) (t : Tree) : Branches :=
  { b with parts := t :: b.parts }

/-- The branch at hand, which ends at `pos`. -/
def lastBranch (b : Branches) (pos : Nat) : Tree :=
  match b.parts with
  | [] => .empty ⟨b.partStart, pos⟩
  | [t] => t
  | parts => .concat ⟨b.partStart, pos⟩ parts.reverse

/-- Ends a branch at `pos` and begins the next one behind the bar. -/
def bar (b : Branches) (pos : Nat) : Branches :=
  ⟨b.start, b.lastBranch pos :: b.finished, pos + 1, []⟩

/-- The tree of all branches, which end at `pos`. -/
def toTree (b : Branches) (pos : Nat) : Tree :=
  match b.finished with
  | [] => b.lastBranch pos
  | finished => .alternation ⟨b.start, pos⟩ (b.lastBranch pos :: finished).reverse

/-- Whether a quantifier may come next. -/
def repeatable (b : Branches) : Bool :=
  b.parts.head?.any Tree.isRepeatable

/-- Applies a quantifier that ends at `pos` to the last part. -/
def quantify (b : Branches) (q : Quantifier) (pos : Nat) : Branches :=
  match b.parts with
  | [] => b
  | t :: parts => { b with parts := .repetition ⟨t.span.start, pos⟩ q t :: parts }

end Branches

/-! ## States -/

/-- An open group: its parenthesis, what is read around it, and whether blanks are ignored there. -/
structure Enclosure where
  pos : Nat
  kind : GroupKind
  around : Branches
  ignoreSpace : Bool

structure State where
  enclosures : List Enclosure
  branches : Branches
  ignoreSpace : Bool
  names : List (String × Span)

namespace State

def initial : State := ⟨[], .begin 0, false, []⟩

/-- A name that was given to an earlier group. -/
def nameFault? (st : State) : GroupKind → Option Fault
  | .named span name =>
    (st.names.find? (·.1 = name)).map fun (_, earlier) => ⟨.groupNameRepeated, span, some earlier⟩
  | _ => none

def enter (st : State) (kind : GroupKind) (start stop : Nat) : State where
  enclosures := ⟨start, kind, st.branches, st.ignoreSpace⟩ :: st.enclosures
  branches := .begin stop
  ignoreSpace :=
    match kind with
    | .plain changes => (changes.setting? .ignoreSpace).getD st.ignoreSpace
    | _ => st.ignoreSpace
  names :=
    match kind with
    | .named span name => (name, span) :: st.names
    | _ => st.names

/-- The state after a lexeme that lies between `start` and `stop`. -/
def add (st : State) (start stop : Nat) : Lexeme → Except Fault State
  | .part t => .ok { st with branches := st.branches.add t }
  | .quantifier q => .ok { st with branches := st.branches.quantify q stop }
  | .directive changes =>
    .ok
      { st with
        branches := st.branches.add (.flags ⟨start, stop⟩ changes)
        ignoreSpace := (changes.setting? .ignoreSpace).getD st.ignoreSpace }
  | .bar => .ok { st with branches := st.branches.bar start }
  | .opening kind =>
    match st.nameFault? kind with
    | some fault => .error fault
    | none => .ok (st.enter kind start stop)
  | .closing =>
    match st.enclosures with
    | [] => .error (.of .groupUnopened (.char start))
    | e :: enclosures =>
      let inner := st.branches.toTree start
      .ok ⟨enclosures, e.around.add (.group ⟨e.pos, stop⟩ e.kind inner), e.ignoreSpace, st.names⟩

/-- The tree of a source that ends at `pos`. -/
def finish (st : State) (pos : Nat) : Except Fault Tree :=
  match st.enclosures with
  | [] => .ok (st.branches.toTree pos)
  | e :: _ => .error (.of .groupUnclosed (.char e.pos))

end State

/-! ## Parsing -/

/-- Reads at most `fuel` lexemes; there are never more than characters. -/
def parseFrom : Nat → State → Cursor → Except Fault Tree
  | 0, st, c => st.finish c.pos
  | fuel + 1, st, c =>
    let c := c.skipBlanks st.ignoreSpace
    match c.rest with
    | [] => st.finish c.pos
    | a :: _ =>
      match readLexeme st.ignoreSpace st.branches.repeatable a c with
      | .error e => .error e
      | .ok (lexeme, after) =>
        -- Faults that depend on the groups around: a stray parenthesis or a name given twice.
        match st.add c.pos after.pos lexeme with
        | .error e => .error e
        | .ok st => parseFrom fuel st after

def parse (source : List Char) : Except Fault Tree :=
  match parseFrom (source.length + 1) .initial (.ofSource source) with
  | .error e => .error e
  | .ok t =>
    match t.tooDeep? 0 with
    | some span => .error (.of .nestedTooDeep span)
    | none => .ok t

end PriorityLexer.Source
