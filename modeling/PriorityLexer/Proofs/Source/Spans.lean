import PriorityLexer.Proofs.Compilation

/-!
# Spans — what a tree means does not depend on where it was read

* `Tree.bare` — a tree without its spans;
* `Tree.meaning_bare` — it means the same, and where it means nothing the cause is the same;
* `Tree.meaning_eq_ok_of_bare` — trees that differ in their spans only have the same meaning.
-/

namespace PriorityLexer.Source

/-! ## Without spans -/

/-- The span of everything without a place. -/
def Span.nowhere : Span := .point 0

def Fault.bare (f : Fault) : Fault := .of f.cause .nowhere

def Literal.bare (l : Literal) : Literal := { l with span := .nowhere }

@[simp]
theorem Literal.char_bare (l : Literal) : l.bare.char = l.char := rfl

def Atom.bare : Atom → Atom
  | .literal l => .literal l.bare
  | .dot _ => .dot .nowhere
  | .assertion _ kind => .assertion .nowhere kind
  | .shorthand _ negated kind => .shorthand .nowhere negated kind
  | .property _ negated query => .property .nowhere negated query

mutual

def ClassTree.bare : ClassTree → ClassTree
  | .empty _ => .empty .nowhere
  | .literal l => .literal l.bare
  | .range _ lo hi => .range .nowhere lo.bare hi.bare
  | .ascii _ negated kind => .ascii .nowhere negated kind
  | .shorthand _ negated kind => .shorthand .nowhere negated kind
  | .property _ negated query => .property .nowhere negated query
  | .bracketed _ negated inner => .bracketed .nowhere negated inner.bare
  | .union _ members => .union .nowhere (ClassTree.bareAll members)
  | .operation _ operator lhs rhs => .operation .nowhere operator lhs.bare rhs.bare

def ClassTree.bareAll : List ClassTree → List ClassTree
  | [] => []
  | t :: ts => t.bare :: ClassTree.bareAll ts

end

def GroupKind.bare : GroupKind → GroupKind
  | .capture => .capture
  | .named _ name => .named .nowhere name
  | .plain changes => .plain changes

mutual

def Tree.bare : Tree → Tree
  | .empty _ => .empty .nowhere
  | .flags _ changes => .flags .nowhere changes
  | .atom a => .atom a.bare
  | .bracketed _ negated inner => .bracketed .nowhere negated inner.bare
  | .repetition _ q inner => .repetition .nowhere q inner.bare
  | .group _ kind inner => .group .nowhere kind.bare inner.bare
  | .concat _ parts => .concat .nowhere (Tree.bareAll parts)
  | .alternation _ branches => .alternation .nowhere (Tree.bareAll branches)

def Tree.bareAll : List Tree → List Tree
  | [] => []
  | t :: ts => t.bare :: Tree.bareAll ts

end

theorem ClassTree.bareAll_eq_map (ts : List ClassTree) : ClassTree.bareAll ts = ts.map bare := by
  induction ts with
  | nil => rfl
  | cons t ts ih => rw [ClassTree.bareAll, ih, List.map_cons]

theorem Tree.bareAll_eq_map (ts : List Tree) : Tree.bareAll ts = ts.map bare := by
  induction ts with
  | nil => rfl
  | cons t ts ih => rw [Tree.bareAll, ih, List.map_cons]

/-! ## Meaning -/

section

variable {α β : Type} {f : Fault → Fault}

@[simp]
theorem mapError_ok (a : α) : (Except.ok a : Except Fault α).mapError f = .ok a := rfl

@[simp]
theorem mapError_bind (x : Except Fault α) (k : α → Except Fault β) :
    (x >>= k).mapError f = x.mapError f >>= fun a => (k a).mapError f := by
  cases x <;> rfl

end

variable (m : Mode)

theorem Mode.check_bare (span : Span) (s : CharSet) :
    m.check .nowhere s = (m.check span s).mapError Fault.bare := by
  unfold Mode.check
  split <;> rfl

theorem Mode.close_bare (span : Span) (negated : Bool) (s : CharSet) :
    m.close .nowhere negated s = (m.close span negated s).mapError Fault.bare :=
  m.check_bare span _

theorem Shorthand.set_bare (span : Span) (negated : Bool) (kind : Shorthand) :
    kind.set m .nowhere negated = (kind.set m span negated).mapError Fault.bare :=
  m.check_bare span _

theorem propertySet_bare (span : Span) (negated : Bool) (query : Unicode.Query) :
    propertySet m .nowhere negated query =
      (propertySet m span negated query).mapError Fault.bare := by
  unfold propertySet
  split
  · split
    · exact m.close_bare span negated _
    · rfl
  · rfl

theorem checkByte_bare (l : Literal) :
    checkByte m l.bare = (checkByte m l).mapError Fault.bare := by
  unfold checkByte Literal.bare
  split <;> rfl

theorem memberChar_bare (l : Literal) :
    memberChar m l.bare = (memberChar m l).mapError Fault.bare := by
  unfold memberChar
  rw [checkByte_bare, mapError_bind]
  congr
  funext _
  unfold Literal.bare
  dsimp only
  split <;> rfl

mutual

theorem ClassTree.set_bare (t : ClassTree) : t.bare.set m = (t.set m).mapError Fault.bare := by
  cases t with
  | empty span => rfl
  | literal l => simp [ClassTree.bare, ClassTree.set, memberChar_bare]
  | range span lo hi =>
      simp [ClassTree.bare, ClassTree.set, memberChar_bare]
  | ascii span negated kind => exact m.close_bare span negated kind.set
  | shorthand span negated kind => exact Shorthand.set_bare m span negated kind
  | property span negated query => exact propertySet_bare m span negated query
  | bracketed span negated inner =>
      simp [ClassTree.bare, ClassTree.set, ClassTree.set_bare inner,
        m.close_bare span]
  | union span members => exact ClassTree.unionSet_bareAll members .empty
  | operation span operator lhs rhs =>
      simp [ClassTree.bare, ClassTree.set, ClassTree.set_bare lhs,
        ClassTree.set_bare rhs]

theorem ClassTree.unionSet_bareAll (ts : List ClassTree) (s : CharSet) :
    ClassTree.unionSet m s (ClassTree.bareAll ts) =
      (ClassTree.unionSet m s ts).mapError Fault.bare := by
  cases ts with
  | nil => rfl
  | cons t ts =>
      simp [ClassTree.bareAll, ClassTree.unionSet, ClassTree.set_bare t,
        ClassTree.unionSet_bareAll ts]

end

theorem Atom.regex_bare (a : Atom) : a.bare.regex m = (a.regex m).mapError Fault.bare := by
  cases a with
  | literal l =>
      simp only [Atom.bare, Atom.regex]
      -- The character and how it is written are still there.
      have hwritten : l.bare.isByte = l.isByte := rfl
      rw [l.char_bare, hwritten]
      split
      · rfl
      · rw [mapError_bind, ← m.check_bare]
        rfl
  | dot span =>
      simp only [Atom.bare, Atom.regex]
      split <;> rfl
  | assertion span kind => rfl
  | shorthand span negated kind =>
      simp [Atom.bare, Atom.regex, Shorthand.set_bare m span]
  | property span negated query =>
      simp [Atom.bare, Atom.regex, propertySet_bare m span]

theorem GroupKind.mode_bare (kind : GroupKind) : kind.bare.mode m = kind.mode m := by
  cases kind <;> rfl

theorem GroupKind.regex_bare (kind : GroupKind) (r : Regex) : kind.bare.regex r = kind.regex r := by
  cases kind <;> rfl

mutual

theorem Tree.meaning_bare (t : Tree) (m : Mode) :
    t.bare.meaning m = (t.meaning m).mapError Fault.bare := by
  cases t with
  | empty span => rfl
  | flags span changes => rfl
  | atom a => simp [Tree.bare, Tree.meaning, Atom.regex_bare]
  | bracketed span negated inner =>
      simp [Tree.bare, Tree.meaning, ClassTree.set_bare, m.close_bare span]
  | repetition span q inner =>
      simp [Tree.bare, Tree.meaning, Tree.meaning_bare inner]
  | group span kind inner =>
      simp [Tree.bare, Tree.meaning, Tree.meaning_bare inner, GroupKind.mode_bare,
        GroupKind.regex_bare]
  | concat span parts =>
      simp [Tree.bare, Tree.meaning, Tree.meanings_bareAll parts]
  | alternation span branches =>
      simp [Tree.bare, Tree.meaning, Tree.meanings_bareAll branches]

theorem Tree.meanings_bareAll (ts : List Tree) (m : Mode) :
    Tree.meanings m (Tree.bareAll ts) = (Tree.meanings m ts).mapError Fault.bare := by
  cases ts with
  | nil => rfl
  | cons t ts =>
      simp [Tree.bareAll, Tree.meanings, Tree.meaning_bare t, Tree.meanings_bareAll ts]

end

/-- Trees that differ in their spans only mean the same. -/
theorem Tree.meaning_eq_ok_of_bare {t t' : Tree} (h : t'.bare = t.bare) {m : Mode}
    {r : Regex × Mode} (ht : t.meaning m = .ok r) : t'.meaning m = .ok r := by
  have hbare : t.bare.meaning m = .ok r := by
    rw [t.meaning_bare]
    exact mapError_eq_ok_iff.2 ht
  rw [← h, t'.meaning_bare] at hbare
  exact mapError_eq_ok_iff.1 hbare

end PriorityLexer.Source
