import Mathlib.Data.List.SplitBy
import PriorityLexer.Proofs.Matching

/-!
# Instructions — what the instructions of a program take and assert

Only an atom or a class of a source brings a set of bytes or an assertion into a program.  What
holds of the assertions and of all sets that are checked holds of the instructions, however the
source is laid out.

* `Regex.Obeys`, `Inst.Obeys`, `Program.Obeys` — all sets of bytes and all assertions have given
  properties;
* `Program.obeys_ofRegexes` — the program of expressions;
* `Source.Tree.atoms`, `Source.Atom.Asserts` — the atoms of a source and what they assert;
* `Source.Tree.obeys_meaning` — the expression of a source;
* `Lexer.obeys_matcher` — the program of a lexer.
-/

namespace PriorityLexer

variable {B : CharSet → Prop} {L : Look → Prop}

/-! ## Expressions -/

namespace Regex

/-- All sets of bytes have the property `B`, and all assertions the property `L`. -/
def Obeys (B : CharSet → Prop) (L : Look → Prop) : Regex → Prop
  | .empty | .chars _ => True
  | .bytes s => B s
  | .look l => L l
  | .cat a b | .alt a b => a.Obeys B L ∧ b.Obeys B L
  | .repetition _ _ _ r | .capture r => r.Obeys B L

theorem obeys_catOf {rs : List Regex} (h : ∀ r ∈ rs, r.Obeys B L) : (catOf rs).Obeys B L := by
  fun_induction catOf rs with
  | case1 => trivial
  | case2 r => exact h r List.mem_cons_self
  | case3 r rs hne ih =>
      exact ⟨h r List.mem_cons_self, ih fun r' hr' => h r' (List.mem_cons_of_mem _ hr')⟩

theorem obeys_nest {rs : List Regex} (h : ∀ r ∈ rs, r.Obeys B L) : (nest rs).Obeys B L := by
  fun_induction nest rs with
  | case1 => trivial
  | case2 r => exact h r List.mem_cons_self
  | case3 r rs hne ih =>
      exact ⟨h r List.mem_cons_self, ih fun r' hr' => h r' (List.mem_cons_of_mem _ hr')⟩

theorem Obeys.parts {r : Regex} (h : r.Obeys B L) : ∀ q ∈ r.parts, q.Obeys B L := by
  induction r with
  | empty => simp [Regex.parts]
  | cat a b iha ihb =>
      intro q hq
      rcases List.mem_append.1 hq with hq | hq
      · exact iha h.1 q hq
      · exact ihb h.2 q hq
  | _ => simpa [Regex.parts] using h

theorem Obeys.branches {r : Regex} (h : r.Obeys B L) : ∀ q ∈ r.branches, q.Obeys B L := by
  induction r with
  | alt a b iha ihb =>
      intro q hq
      rcases List.mem_append.1 hq with hq | hq
      · exact iha h.1 q hq
      · exact ihb h.2 q hq
  | _ => simpa [Regex.branches] using h

theorem Obeys.flat {r : Regex} (h : r.Obeys B L) : r.flat.Obeys B L := by
  induction r with
  | cat a b iha ihb =>
      refine obeys_catOf fun q hq => ?_
      rcases List.mem_append.1 hq with hq | hq
      · exact (iha h.1).parts q hq
      · exact (ihb h.2).parts q hq
  | alt a b iha ihb => exact ⟨iha h.1, ihb h.2⟩
  | repetition min max greedy r ih => exact ih h
  | capture r ih => exact ih h
  | _ => exact h

theorem Obeys.ungrouped {r : Regex} (h : r.Obeys B L) : r.ungrouped.Obeys B L := by
  induction r with
  | cat a b iha ihb => exact ⟨iha h.1, ihb h.2⟩
  | alt a b iha ihb => exact ⟨iha h.1, ihb h.2⟩
  | repetition min max greedy r ih => exact ih h
  | capture r ih => exact ih h
  | _ => exact h

theorem Obeys.pieces {r : Regex} (h : r.Obeys B L) : ∀ p ∈ r.pieces, ∀ q ∈ p, q.Obeys B L := by
  intro p hp q hq
  refine h.parts q ?_
  rw [← List.flatten_splitBy (fun a b => a.isLiteral && b.isLiteral) r.parts]
  exact List.mem_flatten_of_mem hp hq

theorem mem_of_mem_sharedPieces {p : List Regex} {ps qs : List (List Regex)}
    (h : p ∈ sharedPieces ps qs) : p ∈ ps := by
  fun_induction sharedPieces ps qs with
  | case1 p' ps q' qs hsame ih =>
      rcases List.mem_cons.1 h with rfl | h
      · exact List.mem_cons_self
      · exact List.mem_cons_of_mem _ (ih h)
  | _ => cases h

theorem mem_of_mem_foldl_sharedPieces {p : List Regex} {ps : List (List Regex)}
    {others : List (List (List Regex))} (h : p ∈ others.foldl sharedPieces ps) : p ∈ ps := by
  induction others generalizing ps with
  | nil => exact h
  | cons qs others ih => exact mem_of_mem_sharedPieces (ih h)

/-- What branches share and what is left of them comes from the branches. -/
theorem obeys_lead? {rs lead rests : List Regex} (h : ∀ r ∈ rs, r.Obeys B L)
    (hlead : lead? rs = some (lead, rests)) : ∀ q ∈ lead ++ rests, q.Obeys B L := by
  have hpieces : ∀ ps ∈ rs.map pieces, ∀ p ∈ ps, ∀ q ∈ p, q.Obeys B L := by
    intro ps hps
    rcases List.mem_map.1 hps with ⟨r, hr, rfl⟩
    exact (h r hr).pieces
  unfold lead? at hlead
  split at hlead
  · next first second others hall =>
      rw [hall] at hpieces
      dsimp only at hlead
      split at hlead
      · cases hlead
      · cases hlead
        intro q hq
        rcases List.mem_append.1 hq with hq | hq
        · rcases List.mem_flatten.1 hq with ⟨p, hp, hq⟩
          exact hpieces first List.mem_cons_self p (mem_of_mem_foldl_sharedPieces hp) q hq
        · rcases List.mem_map.1 hq with ⟨ps, hps, rfl⟩
          refine obeys_catOf fun q hq => ?_
          rcases List.mem_flatten.1 hq with ⟨p, hp, hq⟩
          exact hpieces ps hps p (List.mem_of_mem_drop hp) q hq
  · cases hlead

theorem obeys_anyOf {rs : List Regex} (h : ∀ r ∈ rs, r.Obeys B L) : (anyOf rs).Obeys B L := by
  unfold anyOf
  split
  · trivial
  · exact obeys_nest h

theorem obeys_altOf {rs : List Regex} (h : ∀ r ∈ rs, r.Obeys B L) : (altOf rs).Obeys B L := by
  have hall : ∀ q ∈ rs.flatMap fun r => r.flat.branches, q.Obeys B L := by
    intro q hq
    rcases List.mem_flatMap.1 hq with ⟨r, hr, hq⟩
    exact (h r hr).flat.branches q hq
  unfold altOf
  dsimp only
  split
  · next lead rests hlead =>
      have hboth := obeys_lead? hall hlead
      have hrest : (anyOf (rests.flatMap Regex.branches)).Obeys B L := by
        refine obeys_anyOf fun q hq => ?_
        rcases List.mem_flatMap.1 hq with ⟨r, hr, hq⟩
        exact (hboth r (List.mem_append_right _ hr)).branches q hq
      refine obeys_catOf fun q hq => ?_
      rcases List.mem_append.1 hq with hq | hq
      · exact hboth q (List.mem_append_left _ hq)
      · exact List.mem_singleton.1 hq ▸ hrest
  · exact obeys_anyOf hall

/-- A repetition in its reduced form may have lost what it repeats, and gains nothing. -/
theorem Obeys.repeated {r : Regex} (h : r.Obeys B L) (min : Nat) (max : Option Nat)
    (greedy : Bool) : (r.repeated min max greedy).Obeys B L := by
  unfold Regex.repeated
  generalize (if r.isOnlyEmpty then _ else _ : Nat × Option Nat) = bounds
  rcases bounds with ⟨min, max⟩
  simp only
  split
  · trivial
  · split
    · exact h
    · exact h

end Regex

/-! ## Programs -/

/-- A set of bytes has the property `B`, and an assertion the property `L`. -/
def Inst.Obeys (B : CharSet → Prop) (L : Look → Prop) : Inst → Prop
  | .bytes s _ => B s
  | .look l _ => L l
  | _ => True

theorem Inst.obeys_choice (greedy : Bool) (body exit : Nat) :
    (choice greedy body exit).Obeys B L := by
  cases greedy <;> trivial

namespace Regex

section Repeating

variable {code : Nat → Nat → List Inst} {n : Nat}

theorem obeys_copies (h : ∀ base exit, ∀ inst ∈ code base exit, inst.Obeys B L)
    (count base : Nat) : ∀ inst ∈ copies code n count base, inst.Obeys B L := by
  induction count generalizing base with
  | zero => simp [copies]
  | succ count ih =>
      rw [copies, List.forall_mem_append]
      exact ⟨h _ _, ih _⟩

theorem obeys_optionalCopies (h : ∀ base exit, ∀ inst ∈ code base exit, inst.Obeys B L)
    (greedy : Bool) (exit count base : Nat) :
    ∀ inst ∈ optionalCopies code n greedy exit count base, inst.Obeys B L := by
  induction count generalizing base with
  | zero => simp [optionalCopies]
  | succ count ih =>
      rw [optionalCopies, List.cons_append, List.forall_mem_cons, List.forall_mem_append]
      exact ⟨Inst.obeys_choice _ _ _, h _ _, ih _⟩

theorem obeys_repetitionCode (h : ∀ base exit, ∀ inst ∈ code base exit, inst.Obeys B L)
    (canBeEmpty : Bool) (min : Nat) (max : Option Nat) (greedy : Bool) (base exit : Nat) :
    ∀ inst ∈ repetitionCode code n canBeEmpty min max greedy base exit, inst.Obeys B L := by
  have hchoice (body : Nat) := Inst.obeys_choice (B := B) (L := L) greedy body exit
  unfold repetitionCode
  split
  · simp only [List.forall_mem_append, List.forall_mem_singleton]
    exact ⟨⟨obeys_copies h _ _, obeys_optionalCopies h _ _ _ _⟩, trivial⟩
  · split
    · split
      · simp only [List.cons_append, List.forall_mem_cons, List.forall_mem_append,
          List.not_mem_nil, false_imp_iff, implies_true, and_true]
        exact ⟨hchoice _, h _ _, hchoice _⟩
      · rw [List.forall_mem_cons]
        exact ⟨hchoice _, h _ _⟩
    · simp only [List.forall_mem_append, List.forall_mem_singleton]
      exact ⟨obeys_copies h _ _, hchoice _⟩

end Repeating

theorem Obeys.code {r : Regex} (h : r.Obeys B L) (base exit : Nat) :
    ∀ inst ∈ r.code base exit, inst.Obeys B L := by
  induction r generalizing base exit with
  | empty | chars => simp [Regex.code, Inst.Obeys]
  | bytes | look => simpa [Regex.code, Inst.Obeys, Regex.Obeys] using h
  | cat a b iha ihb =>
      rw [Regex.code, List.forall_mem_append]
      exact ⟨iha h.1 _ _, ihb h.2 _ _⟩
  | alt a b iha ihb =>
      rw [Regex.code, List.cons_append, List.forall_mem_cons, List.forall_mem_append]
      exact ⟨trivial, iha h.1 _ _, ihb h.2 _ _⟩
  | repetition min max greedy r ih => exact obeys_repetitionCode (ih h) _ _ _ _ _ _
  | capture r ih => exact ih h base exit

end Regex

namespace Program

def Obeys (B : CharSet → Prop) (L : Look → Prop) (p : Program) : Prop :=
  ∀ (i : Nat) (inst : Inst), p.insts[i]? = some inst → inst.Obeys B L

theorem obeys_codeFrom {rs : List Regex} (h : ∀ r ∈ rs, r.Obeys B L) (pattern base : Nat) :
    ∀ inst ∈ codeFrom pattern base rs, inst.Obeys B L := by
  induction rs generalizing pattern base with
  | nil => simp [codeFrom]
  | cons r rs ih =>
      rw [List.forall_mem_cons] at h
      rw [codeFrom, List.forall_mem_append, List.forall_mem_cons]
      exact ⟨h.1.code _ _, trivial, ih h.2 _ _⟩

theorem obeys_ofRegexes {rs : List Regex} (h : ∀ r ∈ rs, r.Obeys B L) :
    (ofRegexes rs).Obeys B L := by
  intro i inst hi
  refine obeys_codeFrom h 0 0 inst (List.mem_of_getElem? (i := i) ?_)
  simpa [ofRegexes] using hi

end Program

/-! ## Sources -/

namespace Source

mutual

/-- The atoms of a source, those of classes left out. -/
def Tree.atoms : Tree → List Atom
  | .empty _ | .flags _ _ | .bracketed _ _ _ => []
  | .atom a => [a]
  | .repetition _ _ inner | .group _ _ inner => inner.atoms
  | .concat _ parts | .alternation _ parts => Tree.atomsOfAll parts

def Tree.atomsOfAll : List Tree → List Atom
  | [] => []
  | t :: ts => t.atoms ++ Tree.atomsOfAll ts

end

theorem GroupKind.obeys_regex {r : Regex} (h : r.Obeys B L) (kind : GroupKind) :
    (kind.regex r).Obeys B L := by
  cases kind <;> exact h

/-- What takes a member of a set.  All sets of a source are checked last of all. -/
def SetsObey (B : CharSet → Prop) (L : Look → Prop) : Prop :=
  ∀ (m : Mode) (span : Span) (s s' : CharSet), m.check span s = .ok s' → (m.oneOf s').Obeys B L

theorem propertySet_eq_ok {m : Mode} {span : Span} {negated : Bool} {query : Unicode.Query}
    {s' : CharSet} (h : propertySet m span negated query = .ok s') :
    ∃ s, m.check span s = .ok s' := by
  unfold propertySet at h
  split at h
  · split at h
    · exact ⟨_, h⟩
    · cases h
  · cases h

/-- What is asserted has the property `L`, whatever the flags are. -/
def Atom.Asserts (L : Look → Prop) : Atom → Prop
  | .assertion _ kind => ∀ m : Mode, L (kind.look m)
  | _ => True

theorem Atom.obeys_regex (hset : SetsObey B L) {a : Atom} (ha : a.Asserts L) {m : Mode} {r : Regex}
    (h : a.regex m = .ok r) : r.Obeys B L := by
  cases a with
  | literal l =>
      simp only [regex] at h
      split at h
      · cases h
        trivial
      · next hbytes =>
          have hunicode : m.unicode = false := by
            cases hm : m.unicode
            · rfl
            · simp [hm] at hbytes
          rcases bind_eq_ok_iff.1 h with ⟨s, hs, hr⟩
          cases hr
          simpa [Mode.oneOf, hunicode] using hset m _ _ _ hs
  | dot span =>
      simp only [regex] at h
      split at h
      · cases h
        trivial
      · cases h
  | assertion span kind =>
      cases h
      exact ha m
  | shorthand span negated kind =>
      rcases bind_eq_ok_iff.1 h with ⟨s, hs, hr⟩
      cases hr
      exact hset m _ _ _ hs
  | property span negated query =>
      rcases bind_eq_ok_iff.1 h with ⟨s, hs, hr⟩
      cases hr
      rcases propertySet_eq_ok hs with ⟨_, hs⟩
      exact hset m _ _ _ hs

mutual

theorem Tree.obeys_meaning (hset : SetsObey B L) {t : Tree}
    (hatoms : ∀ a ∈ t.atoms, a.Asserts L) {m m' : Mode} {r : Regex}
    (h : t.meaning m = .ok (r, m')) : r.Obeys B L := by
  cases t with
  | empty span =>
      cases h
      trivial
  | flags span changes =>
      cases h
      trivial
  | atom a =>
      rcases bind_eq_ok_iff.1 h with ⟨r', hr', h⟩
      cases h
      exact a.obeys_regex hset (hatoms a List.mem_cons_self) hr'
  | bracketed span negated inner =>
      rcases bind_eq_ok_iff.1 h with ⟨s, -, h⟩
      rcases bind_eq_ok_iff.1 h with ⟨s', hs', h⟩
      cases h
      exact hset m span _ s' hs'
  | repetition span q inner =>
      rcases bind_eq_ok_iff.1 h with ⟨⟨r', m''⟩, hinner, h⟩
      cases h
      exact (Tree.obeys_meaning hset (t := inner) hatoms hinner).repeated _ _ _
  | group span kind inner =>
      rcases bind_eq_ok_iff.1 h with ⟨⟨r', m''⟩, hinner, h⟩
      cases h
      exact kind.obeys_regex (Tree.obeys_meaning hset (t := inner) hatoms hinner)
  | concat span parts =>
      rcases bind_eq_ok_iff.1 h with ⟨⟨rs, m''⟩, hparts, h⟩
      cases h
      exact Regex.obeys_catOf (Tree.obeys_meanings hset hatoms hparts)
  | alternation span branches =>
      rcases bind_eq_ok_iff.1 h with ⟨⟨rs, m''⟩, hbranches, h⟩
      cases h
      exact Regex.obeys_altOf (Tree.obeys_meanings hset hatoms hbranches)

theorem Tree.obeys_meanings (hset : SetsObey B L) {ts : List Tree}
    (hatoms : ∀ a ∈ Tree.atomsOfAll ts, a.Asserts L) {m m' : Mode}
    {rs : List Regex} (h : Tree.meanings m ts = .ok (rs, m')) : ∀ r ∈ rs, r.Obeys B L := by
  cases ts with
  | nil =>
      cases h
      simp
  | cons t ts =>
      rcases bind_eq_ok_iff.1 h with ⟨⟨r, m''⟩, hfirst, h⟩
      rcases bind_eq_ok_iff.1 h with ⟨⟨rest, m'''⟩, hrest, h⟩
      cases h
      rw [List.forall_mem_cons]
      exact ⟨Tree.obeys_meaning hset (fun a ha => hatoms a (List.mem_append_left _ ha)) hfirst,
        Tree.obeys_meanings hset (fun a ha => hatoms a (List.mem_append_right _ ha)) hrest⟩

end

/-- Leaving out the groups changes neither sets nor assertions. -/
theorem Tree.obeys_regex (hset : SetsObey B L) {t : Tree}
    (hatoms : ∀ a ∈ t.atoms, a.Asserts L) {ignoreCase : Bool}
    {r : Regex} (h : t.regex ignoreCase = .ok r) : r.Obeys B L := by
  rcases bind_eq_ok_iff.1 h with ⟨⟨r', m⟩, hmeaning, h⟩
  cases h
  exact (Tree.obeys_meaning hset hatoms hmeaning).ungrouped

end Source

/-! ## Lexers -/

theorem Lexer.obeys_matcher {κ : Type} (l : Lexer κ)
    (h : ∀ d ∈ l.definitions.toList, ∀ r, d.pattern.expression l.options.ignoreCase = .ok r →
      r.Obeys B L) : l.matcher.Obeys B L := by
  rcases l.exists_expressions with ⟨rs, hrs, -, hmatcher⟩
  rw [hmatcher]
  refine Program.obeys_ofRegexes fun r hr => ?_
  rcases List.mem_iff_getElem?.1 hr with ⟨k, hk⟩
  have hexpression := hrs k
  rw [hk, Option.map_some, Option.map_eq_some_iff] at hexpression
  rcases hexpression with ⟨p, hp, hexpression⟩
  rw [List.getElem?_map, Option.map_eq_some_iff] at hp
  rcases hp with ⟨d, hd, rfl⟩
  exact h d (List.mem_of_getElem? hd) r hexpression

end PriorityLexer
