import PriorityLexer.Proofs.Guards
import PriorityLexer.Proofs.Instructions

/-!
# Context — how far a match looks around

A match at an offset is decided by what stands from there on and by the one character before.  It is
not told where in the input it is, unless at the very start.  Only assertions look at the character
before: without them the input could as well be cut off at the offset.

* `Program.LookFree` — a program that asserts nothing, which looks at no character before a place;
* `Source.Atom.isAssertion`, `Pattern.hasAssertion` — whether an assertion is written in a source;
* `Token.shift` — a token of an input that starts later;
* `Lexer.matchAt_of_textStart` — definitions that are led by the start of the input;
* `Lexer.matchAt_of_context` — tokens in terms of what is around them.
-/

namespace PriorityLexer

/-! ## Programs without assertions -/

namespace Program

/-- No instruction is an assertion. -/
def LookFree (p : Program) : Prop := p.Obeys (fun _ => True) (fun _ => False)

variable {p : Program}

theorem LookFree.targets_eq (h : p.LookFree) {i : Nat} {inst : Inst}
    (hi : p.insts[i]? = some inst) (place place' : Place) :
    inst.targets place = inst.targets place' := by
  cases inst with
  | look l next => exact absurd (h i _ hi) not_false
  | _ => rfl

theorem LookFree.explore_eq (h : p.LookFree) (place place' : Place) (threads : List Nat)
    (f : Frontier) : p.explore place threads f = p.explore place' threads f := by
  fun_induction p.explore place threads f with
  | case1 => rw [explore_nil]
  | case2 f i rest hs ih => rw [explore_of_stops hs, ih]
  | case3 f i rest hs hi ih => rw [explore_of_none hi, ih]
  | case4 f i rest hs inst hi ih =>
      have hstops : f.stops i = false := by simpa using hs
      rw [explore_of_some hstops hi, ih, h.targets_eq hi place place']

/-- Behind the first character there is always a character before. -/
theorem LookFree.run_eq (h : p.LookFree) (before before' : Option Char) (threads : List Nat)
    (text : List Char) : p.run threads before text = p.run threads before' text := by
  have hfrontier (place place' : Place) : p.frontier place threads = p.frontier place' threads :=
    h.explore_eq place place' threads _
  cases text with
  | nil =>
      simp only [run, hfrontier ⟨before, []⟩ ⟨before', []⟩]
  | cons c rest =>
      simp only [run, hfrontier ⟨before, c :: rest⟩ ⟨before', c :: rest⟩]

theorem LookFree.search?_eq (h : p.LookFree) (before before' : Option Char) (text : List Char) :
    p.search? ⟨before, text⟩ = p.search? ⟨before', text⟩ := by
  rw [Program.search?_eq, Program.search?_eq]
  exact h.run_eq before before' p.starts text

end Program

/-! ## Sources without assertions -/

/-- Whether a part is an assertion. -/
def Source.Atom.isAssertion : Source.Atom → Bool
  | .assertion _ _ => true
  | _ => false

theorem Source.setsObey_lookFree : SetsObey (fun _ => True) (fun _ => False) := by
  intro m span s s' _
  unfold Mode.oneOf
  split <;> trivial

theorem Source.Atom.asserts_of_not_isAssertion {a : Atom} (ha : a.isAssertion = false)
    (L : Look → Prop) : a.Asserts L := by
  cases a with
  | assertion => cases ha
  | _ => trivial

namespace Pattern

/-- Whether an assertion is written in the source of a pattern that can be parsed. -/
def hasAssertion (p : Pattern) : Bool :=
  match Source.parse p.source with
  | .error _ => false
  | .ok t => t.atoms.any Source.Atom.isAssertion

theorem obeys_expression_of_not_hasAssertion {p : Pattern} (hp : p.hasAssertion = false)
    {ignoreCase : Bool} {r : Regex} (h : p.expression ignoreCase = .ok r) :
    r.Obeys (fun _ => True) (fun _ => False) := by
  rcases bind_eq_ok_iff.1 h with ⟨t, ht, h⟩
  have hatoms : ∀ a ∈ t.atoms, a.isAssertion = false := by simpa [hasAssertion, ht] using hp
  exact Source.Tree.obeys_regex Source.setsObey_lookFree
    (fun a ha => a.asserts_of_not_isAssertion (hatoms a ha) _) h

theorem hasAssertion_literal (text : String) : (literal text).hasAssertion = false := by
  have hparts (pos : Nat) (cs : List Char) :
      (Source.Tree.atomsOfAll (Source.escapedParts pos cs)).any Source.Atom.isAssertion =
        false := by
    induction cs generalizing pos with
    | nil => rfl
    | cons c cs ih => exact ih (pos + Source.escapedWidth c)
  have htree : (Source.escapedTree text.toList).atoms.any Source.Atom.isAssertion = false := by
    have hall := hparts 0 text.toList
    unfold Source.escapedTree Source.Branches.lastBranch
    -- The tree is empty, the only part, or all parts in sequence.
    split
    · rfl
    · next t hreversed =>
        have honly : Source.escapedParts 0 text.toList = [t] := by
          simpa using congrArg List.reverse hreversed
        simpa [honly, Source.Tree.atomsOfAll] using hall
    · simpa [Source.Tree.atoms] using hall
  rw [hasAssertion, source_literal, Source.parse_escapeChars]
  exact htree

end Pattern

/-! ## Tokens -/

/-- The token of an input that has `n` more bytes at its start. -/
def Token.shift {κ : Type} (n : Nat) (t : Token κ) : Token κ :=
  ⟨t.kind, t.image, n + t.startOffset, n + t.nextOffset⟩

/-- The place between two texts. -/
theorem place?_append (x s : String) :
    place? (x ++ s).toList x.utf8ByteSize = some ⟨x.toList.getLast?, s.toList⟩ :=
  place?_eq_some_iff.2 ⟨x.toList, String.toList_append, byteLength_toList x, rfl⟩

/-- At the start of the input, and only there, no character lies before. -/
theorem isNone_before_iff {text : List Char} {offset : Nat} {p : Place}
    (h : place? text offset = some p) : p.before.isNone = true ↔ offset = 0 := by
  rcases place?_eq_some_iff.1 h with ⟨passed, -, rfl, hbefore⟩
  rw [hbefore, byteLength_eq_zero_iff, Option.isNone_iff_eq_none, List.getLast?_eq_none_iff]

/-- At the end of the input, and only there, no character lies behind. -/
theorem isNone_head?_after_iff {text : List Char} {offset : Nat} {p : Place}
    (h : place? text offset = some p) : p.after.head?.isNone = true ↔ offset = byteLength text := by
  rcases place?_eq_some_iff.1 h with ⟨passed, htext, rfl, -⟩
  have hlength : byteLength text = byteLength passed + byteLength p.after := by
    rw [htext, byteLength_append]
  have hafter : p.after = [] ↔ byteLength p.after = 0 := byteLength_eq_zero_iff.symm
  rw [Option.isNone_iff_eq_none, List.head?_eq_none_iff, hafter]
  omega

namespace Lexer

variable {κ : Type}

theorem tokenAt_eq_shift (kind : κ) (n : Nat) (p : Place) (offset : Nat) :
    tokenAt kind n p offset = (tokenAt kind n p 0).shift offset := by
  simp [tokenAt, Token.shift]

/-- The token behind a text, as it were at the start of an input. -/
theorem matchAt_append (l : Lexer κ) (x s : String) :
    l.matchAt (x ++ s) x.utf8ByteSize =
      ((l.matchPlace? ⟨x.toList.getLast?, s.toList⟩).map fun (kind, n) =>
        tokenAt kind n ⟨x.toList.getLast?, s.toList⟩ 0).map (.shift x.utf8ByteSize) := by
  rw [matchAt_eq_bind, place?_append, Option.bind_some, Option.map_map]
  simp only [tokenAt_eq_shift _ _ _ x.utf8ByteSize]
  rfl

theorem matchAt_zero (l : Lexer κ) (s : String) :
    l.matchAt s 0 = (l.matchPlace? ⟨none, s.toList⟩).map fun (kind, n) =>
      tokenAt kind n ⟨none, s.toList⟩ 0 := by
  rw [matchAt_eq_bind, place?, Place.find?_zero, Option.bind_some]

/-- Without assertions a program is blind to the character before. -/
theorem lookFree_matcher {l : Lexer κ}
    (h : ∀ d ∈ l.definitions.toList, d.pattern.hasAssertion = false) : l.matcher.LookFree :=
  l.obeys_matcher fun d hd _ => Pattern.obeys_expression_of_not_hasAssertion (h d hd)

variable {gs : List (Option Guard × Definition κ)} {l₀ : Lexer κ}

/-- Behind the start of the input there is no token if all definitions are led by it, and at the
start it makes no difference to them. -/
theorem matchAt_of_textStart {l : Lexer κ} (hgs : ∀ g ∈ gs, g.1.any (·.look = .textStart) = true)
    (hl : build ⟨gs.map fun g => g.2.guarded g.1⟩ l.options = .ok l)
    (hl₀ : build ⟨gs.map (·.2)⟩ l.options = .ok l₀) (input : String) (offset : Nat) :
    l.matchAt input offset = if offset = 0 then l₀.matchAt input 0 else none := by
  have hadmits (p : Place) (g : Option Guard × Definition κ) (hg : g ∈ gs) :
      Guard.admits g.1 p = p.before.isNone := by
    have hlook := hgs g hg
    rcases g with ⟨_ | guard, d⟩
    · cases hlook
    · have htextStart : guard.look = .textStart := by simpa using hlook
      rw [Guard.admits, Option.all_some, htextStart]
      rfl
  cases hp : place? input.toList offset with
  | none =>
      have hoffset : offset ≠ 0 := by
        rintro rfl
        cases (Place.find?_zero none input.toList).symm.trans hp
      rw [matchAt_eq_bind, hp, if_neg hoffset]
      rfl
  | some p =>
      rcases exists_build_admitted hl hl₀ hp with ⟨l', hl', hmatch⟩
      rw [hmatch]
      by_cases hoffset : offset = 0
      · -- All assertions hold.
        have hall : Definition.admitted gs p = gs.map (·.2) := by
          rw [Definition.admitted, List.filter_eq_self.2]
          intro g hg
          rw [hadmits p g hg]
          exact (isNone_before_iff hp).2 hoffset
        rw [hall] at hl'
        cases hl₀.symm.trans hl'
        rw [if_pos hoffset, hoffset]
      · have hnone : Definition.admitted gs p = [] := by
          refine List.map_eq_nil_iff.2 (List.filter_eq_nil_iff.2 fun g hg => ?_)
          rw [hadmits p g hg, isNone_before_iff hp]
          exact hoffset
        rw [hnone] at hl'
        rw [if_neg hoffset, matchAt_of_no_definitions hl']

/-- What matches at an offset depends on the text from there on and on the character before; the
start of the input is told by there being none.  Of definitions that are led by assertions those
take part whose assertions hold at the offset in the whole input.  Where nothing is asserted, the
character before does not matter either. -/
theorem matchAt_of_context (l : Lexer κ) :
    (∀ (c : Char) (x y s : String),
      (l.matchAt (x ++ .singleton c ++ s) (x.utf8ByteSize + c.utf8Size) = none ∧
        l.matchAt (y ++ .singleton c ++ s) (y.utf8ByteSize + c.utf8Size) = none) ∨
      ∃ t t', l.matchAt (x ++ .singleton c ++ s) (x.utf8ByteSize + c.utf8Size) = some t ∧
        l.matchAt (y ++ .singleton c ++ s) (y.utf8ByteSize + c.utf8Size) = some t' ∧
        t.kind = t'.kind ∧ t.image = t'.image ∧
        (t.startOffset - t'.startOffset : Int) = x.utf8ByteSize - y.utf8ByteSize ∧
        (t.nextOffset - t'.nextOffset : Int) = x.utf8ByteSize - y.utf8ByteSize) ∧
    (∀ (input : String) (offset : Nat) (p : Place), place? input.toList offset = some p →
      (Look.textStart.holds p = true ↔ offset = 0) ∧
      (Look.textEnd.holds p = true ↔ offset = input.utf8ByteSize)) ∧
    (∀ (gs : List (Option Guard × Definition κ)) (l₀ : Lexer κ),
      build ⟨gs.map fun g => g.2.guarded g.1⟩ l.options = .ok l →
      build ⟨gs.map (·.2)⟩ l.options = .ok l₀ →
      (∀ (input : String) (offset : Nat) (p : Place), place? input.toList offset = some p →
        ∃ l', build ⟨Definition.admitted gs p⟩ l.options = .ok l' ∧
          l.matchAt input offset = l'.matchAt input offset) ∧
      ((∀ g ∈ gs, g.1.any (·.look = .textStart) = true) → ∀ (input : String) (offset : Nat),
        l.matchAt input offset = if offset = 0 then l₀.matchAt input 0 else none)) ∧
    ((∀ d ∈ l.definitions.toList, d.pattern.hasAssertion = false) → ∀ x s : String,
      l.matchAt (x ++ s) x.utf8ByteSize = (l.matchAt s 0).map (.shift x.utf8ByteSize)) ∧
    ∀ text, (Pattern.literal text).hasAssertion = false := by
  refine ⟨?_, ?_, ?_, ?_, Pattern.hasAssertion_literal⟩
  · intro c x y s
    have hsize (z : String) : z.utf8ByteSize + c.utf8Size = (z ++ .singleton c).utf8ByteSize := by
      simp
    have hlast (z : String) : (z ++ .singleton c).toList.getLast? = some c := by simp
    -- Both tokens are that behind `c` alone, shifted by what lies before.
    rw [hsize x, hsize y, matchAt_append, matchAt_append, hlast x, hlast y]
    cases l.matchPlace? ⟨some c, s.toList⟩ with
    | none => exact .inl ⟨rfl, rfl⟩
    | some e =>
        refine .inr ⟨_, _, rfl, rfl, rfl, rfl, ?_, ?_⟩
        · simp only [Token.shift, ← hsize]
          omega
        · simp only [Token.shift, ← hsize]
          omega
  · intro input offset p hp
    refine ⟨isNone_before_iff hp, ?_⟩
    rw [← byteLength_toList]
    exact isNone_head?_after_iff hp
  · intro gs l₀ hl hl₀
    exact ⟨fun _ _ _ hp => exists_build_admitted hl hl₀ hp,
      fun hgs => matchAt_of_textStart hgs hl hl₀⟩
  · intro hnone x s
    have hfree := lookFree_matcher hnone
    have hplace : l.matchPlace? ⟨x.toList.getLast?, s.toList⟩ = l.matchPlace? ⟨none, s.toList⟩ := by
      rw [matchPlace?, matchPlace?, hfree.search?_eq x.toList.getLast? none]
    rw [matchAt_append, matchAt_zero, hplace]
    rfl

/-- The same text is a token of one kind at the start of the input, of another one at the start of a
line, and of a third one inside of a line.  Without assertions it is found behind another text as it
is at the start. -/
theorem matchAt_of_context_lines :
    (∃ l : Lexer String,
      build ⟨[⟨"first", .regex "^(?:a)"⟩, ⟨"line", .regex "(?m:^)(?:a)"⟩, ⟨"a", .literal "a"⟩]⟩
        ⟨false⟩ = .ok l ∧
      [0, 1, 2, 3].map (l.matchAt "a\naa") =
        [some ⟨"first", "a", 0, 1⟩, none, some ⟨"line", "a", 2, 3⟩, some ⟨"a", "a", 3, 4⟩]) ∧
    ∃ l : Lexer String, build (.ofLiterals [("pair", "ab")]) ⟨false⟩ = .ok l ∧
      (∀ d ∈ l.definitions.toList, d.pattern.hasAssertion = false) ∧
      l.matchAt ("éx" ++ "abc") 3 = (l.matchAt "abc" 0).map (.shift 3) ∧
      l.matchAt "abc" 0 = some ⟨"pair", "ab", 0, 2⟩ := by
  constructor
  · let gs : List (Option Guard × Definition String) :=
      [(some ⟨none, .lineStart⟩, ⟨"first", .literal "a"⟩),
        (some ⟨some .lines, .lineStart⟩, ⟨"line", .literal "a"⟩), (none, ⟨"a", .literal "a"⟩)]
    obtain ⟨l, hl⟩ := exists_build_of_isOk ⟨gs.map fun g => g.2.guarded g.1⟩ ⟨false⟩
      (by decide +kernel)
    obtain ⟨l₀, hl₀⟩ := exists_build_ofLiterals [("first", "a"), ("line", "a"), ("a", "a")] ⟨false⟩
      (by decide)
    have hlaw := ((matchAt_of_context l).2.2.1 gs l₀ (by rwa [(build_eq_ok_iff.1 hl).2])
      (by rwa [(build_eq_ok_iff.1 hl).2])).1 "a\naa"
    -- The texts behind the assertions that hold are the definitions of a lexer.
    have hlexer (offset : Nat) {p : Place} (hp : place? "a\naa".toList offset = some p)
        (literals : List (String × String))
        (hadmitted : Definition.admitted gs p = (Definitions.ofLiterals literals).toList) :
        ∃ l', build (.ofLiterals literals) ⟨false⟩ = .ok l' ∧
          l.matchAt "a\naa" offset =
            (l'.matchPlace? p).map fun (kind, n) => tokenAt kind n p offset := by
      rcases hlaw offset p hp with ⟨l', hl', hmatch⟩
      rw [hadmitted, (build_eq_ok_iff.1 hl).2] at hl'
      exact ⟨l', hl', by rw [hmatch, matchAt_eq_bind, hp, Option.bind_some]⟩
    obtain ⟨l0, hl0, h0⟩ := hlexer 0 rfl [("first", "a"), ("line", "a"), ("a", "a")] rfl
    obtain ⟨l1, hl1, h1⟩ := hlexer 1 rfl [("a", "a")] rfl
    obtain ⟨l2, hl2, h2⟩ := hlexer 2 rfl [("line", "a"), ("a", "a")] rfl
    obtain ⟨l3, hl3, h3⟩ := hlexer 3 rfl [("a", "a")] rfl
    refine ⟨l, hl, ?_⟩
    simp only [List.map_cons, List.map_nil, h0, h1, h2, h3, matchPlace?_ofLiterals hl0,
      matchPlace?_ofLiterals hl1, matchPlace?_ofLiterals hl2, matchPlace?_ofLiterals hl3]
    decide
  · rcases exists_build_ofLiterals [("pair", "ab")] ⟨false⟩ (by decide) with ⟨l, hl⟩
    have hnone : ∀ d ∈ l.definitions.toList, d.pattern.hasAssertion = false := by
      rw [(build_eq_ok_iff.1 hl).1]
      intro d hd
      rw [List.mem_singleton.1 hd]
      exact Pattern.hasAssertion_literal "ab"
    have hfirst : l.matchPlace? ⟨none, "abc".toList⟩ = some ("pair", 2) := by
      rw [matchPlace?_ofLiterals hl]
      decide
    refine ⟨l, hl, hnone, (matchAt_of_context l).2.2.2.1 hnone "éx" "abc", ?_⟩
    rw [matchAt_zero, hfirst]
    decide

end Lexer

end PriorityLexer
