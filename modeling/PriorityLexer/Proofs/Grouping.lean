import Mathlib.Data.List.Forall2
import PriorityLexer.Proofs.Literals
import PriorityLexer.Proofs.Source.Parsing
import PriorityLexer.Proofs.Tokenization

/-!
# Grouping — what parentheses around a source do

A source in a group of its own means what it means by itself, under the flags that the group sets.
The groups of one definition are not seen by the others.

* `Pattern.expression_of_group` — the expression of a source in a group;
* `opens_capture`, `opens_plain`, `opens_named`, `opens_case` — the openings of groups;
* `Lexer.matchAt_eq_of_sameToken` — lexers with the same kinds and expressions;
* `Wrapping`, `Definition.Wrapped` — sources in parentheses;
* `Lexer.matchAt_wrapped` — parentheses change no token;
* `Definition.withCase` — the flag of the lexer in each source;
* `Lexer.matchAt_withCase` — it is the same flag.
-/

namespace PriorityLexer

/-! ## Groups -/

section

open Source

theorem Source.GroupKind.ungrouped_regex (kind : GroupKind) (r : Regex) :
    (kind.regex r).ungrouped = r.ungrouped := by
  cases kind <;> rfl

/-- A pattern in a group has the expression that it has by itself under the flags of the group. -/
theorem Pattern.expression_of_group {opening : List Char} {kind : GroupKind}
    (h : Opens opening kind) {p p' : Pattern}
    (hsource : p'.source = opening ++ (p.source ++ [')'])) {b b' : Bool}
    (hmode : kind.mode (.initial b') = .initial b) {r r' : Regex}
    (hr : p.expression b = .ok r) (hr' : p'.expression b' = .ok r') : r' = r := by
  rcases bind_eq_ok_iff.1 hr with ⟨t, ht, hregex⟩
  rcases bind_eq_ok_iff.1 hr' with ⟨t', ht', hregex'⟩
  rcases bind_eq_ok_iff.1 hregex with ⟨⟨whole, m⟩, hmeaning, ⟨⟩⟩
  rcases bind_eq_ok_iff.1 hregex' with ⟨⟨_, m'⟩, hmeaning', ⟨⟩⟩
  rw [hsource] at ht'
  have hgroup : (Tree.group .nowhere kind t).meaning (.initial b') =
      .ok (kind.regex whole, .initial b') := by
    simp only [Tree.meaning, hmode, hmeaning]
    rfl
  have hsame := Tree.meaning_eq_ok_of_bare (parse_group h ht ht') hgroup
  cases hsame.symm.trans hmeaning'
  exact kind.ungrouped_regex whole

theorem opens_capture : Opens ['('] .capture where
  head := rfl
  read text t ht lexeme after hread := by
    have hcapture : readGroup false ⟨0, '(' :: (text ++ [')'])⟩ =
        .ok (.opening .capture, ⟨1, text ++ [')']⟩) := by
      cases text with
      | nil => rfl
      | cons a cs =>
          have ha : '?' ≠ a := by
            -- There is nothing to repeat at the start of a source.
            rintro rfl
            cases ht
          simp [readGroup, Cursor.next, Cursor.bump, Cursor.skipBlanks, lookArounds, List.findSome?,
            Cursor.skipText?, Cursor.peek?, ha, ha.symm]
    cases hcapture.symm.trans hread
    exact ⟨rfl, rfl⟩
  ignoreSpace := rfl

theorem opens_plain : Opens "(?:".toList (.plain []) where
  head := rfl
  read text t ht lexeme after hread := by
    cases hread
    exact ⟨rfl, rfl⟩
  ignoreSpace := rfl

theorem readNameFrom_append {name : List Char} (hname : '>' ∉ name) (first : Bool) (pos : Nat)
    (cs : List Char) {name' : List Char} {after : Cursor}
    (h : readNameFrom first pos (name ++ '>' :: cs) = .ok (name', after)) :
    name' = name ∧ after.rest = cs := by
  induction name generalizing first pos name' with
  | nil =>
      cases h
      exact ⟨rfl, rfl⟩
  | cons a name ih =>
      rw [List.mem_cons, not_or] at hname
      simp only [List.cons_append, readNameFrom, if_neg (Ne.symm hname.1)] at h
      generalize (if first = true then isNameStart a else isNamePart a) = good at h
      cases good with
      | false => cases h
      | true =>
          cases hread : readNameFrom false (pos + 1) (name ++ '>' :: cs) with
          | error f =>
              rw [hread] at h
              cases h
          | ok found =>
              rw [hread] at h
              cases h
              rcases ih hname.2 false (pos + 1) hread with ⟨hfound, hafter⟩
              exact ⟨congrArg (a :: ·) hfound, hafter⟩

theorem opens_named {name : String} (hname : '>' ∉ name.toList) :
    Opens ("(?P<" ++ name ++ ">").toList (.named .nowhere name) where
  head := by simp
  read text t ht lexeme after hread := by
    have hnamed : readGroup false ⟨0, ("(?P<" ++ name ++ ">").toList ++ (text ++ [')'])⟩ =
        readNamed ⟨4, name.toList ++ '>' :: (text ++ [')'])⟩ := by
      simp only [String.toList_append, List.append_assoc]
      rfl
    rw [hnamed] at hread
    rcases bind_eq_ok_iff.1 hread with ⟨⟨found, rest⟩, hfound, h⟩
    rcases readNameFrom_append hname true 4 (text ++ [')']) hfound with ⟨rfl, hrest⟩
    dsimp only at h
    split at h
    · cases h
    · cases h
      refine ⟨?_, hrest⟩
      simp [Lexeme.bare, GroupKind.bare]
  ignoreSpace := rfl

/-- The opening of a group that sets whether case is ignored. -/
def caseOpening (b : Bool) : String := if b then "(?i:" else "(?-i:"

theorem opens_case (b : Bool) : Opens (caseOpening b).toList (.plain [(.ignoreCase, b)]) where
  head := by cases b <;> rfl
  read text t ht lexeme after hread := by
    cases b <;> cases hread <;> exact ⟨rfl, rfl⟩
  ignoreSpace := rfl

end

/-! ## Expressions of lexers -/

theorem Expressions.exists_cons {ignoreCase : Bool} {p : Pattern} {ps : List Pattern}
    {rs : List Regex} (h : Expressions ignoreCase (p :: ps) rs) :
    ∃ r rs', rs = r :: rs' ∧ p.expression ignoreCase = .ok r ∧ Expressions ignoreCase ps rs' := by
  cases rs with
  | nil => cases h 0
  | cons r rs' => exact ⟨r, rs', rfl, Option.some.inj (h 0), fun k => h (k + 1)⟩

theorem Expressions.cons {ignoreCase : Bool} {p : Pattern} {ps : List Pattern} {r : Regex}
    {rs : List Regex} (h : Expressions ignoreCase ps rs) (hr : p.expression ignoreCase = .ok r) :
    Expressions ignoreCase (p :: ps) (r :: rs) := by
  intro k
  cases k with
  | zero => exact congrArg some hr
  | succ k => exact h k

theorem Expressions.eq_nil {ignoreCase : Bool} {rs : List Regex}
    (h : Expressions ignoreCase [] rs) : rs = [] := by
  cases rs with
  | nil => rfl
  | cons r rs' => cases h 0

namespace Lexer

variable {κ : Type} {l l' : Lexer κ}

/-- The same kind, and the same expression if both have one. -/
def SameToken (b b' : Bool) (d d' : Definition κ) : Prop :=
  d'.kind = d.kind ∧ ∀ r r', d.pattern.expression b = .ok r → d'.pattern.expression b' = .ok r' →
    r' = r

theorem expressions_eq {b b' : Bool} {ds ds' : List (Definition κ)} {rs rs' : List Regex}
    (h : List.Forall₂ (SameToken b b') ds ds') (hrs : Expressions b (ds.map (·.pattern)) rs)
    (hrs' : Expressions b' (ds'.map (·.pattern)) rs') : rs' = rs := by
  induction h generalizing rs rs' with
  | nil => rw [hrs.eq_nil, hrs'.eq_nil]
  | cons hd _ ih =>
      obtain ⟨r, more, rfl, hr, hmore⟩ := hrs.exists_cons
      obtain ⟨r', more', rfl, hr', hmore'⟩ := hrs'.exists_cons
      rw [hd.2 r r' hr hr', ih hmore hmore']

theorem kind_getElem? {b b' : Bool} {ds ds' : List (Definition κ)}
    (h : List.Forall₂ (SameToken b b') ds ds') (k : Nat) :
    ds'[k]?.map (·.kind) = ds[k]?.map (·.kind) := by
  induction h generalizing k with
  | nil => rfl
  | cons hd _ ih =>
      cases k with
      | zero => exact congrArg some hd.1
      | succ k => exact ih k

/-- Lexers with the same kinds and expressions yield the same tokens. -/
theorem matchAt_eq_of_sameToken
    (h : List.Forall₂ (SameToken l.options.ignoreCase l'.options.ignoreCase)
      l.definitions.toList l'.definitions.toList) (input : String) (offset : Nat) :
    l'.matchAt input offset = l.matchAt input offset := by
  obtain ⟨rs, hrs, -, hmatcher⟩ := l.exists_expressions
  obtain ⟨rs', hrs', -, hmatcher'⟩ := l'.exists_expressions
  have hsame : l'.matcher = l.matcher := by
    rw [hmatcher, hmatcher', expressions_eq h hrs hrs']
  have hplace (p : Place) : l'.matchPlace? p = l.matchPlace? p := by
    unfold matchPlace?
    rw [hsame]
    cases l.matcher.search? p with
    | none => rfl
    | some found =>
        have hkind := kind_getElem? h found.pattern
        simp only [Definitions.get?]
        cases hd : l.definitions.toList[found.pattern]? with
        | none =>
            rw [hd, Option.map_none, Option.map_eq_none_iff] at hkind
            rw [hkind]
        | some d =>
            rw [hd, Option.map_some, Option.map_eq_some_iff] at hkind
            obtain ⟨d', hd', hkind⟩ := hkind
            simp only [hd', hkind]
  simp only [matchAt, hplace]

/-- Streams see of a lexer only which token starts where. -/
theorem drain_eq_of_matchAt {input : String}
    (h : ∀ offset, l'.matchAt input offset = l.matchAt input offset) (offset n : Nat) :
    ((l'.tokenizeFrom input offset).drain n).1 = ((l.tokenizeFrom input offset).drain n).1 := by
  induction n generalizing offset with
  | zero => rfl
  | succ n ih =>
      simp only [tokenizeFrom, Stream.drain, Stream.next?_start, h] at ih ⊢
      by_cases hend : input.utf8ByteSize ≤ offset
      · simp [hend]
      simp only [if_neg hend]
      cases l.matchAt input offset with
      | some t => simp only [ih]
      | none =>
          -- Both are over behind the error.
          simp only [Stream.drain_of_next?_eq_none (Stream.next?_fail _)]
          rfl

end Lexer

/-! ## Parentheses -/

/-- The ways to put a source in parentheses. -/
inductive Wrapping where
  | capture
  | plain
  | named (name : String) (h : '>' ∉ name.toList)

namespace Wrapping

def opening : Wrapping → String
  | .capture => "("
  | .plain => "(?:"
  | .named name _ => "(?P<" ++ name ++ ">"

def apply (w : Wrapping) (source : String) : String :=
  w.opening ++ source ++ ")"

def kind : Wrapping → Source.GroupKind
  | .capture => .capture
  | .plain => .plain []
  | .named name _ => .named .nowhere name

theorem opens (w : Wrapping) : Source.Opens w.opening.toList w.kind := by
  cases w with
  | capture => exact opens_capture
  | plain => exact opens_plain
  | named name h => exact opens_named h

theorem mode_kind (w : Wrapping) (m : Source.Mode) : w.kind.mode m = m := by
  cases w <;> rfl

end Wrapping

/-- The same definition, or one whose source is put in parentheses. -/
inductive Definition.Wrapped {κ : Type} : Definition κ → Definition κ → Prop where
  | same (d : Definition κ) : Wrapped d d
  | regex (kind : κ) (source : String) (w : Wrapping) :
    Wrapped ⟨kind, .regex source⟩ ⟨kind, .regex (w.apply source)⟩

namespace Lexer

variable {κ : Type} {ds ds' : Definitions κ} {options : Options} {l l' : Lexer κ}

theorem sameToken_of_wrapped {d d' : Definition κ} (h : d.Wrapped d') (b : Bool) :
    SameToken b b d d' := by
  cases h with
  | same => exact ⟨rfl, fun r r' hr hr' => Except.ok.inj (hr'.symm.trans hr)⟩
  | regex kind source w =>
      refine ⟨rfl, fun r r' hr hr' => ?_⟩
      refine Pattern.expression_of_group w.opens ?_ (w.mode_kind _) hr hr'
      simp [Pattern.source, Pattern.fragment, Wrapping.apply]

/-- Parentheses around sources change neither tokens nor streams. -/
theorem matchAt_wrapped (h : List.Forall₂ Definition.Wrapped ds.toList ds'.toList)
    (hl : build ds options = .ok l) (hl' : build ds' options = .ok l') (input : String) :
    (∀ offset, l'.matchAt input offset = l.matchAt input offset) ∧
    ∀ offset n, ((l'.tokenizeFrom input offset).drain n).1 =
      ((l.tokenizeFrom input offset).drain n).1 := by
  obtain ⟨rfl, rfl⟩ := build_eq_ok_iff.1 hl
  obtain ⟨rfl, hoptions⟩ := build_eq_ok_iff.1 hl'
  have hsame : List.Forall₂ (SameToken l.options.ignoreCase l'.options.ignoreCase)
      l.definitions.toList l'.definitions.toList := by
    rw [hoptions]
    exact h.imp fun d d' hd => sameToken_of_wrapped hd l.options.ignoreCase
  have hmatch := matchAt_eq_of_sameToken hsame input
  exact ⟨hmatch, drain_eq_of_matchAt hmatch⟩

/-- Flags and branches stay in their group, and groups are not counted across definitions. -/
theorem matchAt_wrapped_branches :
    ∃ l l' : Lexer String,
      build ⟨[⟨"sign", .regex "(?i)a|b"⟩, ⟨"pair", .regex "(c)d"⟩, ⟨"d", .literal "d"⟩]⟩
        ⟨false⟩ = .ok l ∧
      build ⟨[⟨"sign", .regex "(?P<_>(?i)a|b)"⟩, ⟨"pair", .regex "((c)d)"⟩,
        ⟨"d", .literal "d"⟩]⟩ ⟨false⟩ = .ok l' ∧
      (∀ input offset, l'.matchAt input offset = l.matchAt input offset) ∧
      [0, 1, 3, 4].map (l.matchAt "BcddD") =
        [some ⟨"sign", "B", 0, 1⟩, some ⟨"pair", "cd", 1, 3⟩, some ⟨"d", "d", 3, 4⟩, none] ∧
      [0, 1, 3, 4].map (l'.matchAt "BcddD") =
        [some ⟨"sign", "B", 0, 1⟩, some ⟨"pair", "cd", 1, 3⟩, some ⟨"d", "d", 3, 4⟩, none] := by
  let sets : List (List CharSet) :=
    [[.ofText "41-42 61-62"], [.singleton 'c', .singleton 'd'], [.singleton 'd']]
  have hsets : Expressions false
      [.regex "(?i)a|b", .regex "(c)d", .literal "d"]
      (sets.map fun ss => .catOf (ss.map .chars)) := .of_map_eq (by decide +kernel)
  obtain ⟨l, hl, -⟩ := exists_build_eq_ok (κ := String)
    ⟨[⟨"sign", .regex "(?i)a|b"⟩, ⟨"pair", .regex "(c)d"⟩, ⟨"d", .literal "d"⟩]⟩ ⟨false⟩ hsets
    (by decide +kernel)
  obtain ⟨l', hl'⟩ := exists_build_of_isOk (κ := String)
    ⟨[⟨"sign", .regex "(?P<_>(?i)a|b)"⟩, ⟨"pair", .regex "((c)d)"⟩, ⟨"d", .literal "d"⟩]⟩
    ⟨false⟩ (by decide +kernel)
  have hsame (input : String) (offset : Nat) :
      l'.matchAt input offset = l.matchAt input offset := by
    refine (matchAt_wrapped ?_ hl hl' input).1 offset
    exact .cons (.regex "sign" "(?i)a|b" (.named "_" (by decide)))
      (.cons (.regex "pair" "(c)d" .capture) (.cons (.same _) .nil))
  have htokens : [0, 1, 3, 4].map (l.matchAt "BcddD") =
      [some ⟨"sign", "B", 0, 1⟩, some ⟨"pair", "cd", 1, 3⟩, some ⟨"d", "d", 3, 4⟩, none] := by
    simp only [List.map_cons, List.map_nil, matchAt_eq_bind, matchPlace?_of_sets hl hsets]
    decide +kernel
  refine ⟨l, l', hl, hl', hsame, htokens, ?_⟩
  rw [funext (hsame "BcddD"), htokens]

end Lexer

/-! ## The flag of the lexer -/

/-- The definition with a source that says itself whether case is ignored. -/
def Definition.withCase {κ : Type} (b : Bool) (d : Definition κ) : Definition κ :=
  ⟨d.kind, .regex (caseOpening b ++ d.pattern.fragment ++ ")")⟩

namespace Lexer

variable {κ : Type} {ds : Definitions κ} {b b' : Bool} {l l' : Lexer κ}

theorem sameToken_withCase (b b' : Bool) (d : Definition κ) : SameToken b b' d (d.withCase b) := by
  refine ⟨rfl, fun r r' hr hr' => ?_⟩
  refine Pattern.expression_of_group (opens_case b) ?_ rfl hr hr'
  simp [Pattern.source, Pattern.fragment, Definition.withCase]

/-- Whether case is ignored may be said to the lexer or in each source, whatever else is said to
the lexer then. -/
theorem matchAt_withCase (hl : build ds ⟨b⟩ = .ok l)
    (hl' : build ⟨ds.toList.map (Definition.withCase b)⟩ ⟨b'⟩ = .ok l') (input : String)
    (offset : Nat) : l'.matchAt input offset = l.matchAt input offset := by
  obtain ⟨rfl, hoptions⟩ := build_eq_ok_iff.1 hl
  obtain ⟨hdefinitions, hoptions'⟩ := build_eq_ok_iff.1 hl'
  refine matchAt_eq_of_sameToken ?_ input offset
  rw [hoptions, hoptions', hdefinitions, List.forall₂_map_right_iff]
  exact List.forall₂_same.2 fun d _ => sameToken_withCase b b' d

/-- A flag inside a source has the last word in both lexers. -/
theorem matchAt_withCase_inside :
    ∃ l l' : Lexer String,
      build ⟨[⟨"word", .regex "[^k]s(?-i:x)"⟩, ⟨"k", .literal "k."⟩]⟩ ⟨true⟩ = .ok l ∧
      build ⟨[⟨"word", .regex "(?i:[^k]s(?-i:x))"⟩, ⟨"k", .regex "(?i:k\\.)"⟩]⟩ ⟨false⟩ =
        .ok l' ∧
      (∀ input offset, l'.matchAt input offset = l.matchAt input offset) ∧
      [0, 3, 6].map (l.matchAt "aSxaSXK.") =
        [some ⟨"word", "aSx", 0, 3⟩, none, some ⟨"k", "K.", 6, 8⟩] ∧
      [0, 3, 6].map (l'.matchAt "aSxaSXK.") =
        [some ⟨"word", "aSx", 0, 3⟩, none, some ⟨"k", "K.", 6, 8⟩] := by
  let sets : List (List CharSet) :=
    [[(simpleFolding.close (.singleton 'k')).complement, simpleFolding.close (.singleton 's'),
        .singleton 'x'],
      [simpleFolding.close (.singleton 'k'), .singleton '.']]
  have hsets : Expressions true [.regex "[^k]s(?-i:x)", .literal "k."]
      (sets.map fun ss => .catOf (ss.map .chars)) := .of_map_eq (by decide +kernel)
  obtain ⟨l, hl, -⟩ := exists_build_eq_ok (κ := String)
    ⟨[⟨"word", .regex "[^k]s(?-i:x)"⟩, ⟨"k", .literal "k."⟩]⟩ ⟨true⟩ hsets (by decide +kernel)
  obtain ⟨l', hl'⟩ := exists_build_of_isOk (κ := String)
    ⟨[⟨"word", .regex "(?i:[^k]s(?-i:x))"⟩, ⟨"k", .regex "(?i:k\\.)"⟩]⟩ ⟨false⟩
    (by decide +kernel)
  have hsame := matchAt_withCase hl hl'
  have htokens : [0, 3, 6].map (l.matchAt "aSxaSXK.") =
      [some ⟨"word", "aSx", 0, 3⟩, none, some ⟨"k", "K.", 6, 8⟩] := by
    simp only [List.map_cons, List.map_nil, matchAt_eq_bind, matchPlace?_of_sets hl hsets]
    decide +kernel
  refine ⟨l, l', hl, hl', hsame, htokens, ?_⟩
  rw [funext (hsame "aSxaSXK."), htokens]

end Lexer

end PriorityLexer
