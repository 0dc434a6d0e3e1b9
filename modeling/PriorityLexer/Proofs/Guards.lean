import PriorityLexer.Proofs.Grouping

/-!
# Guards — assertions in front of sources

A definition whose source is led by an assertion takes part in a match where the assertion holds,
and there it does so as if it had none.  What the assertion looks at is the whole input.

* `Guard` — an assertion as it is written, by itself or in a group that sets flags;
* `Guard.expression_apply` — the expression of a source behind an assertion;
* `Program.searchAlone?_look` — where it matches;
* `Lexer.exists_build_admitted` — at a place, only those definitions count whose assertions hold.
-/

namespace PriorityLexer

/-! ## Assertions as they are written -/

def Source.Assertion.spelling : Source.Assertion → String
  | .lineStart => "^"
  | .lineEnd => "$"
  | .textStart => "\\A"
  | .textEnd => "\\z"
  | .boundary => "\\b"
  | .notBoundary => "\\B"
  | .wordStart => "\\<"
  | .wordEnd => "\\>"
  | .wordStartHalf => "\\b\x7bstart-half\x7d"
  | .wordEndHalf => "\\b\x7bend-half\x7d"

/-- Groups that set the flags on which assertions depend. -/
inductive Scope where
  | plain | lines | crlfLines | ascii
deriving DecidableEq, Repr

namespace Scope

def opening : Scope → String
  | .plain => "(?:"
  | .lines => "(?m:"
  | .crlfLines => "(?mR:"
  | .ascii => "(?-u:"

def kind : Scope → Source.GroupKind
  | .plain => .plain []
  | .lines => .plain [(.multiLine, true)]
  | .crlfLines => .plain [(.multiLine, true), (.crlf, true)]
  | .ascii => .plain [(.unicode, false)]

end Scope

/-- An assertion by itself or in a group. -/
structure Guard where
  scope : Option Scope
  kind : Source.Assertion
deriving DecidableEq, Repr

namespace Guard

def text (g : Guard) : String :=
  match g.scope with
  | none => g.kind.spelling
  | some scope => scope.opening ++ g.kind.spelling ++ ")"

/-- What is asserted; whether case is ignored does not matter for that. -/
def look (g : Guard) : Look :=
  match g.scope with
  | none => g.kind.look (.initial false)
  | some scope => g.kind.look (scope.kind.mode (.initial false))

/-- The source behind the assertion. -/
def apply (g : Guard) (source : String) : String := g.text ++ "(?:" ++ source ++ ")"

end Guard

/-! ## Sources -/

namespace Source

variable {st : State}

theorem parseFrom_spelling (hspace : st.ignoreSpace = false) (kind : Assertion) (pos : Nat)
    {b : Char} (hb : b = '(' ∨ b = ')') (rest : List Char) (fuel : Nat) :
    parseFrom (fuel + 1) st ⟨pos, kind.spelling.toList ++ b :: rest⟩ =
      parseFrom fuel
        (st.addParts [.atom (.assertion ⟨pos, pos + kind.spelling.length⟩ kind)])
        ⟨pos + kind.spelling.length, b :: rest⟩ := by
  rcases hb with rfl | rfl <;> cases kind <;> exact parseFrom_of_part hspace rfl fuel

theorem parseFrom_opening (hspace : st.ignoreSpace = false) (scope : Scope) (pos : Nat)
    (rest : List Char) (fuel : Nat) :
    parseFrom (fuel + 1) st ⟨pos, scope.opening.toList ++ rest⟩ =
      parseFrom fuel (st.enter scope.kind pos (pos + scope.opening.length))
        ⟨pos + scope.opening.length, rest⟩ := by
  rcases st with ⟨enclosures, branches, ignoreSpace, names⟩
  cases hspace
  cases scope <;> rfl

/-- The tree of an assertion at the start of a source. -/
def guardTree (g : Guard) : Tree :=
  let n := g.kind.spelling.length
  match g.scope with
  | none => .atom (.assertion ⟨0, n⟩ g.kind)
  | some scope =>
    let start := scope.opening.length
    .group ⟨0, start + n + 1⟩ scope.kind (.atom (.assertion ⟨start, start + n⟩ g.kind))

/-- An assertion in front of a parenthesis is read as one part. -/
theorem parseFrom_guard (g : Guard) :
    ∃ count ≤ g.text.length, ∀ fuel rest,
      parseFrom (fuel + count) .initial ⟨0, g.text.toList ++ '(' :: rest⟩ =
        parseFrom fuel (State.initial.addParts [guardTree g]) ⟨g.text.length, '(' :: rest⟩ := by
  rcases g with ⟨_ | scope, kind⟩
  · refine ⟨1, by cases kind <;> decide, fun fuel rest => ?_⟩
    rw [Guard.text, parseFrom_spelling rfl kind 0 (.inl rfl), Nat.zero_add]
    rfl
  · refine ⟨3, by cases scope <;> cases kind <;> decide, fun fuel rest => ?_⟩
    have htext : (Guard.text ⟨some scope, kind⟩).toList ++ '(' :: rest =
        scope.opening.toList ++ (kind.spelling.toList ++ ')' :: '(' :: rest) := by
      simp [Guard.text]
    have hspace : (State.initial.enter scope.kind 0 (0 + scope.opening.length)).ignoreSpace =
        false := by
      cases scope <;> rfl
    have hlength : (Guard.text ⟨some scope, kind⟩).length =
        0 + scope.opening.length + kind.spelling.length + 1 := by
      simp only [Guard.text, String.length_append, Nat.zero_add]
      rfl
    rw [htext, parseFrom_opening rfl scope, parseFrom_spelling hspace kind _ (.inr rfl), hlength]
    -- The parenthesis closes the group, and the assertion is all that is in it.
    cases scope <;> rfl

/-- A source behind an assertion is parsed as it is by itself, but for the spans. -/
theorem parse_guarded (g : Guard) {text : List Char} {t t' : Tree} (ht : parse text = .ok t)
    (ht' : parse (g.text.toList ++ (Scope.plain.opening.toList ++ (text ++ [')']))) = .ok t') :
    t'.bare = (Tree.concat .nowhere [guardTree g, .group .nowhere (.plain []) t]).bare := by
  rcases parseFrom_guard g with ⟨count, hcount, hguard⟩
  let source := g.text.toList ++ (Scope.plain.opening.toList ++ (text ++ [')']))
  let outer : Enclosure := ⟨g.text.length, .plain [], ⟨0, [], 0, [guardTree g]⟩, false⟩
  have hlength : source.length = g.text.length + (3 + (text.length + 1)) := by
    simp only [source, Scope.opening, List.length_append, String.length_toList,
      List.length_singleton]
    rfl
  have hfuel : source.length + 1 = ((source.length - count) + 1) + count := by omega
  have hwhole : parseFrom (source.length - count)
      ((State.initial.addParts [guardTree g]).enter (.plain []) g.text.length
        (g.text.length + 3)) ⟨g.text.length + 3, text ++ [')']⟩ = .ok t' := by
    have hspace : (State.initial.addParts [guardTree g]).ignoreSpace = false := rfl
    have hopening := parseFrom_opening hspace .plain g.text.length (text ++ [')'])
      (source.length - count)
    rw [← parseFrom_of_parse ht', Cursor.ofSource, hfuel]
    exact hopening.symm.trans (hguard _ _).symm
  have hinside : State.initial.Inside outer
      ((State.initial.addParts [guardTree g]).enter (.plain []) g.text.length
        (g.text.length + 3)) := ⟨rfl, rfl, rfl⟩
  have hwithin : Cursor.Within text.length (.ofSource text) ⟨g.text.length + 3, text ++ [')']⟩ :=
    ⟨Nat.le_refl _, .inl rfl⟩
  exact parseFrom_inside (Nat.lt_succ_self _) (by omega) hinside hwithin (parseFrom_of_parse ht)
    hwhole

theorem meaning_guardTree (g : Guard) (ignoreCase : Bool) :
    (guardTree g).meaning (.initial ignoreCase) = .ok (.look g.look, .initial ignoreCase) := by
  rcases g with ⟨_ | scope, kind⟩
  · cases kind <;> rfl
  · cases scope <;> cases kind <;> rfl

end Source

/-- A source behind an assertion has its expression behind the assertion. -/
theorem Pattern.expression_of_guard (g : Guard) {p p' : Pattern}
    (hsource : p'.source = g.text.toList ++ (Scope.plain.opening.toList ++ (p.source ++ [')'])))
    {ignoreCase : Bool} {r r' : Regex} (hr : p.expression ignoreCase = .ok r)
    (hr' : p'.expression ignoreCase = .ok r') : r' = .cat (.look g.look) r := by
  rcases bind_eq_ok_iff.1 hr with ⟨t, ht, hregex⟩
  rcases bind_eq_ok_iff.1 hr' with ⟨t', ht', hregex'⟩
  rcases bind_eq_ok_iff.1 hregex with ⟨⟨whole, m⟩, hmeaning, ⟨⟩⟩
  rcases bind_eq_ok_iff.1 hregex' with ⟨⟨_, m'⟩, hmeaning', ⟨⟩⟩
  rw [hsource] at ht'
  have hgroup : (Source.Tree.group .nowhere (.plain []) t).meaning (.initial ignoreCase) =
      .ok (whole, .initial ignoreCase) := by
    have hmode : (Source.GroupKind.plain []).mode (.initial ignoreCase) = .initial ignoreCase := rfl
    simp only [Source.Tree.meaning, hmode, hmeaning]
    rfl
  have hconcat :
      (Source.Tree.concat .nowhere [Source.guardTree g, .group .nowhere (.plain []) t]).meaning
        (.initial ignoreCase) = .ok (.cat (.look g.look) whole, .initial ignoreCase) := by
    rw [Source.Tree.meaning]
    simp only [Source.Tree.meanings, Source.meaning_guardTree, hgroup, bind, Except.bind]
    rfl
  have hsame := Source.Tree.meaning_eq_ok_of_bare (Source.parse_guarded g ht ht') hconcat
  cases hsame.symm.trans hmeaning'
  rfl

/-! ## Programs -/

/-- An expression behind an assertion matches where the assertion holds, and as it does by
itself. -/
theorem Program.searchAlone?_look (place : Place) (l : Look) (r : Regex) :
    searchAlone? place (.cat (.look l) r) =
      if l.holds place then (searchAlone? place r).map (.rename fun _ => 0) else none := by
  have hhosts : (ofRegexes [.cat (.look l) r]).Hosts 0
      ([.look l 1] ++ (r.code 1 (1 + r.size) ++ [.accept 0])) := by
    simpa [Regex.code, Regex.size] using hosts_ofRegexes_singleton (.cat (.look l) r)
  have hlook : (ofRegexes [.cat (.look l) r]).insts[0]? = some (.look l 1) := by
    simpa using hhosts 0
  -- Nothing leads back to the assertion.
  have hclosed := hhosts.right.closed_code Nat.one_pos (by simp [Inst.nexts])
  have hzero : ∀ i ∈ [0], i < r.size + 1 := by simp
  have hrun := (carries_of_hosts hhosts.right).run hzero place.before place.after
  rw [searchAlone?, searchAlone?, search?_eq, search?_eq]
  exact (run_look hclosed (by simp) hlook (by simp)).trans
    (congrArg (if l.holds place then · else none) hrun)

/-! ## Lexers -/

/-- The definition behind an assertion, if there is one. -/
def Definition.guarded {κ : Type} (guard : Option Guard) (d : Definition κ) : Definition κ :=
  match guard with
  | none => d
  | some g => ⟨d.kind, .regex (g.apply d.pattern.fragment)⟩

/-- Whether the assertion holds, if there is one. -/
def Guard.admits (guard : Option Guard) (p : Place) : Bool := guard.all (·.look.holds p)

/-- The definitions whose assertions hold at a place. -/
def Definition.admitted {κ : Type} (gs : List (Option Guard × Definition κ)) (p : Place) :
    List (Definition κ) :=
  (gs.filter fun g => Guard.admits g.1 p).map (·.2)

theorem Definition.admitted_cons {κ : Type} (g : Option Guard × Definition κ)
    (gs : List (Option Guard × Definition κ)) (p : Place) :
    admitted (g :: gs) p = if Guard.admits g.1 p then g.2 :: admitted gs p else admitted gs p := by
  rw [admitted, List.filter_cons]
  split <;> rfl

namespace Lexer

variable {κ : Type}

theorem searchAlone?_guarded {guard : Option Guard} {d : Definition κ} {ignoreCase : Bool}
    {r r' : Regex} (hr : d.pattern.expression ignoreCase = .ok r)
    (hr' : (d.guarded guard).pattern.expression ignoreCase = .ok r') (p : Place) :
    (Program.searchAlone? p r').map (fun found => ((d.guarded guard).kind, found.length)) =
      if Guard.admits guard p then
        (Program.searchAlone? p r).map fun found => (d.kind, found.length)
      else none := by
  cases guard with
  | none =>
      cases hr.symm.trans hr'
      rfl
  | some g =>
      have hsource : (d.guarded (some g)).pattern.source =
          g.text.toList ++ (Scope.plain.opening.toList ++ (d.pattern.source ++ [')'])) := by
        simp [Definition.guarded, Pattern.source, Pattern.fragment, Guard.apply, Scope.opening]
      rw [Pattern.expression_of_guard g hsource hr hr', Program.searchAlone?_look]
      by_cases hholds : g.look.holds p = true
      · simp [Guard.admits, Definition.guarded, hholds, Program.Found.rename, Function.comp_def]
      · simp [Guard.admits, hholds]

variable {gs : List (Option Guard × Definition κ)} {options : Options} {l l₀ : Lexer κ}

/-- Of the expressions behind assertions those matter whose assertions hold. -/
theorem exists_expressions_admitted {ignoreCase : Bool} {rs rs' : List Regex}
    (hrs : Expressions ignoreCase ((gs.map (·.2)).map (·.pattern)) rs)
    (hrs' : Expressions ignoreCase ((gs.map fun g => g.2.guarded g.1).map (·.pattern)) rs')
    (p : Place) :
    ∃ admitted, Expressions ignoreCase ((Definition.admitted gs p).map (·.pattern)) admitted ∧
      Regex.totalWeight admitted ≤ Regex.totalWeight rs ∧
      (((gs.map fun g => g.2.guarded g.1).zip rs').findSome? fun (d, r) =>
        (Program.searchAlone? p r).map fun found => (d.kind, found.length)) =
      ((Definition.admitted gs p).zip admitted).findSome? fun (d, r) =>
        (Program.searchAlone? p r).map fun found => (d.kind, found.length) := by
  induction gs generalizing rs rs' with
  | nil => exact ⟨[], fun _ => rfl, Nat.zero_le _, rfl⟩
  | cons g gs ih =>
      obtain ⟨r, more, rfl, hr, hmore⟩ := hrs.exists_cons
      obtain ⟨r', more', rfl, hr', hmore'⟩ := hrs'.exists_cons
      obtain ⟨admitted, hadmitted, hweight, hfind⟩ := ih hmore hmore'
      have hfirst := searchAlone?_guarded hr hr' p
      rw [Definition.admitted_cons]
      simp only [List.map_cons, List.zip_cons_cons, List.findSome?_cons, hfirst, hfind]
      by_cases hg : Guard.admits g.1 p = true
      · simp only [if_pos hg]
        exact ⟨r :: admitted, hadmitted.cons hr, Nat.add_le_add_left hweight r.weight, rfl⟩
      · simp only [if_neg hg]
        exact ⟨admitted, hadmitted, Nat.le_trans hweight (Nat.le_add_left _ _), rfl⟩

/-- At a place, only those definitions count whose assertions hold there, and they count as if they
had none. -/
theorem exists_build_admitted (hl : build ⟨gs.map fun g => g.2.guarded g.1⟩ options = .ok l)
    (hl₀ : build ⟨gs.map (·.2)⟩ options = .ok l₀) {input : String} {offset : Nat} {p : Place}
    (hp : place? input.toList offset = some p) :
    ∃ l', build ⟨Definition.admitted gs p⟩ options = .ok l' ∧
      l.matchAt input offset = l'.matchAt input offset := by
  rcases l.exists_expressions with ⟨rs', hrs', -, hmatcher⟩
  rcases l₀.exists_expressions with ⟨rs, hrs, hsize, -⟩
  rcases build_eq_ok_iff.1 hl with ⟨hds, hoptions⟩
  rcases build_eq_ok_iff.1 hl₀ with ⟨hds₀, hoptions₀⟩
  rw [hds, hoptions] at hrs'
  rw [hds₀, hoptions₀] at hrs
  rcases exists_expressions_admitted hrs hrs' p with ⟨admitted, hadmitted, hweight, hfind⟩
  rcases exists_build_eq_ok ⟨Definition.admitted gs p⟩ options hadmitted
    (Nat.le_trans hweight hsize) with ⟨l', hl', hmatcher'⟩
  have hds' := (build_eq_ok_iff.1 hl').1
  have hlength := hadmitted.length_eq
  have hlength' := hrs'.length_eq
  rw [List.length_map] at hlength hlength'
  have hplace : l.matchPlace? p = l'.matchPlace? p := by
    rw [matchPlace?_eq hmatcher (by rw [hds, hlength']),
      matchPlace?_eq hmatcher' (by rw [hds', hlength]), hds, hds']
    exact congrArg (Option.filter (·.2 != 0)) hfind
  refine ⟨l', hl', ?_⟩
  simp only [matchAt_eq_bind, hp, Option.bind_some, hplace]

theorem matchAt_of_no_definitions (h : build ⟨[]⟩ options = .ok l) (input : String)
    (offset : Nat) : l.matchAt input offset = none := by
  rcases l.exists_expressions with ⟨rs, hrs, -, hmatcher⟩
  rw [(build_eq_ok_iff.1 h).1] at hrs
  have hlength : rs.length = l.definitions.toList.length := by
    rw [hrs.eq_nil, (build_eq_ok_iff.1 h).1]
    rfl
  have hplace (p : Place) : l.matchPlace? p = none := by
    rw [matchPlace?_eq hmatcher hlength, hrs.eq_nil, List.zip_nil_right]
    rfl
  rw [matchAt_eq_bind]
  cases place? input.toList offset with
  | none => rfl
  | some p => simp only [Option.bind_some, hplace, Option.map_none]

end Lexer

end PriorityLexer
