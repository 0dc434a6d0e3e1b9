import PriorityLexer.Proofs.Isolation
import PriorityLexer.Proofs.Literals
import PriorityLexer.Proofs.Tokenization

/-!
# Extension — definitions behind others

Definitions of lower priority leave the tokens of those before them alone.  They are asked only
where the others match nothing at all, so a stream can change only where it failed before.

* `Lexer.Extends` — a lexer with more definitions behind those of another one;
* `Lexer.Extends.search?_of_some`, `Lexer.Extends.exists_added` — what its program finds;
* `Lexer.Extends.matchAt_of_some`, `Lexer.Extends.matchAt_of_none` — tokens of both lexers;
* `Lexer.Extends.chain` — chains of tokens are kept;
* `Lexer.all_tokenizeFrom_push` — the streams of both lexers.
-/

namespace PriorityLexer

variable {κ : Type}

theorem Definitions.toList_foldl_push (ds : Definitions κ) (more : List (Definition κ)) :
    (more.foldl .push ds).toList = ds.toList ++ more := by
  induction more generalizing ds with
  | nil => simp
  | cons d more ih => simp [ih, push]

namespace Lexer

/-! ## The definition that wins -/

section Winner

variable {l : Lexer κ} {input : String} {offset : Nat} {p : Place}

/-- Each definition has an expression in the program that is small enough alone. -/
theorem exists_small_expression {rs : List Regex} {i : Nat} {d : Definition κ}
    (hrs : Expressions l.options.ignoreCase (l.definitions.toList.map (·.pattern)) rs)
    (hsize : Regex.totalWeight rs ≤ sizeLimit) (hd : l.definitions.get? i = some d) :
    ∃ r, rs[i]? = some r ∧ d.pattern.expression l.options.ignoreCase = .ok r ∧
      r.weight ≤ sizeLimit := by
  rcases hrs.exists_expression hd with ⟨r, hr, hexpression⟩
  have hweight := Regex.weight_le_totalWeight (List.mem_of_getElem? hr)
  exact ⟨r, hr, hexpression, Nat.le_trans hweight hsize⟩

/-- The definition that wins finds the same match alone. -/
theorem endAlone?_of_search? (hp : place? input.toList offset = some p) {found : Program.Found}
    (hs : l.matcher.search? p = some found) {d : Definition κ}
    (hd : l.definitions.get? found.pattern = some d) :
    d.endAlone? l.options input offset =
      some (offset + byteLength (p.after.take found.length)) := by
  rcases l.exists_expressions with ⟨rs, hrs, hsize, hmatcher⟩
  rcases exists_small_expression hrs hsize hd with ⟨r, hr, hexpression, hweight⟩
  rw [hmatcher] at hs
  rcases Program.search?_eq_some_iff.1 hs with ⟨r', alone, hr', halone, hlength, -⟩
  cases hr.symm.trans hr'
  rw [endAlone?_eq hexpression hweight, hp, Option.bind_some, halone, Option.map_some, hlength]

/-- The first definition that matches alone wins. -/
theorem search?_of_endAlone? (hp : place? input.toList offset = some p) {i stop : Nat}
    {d : Definition κ} (hd : l.definitions.get? i = some d)
    (hstop : d.endAlone? l.options input offset = some stop)
    (hbefore : ∀ j < i, ∀ d', l.definitions.get? j = some d' →
      d'.endAlone? l.options input offset = none) :
    ∃ n, l.matcher.search? p = some ⟨i, n⟩ ∧ stop = offset + byteLength (p.after.take n) := by
  rcases l.exists_expressions with ⟨rs, hrs, hsize, hmatcher⟩
  rcases exists_small_expression hrs hsize hd with ⟨r, hr, hexpression, hweight⟩
  rw [endAlone?_eq hexpression hweight, hp, Option.bind_some, Option.map_eq_some_iff] at hstop
  rcases hstop with ⟨alone, halone, hstop⟩
  refine ⟨alone.length, ?_, hstop.symm⟩
  rw [hmatcher]
  refine Program.search?_eq_some_iff.2 ⟨r, alone, hr, halone, rfl, ?_⟩
  intro j hj r' hr'
  rcases hrs.exists_get? hr' with ⟨d', hd'⟩
  rcases exists_small_expression hrs hsize hd' with ⟨r'', hr'', hexpression', hweight'⟩
  cases hr'.symm.trans hr''
  have hnone := hbefore j hj d' hd'
  rwa [endAlone?_eq hexpression' hweight', hp, Option.bind_some, Option.map_eq_none_iff] at hnone

end Winner

/-! ## Two lexers -/

/-- The other lexer has more definitions behind the same ones. -/
structure Extends (l l' : Lexer κ) (more : List (Definition κ)) : Prop where
  toList_eq : l'.definitions.toList = l.definitions.toList ++ more
  options_eq : l'.options = l.options

namespace Extends

variable {l l' : Lexer κ} {more : List (Definition κ)} {input : String} {offset : Nat} {p : Place}

theorem of_build {ds : Definitions κ} {options : Options} (hl : build ds options = .ok l)
    (hl' : build (more.foldl .push ds) options = .ok l') : l.Extends l' more := by
  rcases build_eq_ok_iff.1 hl with ⟨rfl, rfl⟩
  rcases build_eq_ok_iff.1 hl' with ⟨hdefinitions, hoptions⟩
  exact ⟨by rw [hdefinitions, Definitions.toList_foldl_push], hoptions⟩

/-- The common definitions have the same expressions in both programs. -/
theorem getElem?_expressions (h : l.Extends l' more) {rs rs' : List Regex}
    (hrs : Expressions l.options.ignoreCase (l.definitions.toList.map (·.pattern)) rs)
    (hrs' : Expressions l'.options.ignoreCase (l'.definitions.toList.map (·.pattern)) rs') {k : Nat}
    (hk : k < rs.length) : rs'[k]? = rs[k]? := by
  have hpatterns : k < (l.definitions.toList.map (·.pattern)).length := hrs.length_eq ▸ hk
  have hboth := hrs' k
  rw [h.toList_eq, h.options_eq, List.map_append, List.getElem?_append_left hpatterns, hrs k]
    at hboth
  exact (Option.map_injective (fun _ _ => Except.ok.inj) hboth).symm

theorem search?_of_some (h : l.Extends l' more) {found : Program.Found}
    (hs : l.matcher.search? p = some found) : l'.matcher.search? p = some found := by
  rcases l.exists_expressions with ⟨rs, hrs, -, hmatcher⟩
  rcases l'.exists_expressions with ⟨rs', hrs', -, hmatcher'⟩
  rw [hmatcher] at hs
  rcases Program.search?_eq_some_iff.1 hs with ⟨r, alone, hr, halone, hlength, hbefore⟩
  have hlt := (List.getElem?_eq_some_iff.1 hr).1
  rw [hmatcher']
  refine Program.search?_eq_some_iff.2 ⟨r, alone, ?_, halone, hlength, ?_⟩
  · rw [h.getElem?_expressions hrs hrs' hlt, hr]
  · intro j hj r' hr'
    rw [h.getElem?_expressions hrs hrs' (Nat.lt_trans hj hlt)] at hr'
    exact hbefore j hj r' hr'

/-- Where the first lexer finds nothing, only an added definition can win. -/
theorem exists_added (h : l.Extends l' more) (hnone : l.matcher.search? p = none)
    {found : Program.Found} (hs : l'.matcher.search? p = some found) :
    ∃ d ∈ more, l'.definitions.get? found.pattern = some d := by
  rcases l.exists_expressions with ⟨rs, hrs, -, hmatcher⟩
  rcases l'.exists_expressions with ⟨rs', hrs', -, hmatcher'⟩
  rcases exists_get?_of_search? hs with ⟨d, hd⟩
  rw [hmatcher] at hnone
  rw [hmatcher'] at hs
  rcases Program.search?_eq_some_iff.1 hs with ⟨r, alone, hr, halone, -, -⟩
  have hle : rs.length ≤ found.pattern := by
    refine Nat.le_of_not_lt fun hlt => ?_
    rw [h.getElem?_expressions hrs hrs' hlt] at hr
    cases (Program.search?_eq_none_iff.1 hnone r (List.mem_of_getElem? hr)).symm.trans halone
  have hget := hd
  rw [hrs.length_eq, List.length_map] at hle
  rw [Definitions.get?, h.toList_eq, List.getElem?_append_right hle] at hget
  exact ⟨d, List.mem_of_getElem? hget, hd⟩

/-! ### Tokens -/

theorem matchAt_of_some (h : l.Extends l' more) {t : Token κ}
    (ht : l.matchAt input offset = some t) : l'.matchAt input offset = some t := by
  rcases matchAt_eq_some_iff.1 ht with ⟨p, found, d, hp, hs, h0, hd, rfl⟩
  refine matchAt_eq_some_iff.2 ⟨p, found, d, hp, h.search?_of_some hs, h0, ?_, rfl⟩
  have hlt := (List.getElem?_eq_some_iff.1 hd).1
  rw [Definitions.get?, h.toList_eq, List.getElem?_append_left hlt]
  exact hd

/-- A token that the first lexer does not have is that of an added definition. -/
theorem matchAt_of_none (h : l.Extends l' more) (hnone : l.matchAt input offset = none)
    {t : Token κ} (ht : l'.matchAt input offset = some t) :
    ∃ d ∈ more, t.kind = d.kind ∧ d.endAlone? l'.options input offset = some t.nextOffset := by
  rcases matchAt_eq_some_iff.1 ht with ⟨p, found, d, hp, hs, h0, hd, rfl⟩
  cases hold : l.matcher.search? p with
  | none =>
      rcases h.exists_added hold hs with ⟨d', hmem, hd'⟩
      cases hd.symm.trans hd'
      exact ⟨d, hmem, rfl, endAlone?_of_search? hp hs hd⟩
  | some found' =>
      -- The match of the first lexer is not empty, as it is that of the other one.
      cases (h.search?_of_some hold).symm.trans hs
      rcases exists_get?_of_search? hold with ⟨d', hd'⟩
      cases (matchAt_eq_some_iff.2 ⟨p, found, d', hp, hold, h0, hd', rfl⟩).symm.trans hnone

/-- An empty match that wins is not given up for an added definition. -/
theorem matchAt_of_empty (h : l.Extends l' more) {i : Nat} {d : Definition κ}
    (hd : l.definitions.get? i = some d)
    (hempty : d.endAlone? l.options input offset = some offset)
    (hbefore : ∀ j < i, ∀ d', l.definitions.get? j = some d' →
      d'.endAlone? l.options input offset = none) : l'.matchAt input offset = none := by
  refine Option.eq_none_iff_forall_not_mem.2 fun t ht => ?_
  rcases matchAt_eq_some_iff.1 ht with ⟨p, found, d', hp, hs, -, -, rfl⟩
  rcases search?_of_endAlone? hp hd hempty hbefore with ⟨n, hold, hoffset⟩
  cases (h.search?_of_some hold).symm.trans hs
  have hlt : offset < offset + byteLength (p.after.take n) := lt_nextOffset_of_matchAt ht
  omega

theorem chain (h : l.Extends l' more) {ts : List (Token κ)} {stop : Nat}
    (hchain : Chain l input offset ts stop) : Chain l' input offset ts stop := by
  induction hchain with
  | nil offset => exact .nil offset
  | cons hstart hmatch _ ih => exact .cons hstart (h.matchAt_of_some hmatch) ih

/-! ### Streams -/

variable {start : Nat} {ts : List (Token κ)}

theorem all_of_tokens (h : l.Extends l' more)
    (hall : (l.tokenizeFrom input start).all.1 = ts.map .ok) :
    (l'.tokenizeFrom input start).all.1 = ts.map .ok := by
  rcases exists_chain l input start with ⟨ts', stop, hchain, hstuck⟩
  rw [all_tokenizeFrom hchain hstuck] at hall
  rcases of_yields_eq_tokens hall with ⟨rfl, hend⟩
  have hstuck' : Stuck l' input stop := fun hlt => absurd hend (Nat.not_le.2 hlt)
  rw [all_tokenizeFrom (h.chain hchain) hstuck', yields, if_pos hend, List.append_nil]

/-- Where the first stream fails, the other one has a token of an added definition, or fails too. -/
theorem all_of_error (h : l.Extends l' more)
    (hall : (l.tokenizeFrom input start).all.1 = ts.map .ok ++ [.error ⟨offset⟩]) :
    l.matchAt input offset = none ∧
      ∃ item rest, (l'.tokenizeFrom input start).all.1 = ts.map .ok ++ item :: rest ∧
        (l'.matchAt input offset = none ∧ item = .error ⟨offset⟩ ∧ rest = [] ∨
          ∃ t, l'.matchAt input offset = some t ∧ item = .ok t) := by
  rcases exists_chain l input start with ⟨ts', stop, hchain, hstuck⟩
  rw [all_tokenizeFrom hchain hstuck] at hall
  rcases of_yields_eq_error hall with ⟨rfl, ⟨⟩⟩
  have hlt : offset < input.utf8ByteSize := by
    have herror : .error ⟨offset⟩ ∈ yields input ts' offset := by
      rw [hall]
      exact List.mem_append_right _ List.mem_cons_self
    exact (error_mem_yields.1 herror).1
  refine ⟨hstuck hlt, ?_⟩
  -- The other stream goes on from there with a chain of its own.
  rcases exists_chain l' input offset with ⟨ts'', stop', hmore, hstuck'⟩
  rw [all_tokenizeFrom ((h.chain hchain).append hmore) hstuck']
  cases hmore with
  | nil =>
      refine ⟨.error ⟨offset⟩, [], ?_, .inl ⟨hstuck' hlt, rfl, rfl⟩⟩
      rw [yields, if_neg (Nat.not_le.2 hlt), List.append_nil]
  | @cons _ _ t ts'' hstart hmatch _ =>
      refine ⟨.ok t, yields input ts'' stop', ?_, .inr ⟨t, hstart ▸ hmatch, rfl⟩⟩
      simp only [yields, List.map_append, List.map_cons, List.append_assoc, List.cons_append]

end Extends

/-- Definitions of lower priority change no token that a stream has without them.  They can only put
a token where the stream failed, and not where the offset lies inside a character or one of the old
definitions matches the empty text. -/
theorem all_tokenizeFrom_push {ds : Definitions κ} {more : List (Definition κ)} {options : Options}
    {l l' : Lexer κ} (hl : build ds options = .ok l)
    (hl' : build (more.foldl .push ds) options = .ok l') (input : String) (start : Nat) :
    (∀ ts : List (Token κ), (l.tokenizeFrom input start).all.1 = ts.map .ok →
      (l'.tokenizeFrom input start).all.1 = ts.map .ok) ∧
    ∀ (ts : List (Token κ)) offset,
      (l.tokenizeFrom input start).all.1 = ts.map .ok ++ [.error ⟨offset⟩] →
      ∃ item rest, (l'.tokenizeFrom input start).all.1 = ts.map .ok ++ item :: rest ∧
        (item = .error ⟨offset⟩ ∧ rest = [] ∨
          ∃ t, item = .ok t ∧ t.startOffset = offset ∧
            ∃ d ∈ more, t.kind = d.kind ∧
              d.endAlone? options input offset = some t.nextOffset) ∧
        (¬ IsBoundary input offset → item = .error ⟨offset⟩) ∧
        ∀ i d, ds.get? i = some d → d.endAlone? options input offset = some offset →
          (∀ j < i, ∀ d', ds.get? j = some d' → d'.endAlone? options input offset = none) →
          item = .error ⟨offset⟩ := by
  have h := Extends.of_build hl hl'
  rcases build_eq_ok_iff.1 hl with ⟨rfl, rfl⟩
  refine ⟨fun ts => h.all_of_tokens, fun ts offset hall => ?_⟩
  rcases h.all_of_error hall with ⟨hold, item, rest, hitems, hitem⟩
  -- An item where the other lexer has no token is the error.
  have hfails (hno : l'.matchAt input offset = none) : item = .error ⟨offset⟩ := by
    rcases hitem with ⟨-, herror, -⟩ | ⟨t, ht, -⟩
    · exact herror
    · cases hno.symm.trans ht
  refine ⟨item, rest, hitems, ?_, ?_, ?_⟩
  · rcases hitem with ⟨-, herror⟩ | ⟨t, ht, htoken⟩
    · exact .inl herror
    · have hadded := h.matchAt_of_none hold ht
      rw [h.options_eq] at hadded
      exact .inr ⟨t, htoken, (isSlice_of_matchAt ht).1, hadded⟩
  · intro hnot
    refine hfails (Option.eq_none_iff_forall_not_mem.2 fun t ht => hnot ?_)
    exact isBoundary_of_matchAt ht
  · intro i d hd hempty hbefore
    exact hfails (h.matchAt_of_empty hd hempty hbefore)

/-- The empty text wins over a definition behind it, and the stream fails as before. -/
theorem all_tokenizeFrom_push_empty :
    ∃ l l' : Lexer String,
      build (.ofLiterals [("a", "a"), ("gap", "")]) ⟨false⟩ = .ok l ∧
      build ((Definitions.ofLiterals [("a", "a"), ("gap", "")]).push ⟨"b", .literal "b"⟩) ⟨false⟩ =
        .ok l' ∧
      (l.tokenizeFrom "a" 0).all.1 = [.ok ⟨"a", "a", 0, 1⟩] ∧
      (l'.tokenizeFrom "a" 0).all.1 = [.ok ⟨"a", "a", 0, 1⟩] ∧
      (l.tokenizeFrom "ab" 0).all.1 = [.ok ⟨"a", "a", 0, 1⟩, .error ⟨1⟩] ∧
      ∃ rest, (l'.tokenizeFrom "ab" 0).all.1 = .ok ⟨"a", "a", 0, 1⟩ :: .error ⟨1⟩ :: rest := by
  obtain ⟨l, hl⟩ := exists_build_ofLiterals [("a", "a"), ("gap", "")] ⟨false⟩ (by decide)
  obtain ⟨l', hl'⟩ := exists_build_ofLiterals [("a", "a"), ("gap", ""), ("b", "b")] ⟨false⟩
    (by decide)
  have hpush := all_tokenizeFrom_push hl
    (show build (List.foldl .push _ [⟨"b", .literal "b"⟩]) _ = .ok l' from hl')
  have hfirst : l.matchAt "a" 0 = some ⟨"a", "a", 0, 1⟩ := by
    have hplace : place? "a".toList 0 = some ⟨none, ['a']⟩ := rfl
    simp only [matchAt, hplace, matchPlace?_ofLiterals hl]
    decide
  have hsecond : l.matchAt "ab" 0 = some ⟨"a", "a", 0, 1⟩ ∧ l.matchAt "ab" 1 = none := by
    have hplace : place? "ab".toList 0 = some ⟨none, ['a', 'b']⟩ := rfl
    have hplace' : place? "ab".toList 1 = some ⟨some 'a', ['b']⟩ := rfl
    simp only [matchAt, hplace, hplace', matchPlace?_ofLiterals hl]
    decide
  have hclean : (l.tokenizeFrom "a" 0).all.1 = [.ok ⟨"a", "a", 0, 1⟩] := by
    have hchain : Chain l "a" 0 [⟨"a", "a", 0, 1⟩] 1 := .cons rfl hfirst (.nil 1)
    have hstuck : Stuck l "a" 1 := fun hlt => absurd hlt (by decide)
    exact all_tokenizeFrom hchain hstuck
  have hfailed : (l.tokenizeFrom "ab" 0).all.1 = [.ok ⟨"a", "a", 0, 1⟩, .error ⟨1⟩] := by
    have hchain : Chain l "ab" 0 [⟨"a", "a", 0, 1⟩] 1 := .cons rfl hsecond.1 (.nil 1)
    exact all_tokenizeFrom hchain fun _ => hsecond.2
  -- Behind the letter, the empty text is the first definition that matches.
  have hplace : place? "ab".toList 1 = some ⟨some 'a', ['b']⟩ := rfl
  have hempty :
      Definition.endAlone? (κ := String) ⟨"gap", .literal ""⟩ ⟨false⟩ "ab" 1 = some 1 := by
    rw [endAlone?_eq (r := .catOf ([].map .chars)) rfl (by decide), hplace, Option.bind_some,
      Program.searchAlone?_catOf_chars]
    rfl
  have hletter :
      Definition.endAlone? (κ := String) ⟨"a", .literal "a"⟩ ⟨false⟩ "ab" 1 = none := by
    rw [endAlone?_eq (r := .catOf ([.singleton 'a'].map .chars)) rfl (by decide), hplace,
      Option.bind_some, Program.searchAlone?_catOf_chars]
    rfl
  refine ⟨l, l', hl, hl', hclean, (hpush "a" 0).1 [⟨"a", "a", 0, 1⟩] hclean, hfailed, ?_⟩
  rcases (hpush "ab" 0).2 [⟨"a", "a", 0, 1⟩] 1 hfailed with ⟨item, rest, hitems, -, -, hkept⟩
  have hitem := hkept 1 _ rfl hempty fun j hj d' hd' => by
    cases Nat.lt_one_iff.1 hj
    cases hd'
    exact hletter
  rw [hitem] at hitems
  exact ⟨rest, hitems⟩

end Lexer

end PriorityLexer
