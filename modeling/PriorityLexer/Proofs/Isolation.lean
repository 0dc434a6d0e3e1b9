import PriorityLexer.Proofs.Matching
import PriorityLexer.Proofs.Sequence

/-!
# Isolation — definitions do not reach into one another

A lexer runs all its definitions at once.  What it finds at an offset is what the first definition
finds there that matches at all when it is the only one of a lexer.  So lengths never decide, and
nothing in one definition changes what another one matches.

* `Lexer.matchEnd?` — where the preferred match at an offset ends, the empty match included;
* `Definition.endAlone?` — the same for the lexer of one definition;
* `Lexer.matchAt_of_build` — tokens in terms of definitions alone.
-/

namespace PriorityLexer

variable {κ : Type}

/-- Where the preferred match at an offset ends; it may be empty. -/
def Lexer.matchEnd? (l : Lexer κ) (input : String) (offset : Nat) : Option Nat :=
  (place? input.toList offset).bind fun p =>
    (l.matcher.search? p).map fun found => offset + byteLength (p.after.take found.length)

/-- Where the match of a definition ends that is the only one of a lexer. -/
def Definition.endAlone? (d : Definition κ) (options : Options) (input : String) (offset : Nat) :
    Option Nat :=
  match Lexer.build (.ofList [d]) options with
  | .error _ => none
  | .ok alone => alone.matchEnd? input offset

namespace Expressions

variable {ignoreCase : Bool} {ds : Definitions κ} {rs : List Regex} {k : Nat}

/-- There is a definition for each expression. -/
theorem exists_get? (h : Expressions ignoreCase (ds.toList.map (·.pattern)) rs) {r : Regex}
    (hr : rs[k]? = some r) : ∃ d, ds.get? k = some d := by
  have hk := h k
  rw [hr, Option.map_some, List.getElem?_map, Option.map_map, Option.map_eq_some_iff] at hk
  rcases hk with ⟨d, hd, -⟩
  exact ⟨d, hd⟩

/-- There is an expression for each definition. -/
theorem exists_expression (h : Expressions ignoreCase (ds.toList.map (·.pattern)) rs)
    {d : Definition κ} (hd : ds.get? k = some d) :
    ∃ r, rs[k]? = some r ∧ d.pattern.expression ignoreCase = .ok r := by
  have hk := h k
  rw [Definitions.get?] at hd
  rw [List.getElem?_map, hd, Option.map_some, Option.map_some, eq_comm,
    Option.map_eq_some_iff] at hk
  rcases hk with ⟨r, hr, hexpression⟩
  exact ⟨r, hr, hexpression.symm⟩

end Expressions

theorem Regex.weight_le_totalWeight {rs : List Regex} {r : Regex} (h : r ∈ rs) :
    r.weight ≤ totalWeight rs := by
  induction rs with
  | nil => cases h
  | cons first rest ih =>
      rw [totalWeight]
      rcases List.mem_cons.1 h with rfl | h
      · omega
      · have := ih h
        omega

namespace Lexer

variable {ds : Definitions κ} {options : Options} {l : Lexer κ}

/-! ## Definitions alone -/

section Alone

variable {d : Definition κ} {r : Regex} (hr : d.pattern.expression options.ignoreCase = .ok r)
  (hsize : r.weight ≤ sizeLimit)

include hr hsize

theorem exists_build_alone :
    ∃ alone, build (.ofList [d]) options = .ok alone ∧ alone.matcher = .ofRegexes [r] := by
  refine exists_build_eq_ok _ _ (fun k => ?_) (by simpa [Regex.totalWeight] using hsize)
  cases k with
  | zero => simp [Definitions.ofList, hr]
  | succ k => simp [Definitions.ofList]

/-- A definition finds alone what its expression finds in a program of one. -/
theorem endAlone?_eq (input : String) (offset : Nat) :
    d.endAlone? options input offset =
      (place? input.toList offset).bind fun p =>
        (Program.searchAlone? p r).map
          fun found => offset + byteLength (p.after.take found.length) := by
  rcases exists_build_alone hr hsize with ⟨alone, halone, hmatcher⟩
  simp [Definition.endAlone?, halone, matchEnd?, hmatcher, Program.searchAlone?]

end Alone

/-! ## All definitions together -/

theorem matchAt_of_build (h : build ds options = .ok l) :
    (∀ d ∈ ds.toList, ∃ alone, build (.ofList [d]) options = .ok alone) ∧
    ∀ input offset,
      (¬ IsBoundary input offset → l.matchAt input offset = none) ∧
      ((∀ d ∈ ds.toList, d.endAlone? options input offset = none) →
        l.matchAt input offset = none) ∧
      ∀ i d stop, ds.get? i = some d → d.endAlone? options input offset = some stop →
        (∀ j < i, ∀ d', ds.get? j = some d' → d'.endAlone? options input offset = none) →
        if stop = offset then l.matchAt input offset = none
        else ∃ image, IsSlice input offset stop image ∧
          l.matchAt input offset = some ⟨d.kind, image, offset, stop⟩ := by
  rcases build_eq_ok_iff.1 h with ⟨rfl, rfl⟩
  rcases l.exists_expressions with ⟨rs, hrs, hsize, hmatcher⟩
  have halone {i : Nat} {d : Definition κ} (hd : l.definitions.get? i = some d) :
      ∃ r, rs[i]? = some r ∧ d.pattern.expression l.options.ignoreCase = .ok r ∧
        r.weight ≤ sizeLimit := by
    rcases hrs.exists_expression hd with ⟨r, hr, hexpression⟩
    have hweight := Regex.weight_le_totalWeight (List.mem_of_getElem? hr)
    exact ⟨r, hr, hexpression, Nat.le_trans hweight hsize⟩
  refine ⟨?_, fun input offset => ⟨?_, ?_, ?_⟩⟩
  · -- What is small enough together is small enough alone.
    intro d hd
    rcases List.mem_iff_getElem?.1 hd with ⟨i, hi⟩
    rcases halone hi with ⟨r, -, hexpression, hweight⟩
    rcases exists_build_alone hexpression hweight with ⟨alone, hbuild, -⟩
    exact ⟨alone, hbuild⟩
  · intro hnot
    refine Option.eq_none_iff_forall_not_mem.2 fun t ht => hnot (isBoundary_of_matchAt ht)
  · intro hnone
    refine Option.eq_none_iff_forall_not_mem.2 fun t ht => ?_
    rcases matchAt_eq_some_iff.1 ht with ⟨p, found, d, hp, hs, -, hd, -⟩
    rw [hmatcher] at hs
    rcases Program.search?_eq_some_iff.1 hs with ⟨r, alone, hr, hfound, -, -⟩
    rcases halone hd with ⟨r', hr', hexpression, hweight⟩
    cases hr.symm.trans hr'
    have hend := endAlone?_eq hexpression hweight input offset
    rw [hnone d (List.mem_of_getElem? hd), hp, Option.bind_some, hfound] at hend
    cases hend
  · intro i d stop hd hstop hbefore
    rcases halone hd with ⟨r, hr, hexpression, hweight⟩
    rw [endAlone?_eq hexpression hweight, Option.bind_eq_some_iff] at hstop
    rcases hstop with ⟨p, hp, hstop⟩
    rw [Option.map_eq_some_iff] at hstop
    rcases hstop with ⟨found, hfound, rfl⟩
    have hs : l.matcher.search? p = some ⟨i, found.length⟩ := by
      rw [hmatcher]
      refine Program.search?_eq_some_iff.2 ⟨r, found, hr, hfound, rfl, fun j hj r' hr' => ?_⟩
      rcases hrs.exists_get? hr' with ⟨d', hd'⟩
      rcases halone hd' with ⟨r'', hr'', hexpression', hweight'⟩
      cases hr'.symm.trans hr''
      have hnone := hbefore j hj d' hd'
      rw [endAlone?_eq hexpression' hweight', hp, Option.bind_some,
        Option.map_eq_none_iff] at hnone
      exact hnone
    -- The empty match is the one that takes no byte.
    by_cases h0 : found.length = 0
    · rw [if_pos (by simp [h0, byteLength])]
      simp [matchAt, matchPlace?, hp, hs, h0]
    · have hmatch := matchAt_eq_some_iff.2 ⟨p, _, d, hp, hs, h0, hd, rfl⟩
      have hlt : offset < offset + byteLength (p.after.take found.length) :=
        lt_nextOffset_of_matchAt hmatch
      rw [if_neg (Nat.ne_of_gt hlt)]
      exact ⟨_, isSlice_take hp found.length, hmatch⟩

/-- The shorter match of an earlier definition wins, behind one that does not match. -/
theorem matchAt_of_build_ab :
    ∃ l : Lexer String,
      build ⟨[⟨"b", .literal "b"⟩, ⟨"a", .regex "(a)"⟩, ⟨"ab", .literal "ab"⟩]⟩ ⟨false⟩ = .ok l ∧
      ∃ image, IsSlice "ab" 0 1 image ∧ l.matchAt "ab" 0 = some ⟨"a", image, 0, 1⟩ := by
  have hplace : place? "ab".toList 0 = some ⟨none, ['a', 'b']⟩ := rfl
  have hb : Definition.endAlone? (κ := String) ⟨"b", .literal "b"⟩ ⟨false⟩ "ab" 0 = none := by
    rw [endAlone?_eq (r := .catOf ([.singleton 'b'].map .chars)) rfl (by decide), hplace,
      Option.bind_some, Program.searchAlone?_catOf_chars]
    rfl
  have ha : Definition.endAlone? (κ := String) ⟨"a", .regex "(a)"⟩ ⟨false⟩ "ab" 0 = some 1 := by
    rw [endAlone?_eq (r := .catOf ([.singleton 'a'].map .chars)) rfl (by decide), hplace,
      Option.bind_some, Program.searchAlone?_catOf_chars]
    rfl
  obtain ⟨l, hl⟩ := exists_build_of_isOk (κ := String)
    ⟨[⟨"b", .literal "b"⟩, ⟨"a", .regex "(a)"⟩, ⟨"ab", .literal "ab"⟩]⟩ ⟨false⟩ (by rfl)
  rcases (matchAt_of_build hl).2 "ab" 0 with ⟨-, -, hfirst⟩
  have hmatch := hfirst 1 _ 1 rfl ha fun j hj d' hd' => by
    cases Nat.lt_one_iff.1 hj
    cases hd'
    exact hb
  exact ⟨l, hl, by simpa using hmatch⟩

end Lexer

end PriorityLexer
