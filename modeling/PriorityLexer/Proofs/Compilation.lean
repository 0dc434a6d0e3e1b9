import PriorityLexer.Compile
import PriorityLexer.Proofs.Outcome

/-!
# Compilation — when patterns have a program, and whose fault it is if they have none

Checks run through a list from the left and stop at the first error.  The program of patterns is
that of their expressions, one by one; a fault is the first one of the first stage that has any.

* `Pattern.expression` — the expression of one pattern;
* `Pattern.Parses`, `Pattern.Translates` — the two stages succeed;
* `FirstWithout` — the first element that lacks a property;
* `compile_eq_ok_iff`, `compile_eq_error_iff` — the outcomes of compiling.
-/

namespace PriorityLexer

/-! ## Lists of checks -/

section CheckAll

variable {α β ε : Type} {check : Nat → α → Except ε β} {index : Nat} {as : List α}

theorem checkAll_eq_ok_iff {bs : List β} :
    checkAll check index as = .ok bs ↔
      ∀ k, as[k]?.map (check (index + k)) = bs[k]?.map .ok := by
  induction as generalizing index bs with
  | nil =>
      cases bs with
      | nil => simp [checkAll]
      | cons b bs =>
          simp only [checkAll, Except.ok.injEq, reduceCtorEq, false_iff]
          exact fun h => by simpa using h 0
  | cons a as ih =>
      simp only [checkAll, bind_eq_ok_iff, ih, Except.ok.injEq]
      constructor
      · rintro ⟨b, hb, bs, hbs, rfl⟩ k
        cases k with
        | zero => simpa using hb
        | succ k => simpa [Nat.add_assoc, Nat.add_comm 1] using hbs k
      · intro h
        cases bs with
        | nil => simpa using h 0
        | cons b bs =>
            refine ⟨b, by simpa using h 0, bs, fun k => ?_, rfl⟩
            simpa [Nat.add_assoc, Nat.add_comm 1] using h (k + 1)

theorem checkAll_eq_error_iff {e : ε} :
    checkAll check index as = .error e ↔
      ∃ k a, as[k]? = some a ∧ check (index + k) a = .error e ∧
        ∀ j < k, ∀ a', as[j]? = some a' → ∃ b, check (index + j) a' = .ok b := by
  induction as generalizing index with
  | nil => simp [checkAll]
  | cons a as ih =>
      simp only [checkAll, bind_eq_error_iff, ih, reduceCtorEq, and_false, exists_false, or_false]
      constructor
      · intro h
        rcases h with he | ⟨b, hb, k, a', ha', he, hbefore⟩
        · exact ⟨0, a, rfl, he, fun j hj => absurd hj (Nat.not_lt_zero j)⟩
        · refine ⟨k + 1, a', ha', by rw [← he]; congr 1; omega, ?_⟩
          intro j hj a'' ha''
          cases j with
          | zero =>
              cases ha''
              exact ⟨b, hb⟩
          | succ j =>
              rcases hbefore j (by omega) a'' ha'' with ⟨b', hb'⟩
              exact ⟨b', by rw [← hb']; congr 1; omega⟩
      · intro h
        rcases h with ⟨k, a', ha', he, hbefore⟩
        cases k with
        | zero =>
            cases ha'
            exact .inl he
        | succ k =>
            -- The head lies before the fault, so its check succeeds.
            rcases hbefore 0 (Nat.zero_lt_succ k) a rfl with ⟨b, hb⟩
            refine .inr ⟨b, hb, k, a', ha', by rw [← he]; congr 1; omega, ?_⟩
            intro j hj a'' ha''
            rcases hbefore (j + 1) (by omega) a'' ha'' with ⟨b', hb'⟩
            exact ⟨b', by rw [← hb']; congr 1; omega⟩

theorem exists_checkAll_eq_ok
    (h : ∀ k a, as[k]? = some a → ∃ b, check (index + k) a = .ok b) :
    ∃ bs, checkAll check index as = .ok bs := by
  cases hc : checkAll check index as with
  | ok bs => exact ⟨bs, rfl⟩
  | error e =>
      rcases checkAll_eq_error_iff.1 hc with ⟨k, a, ha, he, -⟩
      rcases h k a ha with ⟨b, hb⟩
      cases he.symm.trans hb

end CheckAll

/-! ## Patterns -/

namespace Pattern

/-- The expression of a pattern, or the fault of its source. -/
def expression (ignoreCase : Bool) (p : Pattern) : Except Source.Fault Regex :=
  Source.parse p.source >>= Source.Tree.regex ignoreCase

/-- The source is well formed. -/
def Parses (p : Pattern) : Prop := ∃ t, Source.parse p.source = .ok t

/-- The source is well formed and has a meaning. -/
def Translates (ignoreCase : Bool) (p : Pattern) : Prop := ∃ r, p.expression ignoreCase = .ok r

theorem Translates.parses {ignoreCase : Bool} {p : Pattern} (h : p.Translates ignoreCase) :
    p.Parses := by
  rcases h with ⟨r, hr⟩
  rcases bind_eq_ok_iff.1 hr with ⟨t, ht, -⟩
  exact ⟨t, ht⟩

theorem not_translates_of_fault {ignoreCase : Bool} {p : Pattern} {f : Source.Fault}
    (h : p.expression ignoreCase = .error f) : ¬ p.Translates ignoreCase := by
  intro htranslates
  rcases htranslates with ⟨r, hr⟩
  cases h.symm.trans hr

end Pattern

/-- The element at `i` is the first one that lacks a property. -/
def FirstWithout {α : Type} (P : α → Prop) (as : List α) (i : Nat) : Prop :=
  (∃ a, as[i]? = some a ∧ ¬ P a) ∧ ∀ j < i, ∀ a, as[j]? = some a → P a

/-- The pattern at `i` is to blame: the first one that does not parse, or, if all parse, the first
one without a meaning. -/
def Culprit (ignoreCase : Bool) (ps : List Pattern) (i : Nat) : Prop :=
  FirstWithout Pattern.Parses ps i ∨
    (∀ p ∈ ps, p.Parses) ∧ FirstWithout (Pattern.Translates ignoreCase) ps i

/-- The expressions of patterns, one by one. -/
def Expressions (ignoreCase : Bool) (ps : List Pattern) (rs : List Regex) : Prop :=
  ∀ k : Nat, ps[k]?.map (Pattern.expression ignoreCase) = rs[k]?.map .ok

namespace Expressions

variable {ignoreCase : Bool} {ps : List Pattern} {rs : List Regex}

theorem translates (h : Expressions ignoreCase ps rs) : ∀ p ∈ ps, p.Translates ignoreCase := by
  intro p hp
  rcases List.mem_iff_getElem?.1 hp with ⟨k, hk⟩
  have hr := h k
  rw [hk, Option.map_some, eq_comm, Option.map_eq_some_iff] at hr
  rcases hr with ⟨r, -, hr⟩
  exact ⟨r, hr.symm⟩

theorem length_eq (h : Expressions ignoreCase ps rs) : rs.length = ps.length := by
  refine Nat.le_antisymm ?_ ?_
  · have hr := (h ps.length).symm
    simpa using hr
  · have hr := h rs.length
    simpa using hr

/-- Expressions may be compared all at once. -/
theorem of_map_eq
    (h : ps.map (fun p => (p.expression ignoreCase).toOption) = rs.map some) :
    Expressions ignoreCase ps rs := by
  intro k
  have hk := congrArg (·[k]?) h
  simp only [List.getElem?_map] at hk
  cases hp : ps[k]? with
  | none =>
      rw [hp, Option.map_none, eq_comm, Option.map_eq_none_iff] at hk
      rw [hk]
      rfl
  | some p =>
      rw [hp, Option.map_some, eq_comm, Option.map_eq_some_iff] at hk
      rcases hk with ⟨r, hr, hsome⟩
      rw [hr, Option.map_some, Option.map_some]
      cases hexpression : p.expression ignoreCase with
      | error f =>
          rw [hexpression] at hsome
          cases hsome
      | ok r' =>
          rw [hexpression] at hsome
          cases hsome
          rfl

/-- Each pattern has one expression at most. -/
theorem unique {rs' : List Regex} (h : Expressions ignoreCase ps rs)
    (h' : Expressions ignoreCase ps rs') : rs' = rs := by
  refine List.ext_getElem? fun k => ?_
  exact Option.map_injective (fun _ _ => Except.ok.inj) ((h' k).symm.trans (h k))

end Expressions

/-! ## Stages -/

section Stages

variable {ignoreCase : Bool} {index : Nat} {ps : List Pattern} {ts : List (Pattern × Source.Tree)}

theorem parseAt_eq_ok_iff {p : Pattern} {t : Pattern × Source.Tree} :
    parseAt index p = .ok t ↔ Source.parse p.source = .ok t.2 ∧ p = t.1 := by
  rcases t with ⟨p', t⟩
  simp only [parseAt, blame, bind_eq_ok_iff, mapError_eq_ok_iff, Except.ok.injEq, Prod.mk.injEq]
  constructor
  · intro h
    rcases h with ⟨t', ht', rfl, rfl⟩
    exact ⟨ht', rfl⟩
  · intro h
    rcases h with ⟨ht, rfl⟩
    exact ⟨t, ht, rfl, rfl⟩

theorem parseAt_eq_error_iff {p : Pattern} {e : InvalidPattern} :
    parseAt index p = .error e ↔ ∃ f, Source.parse p.source = .error f ∧ faultAt index p f = e := by
  simp [parseAt, blame, bind_eq_error_iff, mapError_eq_error_iff]

/-- The trees of patterns that all parse. -/
theorem getElem?_of_parse (ignoreCase : Bool) (h : checkAll parseAt 0 ps = .ok ts) {k : Nat} :
    ps[k]? = ts[k]?.map (·.1) ∧
      ∀ t, ts[k]? = some t → t.1.expression ignoreCase = t.2.regex ignoreCase := by
  have hk := checkAll_eq_ok_iff.1 h k
  rw [Nat.zero_add] at hk
  cases hp : ps[k]? with
  | none =>
      rw [hp, Option.map_none, eq_comm, Option.map_eq_none_iff] at hk
      simp [hk]
  | some p =>
      rw [hp, Option.map_some, eq_comm, Option.map_eq_some_iff] at hk
      rcases hk with ⟨t, ht, hok⟩
      rcases parseAt_eq_ok_iff.1 hok.symm with ⟨hparse, rfl⟩
      simp [ht, Pattern.expression, hparse, bind, Except.bind]

theorem exists_parse_iff : (∃ ts, checkAll parseAt 0 ps = .ok ts) ↔ ∀ p ∈ ps, p.Parses := by
  constructor
  · rintro ⟨ts, hts⟩ p hp
    rcases List.mem_iff_getElem?.1 hp with ⟨k, hk⟩
    have hok := checkAll_eq_ok_iff.1 hts k
    rw [hk, Option.map_some, eq_comm, Option.map_eq_some_iff] at hok
    rcases hok with ⟨t, -, hok⟩
    exact ⟨t.2, (parseAt_eq_ok_iff.1 hok.symm).1⟩
  · intro h
    refine exists_checkAll_eq_ok fun k p hp => ?_
    rcases h p (List.mem_of_getElem? hp) with ⟨t, ht⟩
    exact ⟨(p, t), parseAt_eq_ok_iff.2 ⟨ht, rfl⟩⟩

/-- A source that does not parse has no expression, with the same fault. -/
theorem Pattern.expression_of_parse {p : Pattern} {f : Source.Fault}
    (h : Source.parse p.source = .error f) : p.expression ignoreCase = .error f := by
  rw [Pattern.expression, h]
  rfl

theorem parse_eq_error_iff {e : InvalidPattern} :
    checkAll parseAt 0 ps = .error e ↔
      ∃ i p f, ps[i]? = some p ∧ Source.parse p.source = .error f ∧ faultAt i p f = e ∧
        FirstWithout Pattern.Parses ps i := by
  simp only [checkAll_eq_error_iff, parseAt_eq_error_iff, Nat.zero_add]
  constructor
  · intro h
    rcases h with ⟨i, p, hp, ⟨f, hf, he⟩, hbefore⟩
    have hnot : ¬ p.Parses := by
      intro h
      rcases h with ⟨t, ht⟩
      cases hf.symm.trans ht
    refine ⟨i, p, f, hp, hf, he, ⟨p, hp, hnot⟩, fun j hj p' hp' => ?_⟩
    rcases hbefore j hj p' hp' with ⟨t, ht⟩
    exact ⟨t.2, (parseAt_eq_ok_iff.1 ht).1⟩
  · intro h
    rcases h with ⟨i, p, f, hp, hf, he, -, hbefore⟩
    refine ⟨i, p, hp, ⟨f, hf, he⟩, fun j hj p' hp' => ?_⟩
    rcases hbefore j hj p' hp' with ⟨t, ht⟩
    exact ⟨(p', t), parseAt_eq_ok_iff.2 ⟨ht, rfl⟩⟩

theorem regexAt_eq (ignoreCase : Bool) (h : checkAll parseAt 0 ps = .ok ts) (k : Nat) :
    ts[k]?.map (regexAt ignoreCase k) =
      ps[k]?.map fun p => blame k p (p.expression ignoreCase) := by
  rcases getElem?_of_parse ignoreCase h (k := k) with ⟨hp, ht⟩
  rw [hp]
  cases hk : ts[k]? with
  | none => rfl
  | some t => simp [regexAt, ht t hk]

theorem translate_eq_ok_iff (h : checkAll parseAt 0 ps = .ok ts) {rs : List Regex} :
    checkAll (regexAt ignoreCase) 0 ts = .ok rs ↔
      Expressions ignoreCase ps rs := by
  rw [checkAll_eq_ok_iff]
  refine forall_congr' fun k => ?_
  rw [Nat.zero_add, regexAt_eq ignoreCase h]
  cases ps[k]? with
  | none => cases rs[k]? <;> simp
  | some p => cases rs[k]? <;> simp [blame, mapError_eq_ok_iff]

theorem translate_eq_error_iff (h : checkAll parseAt 0 ps = .ok ts) {e : InvalidPattern} :
    checkAll (regexAt ignoreCase) 0 ts = .error e ↔
      ∃ i p f, ps[i]? = some p ∧ p.expression ignoreCase = .error f ∧ faultAt i p f = e ∧
        ∀ j < i, ∀ p', ps[j]? = some p' → p'.Translates ignoreCase := by
  -- Trees fail where their patterns have no expression, and with the same faults.
  have hok (j : Nat) : (∀ t, ts[j]? = some t → ∃ r, regexAt ignoreCase (0 + j) t = .ok r) ↔
      ∀ p', ps[j]? = some p' → p'.Translates ignoreCase := by
    have hj := regexAt_eq ignoreCase h j
    rw [Nat.zero_add]
    cases ht : ts[j]? <;> cases hp : ps[j]? <;>
      simp_all [blame, mapError_eq_ok_iff, Pattern.Translates]
  have herror (i : Nat) : (∃ t, ts[i]? = some t ∧ regexAt ignoreCase (0 + i) t = .error e) ↔
      ∃ p f, ps[i]? = some p ∧ p.expression ignoreCase = .error f ∧ faultAt i p f = e := by
    have hi := regexAt_eq ignoreCase h i
    rw [Nat.zero_add]
    cases ht : ts[i]? <;> cases hp : ps[i]? <;>
      simp_all [blame, mapError_eq_error_iff]
  rw [checkAll_eq_error_iff]
  constructor
  · intro hfault
    rcases hfault with ⟨i, t, ht, he, hbefore⟩
    rcases (herror i).1 ⟨t, ht, he⟩ with ⟨p, f, hp, hf, rfl⟩
    exact ⟨i, p, f, hp, hf, rfl, fun j hj => (hok j).1 (hbefore j hj)⟩
  · intro hfault
    rcases hfault with ⟨i, p, f, hp, hf, he, hbefore⟩
    rcases (herror i).2 ⟨p, f, hp, hf, he⟩ with ⟨t, ht, he⟩
    exact ⟨i, t, ht, he, fun j hj => (hok j).2 (hbefore j hj)⟩

end Stages

/-! ## Outcomes -/

section Outcomes

variable {options : Options} {ps : List Pattern}

theorem compile_eq_ok_iff {m : Program} :
    compile options ps = .ok m ↔
      ∃ rs, Expressions options.ignoreCase ps rs ∧ Regex.totalWeight rs ≤ sizeLimit ∧
        m = .ofRegexes rs := by
  simp only [compile, bind_eq_ok_iff]
  constructor
  · intro hstages
    rcases hstages with ⟨ts, hts, rs, hrs, h⟩
    split at h
    · cases h
    · next hle =>
        cases h
        exact ⟨rs, (translate_eq_ok_iff hts).1 hrs, Nat.le_of_not_lt hle, rfl⟩
  · intro hexpressions
    rcases hexpressions with ⟨rs, hrs, hle, rfl⟩
    rcases exists_parse_iff.2 fun p hp => (hrs.translates p hp).parses with ⟨ts, hts⟩
    exact ⟨ts, hts, rs, (translate_eq_ok_iff hts).2 hrs, if_neg (Nat.not_lt_of_le hle)⟩

/-- Each error is either the fault of one pattern or a matter of size. -/
theorem compile_eq_error_iff {e : InvalidPattern} :
    compile options ps = .error e ↔
      (∃ i p f, ps[i]? = some p ∧ p.expression options.ignoreCase = .error f ∧ faultAt i p f = e ∧
        Culprit options.ignoreCase ps i) ∨
      (∃ rs, Expressions options.ignoreCase ps rs ∧ sizeLimit < Regex.totalWeight rs ∧
        e = tooLarge) := by
  simp only [compile, bind_eq_error_iff]
  constructor
  · -- Either parsing fails, or giving a meaning does behind it, or the size is too much.
    intro hstages
    rcases hstages with he | ⟨ts, hts, he | ⟨rs, hrs, h⟩⟩
    · rcases parse_eq_error_iff.1 he with ⟨i, p, f, hp, hf, rfl, hfirst⟩
      exact .inl ⟨i, p, f, hp, Pattern.expression_of_parse hf, rfl, .inl hfirst⟩
    · rcases (translate_eq_error_iff hts).1 he with ⟨i, p, f, hp, hf, rfl, hbefore⟩
      have hnot := Pattern.not_translates_of_fault hf
      exact .inl ⟨i, p, f, hp, hf, rfl,
        .inr ⟨exists_parse_iff.1 ⟨ts, hts⟩, ⟨p, hp, hnot⟩, hbefore⟩⟩
    · split at h
      · next hlt =>
          cases h
          exact .inr ⟨rs, (translate_eq_ok_iff hts).1 hrs, hlt, rfl⟩
      · cases h
  · intro hcause
    rcases hcause with ⟨i, p, f, hp, hf, he, hfirst | ⟨hall, hfirst⟩⟩ | ⟨rs, hrs, hlt, rfl⟩
    · -- The culprit does not parse, so its fault is that of parsing.
      refine .inl (parse_eq_error_iff.2 ⟨i, p, f, hp, ?_, he, hfirst⟩)
      rcases hfirst with ⟨⟨p', hp', hnot⟩, -⟩
      cases hp.symm.trans hp'
      cases hparse : Source.parse p.source with
      | ok t => exact absurd ⟨t, hparse⟩ hnot
      | error f' =>
          cases (Pattern.expression_of_parse hparse).symm.trans hf
          rfl
    · rcases exists_parse_iff.2 hall with ⟨ts, hts⟩
      exact .inr ⟨ts, hts, .inl ((translate_eq_error_iff hts).2 ⟨i, p, f, hp, hf, he, hfirst.2⟩)⟩
    · rcases exists_parse_iff.2 fun p hp => (hrs.translates p hp).parses with ⟨ts, hts⟩
      exact .inr ⟨ts, hts, .inr ⟨rs, (translate_eq_ok_iff hts).2 hrs, if_pos hlt⟩⟩

end Outcomes

end PriorityLexer
