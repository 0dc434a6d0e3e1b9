import PriorityLexer.Proofs.Literals

/-!
# Blame — which definition an error names

An error that names a definition names one that fails alone in the same way.  An error that names
none means that all definitions are well formed and only their common size is too much.

* `compile_index_eq_iff` — the pattern to blame is the one that is named;
* `compile_index_iff` — a pattern is named if and only if some pattern has no expression;
* `compile_singleton_of_fault` — the error of a faulty pattern that is the only one;
* `Lexer.build_blames` — the errors of building in terms of definitions alone.
-/

namespace PriorityLexer

variable {options : Options} {ps : List Pattern}

/-! ## Patterns -/

theorem Pattern.translates_literal (ignoreCase : Bool) (text : String) :
    (Pattern.literal text).Translates ignoreCase :=
  ⟨_, expression_literal ignoreCase text⟩

/-- A pattern without an expression is to blame when it is the only one. -/
theorem culprit_singleton {ignoreCase : Bool} {p : Pattern} (h : ¬ p.Translates ignoreCase) :
    Culprit ignoreCase [p] 0 := by
  by_cases hparses : p.Parses
  · exact .inr ⟨by simpa using hparses, ⟨p, rfl, h⟩, fun j hj => absurd hj (Nat.not_lt_zero j)⟩
  · exact .inl ⟨⟨p, rfl, hparses⟩, fun j hj => absurd hj (Nat.not_lt_zero j)⟩

theorem compile_singleton_of_fault {p : Pattern} {f : Source.Fault}
    (h : p.expression options.ignoreCase = .error f) :
    compile options [p] = .error (faultAt 0 p f) := by
  have hnot := Pattern.not_translates_of_fault h
  exact compile_eq_error_iff.2 (.inl ⟨0, p, f, rfl, h, rfl, culprit_singleton hnot⟩)

/-- What is to blame has a fault. -/
theorem Culprit.exists_fault {ignoreCase : Bool} {i : Nat} (h : Culprit ignoreCase ps i) :
    ∃ p f, ps[i]? = some p ∧ p.expression ignoreCase = .error f := by
  have hnot : ∃ p, ps[i]? = some p ∧ ¬ p.Translates ignoreCase := by
    rcases h with ⟨⟨p, hp, hparses⟩, -⟩ | ⟨-, hp, -⟩
    · exact ⟨p, hp, fun htranslates => hparses htranslates.parses⟩
    · exact hp
  rcases hnot with ⟨p, hp, hnot⟩
  cases hexpression : p.expression ignoreCase with
  | ok r => exact absurd ⟨r, hexpression⟩ hnot
  | error f => exact ⟨p, f, hp, hexpression⟩

/-- The pattern that an error names is the one to blame, and there is such an error if one is. -/
theorem compile_index_eq_iff {i : Nat} :
    (∃ e, compile options ps = .error e ∧ e.index = some i) ↔
      Culprit options.ignoreCase ps i := by
  constructor
  · intro h
    rcases h with ⟨e, he, hi⟩
    rcases compile_eq_error_iff.1 he with ⟨j, p, f, -, -, rfl, hculprit⟩ | ⟨rs, -, -, rfl⟩
    · cases hi
      exact hculprit
    · cases hi
  · intro hculprit
    rcases hculprit.exists_fault with ⟨p, f, hp, hf⟩
    exact ⟨faultAt i p f, compile_eq_error_iff.2 (.inl ⟨i, p, f, hp, hf, rfl, hculprit⟩), rfl⟩

/-- An error names a pattern if and only if there is one without an expression. -/
theorem compile_index_iff :
    (∃ e i, compile options ps = .error e ∧ e.index = some i) ↔
      ∃ p ∈ ps, ¬ p.Translates options.ignoreCase := by
  constructor
  · intro h
    rcases h with ⟨e, i, he, hi⟩
    rcases compile_eq_error_iff.1 he with ⟨j, p, f, hp, hf, -, -⟩ | ⟨rs, -, -, rfl⟩
    · exact ⟨p, List.mem_of_getElem? hp, Pattern.not_translates_of_fault hf⟩
    · -- A matter of size names no pattern.
      cases hi
  · intro h
    rcases h with ⟨p, hp, hnot⟩
    cases hcompile : compile options ps with
    | ok m =>
        rcases compile_eq_ok_iff.1 hcompile with ⟨rs, hrs, -⟩
        exact absurd (hrs.translates p hp) hnot
    | error e =>
        rcases compile_eq_error_iff.1 hcompile with ⟨i, q, f, -, -, rfl, -⟩ | ⟨rs, hrs, -⟩
        · exact ⟨_, i, rfl, rfl⟩
        · exact absurd (hrs.translates p hp) hnot

/-! ## Definitions -/

namespace Lexer

variable {κ : Type}

theorem build_index_iff {ds : Definitions κ} :
    (∃ e i, build ds options = .error e ∧ e.index = some i) ↔
      ∃ d ∈ ds.toList, ¬ d.pattern.Translates options.ignoreCase := by
  simp only [build_eq_error_iff, compile_index_iff, List.mem_map, exists_exists_and_eq_and]

/-- Errors that name a definition are its own errors; the others are a matter of size. -/
theorem build_blames (ds : Definitions κ) (options : Options) :
    (∀ e i, build ds options = .error e → e.index = some i →
      ∃ d source, ds.get? i = some d ∧ d.pattern = .regex source ∧
        build (.ofList [d]) options = .error ⟨some 0, e.reason⟩ ∧
        Culprit options.ignoreCase (ds.toList.map (·.pattern)) i) ∧
    (∀ d ∈ ds.toList, (∃ e i, build (.ofList [d]) options = .error e ∧ e.index = some i) →
      ∃ e i, build ds options = .error e ∧ e.index = some i) ∧
    ((∃ d ∈ ds.toList, ¬ d.pattern.Translates options.ignoreCase) →
      ∃ e i, build ds options = .error e ∧ e.index = some i) ∧
    (∀ i, Culprit options.ignoreCase (ds.toList.map (·.pattern)) i →
      ∃ e, build ds options = .error e ∧ e.index = some i) ∧
    (∀ e, build ds options = .error e → e.index = none →
      (∀ d ∈ ds.toList, d.pattern.Translates options.ignoreCase) ∧
      ∃ rs, Expressions options.ignoreCase (ds.toList.map (·.pattern)) rs ∧
        sizeLimit < Regex.totalWeight rs) := by
  refine ⟨fun e i he hi => ?_, fun d hd halone => ?_, build_index_iff.2, fun i hculprit => ?_,
    fun e he hi => ?_⟩
  · rw [build_eq_error_iff] at he
    rcases compile_eq_error_iff.1 he with ⟨j, p, f, hp, hf, rfl, hculprit⟩ | ⟨rs, -, -, rfl⟩
    · cases hi
      rw [List.getElem?_map, Option.map_eq_some_iff] at hp
      rcases hp with ⟨d, hd, rfl⟩
      -- Texts always have an expression, so it is no text that is named.
      have hsource : ∃ source, d.pattern = .regex source := by
        cases hpattern : d.pattern with
        | literal text =>
            rw [hpattern] at hf
            exact absurd (Pattern.translates_literal _ text) (Pattern.not_translates_of_fault hf)
        | regex source => exact ⟨source, rfl⟩
      rcases hsource with ⟨source, hsource⟩
      have halone := compile_singleton_of_fault hf
      exact ⟨d, source, hd, hsource, build_eq_error_iff.2 halone, hculprit⟩
    · cases hi
  · rcases build_index_iff.1 halone with ⟨d', hd', hnot⟩
    cases List.mem_singleton.1 hd'
    exact build_index_iff.2 ⟨d, hd, hnot⟩
  · simpa only [build_eq_error_iff] using compile_index_eq_iff.2 hculprit
  · rw [build_eq_error_iff] at he
    rcases compile_eq_error_iff.1 he with ⟨j, p, f, -, -, rfl, -⟩ | ⟨rs, hrs, hlt, -⟩
    · cases hi
    · exact ⟨fun d hd => hrs.translates _ (List.mem_map_of_mem hd), rs, hrs, hlt⟩

/-- The second definition has no meaning, but the third one is not even well formed.  With that one
mended, the second one is named.  The first one stands for itself. -/
theorem build_blames_stages :
    (∃ e, build (κ := String)
        ⟨[⟨"open", .literal "("⟩, ⟨"nope", .regex "\\p\x7bNope\x7d"⟩, ⟨"a", .regex "(a"⟩,
          ⟨"b", .regex "b)"⟩]⟩ ⟨false⟩ = .error e ∧ e.index = some 2 ∧
      build (.ofList [(⟨"a", .regex "(a"⟩ : Definition String)]) ⟨false⟩ =
        .error ⟨some 0, e.reason⟩) ∧
    ∃ e, build (κ := String)
        ⟨[⟨"open", .literal "("⟩, ⟨"nope", .regex "\\p\x7bNope\x7d"⟩, ⟨"a", .regex "(a)"⟩]⟩
        ⟨false⟩ = .error e ∧ e.index = some 1 := by
  have hopen := Pattern.translates_literal false "("
  have hnope : (Pattern.regex "\\p\x7bNope\x7d").Parses ∧
      ¬ (Pattern.regex "\\p\x7bNope\x7d").Translates false :=
    ⟨⟨_, rfl⟩, Pattern.not_translates_of_fault rfl⟩
  have ha : ¬ (Pattern.regex "(a").Parses := by
    rintro ⟨_, ⟨⟩⟩
  have hgroup : (Pattern.regex "(a)").Parses := ⟨_, rfl⟩
  constructor
  · have hculprit : Culprit false
        [.literal "(", .regex "\\p\x7bNope\x7d", .regex "(a", .regex "b)"] 2 := by
      refine .inl ⟨⟨_, rfl, ha⟩, fun j hj p hp => ?_⟩
      obtain rfl | rfl : j = 0 ∨ j = 1 := by omega
      · cases hp
        exact hopen.parses
      · cases hp
        exact hnope.1
    obtain ⟨hblames, -, -, hexists, -⟩ := build_blames (κ := String)
      ⟨[⟨"open", .literal "("⟩, ⟨"nope", .regex "\\p\x7bNope\x7d"⟩, ⟨"a", .regex "(a"⟩,
        ⟨"b", .regex "b)"⟩]⟩ ⟨false⟩
    obtain ⟨e, he, hi⟩ := hexists 2 hculprit
    obtain ⟨d, source, hd, -, halone, -⟩ := hblames e 2 he hi
    cases hd
    exact ⟨e, he, hi, halone⟩
  · have hculprit : Culprit false
        [.literal "(", .regex "\\p\x7bNope\x7d", .regex "(a)"] 1 := by
      refine .inr ⟨?_, ⟨_, rfl, hnope.2⟩, fun j hj p hp => ?_⟩
      · simp only [List.forall_mem_cons]
        exact ⟨hopen.parses, hnope.1, hgroup, by simp⟩
      · obtain rfl : j = 0 := by omega
        cases hp
        exact hopen
    exact (build_blames _ _).2.2.2.1 1 hculprit

end Lexer

end PriorityLexer
