import PriorityLexer.Proofs.Json.Recognition
import PriorityLexer.Proofs.Spelling

/-!
# Variants — what texts of patterns are read as

A pattern is taken in as a whole before its form is looked at.  So a text that is malformed or
breaks off is reported as such, however wrong its beginning is, and a value that is complete is
judged whatever follows it.

* `Pattern.ofText_of_fits`, `Pattern.ofText_of_not_fits` — values of another form, and values that
  cannot be taken in;
* `Pattern.ofText_of_no_form` — texts that do not start with a value;
* `Pattern.ofText_variants` — every text;
* `Form.nested`, `Pattern.ofText_nested` — brackets inside brackets.
-/

namespace PriorityLexer

open Json

namespace Pattern

/-- Behind a pattern there must be white space only. -/
theorem ofText_of_trailing (lead : Space) {f : Form} {rest : List Char} {p : Pattern}
    (h : p.SpelledBy f) (hrest : skipSpace rest ≠ []) :
    ofText (.ofList (lead ++ (f.text ++ rest))) = .error (.flaw .malformed) := by
  have hends : f.EndsBefore rest := by
    cases h <;> exact trivial
  have hnode : ofNode nestLimit (f.node rest) = .ok p := (ofNode_eq_ok_iff (by decide)).2 h
  have htrailing : (!(skipSpace rest).isEmpty) = true := by simpa using hrest
  rw [ofText, readText, String.toList_ofList, f.ofText_append lead hends, htrailing]
  simp only [hnode]
  rfl

theorem ofValue_eq_ok_or (v : Value) :
    (∃ p, ofValue v = .ok p) ∨ ofValue v = mismatch noVariant := by
  unfold ofValue
  split
  · exact .inl ⟨_, rfl⟩
  · split
    · exact .inl ⟨_, rfl⟩
    · split
      · exact .inl ⟨_, rfl⟩
      · exact .inr rfl
  · exact .inr rfl

/-- A complete value of another form is told, whatever follows it. -/
theorem ofText_of_fits (lead : Space) {f : Form} {rest : List Char} (hends : f.EndsBefore rest)
    (hfits : f.Fits nestLimit) (hnot : ∀ p : Pattern, ¬ p.SpelledBy f) :
    ofText (.ofList (lead ++ (f.text ++ rest))) = mismatch noVariant := by
  obtain ⟨v, hv⟩ := hfits.exists_value
  have hnode : ofNode nestLimit (f.node rest) = ofValue v :=
    ofNode_of_value hv rest hfits.depth_le
  apply readText_of_error
  rw [f.ofText_append lead hends, hnode]
  rcases ofValue_eq_ok_or v with ⟨p, hp⟩ | herror
  · exact absurd ((ofNode_eq_ok_iff (by decide)).1 (hnode.trans hp)) (hnot p)
  · exact herror

/-- A value that is nested too deep or holds a number that is too large is malformed. -/
theorem ofText_of_not_fits (lead : Space) {f : Form} {rest : List Char} (hends : f.EndsBefore rest)
    (hnot : ¬ f.Fits nestLimit) :
    ofText (.ofList (lead ++ (f.text ++ rest))) = .error (.flaw .malformed) := by
  have hread : (f.node rest).read nestLimit = .error .malformed := by
    rw [f.read_eq]
    by_cases hdepth : f.depth ≤ nestLimit
    · have hnone : f.value? = none := by
        rw [← Option.not_isSome_iff_eq_none]
        exact fun hsome => hnot ⟨hdepth, hsome⟩
      rw [if_pos hdepth, hnone]
      rfl
    · rw [if_neg hdepth]
      rfl
  apply readText_of_error
  rw [f.ofText_append lead hends, ofNode, hread]
  rfl

/-- A text that does not start with a complete value is malformed or breaks off. -/
theorem ofText_of_no_form {cs : List Char} (h : ∀ (lead : Space) (f : Form) (rest : List Char),
    cs = lead ++ (f.text ++ rest) → ¬ f.EndsBefore rest) :
    ∃ flaw, ofText (.ofList cs) = .error (.flaw flaw) := by
  cases hread : (Document.ofText cs).root.read nestLimit with
  | ok v =>
      -- What is taken in starts with a form.
      obtain ⟨lead, f, rest, hcs, hends⟩ := Document.exists_form hread
      exact absurd hends (h lead f rest hcs)
  | error flaw =>
      refine ⟨flaw, readText_of_error ?_⟩
      rw [ofNode, hread]
      rfl

/-- Every text is a pattern in one of its forms, a value of another form, or no value that can be
taken in; a text that does not start with a complete value is never told to have the wrong form. -/
theorem ofText_variants :
    (∀ (lead trail : Space) (f : Form) (p : Pattern),
      ofText (.ofList (lead ++ f.text ++ trail)) = .ok p ↔ p.SpelledBy f) ∧
    (∀ (lead : Space) (f : Form) (rest : List Char) (p : Pattern), p.SpelledBy f →
      skipSpace rest ≠ [] →
      ofText (.ofList (lead ++ (f.text ++ rest))) = .error (.flaw .malformed)) ∧
    (∀ (lead : Space) (f : Form) (rest : List Char), f.EndsBefore rest → f.Fits nestLimit →
      (∀ p : Pattern, ¬ p.SpelledBy f) →
      ofText (.ofList (lead ++ (f.text ++ rest))) =
        mismatch (.noVariant "untagged enum PatternRepr")) ∧
    (∀ (lead : Space) (f : Form) (rest : List Char), f.EndsBefore rest → ¬ f.Fits nestLimit →
      ofText (.ofList (lead ++ (f.text ++ rest))) = .error (.flaw .malformed)) ∧
    ∀ cs : List Char, (∀ (lead : Space) (f : Form) (rest : List Char),
      cs = lead ++ (f.text ++ rest) → ¬ f.EndsBefore rest) →
      ∃ flaw, ofText (.ofList cs) = .error (.flaw flaw) := by
  refine ⟨fun lead trail f p => ofText_form_eq_ok_iff lead trail, ?_, ?_, ?_, ?_⟩
  · intro lead f rest p h hrest
    exact ofText_of_trailing lead h hrest
  · intro lead f rest hends hfits hnot
    exact ofText_of_fits lead hends hfits hnot
  · intro lead f rest hends hnot
    exact ofText_of_not_fits lead hends hnot
  · intro cs h
    exact ofText_of_no_form h

end Pattern

/-! ### Texts of all sorts

The key of the second one has another case than it should have, and the last one breaks off behind a
value that is wrong. -/

theorem Pattern.ofText_variants_five :
    Pattern.ofText "\x7b\"regex\": \"a+\"\x7d" = .ok (.regex "a+") ∧
    Pattern.ofText "\x7b\"Regex\": \"a+\"\x7d ]" =
      mismatch (.noVariant "untagged enum PatternRepr") ∧
    Pattern.ofText "\"a+\" ]" = .error (.flaw .malformed) ∧
    Pattern.ofText "0.1e999" = .error (.flaw .malformed) ∧
    ∃ flaw, Pattern.ofText "[null," = .error (.flaw flaw) := by
  let sum := plainForm "a+" (by decide)
  let entry (key : StringForm) : Form := .object noSpace (.spaced noSpace [(key, .string sum)])
  refine ⟨?_, ?_, ?_, ?_, ?_⟩
  · exact (ofText_variants.1 noSpace noSpace (entry (plainForm "regex" (by decide))) _).2
      (.regex _ _ _ sum rfl rfl)
  · refine ofText_variants.2.2.1 noSpace (entry (plainForm "Regex" (by decide))) [' ', ']'] trivial
      ⟨by decide, rfl⟩ ?_
    intro p hp
    cases hp with
    | literal inner entries key s hentries hkey =>
        cases hentries
        exact absurd hkey (by decide)
    | regex inner entries key s hentries hkey =>
        cases hentries
        exact absurd hkey (by decide)
  · exact ofText_variants.2.1 noSpace (.string sum) [' ', ']'] _ (.bare sum) (by decide)
  · exact ofText_variants.2.2.2.1 noSpace (.number farNumber) [] nofun
      (fun hfits => absurd hfits.isSome (by decide))
  · refine ofText_variants.2.2.2.2 "[null,".toList fun lead f rest htext hends => ?_
    -- The tree of a complete value can be passed over.
    have hskip := f.skip_node rest
    have hroot : (Document.ofText "[null,".toList).root = f.node rest := by
      rw [htext, f.ofText_append lead hends]
    rw [← hroot] at hskip
    exact absurd hskip (by decide)

/-! ### Beyond the limits

What is nested too deep, or holds a number that is too large, is not told to have the wrong form. -/

/-- Brackets inside brackets. -/
def Json.Form.nested : Nat → Form
  | 0 => .array noSpace .nil
  | n + 1 => .array noSpace (.cons noSpace (nested n) noSpace .nil)

theorem Json.Form.depth_nested (n : Nat) : (Form.nested n).depth = n + 1 := by
  induction n with
  | zero => rfl
  | succ n ih => simp [nested, Form.depth, Items.depth, ih]

theorem Json.Form.text_nested (n : Nat) :
    (Form.nested n).text = List.replicate (n + 1) '[' ++ List.replicate (n + 1) ']' := by
  induction n with
  | zero => rfl
  | succ n ih =>
      have hnested : (Form.nested (n + 1)).text = '[' :: ((Form.nested n).text ++ [']']) := by
        simp [nested, Form.text, Items.text, comma, noSpace]
      rw [hnested, ih, List.append_assoc, ← List.replicate_succ', List.replicate_succ]
      rfl

theorem Json.Form.isSome_nested (n : Nat) : (Form.nested n).value?.isSome = true := by
  induction n with
  | zero => rfl
  | succ n ih =>
      obtain ⟨v, hv⟩ := Option.isSome_iff_exists.1 ih
      simp [nested, Form.value?, Items.values?, hv]

theorem Json.Form.fits_nested_iff {n room : Nat} : (Form.nested n).Fits room ↔ n < room := by
  rw [Nat.lt_iff_add_one_le, ← depth_nested]
  exact ⟨Fits.depth_le, fun h => ⟨h, isSome_nested n⟩⟩

theorem Pattern.ofText_alone_of_not_fits {f : Form} (hends : f.EndsBefore [])
    (hnot : ¬ f.Fits nestLimit) : Pattern.ofText (.ofList f.text) = .error (.flaw .malformed) := by
  simpa [noSpace] using ofText_of_not_fits noSpace hends hnot

theorem Pattern.ofText_nested (n : Nat) :
    Pattern.ofText (.ofList (Form.nested n).text) =
      if n < nestLimit then mismatch noVariant else .error (.flaw .malformed) := by
  have hends : (Form.nested n).EndsBefore [] := by
    cases n <;> exact trivial
  split
  · next hlt =>
      have hnot : ∀ p : Pattern, ¬ p.SpelledBy (.nested n) := by
        intro p hp
        cases n <;> cases hp
      simpa [noSpace] using ofText_of_fits noSpace hends (Form.fits_nested_iff.2 hlt) hnot
  · next hge =>
      exact ofText_alone_of_not_fits hends fun hfits => hge (Form.fits_nested_iff.1 hfits)

theorem Pattern.ofText_limits :
    (Form.nested 127).text = List.replicate 128 '[' ++ List.replicate 128 ']' ∧
    (Form.number farNumber).text = "0.1e999".toList ∧
    ∀ f ∈ [Form.nested 127, .number farNumber],
      Pattern.ofText (.ofList f.text) = .error (.flaw .malformed) ∧
      Pattern.ofText (.ofList f.text) ≠ mismatch (.noVariant "untagged enum PatternRepr") := by
  refine ⟨Form.text_nested 127, rfl, fun f hf => ?_⟩
  have hread : Pattern.ofText (.ofList f.text) = .error (.flaw .malformed) := by
    rcases List.mem_pair.1 hf with rfl | rfl
    · exact ofText_nested 127
    · exact ofText_alone_of_not_fits nofun fun hfits => absurd hfits.isSome (by decide)
  rw [hread]
  exact ⟨rfl, nofun⟩

end PriorityLexer
