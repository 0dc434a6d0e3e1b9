import Mathlib.Algebra.GroupWithZero.Nat
import PriorityLexer.Proofs.CaseVariants
import PriorityLexer.Proofs.Escaping
import PriorityLexer.Proofs.Matching
import PriorityLexer.Proofs.Sequence

/-!
# Literals — lexers whose definitions are texts

A text always has an expression, whatever characters it holds, and matches where it is the start of
the input that is left.  Where case is ignored, each character may be replaced by a case variant,
which need not take as many bytes.

* `Pattern.expression_literal` — the expression of a text;
* `startsWithVariant` — a text starts with another one up to case;
* `Lexer.matchAt_ofLiterals` — the first text that the input starts with decides.
-/

namespace PriorityLexer

/-- Whether a text starts with as many characters as the literal has, each a case variant of the one
in the literal. -/
def startsWithVariant (literal text : List Char) : Bool :=
  literal.length ≤ text.length &&
    (literal.zip text).all fun (a, b) => simpleFolding.Equivalent a b

/-! ## Texts as expressions -/

theorem Pattern.source_literal (text : String) :
    (Pattern.literal text).source = escapeChars text.toList :=
  toList_escape text

theorem Pattern.expression_literal (ignoreCase : Bool) (text : String) :
    (Pattern.literal text).expression ignoreCase = .ok (Source.spelled ignoreCase text.toList) := by
  rw [Pattern.expression, source_literal, Source.parse_escapeChars]
  exact Source.regex_escapedTree ignoreCase text.toList

theorem size_spelled (ignoreCase : Bool) (cs : List Char) :
    (Source.spelled ignoreCase cs).size = max 1 cs.length := by
  have hsize (sets : List CharSet) : (Regex.catOf (sets.map .chars)).size = max 1 sets.length := by
    induction sets with
    | nil => rfl
    | cons s ss ih =>
        cases ss with
        | nil => rfl
        | cons s' ss =>
            rw [List.map_cons, List.map_cons, Regex.catOf, Regex.size, Regex.size, ← List.map_cons,
              ih]
            · simp only [List.length_cons]
              omega
            · simp
  rw [Source.spelled, hsize, Source.variants, List.length_map]

/-! ## Texts at the start of others -/

theorem startsWithin_variants_false (cs text : List Char) :
    startsWithin (Source.variants false cs) text = cs.isPrefixOf text := by
  induction cs generalizing text with
  | nil => rfl
  | cons c cs ih =>
      cases text with
      | nil => rfl
      | cons a text =>
          have hmem : (CharSet.singleton c).contains a = (c == a) := by
            rw [Bool.eq_iff_iff, beq_iff_eq, eq_comm (a := c)]
            exact CharSet.mem_singleton
          rw [List.isPrefixOf, ← ih text, ← hmem]
          rfl

theorem startsWithin_variants_true (cs text : List Char) :
    startsWithin (Source.variants true cs) text = startsWithVariant cs text := by
  induction cs generalizing text with
  | nil => simp [Source.variants, startsWithin, startsWithVariant]
  | cons c cs ih =>
      cases text with
      | nil => simp [Source.variants, startsWithin, startsWithVariant]
      | cons a text =>
          have hmem : (simpleFolding.close (.singleton c)).contains a =
              decide (simpleFolding.Equivalent c a) := by
            rw [Bool.eq_iff_iff, decide_eq_true_iff]
            exact Folding.mem_close_singleton simpleFolding_proper
          have hcons : startsWithin (Source.variants true (c :: cs)) (a :: text) =
              ((simpleFolding.close (.singleton c)).contains a &&
                startsWithin (Source.variants true cs) text) := rfl
          rw [hcons, hmem, ih]
          simp [startsWithVariant, Bool.and_left_comm]

/-! ## Lexers of texts -/

/-- Definitions of texts, highest priority first. -/
def Definitions.ofLiterals {κ : Type} (literals : List (κ × String)) : Definitions κ :=
  .ofList (literals.map fun e => ⟨e.1, .literal e.2⟩)

namespace Lexer

variable {κ : Type} {literals : List (κ × String)} {options : Options} {l : Lexer κ}

theorem expressions_ofLiterals (ignoreCase : Bool) (literals : List (κ × String)) :
    Expressions ignoreCase ((Definitions.ofLiterals literals).toList.map (·.pattern))
      (literals.map fun e => Source.spelled ignoreCase e.2.toList) := by
  intro k
  simp only [Definitions.ofLiterals, Definitions.ofList, List.map_map, List.getElem?_map,
    Option.map_map]
  congr 1
  funext e
  exact Pattern.expression_literal ignoreCase e.2

/-- Texts are refused only if they are too long together. -/
theorem exists_build_ofLiterals (literals : List (κ × String)) (options : Options)
    (hsize : 100 * (literals.map fun e => max 1 e.2.length).sum ≤ sizeLimit) :
    ∃ l, build (.ofLiterals literals) options = .ok l := by
  have hweight : Regex.totalWeight
      (literals.map fun e => Source.spelled options.ignoreCase e.2.toList) =
        100 * (literals.map fun e => max 1 e.2.length).sum := by
    clear hsize
    induction literals with
    | nil => rfl
    | cons e rest ih =>
        rw [List.map_cons, Regex.totalWeight, ih, Regex.weight, size_spelled, String.length_toList,
          List.map_cons, List.sum_cons, Nat.mul_add]
  obtain ⟨l, hl, -⟩ := exists_build_eq_ok _ options
    (expressions_ofLiterals options.ignoreCase literals) (hweight ▸ hsize)
  exact ⟨l, hl⟩

/-- Where all expressions are sequences of sets, the first one that the rest of the text starts with
members of decides. -/
theorem matchPlace?_of_sets {ds : Definitions κ} {sets : List (List CharSet)}
    (h : build ds options = .ok l)
    (hsets : Expressions options.ignoreCase (ds.toList.map (·.pattern))
      (sets.map fun ss => .catOf (ss.map .chars))) (p : Place) :
    l.matchPlace? p =
      (((ds.toList.zip sets).find? fun e => startsWithin e.2 p.after).map fun e =>
        (e.1.kind, e.2.length)).filter (·.2 != 0) := by
  have hlength := hsets.length_eq
  rw [List.length_map] at hlength
  rw [matchPlace?_eq (matcher_eq_ofRegexes h hsets)
      (by simpa [(build_eq_ok_iff.1 h).1] using hlength),
    (build_eq_ok_iff.1 h).1, List.zip_map_right, List.findSome?_map]
  congr 1
  -- What a sequence takes alone is as long as itself.
  induction ds.toList.zip sets with
  | nil => rfl
  | cons e rest ih =>
      have halone := Program.searchAlone?_catOf_chars p e.2
      by_cases hstarts : startsWithin e.2 p.after = true
      · simp [halone, hstarts]
      · simpa [halone, hstarts] using ih

/-- The first text that the rest of the input starts with decides. -/
theorem matchPlace?_ofLiterals (h : build (.ofLiterals literals) options = .ok l) (p : Place) :
    l.matchPlace? p =
      match literals.find? fun e =>
        startsWithin (Source.variants options.ignoreCase e.2.toList) p.after with
      | none => none
      | some (kind, text) => if text = "" then none else some (kind, text.length) := by
  have hsets := expressions_ofLiterals options.ignoreCase literals
  have hexpressions : (literals.map fun e => Source.spelled options.ignoreCase e.2.toList) =
      (literals.map fun e => Source.variants options.ignoreCase e.2.toList).map fun ss =>
        .catOf (ss.map .chars) := by
    rw [List.map_map]
    rfl
  rw [hexpressions] at hsets
  rw [matchPlace?_of_sets h hsets, Definitions.ofLiterals, Definitions.ofList, List.zip_map',
    List.find?_map]
  simp only [Function.comp_def]
  cases literals.find? fun e =>
      startsWithin (Source.variants options.ignoreCase e.2.toList) p.after with
  | none => rfl
  | some e =>
      rcases e with ⟨kind, text⟩
      by_cases hempty : text = ""
      · simp [hempty, Source.variants, Option.filter_some]
      · simp [hempty, Source.variants, String.length_toList, Option.filter_some]

/-- Texts stand for themselves: the first one that the rest of the input starts with decides, also
if it is empty and there is no token. -/
theorem matchAt_ofLiterals (h : build (.ofLiterals literals) options = .ok l) :
    (options.ignoreCase = false → ∀ before rest : String,
      l.matchAt (before ++ rest) before.utf8ByteSize =
        match literals.find? fun e => e.2.toList.isPrefixOf rest.toList with
        | none => none
        | some (kind, text) =>
          if text = "" then none
          else
            some ⟨kind, text, before.utf8ByteSize, before.utf8ByteSize + text.utf8ByteSize⟩) ∧
    (options.ignoreCase = true → ∀ before rest : String,
      l.matchAt (before ++ rest) before.utf8ByteSize =
        match literals.find? fun e => startsWithVariant e.2.toList rest.toList with
        | none => none
        | some (kind, text) =>
          if text = "" then none
          else
            let image := String.ofList (rest.toList.take text.length)
            some ⟨kind, image, before.utf8ByteSize, before.utf8ByteSize + image.utf8ByteSize⟩) := by
  have hplace (before rest : String) : place? (before ++ rest).toList before.utf8ByteSize =
      some ⟨before.toList.getLast?, rest.toList⟩ :=
    place?_eq_some_iff.2 ⟨before.toList, String.toList_append, byteLength_toList _, rfl⟩
  constructor
  · intro hcase before rest
    simp only [matchAt, hplace, matchPlace?_ofLiterals h, hcase, startsWithin_variants_false]
    cases hfind : literals.find? fun e => e.2.toList.isPrefixOf rest.toList with
    | none => rfl
    | some e =>
        rcases e with ⟨kind, text⟩
        -- Without case variants, what is taken is the text itself.
        have hstarts := List.find?_some hfind
        have hprefix : text.toList <+: rest.toList := List.isPrefixOf_iff_prefix.1 hstarts
        have htake : rest.toList.take text.length = text.toList := by
          rw [← String.length_toList]
          exact List.prefix_iff_eq_take.1 hprefix |>.symm
        by_cases hempty : text = ""
        · simp [hempty]
        · simp [hempty, tokenAt, htake, byteLength_toList]
  · intro hcase before rest
    simp only [matchAt, hplace, matchPlace?_ofLiterals h, hcase, startsWithin_variants_true]
    cases literals.find? fun e => startsWithVariant e.2.toList rest.toList with
    | none => rfl
    | some e =>
        rcases e with ⟨kind, text⟩
        by_cases hempty : text = ""
        · simp [hempty]
        · simp [hempty, tokenAt, byteLength_eq_utf8ByteSize]

/-- Signs stand for themselves, and the Kelvin sign is a variant of a letter that takes one byte. -/
theorem matchAt_ofLiterals_signs :
    (∃ l : Lexer String, build (.ofLiterals [("dot", "."), ("stars", ".*")]) ⟨false⟩ = .ok l ∧
      l.matchAt "x.*" 1 = some ⟨"dot", ".", 1, 2⟩ ∧ l.matchAt "x.*" 0 = none) ∧
    ∃ l : Lexer String, build (.ofLiterals [("ks", "ks")]) ⟨true⟩ = .ok l ∧
      l.matchAt "\u212as" 0 = some ⟨"ks", "\u212as", 0, 4⟩ := by
  constructor
  · obtain ⟨l, hl⟩ := exists_build_ofLiterals [("dot", "."), ("stars", ".*")] ⟨false⟩
      (by decide)
    have hmatch := (matchAt_ofLiterals hl).1 rfl
    exact ⟨l, hl, (hmatch "x" ".*").trans (by decide), (hmatch "" "x.*").trans (by decide)⟩
  · rcases exists_build_ofLiterals [("ks", "ks")] ⟨true⟩ (by decide) with ⟨l, hl⟩
    exact ⟨l, hl, ((matchAt_ofLiterals hl).2 rfl "" "\u212as").trans (by decide +kernel)⟩

end Lexer

end PriorityLexer
