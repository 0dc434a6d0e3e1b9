import Mathlib.Logic.Function.Defs
import PriorityLexer.Escape

/-!
# Unescaping — escaped texts are read back

Dropping each backslash and keeping the character behind it undoes an escape.  Which texts are
escaped ones can be seen from their backslashes alone.  A text is read from the left, so that in a
row of backslashes every second one is escaped by the one before it.

* `unescape` — drops backslashes;
* `escapedAt` — the places where a character is escaped;
* `WellEscaped` — what is escaped has a meaning, and what has a meaning is escaped or escapes the
  next character;
* `wellEscaped_cons_iff`, `wellEscaped_pair_iff` — a single character or a pair at the start;
* `wellEscaped_iff` — the texts that come back when they are unescaped and escaped again;
* `escape_invertible` — all of it for strings.
-/

namespace PriorityLexer

/-! ## Dropping backslashes -/

def unescapeChars : List Char → List Char
  | [] => []
  -- Nothing is behind it that could be kept.
  | ['\\'] => []
  | '\\' :: c :: cs => c :: unescapeChars cs
  | c :: cs => c :: unescapeChars cs

def unescape (text : String) : String :=
  .ofList (unescapeChars text.toList)

theorem unescapeChars_cons {c : Char} (hc : c ≠ '\\') (cs : List Char) :
    unescapeChars (c :: cs) = c :: unescapeChars cs := by
  rw [unescapeChars]
  · rintro rfl
    exact absurd rfl hc
  · rintro c' cs' rfl
    exact absurd rfl hc

theorem ne_backslash {c : Char} (hc : isSyntaxChar c = false) : c ≠ '\\' := by
  rintro rfl
  cases hc

theorem unescapeChars_escapeChars (s : List Char) : unescapeChars (escapeChars s) = s := by
  induction s with
  | nil => rfl
  | cons c s ih =>
      rw [escapeChars]
      cases hc : isSyntaxChar c with
      | true => rw [if_pos rfl, unescapeChars, ih]
      | false => rw [if_neg Bool.false_ne_true, unescapeChars_cons (ne_backslash hc), ih]

theorem escapeChars_append (s t : List Char) :
    escapeChars (s ++ t) = escapeChars s ++ escapeChars t := by
  induction s with
  | nil => rfl
  | cons c s ih =>
      rw [List.cons_append, escapeChars, escapeChars, ih]
      split <;> rfl

/-! ## Pairs of characters -/

/-- Whether the character before a place is a backslash that is not escaped itself. -/
def escapedAt (text : List Char) : Nat → Bool
  | 0 => false
  | i + 1 => text[i]? = some '\\' && !escapedAt text i

/-- What is escaped has a meaning; what has a meaning is escaped, or is itself a backslash that
escapes the next character. -/
def PairedAt (text : List Char) (i : Nat) : Prop :=
  (escapedAt text i = true → ∃ c, text[i]? = some c ∧ isSyntaxChar c = true) ∧
  ∀ c, text[i]? = some c → isSyntaxChar c = true →
    escapedAt text i = true ∨ escapedAt text (i + 1) = true

/-- The place behind the last character counts as well, so that no backslash at the end is left with
nothing to escape. -/
def WellEscaped (text : List Char) : Prop :=
  ∀ i, PairedAt text i

theorem escapedAt_cons {c : Char} (hc : c ≠ '\\') (cs : List Char) (i : Nat) :
    escapedAt (c :: cs) (i + 1) = escapedAt cs i := by
  induction i with
  | zero => simp [escapedAt, hc]
  | succ i ih => rw [escapedAt, ih, escapedAt, List.getElem?_cons_succ]

theorem escapedAt_pair (c : Char) (cs : List Char) (i : Nat) :
    escapedAt ('\\' :: c :: cs) (i + 2) = escapedAt cs i := by
  induction i with
  | zero =>
      -- The second character escapes nothing, even if it is a backslash.
      simp [escapedAt]
  | succ i ih =>
      rw [escapedAt, ih, escapedAt, List.getElem?_cons_succ, List.getElem?_cons_succ]

theorem wellEscaped_cons_iff {c : Char} (hc : c ≠ '\\') {cs : List Char} :
    WellEscaped (c :: cs) ↔ isSyntaxChar c = false ∧ WellEscaped cs := by
  have hfirst : PairedAt (c :: cs) 0 ↔ isSyntaxChar c = false := by
    simp [PairedAt, escapedAt, hc]
  have hrest (i : Nat) : PairedAt (c :: cs) (i + 1) ↔ PairedAt cs i := by
    rw [PairedAt, PairedAt, escapedAt_cons hc, escapedAt_cons hc, List.getElem?_cons_succ]
  calc
    WellEscaped (c :: cs)
        ↔ PairedAt (c :: cs) 0 ∧ ∀ i, PairedAt (c :: cs) (i + 1) := Nat.and_forall_add_one.symm
    _ ↔ isSyntaxChar c = false ∧ WellEscaped cs := and_congr hfirst (forall_congr' hrest)

theorem wellEscaped_pair_iff {c : Char} {cs : List Char} :
    WellEscaped ('\\' :: c :: cs) ↔ isSyntaxChar c = true ∧ WellEscaped cs := by
  have hfirst : PairedAt ('\\' :: c :: cs) 0 := by
    simp [PairedAt, escapedAt]
  have hsecond : PairedAt ('\\' :: c :: cs) 1 ↔ isSyntaxChar c = true := by
    simp [PairedAt, escapedAt]
  have hrest (i : Nat) : PairedAt ('\\' :: c :: cs) (i + 2) ↔ PairedAt cs i := by
    rw [PairedAt, PairedAt, escapedAt_pair, escapedAt_pair, List.getElem?_cons_succ,
      List.getElem?_cons_succ]
  calc
    WellEscaped ('\\' :: c :: cs)
        ↔ PairedAt ('\\' :: c :: cs) 0 ∧ ∀ i, PairedAt ('\\' :: c :: cs) (i + 1) :=
          Nat.and_forall_add_one.symm
    _ ↔ ∀ i, PairedAt ('\\' :: c :: cs) (i + 1) := and_iff_right hfirst
    _ ↔ PairedAt ('\\' :: c :: cs) 1 ∧ ∀ i, PairedAt ('\\' :: c :: cs) (i + 2) :=
          Nat.and_forall_add_one.symm
    _ ↔ isSyntaxChar c = true ∧ WellEscaped cs := and_congr hsecond (forall_congr' hrest)

theorem WellEscaped.escapedAt_length {text : List Char} (h : WellEscaped text) :
    escapedAt text text.length = false := by
  rw [← Bool.not_eq_true]
  intro hescaped
  rcases (h text.length).1 hescaped with ⟨c, hc, -⟩
  rw [List.getElem?_eq_none (Nat.le_refl _)] at hc
  cases hc

/-! ## The texts that are escaped -/

theorem wellEscaped_escapeChars (s : List Char) : WellEscaped (escapeChars s) := by
  induction s with
  | nil =>
      intro i
      cases i <;> exact ⟨nofun, nofun⟩
  | cons c s ih =>
      rw [escapeChars]
      cases hc : isSyntaxChar c with
      | true =>
          rw [if_pos rfl]
          exact wellEscaped_pair_iff.2 ⟨hc, ih⟩
      | false =>
          rw [if_neg Bool.false_ne_true]
          exact (wellEscaped_cons_iff (ne_backslash hc)).2 ⟨hc, ih⟩

theorem escapeChars_unescapeChars {text : List Char} (h : WellEscaped text) :
    escapeChars (unescapeChars text) = text := by
  fun_induction unescapeChars text with
  | case1 => rfl
  | case2 => cases h.escapedAt_length
  | case3 c cs ih =>
      rcases wellEscaped_pair_iff.1 h with ⟨hc, hcs⟩
      rw [escapeChars, if_pos hc, ih hcs]
  | case4 c cs hlast hpair ih =>
      -- A backslash would have been dropped.
      have hne : c ≠ '\\' := by
        intro hc
        cases cs with
        | nil => exact hlast hc rfl
        | cons c' cs => exact hpair c' cs hc rfl
      rcases (wellEscaped_cons_iff hne).1 h with ⟨hc, hcs⟩
      rw [escapeChars, hc, if_neg Bool.false_ne_true, ih hcs]

theorem wellEscaped_iff {text : List Char} :
    WellEscaped text ↔ escapeChars (unescapeChars text) = text := by
  constructor
  · intro h
    exact escapeChars_unescapeChars h
  · intro h
    rw [← h]
    exact wellEscaped_escapeChars (unescapeChars text)

instance (text : List Char) : Decidable (WellEscaped text) :=
  decidable_of_iff _ wellEscaped_iff.symm

example : WellEscaped "\\\\\\.".toList ∧ ¬ WellEscaped "\\\\.".toList := by decide

/-! ## Strings -/

theorem toList_unescape (s : String) : (unescape s).toList = unescapeChars s.toList :=
  String.toList_ofList

theorem unescape_escape (s : String) : unescape (escape s) = s := by
  apply String.toList_inj.1
  rw [toList_unescape, toList_escape, unescapeChars_escapeChars]

theorem escape_append (s t : String) : escape (s ++ t) = escape s ++ escape t := by
  apply String.toList_inj.1
  calc
    (escape (s ++ t)).toList
        = escapeChars (s.toList ++ t.toList) := by rw [toList_escape, String.toList_append]
    _ = escapeChars s.toList ++ escapeChars t.toList := escapeChars_append s.toList t.toList
    _ = (escape s ++ escape t).toList := by
          rw [String.toList_append, toList_escape, toList_escape]

theorem wellEscaped_toList_iff {u : String} :
    WellEscaped u.toList ↔ escape (unescape u) = u := by
  rw [wellEscaped_iff, ← toList_unescape, ← toList_escape, String.toList_inj]

/-- Texts are escaped piece by piece, and the decoder gives each of them back.  The escaped texts
are those that are well escaped, they come back from the decoder as well, and none of them ends with
a backslash that has nothing to escape. -/
theorem escape_invertible :
    (∀ s t : String, escape (s ++ t) = escape s ++ escape t) ∧
    (∀ s : String, unescape (escape s) = s) ∧
    (∀ u : String, (∃ s, u = escape s) ↔ WellEscaped u.toList) ∧
    (∀ u : String, WellEscaped u.toList ↔ escape (unescape u) = u) ∧
    Function.Injective escape ∧
    ∀ s : String, escapedAt (escape s).toList (escape s).toList.length = false := by
  refine ⟨escape_append, unescape_escape, ?_, ?_, ?_, ?_⟩
  · intro u
    constructor
    · rintro ⟨s, rfl⟩
      rw [toList_escape]
      exact wellEscaped_escapeChars s.toList
    · intro h
      exact ⟨unescape u, (wellEscaped_toList_iff.1 h).symm⟩
  · intro u
    exact wellEscaped_toList_iff
  · exact Function.LeftInverse.injective unescape_escape
  · intro s
    apply WellEscaped.escapedAt_length
    rw [toList_escape]
    exact wellEscaped_escapeChars s.toList

end PriorityLexer
