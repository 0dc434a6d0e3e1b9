import PriorityLexer.Source.Cursor

/-!
# Within — places of a text that stands in parentheses

A text is read by itself and with a closing parenthesis behind it.  No reader sees the difference
as long as something is left of the text, and at its end only the parenthesis comes.

* `Cursor.Within` — the same place in both texts;
* `Cursor.Within.peek?_iff` — the next character, but for the parenthesis;
* `Cursor.Within.bump`, `next`, `skipBlanks`, `gather`, `skipText?` — moving on in both;
* `Echoes` — what is read in the one text is read in the other.

Only one direction is needed, from the text to the text in parentheses, so a fault of the first
reader ends a proof.
-/

namespace PriorityLexer.Source

namespace Cursor

/-- The same place in a text and in the text with a closing parenthesis behind it; at most `n`
characters are left of the text. -/
structure Within (n : Nat) (c c' : Cursor) : Prop where
  length_le : c.rest.length ≤ n
  /-- A comment at the end of the text reaches over the parenthesis. -/
  rest : c'.rest = c.rest ++ [')'] ∨ c.rest = [] ∧ c'.rest = []

variable {n m : Nat} {c c' : Cursor} {a : Char}

theorem ne_nil_of_peek? (h : c.peek? = some a) : c.rest ≠ [] := by
  intro hnil
  simp [peek?, hnil] at h

theorem atEnd_iff : c.atEnd = true ↔ c.rest = [] := by
  simp [atEnd]

theorem isBlank_paren : isBlank ')' = false := by decide

namespace Within

theorem mono (h : Within n c c') (hnm : n ≤ m) : Within m c c' :=
  ⟨Nat.le_trans h.length_le hnm, h.rest⟩

theorem rest_eq_append (h : Within n c c') (hc : c.rest ≠ []) : c'.rest = c.rest ++ [')'] := by
  rcases h.rest with hrest | ⟨hnil, -⟩
  · exact hrest
  · exact absurd hnil hc

theorem length_le_length (h : Within n c c') : c.rest.length ≤ c'.rest.length := by
  rcases h.rest with hrest | ⟨hnil, -⟩
  · simp [hrest]
  · simp [hnil]

theorem rest_ne_nil (h : Within n c c') (hc : c.rest ≠ []) : c'.rest ≠ [] := by
  rw [h.rest_eq_append hc]
  simp

theorem peek? (h : Within n c c') (hc : c.peek? = some a) : c'.peek? = some a := by
  have hrest := h.rest_eq_append (ne_nil_of_peek? hc)
  rw [Cursor.peek?, hrest, List.head?_append]
  rw [Cursor.peek?] at hc
  rw [hc]
  rfl

/-- Behind the text there is nothing but the parenthesis. -/
theorem peek?_iff (h : Within n c c') (ha : a ≠ ')') : c'.peek? = some a ↔ c.peek? = some a := by
  refine ⟨fun hc' => ?_, h.peek?⟩
  rcases h.rest with hrest | ⟨hnil, hnil'⟩
  · cases hc : c.rest with
    | nil =>
        rw [Cursor.peek?, hrest, hc] at hc'
        cases hc'
        exact absurd rfl ha
    | cons b cs =>
        rw [Cursor.peek?, hrest, hc] at hc'
        rw [Cursor.peek?, hc]
        exact hc'
  · rw [Cursor.peek?, hnil'] at hc'
    cases hc'

theorem bump (h : Within n c c') (hc : c.rest ≠ []) : Within (n - 1) c.bump c'.bump := by
  have hrest := h.rest_eq_append hc
  have hle := h.length_le
  cases hcs : c.rest with
  | nil => exact absurd hcs hc
  | cons a cs =>
      rw [hcs] at hrest hle
      refine ⟨?_, .inl ?_⟩
      · simpa [Cursor.bump, hcs] using Nat.le_sub_one_of_lt hle
      · simp [Cursor.bump, hcs, hrest]

end Within

/-- White space and comments end at the same place, or a comment reaches over the parenthesis. -/
theorem within_skipFrom (comment : Bool) (pos pos' : Nat) (cs : List Char) :
    Within cs.length (skipFrom comment pos cs) (skipFrom comment pos' (cs ++ [')'])) := by
  induction cs generalizing comment pos pos' with
  | nil =>
      cases comment with
      | true => exact ⟨Nat.le_refl 0, .inr ⟨rfl, rfl⟩⟩
      | false =>
          refine ⟨Nat.le_refl 0, .inl ?_⟩
          simp [skipFrom, isBlank_paren]
  | cons a cs ih =>
      simp only [List.cons_append, skipFrom]
      split
      · exact (ih _ _ _).mono (Nat.le_succ _)
      split
      · exact (ih _ _ _).mono (Nat.le_succ _)
      split
      · exact (ih _ _ _).mono (Nat.le_succ _)
      · exact ⟨Nat.le_refl _, .inl rfl⟩

theorem within_skipWhiteFrom (pos pos' : Nat) (cs : List Char) :
    Within cs.length (skipWhiteFrom pos cs) (skipWhiteFrom pos' (cs ++ [')'])) := by
  induction cs generalizing pos pos' with
  | nil =>
      refine ⟨Nat.le_refl 0, .inl ?_⟩
      simp [skipWhiteFrom, isBlank_paren]
  | cons a cs ih =>
      simp only [List.cons_append, skipWhiteFrom]
      split
      · exact (ih _ _).mono (Nat.le_succ _)
      · exact ⟨Nat.le_refl _, .inl rfl⟩

/-- A run of characters is the same in both if it ends inside the text or before a parenthesis. -/
theorem within_gatherFrom (ignoreSpace : Bool) (p : Char → Bool) (comment : Bool) (pos pos' : Nat)
    (cs : List Char)
    (hcs : p ')' = true → (gatherFrom ignoreSpace p comment pos cs).2.rest ≠ []) :
    (gatherFrom ignoreSpace p comment pos' (cs ++ [')'])).1 =
        (gatherFrom ignoreSpace p comment pos cs).1 ∧
      Within cs.length (gatherFrom ignoreSpace p comment pos cs).2
        (gatherFrom ignoreSpace p comment pos' (cs ++ [')'])).2 := by
  induction cs generalizing comment pos pos' with
  | nil =>
      have hp : ¬ p ')' = true := fun hp => hcs hp rfl
      cases comment with
      | true => exact ⟨rfl, Nat.le_refl 0, .inr ⟨rfl, rfl⟩⟩
      | false =>
          have hstop : gatherFrom ignoreSpace p false pos' [')'] = ([], ⟨pos', [')']⟩) := by
            simp [gatherFrom, isBlank_paren, hp]
          rw [List.nil_append, hstop]
          exact ⟨rfl, Nat.le_refl 0, .inl rfl⟩
  | cons a cs ih =>
      have hstep {comment : Bool}
          (h : p ')' = true → (gatherFrom ignoreSpace p comment (pos + 1) cs).2.rest ≠ []) :=
        (ih comment (pos + 1) (pos' + 1) h).imp_right fun hlast => hlast.mono (Nat.le_succ _)
      simp only [List.cons_append, gatherFrom] at hcs ⊢
      by_cases hcomment : comment = true
      · simp only [if_pos hcomment] at hcs ⊢
        exact hstep hcs
      simp only [if_neg hcomment] at hcs ⊢
      by_cases hblank : (ignoreSpace && isBlank a) = true
      · simp only [if_pos hblank] at hcs ⊢
        exact hstep hcs
      simp only [if_neg hblank] at hcs ⊢
      by_cases hsign : (ignoreSpace && decide (a = '#')) = true
      · simp only [if_pos hsign] at hcs ⊢
        exact hstep hcs
      simp only [if_neg hsign] at hcs ⊢
      by_cases hp : p a = true
      · simp only [if_pos hp] at hcs ⊢
        rcases hstep hcs with ⟨heq, hlast⟩
        exact ⟨congrArg (a :: ·) heq, hlast⟩
      · rw [if_neg hp, if_neg hp]
        exact ⟨rfl, Nat.le_refl _, .inl rfl⟩

namespace Within

theorem skipBlanks (h : Within n c c') (ignoreSpace : Bool) :
    Within n (c.skipBlanks ignoreSpace) (c'.skipBlanks ignoreSpace) := by
  cases ignoreSpace with
  | false => exact h
  | true =>
      rcases h.rest with hrest | ⟨hnil, hnil'⟩
      · have hskip := within_skipFrom false c.pos c'.pos c.rest
        rw [← hrest] at hskip
        exact hskip.mono h.length_le
      · refine ⟨?_, .inr ⟨?_, ?_⟩⟩ <;> simp [Cursor.skipBlanks, hnil, hnil', skipFrom]

theorem next (h : Within n c c') (hc : c.rest ≠ []) (ignoreSpace : Bool) :
    Within (n - 1) (c.next ignoreSpace) (c'.next ignoreSpace) :=
  (h.bump hc).skipBlanks ignoreSpace

theorem bump_le (h : Within n c c') (hc : c.rest ≠ []) : Within n c.bump c'.bump :=
  (h.bump hc).mono (Nat.sub_le n 1)

theorem next_le (h : Within n c c') (hc : c.rest ≠ []) (ignoreSpace : Bool) :
    Within n (c.next ignoreSpace) (c'.next ignoreSpace) :=
  (h.next hc ignoreSpace).mono (Nat.sub_le n 1)

theorem skipWhite (h : Within n c c') : Within n c.skipWhite c'.skipWhite := by
  rcases h.rest with hrest | ⟨hnil, hnil'⟩
  · have hskip := within_skipWhiteFrom c.pos c'.pos c.rest
    rw [← hrest] at hskip
    exact hskip.mono h.length_le
  · refine ⟨?_, .inr ⟨?_, ?_⟩⟩ <;> simp [Cursor.skipWhite, hnil, hnil', skipWhiteFrom]

theorem gather (h : Within n c c') (ignoreSpace : Bool) (p : Char → Bool)
    (hp : p ')' = false ∨ (c.gather ignoreSpace p).2.rest ≠ []) :
    ∃ run last last', c.gather ignoreSpace p = (run, last) ∧
      c'.gather ignoreSpace p = (run, last') ∧ Within n last last' := by
  rcases h.rest with hrest | ⟨hnil, hnil'⟩
  · have hgather := within_gatherFrom ignoreSpace p false c.pos c'.pos c.rest
      fun hparen => hp.resolve_left (by simp [hparen])
    rw [← hrest] at hgather
    rcases hgather with ⟨hrun, hlast⟩
    exact ⟨_, _, (c'.gather ignoreSpace p).2, rfl, Prod.ext hrun rfl, hlast.mono h.length_le⟩
  · rw [Cursor.gather, Cursor.gather, hnil, hnil']
    exact ⟨[], _, _, rfl, rfl, Nat.zero_le n, .inr ⟨rfl, rfl⟩⟩

/-- A text without a closing parenthesis comes next in both or in neither. -/
theorem skipText? (h : Within n c c') (text : List Char) (htext : ')' ∉ text) :
    (c.skipText? text = none ∧ c'.skipText? text = none) ∨
      ∃ after after', c.skipText? text = some after ∧ c'.skipText? text = some after' ∧
        Within n after after' := by
  have hiff : text <+: c'.rest ↔ text <+: c.rest := by
    rcases h.rest with hrest | ⟨hnil, hnil'⟩
    · rw [hrest, List.prefix_concat_iff]
      refine ⟨fun hor => hor.resolve_left ?_, .inr⟩
      rintro rfl
      simp at htext
    · rw [hnil, hnil']
  simp only [Cursor.skipText?, List.isPrefixOf_iff_prefix, hiff]
  split
  · next htext =>
      refine .inr ⟨_, _, rfl, rfl, ?_, ?_⟩
      · simpa using Nat.le_trans (Nat.sub_le _ _) h.length_le
      · rcases h.rest with hrest | ⟨hnil, hnil'⟩
        · refine .inl ?_
          simp only [hrest]
          exact List.drop_append_of_le_length htext.length_le
        · refine .inr ?_
          simp [hnil, hnil']
  · exact .inl ⟨rfl, rfl⟩

theorem skipText?_or (h : Within n c c') (text other : List Char) (htext : ')' ∉ text)
    (hother : ')' ∉ other) :
    ((c.skipText? text).or (c.skipText? other) = none ∧
        (c'.skipText? text).or (c'.skipText? other) = none) ∨
      ∃ after after', (c.skipText? text).or (c.skipText? other) = some after ∧
        (c'.skipText? text).or (c'.skipText? other) = some after' ∧ Within n after after' := by
  rcases h.skipText? text htext with ⟨hnone, hnone'⟩ | ⟨after, after', hskip, hskip', hafter⟩
  · rw [hnone, hnone', Option.none_or, Option.none_or]
    exact h.skipText? other hother
  · rw [hskip, hskip', Option.some_or, Option.some_or]
    exact .inr ⟨after, after', rfl, rfl, hafter⟩

end Within

end Cursor

/-! ## Readers -/

section

variable {α : Type} {n m : Nat} {bare : α → α}
  {r r' : Except Fault (α × Cursor)} {x x' : α} {c c' : Cursor}

/-- What `r` has read `r'` has read as well, but for spans, and at most `n` characters are left. -/
def Echoes (n : Nat) (bare : α → α) (r r' : Except Fault (α × Cursor)) : Prop :=
  ∀ x c, r = .ok (x, c) → ∃ x' c', r' = .ok (x', c') ∧ bare x' = bare x ∧ c.Within n c'

namespace Echoes

theorem error (f : Fault) : Echoes n bare (.error f) r' := by
  intro x c h
  cases h

theorem ok (hx : bare x' = bare x) (hc : c.Within n c') :
    Echoes n bare (.ok (x, c)) (.ok (x', c')) := by
  rintro _ _ ⟨⟩
  exact ⟨x', c', rfl, hx, hc⟩

theorem mono (h : Echoes n bare r r') (hnm : n ≤ m) : Echoes m bare r r' := by
  intro x c hr
  rcases h x c hr with ⟨x', c', hr', hx, hc⟩
  exact ⟨x', c', hr', hx, hc.mono hnm⟩

/-- Either the first reader finds a fault, or both have read something. -/
theorem cases (h : Echoes n bare r r') :
    (∃ f, r = .error f) ∨
      ∃ x c x' c', r = .ok (x, c) ∧ r' = .ok (x', c') ∧ bare x' = bare x ∧ c.Within n c' := by
  cases r with
  | error f => exact .inl ⟨f, rfl⟩
  | ok xc =>
      rcases h xc.1 xc.2 rfl with ⟨x', c', hr', hx, hc⟩
      exact .inr ⟨xc.1, xc.2, x', c', rfl, hr', hx, hc⟩

/-- A reader that finds a fault at the end of the text. -/
theorem unlessAtEnd (h : c.Within m c') {f f' : Fault} (hr : c.rest ≠ [] → Echoes n bare r r') :
    Echoes n bare (if c.atEnd then .error f else r) (if c'.atEnd then .error f' else r') := by
  by_cases hend : c.atEnd = true
  · rw [if_pos hend]
    exact error f
  · have hne := mt Cursor.atEnd_iff.2 hend
    rw [if_neg hend, if_neg (mt Cursor.atEnd_iff.1 (h.rest_ne_nil hne))]
    exact hr hne

end Echoes

end

end PriorityLexer.Source
