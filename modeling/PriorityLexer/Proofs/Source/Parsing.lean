import PriorityLexer.Proofs.Source.Lexemes
import PriorityLexer.Source.Parse

/-!
# Parsing — a source in parentheses

* `Branches.bare`, `Enclosure.bare` — what is read of a group, without its spans;
* `State.Inside` — the same state, with one more group around it;
* `parseFrom_inside` — the source in parentheses is that group;
* `parse_group` — the tree of a group.
-/

namespace PriorityLexer.Source

/-! ## Branches -/

theorem Tree.isRepeatable_bare (t : Tree) : t.bare.isRepeatable = t.isRepeatable := by
  cases t <;> rfl

def Branches.bare (b : Branches) : Branches :=
  ⟨0, b.finished.map Tree.bare, 0, b.parts.map Tree.bare⟩

namespace Branches

variable {b b' : Branches}

theorem bare_lastBranch (b : Branches) (pos : Nat) :
    (b.lastBranch pos).bare = b.bare.lastBranch 0 := by
  rcases b with ⟨start, finished, partStart, parts⟩
  match parts with
  | [] => rfl
  | [t] => rfl
  | t :: t' :: ts =>
      simp [lastBranch, bare, Tree.bare, Tree.bareAll_eq_map, Span.nowhere, Span.point]

theorem bare_toTree (b : Branches) (pos : Nat) : (b.toTree pos).bare = b.bare.toTree 0 := by
  have hlast := b.bare_lastBranch pos
  rcases b with ⟨start, finished, partStart, parts⟩
  cases finished with
  | nil => exact hlast
  | cons t ts =>
      simp [toTree, Tree.bare, Tree.bareAll_eq_map, hlast]
      simp [bare, Span.nowhere, Span.point]

theorem bare_add (h : b'.bare = b.bare) {t t' : Tree} (ht : t'.bare = t.bare) :
    (b'.add t').bare = (b.add t).bare := by
  simp only [bare, Branches.mk.injEq] at h
  simp [bare, add, h, ht]

theorem bare_bar (h : b'.bare = b.bare) (pos pos' : Nat) :
    (b'.bar pos').bare = (b.bar pos).bare := by
  have hlast : (b'.lastBranch pos').bare = (b.lastBranch pos).bare := by
    rw [bare_lastBranch, bare_lastBranch, h]
  simp only [bare, Branches.mk.injEq] at h
  simp [bare, bar, h, hlast]

theorem repeatable_bare (b : Branches) : b.bare.repeatable = b.repeatable := by
  rcases b with ⟨start, finished, partStart, _ | ⟨t, ts⟩⟩
  · rfl
  · exact t.isRepeatable_bare

theorem bare_quantify (h : b'.bare = b.bare) (q : Quantifier) (pos pos' : Nat) :
    (b'.quantify q pos').bare = (b.quantify q pos).bare := by
  rcases b with ⟨start, finished, partStart, parts⟩
  rcases b' with ⟨start', finished', partStart', parts'⟩
  simp only [bare, Branches.mk.injEq, true_and] at h
  obtain ⟨hfinished, hparts⟩ := h
  cases parts with
  | nil =>
      cases List.map_eq_nil_iff.1 hparts
      simp [quantify, bare, hfinished]
  | cons t ts =>
      obtain ⟨t', ts', rfl, ht, hts⟩ := List.map_eq_cons_iff.1 hparts
      simp [quantify, bare, hfinished, Tree.bare, ht, hts]

end Branches

/-! ## States -/

def Enclosure.bare (e : Enclosure) : Enclosure :=
  ⟨0, e.kind.bare, e.around.bare, e.ignoreSpace⟩

/-- The same has been read in both states, and in the second one `outer` lies around it all. -/
structure State.Inside (outer : Enclosure) (st st' : State) : Prop where
  enclosures : st'.enclosures.map Enclosure.bare =
    st.enclosures.map Enclosure.bare ++ [outer.bare]
  branches : st'.branches.bare = st.branches.bare
  ignoreSpace : st'.ignoreSpace = st.ignoreSpace

namespace State.Inside

variable {outer : Enclosure} {st st' : State}

theorem repeatable (h : Inside outer st st') :
    st'.branches.repeatable = st.branches.repeatable := by
  rw [← Branches.repeatable_bare, h.branches, Branches.repeatable_bare]

theorem ignoreSpace_enter (h : st'.ignoreSpace = st.ignoreSpace) {kind kind' : GroupKind}
    (hkind : kind'.bare = kind.bare) (start stop start' stop' : Nat) :
    (st'.enter kind' start' stop').ignoreSpace = (st.enter kind start stop).ignoreSpace := by
  cases kind <;> cases kind' <;> simp_all [GroupKind.bare, State.enter]

theorem enter (h : Inside outer st st') {kind kind' : GroupKind} (hkind : kind'.bare = kind.bare)
    (start stop start' stop' : Nat) :
    Inside outer (st.enter kind start stop) (st'.enter kind' start' stop') := by
  refine ⟨?_, rfl, ignoreSpace_enter h.ignoreSpace hkind start stop start' stop'⟩
  simp [State.enter, Enclosure.bare, hkind, h.branches, h.ignoreSpace, h.enclosures]

/-- A parenthesis that closes a group of the text closes the same group in the other one. -/
theorem close (h : Inside outer st st') {start stop start' stop' : Nat} {next next' : State}
    (hadd : st.add start stop .closing = .ok next)
    (hadd' : st'.add start' stop' .closing = .ok next') : Inside outer next next' := by
  have henclosures := h.enclosures
  simp only [State.add] at hadd hadd'
  cases hst : st.enclosures with
  | nil =>
      rw [hst] at hadd
      cases hadd
  | cons e es =>
      rw [hst, List.map_cons, List.cons_append] at henclosures
      obtain ⟨e', es', hst', he, hes⟩ := List.map_eq_cons_iff.1 henclosures
      rw [hst] at hadd
      rw [hst'] at hadd'
      cases hadd
      cases hadd'
      simp only [Enclosure.bare, Enclosure.mk.injEq, true_and] at he
      obtain ⟨hkind, haround, hspace⟩ := he
      refine ⟨hes, Branches.bare_add haround ?_, hspace⟩
      simp [Tree.bare, hkind, Branches.bare_toTree, h.branches]

theorem add (h : Inside outer st st') {start stop start' stop' : Nat} {lexeme lexeme' : Lexeme}
    (hlexeme : lexeme'.bare = lexeme.bare) {next next' : State}
    (hadd : st.add start stop lexeme = .ok next)
    (hadd' : st'.add start' stop' lexeme' = .ok next') : Inside outer next next' := by
  cases lexeme with
  | part t =>
      cases lexeme' <;> simp [Lexeme.bare] at hlexeme
      cases hadd
      cases hadd'
      exact ⟨h.enclosures, Branches.bare_add h.branches hlexeme, h.ignoreSpace⟩
  | quantifier q =>
      cases lexeme' <;> simp [Lexeme.bare] at hlexeme
      cases hadd
      cases hadd'
      subst hlexeme
      exact ⟨h.enclosures, Branches.bare_quantify h.branches _ _ _, h.ignoreSpace⟩
  | directive changes =>
      cases lexeme' <;> simp [Lexeme.bare] at hlexeme
      cases hadd
      cases hadd'
      subst hlexeme
      exact ⟨h.enclosures, Branches.bare_add h.branches rfl, by simp [h.ignoreSpace]⟩
  | bar =>
      cases lexeme' <;> simp [Lexeme.bare] at hlexeme
      cases hadd
      cases hadd'
      exact ⟨h.enclosures, Branches.bare_bar h.branches _ _, h.ignoreSpace⟩
  | opening kind =>
      cases lexeme' <;> simp [Lexeme.bare] at hlexeme
      simp only [State.add] at hadd hadd'
      split at hadd
      · cases hadd
      split at hadd'
      · cases hadd'
      cases hadd
      cases hadd'
      exact h.enter hlexeme _ _ _ _
  | closing =>
      cases lexeme' <;> simp [Lexeme.bare] at hlexeme
      exact h.close hadd hadd'

theorem finish_ne_ok (h : Inside outer st st') (pos : Nat) (t : Tree) : st'.finish pos ≠ .ok t := by
  have henclosures := h.enclosures
  rw [State.finish]
  cases hst' : st'.enclosures with
  | nil => simp [hst'] at henclosures
  | cons e es => simp

end State.Inside

/-! ## Sources -/

theorem parseFrom_nil (fuel : Nat) (st : State) (pos : Nat) :
    parseFrom fuel st ⟨pos, []⟩ = st.finish pos := by
  cases fuel with
  | zero => rfl
  | succ fuel =>
      have hskip : Cursor.skipBlanks st.ignoreSpace ⟨pos, []⟩ = ⟨pos, []⟩ := by
        cases st.ignoreSpace <;> rfl
      simp only [parseFrom, hskip]

/-- At the end of the text only the group around it is open, and the parenthesis closes it. -/
theorem parseFrom_closing {outer : Enclosure} {st st' : State} (hst : st.Inside outer st')
    {pos fuel : Nat} {c' : Cursor} (hc' : (c'.skipBlanks st'.ignoreSpace).rest = [')'])
    {t t' : Tree} (ht : st.finish pos = .ok t) (ht' : parseFrom (fuel + 1) st' c' = .ok t') :
    t'.bare = ((outer.around.add (.group .nowhere outer.kind t)).toTree 0).bare := by
  have henclosures := hst.enclosures
  cases hopen : st.enclosures with
  | cons e es =>
      rw [State.finish, hopen] at ht
      cases ht
  | nil =>
      rw [State.finish, hopen] at ht
      cases ht
      rw [hopen, List.map_nil, List.nil_append] at henclosures
      obtain ⟨e, hst', he⟩ := List.map_eq_singleton_iff.1 henclosures
      simp only [Enclosure.bare, Enclosure.mk.injEq, true_and] at he
      obtain ⟨hkind, haround, -⟩ := he
      rw [parseFrom] at ht'
      generalize c'.skipBlanks st'.ignoreSpace = c' at hc' ht'
      have hbump : c'.bump = ⟨c'.pos + 1, []⟩ := by
        rw [Cursor.bump, hc']
      have hread : readLexeme st'.ignoreSpace st'.branches.repeatable ')' c' =
          .ok (.closing, c'.bump) := rfl
      simp only [hc', hread, State.add, hst', hbump, parseFrom_nil, State.finish] at ht'
      cases ht'
      rw [Branches.bare_toTree, Branches.bare_toTree, Branches.bare_add haround]
      simp [Tree.bare, hkind, Branches.bare_toTree, hst.branches]

/-- What is read of a text by itself is read of it in parentheses, and then they close. -/
theorem parseFrom_inside {outer : Enclosure} {n fuel fuel' : Nat} (hn : n < fuel)
    (hfuel : fuel ≤ fuel') {st st' : State} (hst : st.Inside outer st') {c c' : Cursor}
    (hc : c.Within n c') {t t' : Tree} (ht : parseFrom fuel st c = .ok t)
    (ht' : parseFrom fuel' st' c' = .ok t') :
    t'.bare = ((outer.around.add (.group .nowhere outer.kind t)).toTree 0).bare := by
  -- Each step reads one lexeme, which takes at least one of the `n` characters that are left.
  induction fuel generalizing n fuel' st st' c c' with
  | zero => exact absurd hn (Nat.not_lt_zero n)
  | succ fuel ih =>
      rcases fuel' with _ | fuel'
      · exact absurd hfuel (Nat.not_succ_le_zero fuel)
      have hskip := hc.skipBlanks st.ignoreSpace
      cases hrest : (c.skipBlanks st.ignoreSpace).rest with
      | nil =>
          have hfinish : st.finish (c.skipBlanks st.ignoreSpace).pos = .ok t := by
            simpa only [parseFrom, hrest] using ht
          rcases hskip.rest with hclose | ⟨-, hnil⟩
          · rw [hrest, List.nil_append, ← hst.ignoreSpace] at hclose
            exact parseFrom_closing hst hclose hfinish ht'
          · -- A comment has reached over the parenthesis, so the group is not closed.
            rw [parseFrom, hst.ignoreSpace] at ht'
            simp only [hnil] at ht'
            exact absurd ht' (hst.finish_ne_ok _ _)
      | cons a cs =>
          have hrest' := hskip.rest_eq_append (by simp [hrest])
          simp only [parseFrom, hst.ignoreSpace, hst.repeatable] at ht ht'
          generalize c.skipBlanks st.ignoreSpace = c at hskip hrest hrest' ht
          generalize c'.skipBlanks st.ignoreSpace = c' at hskip hrest' ht'
          rw [hrest] at ht hrest'
          rw [hrest'] at ht'
          have ha : c.peek? = some a := by rw [Cursor.peek?, hrest]; rfl
          have hread := readLexeme_echoes st.ignoreSpace st.branches.repeatable hskip ha
          obtain ⟨f, hr⟩ | ⟨lexeme, after, lexeme', after', hr, hr', hlexeme, hafter⟩ := hread.cases
          · simp [hr] at ht
          simp only [hr] at ht
          simp only [List.cons_append, hr'] at ht'
          split at ht
          · cases ht
          next next hadd =>
          split at ht'
          · cases ht'
          next next' hadd' =>
          have hpos : 0 < n := by
            have hle := hskip.length_le
            rw [hrest] at hle
            exact Nat.lt_of_lt_of_le (Nat.succ_pos _) hle
          exact ih (by omega) (Nat.le_of_succ_le_succ hfuel) (hst.add hlexeme hadd hadd') hafter
            ht ht'

theorem parseFrom_of_parse {source : List Char} {t : Tree} (h : parse source = .ok t) :
    parseFrom (source.length + 1) .initial (.ofSource source) = .ok t := by
  unfold parse at h
  split at h
  · cases h
  · next t' ht =>
      split at h
      · cases h
      · cases h
        exact ht

/-- The opening of a group of this kind, whatever well-formed text is in the group. -/
structure Opens (opening : List Char) (kind : GroupKind) : Prop where
  head : opening.head? = some '('
  read : ∀ text t, parse text = .ok t → ∀ lexeme after,
    readGroup false ⟨0, opening ++ (text ++ [')'])⟩ = .ok (lexeme, after) →
      lexeme.bare = .opening kind.bare ∧ after.rest = text ++ [')']
  /-- Blanks count in the group as they do before it. -/
  ignoreSpace : (State.initial.enter kind 0 0).ignoreSpace = false

theorem parseFrom_paren (fuel : Nat) (cs : List Char) :
    parseFrom (fuel + 1) .initial ⟨0, '(' :: cs⟩ =
      match readGroup false ⟨0, '(' :: cs⟩ with
      | .error e => .error e
      | .ok (lexeme, after) =>
        match State.initial.add 0 after.pos lexeme with
        | .error e => .error e
        | .ok st => parseFrom fuel st after :=
  rfl

/-- A source in a group is parsed as it is by itself, but for the spans. -/
theorem parse_group {opening text : List Char} {kind : GroupKind} (h : Opens opening kind)
    {t t' : Tree} (ht : parse text = .ok t) (ht' : parse (opening ++ (text ++ [')'])) = .ok t') :
    t'.bare = (Tree.group .nowhere kind t).bare := by
  have hread := h.read text t ht
  rcases List.head?_eq_some_iff.1 h.head with ⟨more, rfl⟩
  have hgroup := parseFrom_of_parse ht'
  rw [List.cons_append] at hread hgroup
  rw [Cursor.ofSource, parseFrom_paren] at hgroup
  split at hgroup
  · cases hgroup
  next lexeme after hlexeme =>
  obtain ⟨hkind, hrest⟩ := hread lexeme after hlexeme
  cases lexeme with
  | opening kind' =>
      have hkind' : kind'.bare = kind.bare := Lexeme.opening.inj hkind
      -- No name has been given before.
      have hadd : State.initial.add 0 after.pos (.opening kind') =
          .ok (State.initial.enter kind' 0 after.pos) := by
        cases kind' <;> rfl
      rw [hadd] at hgroup
      have hspace := State.Inside.ignoreSpace_enter
        (rfl : State.initial.ignoreSpace = State.initial.ignoreSpace) hkind' 0 0 0 after.pos
      have hinside : State.initial.Inside ⟨0, kind', .begin 0, false⟩
          (State.initial.enter kind' 0 after.pos) :=
        ⟨rfl, rfl, hspace.trans h.ignoreSpace⟩
      have hwithin : Cursor.Within text.length (.ofSource text) after :=
        ⟨Nat.le_refl _, .inl hrest⟩
      have hbare := parseFrom_inside (Nat.lt_succ_self _) (by simp; omega) hinside hwithin
        (parseFrom_of_parse ht) hgroup
      rw [hbare]
      exact congrArg (Tree.group .nowhere · t.bare) hkind'
  | _ => cases hkind

end PriorityLexer.Source
