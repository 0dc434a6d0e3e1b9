import PriorityLexer.Proofs.Source.Readers
import PriorityLexer.Source.Lexeme

/-!
# Lexemes — quantifiers, groups and lexemes in parentheses

A quantifier, the opening of a group and every other lexeme is read in parentheses as it is by
itself.

* `readCounted_echoes`, `readSign_within` — quantifiers;
* `readFlagsFrom_echoes`, `readNamed_echoes`, `readGroup_echoes` — the openings of groups;
* `Lexeme.bare` — a lexeme without its spans;
* `readLexeme_echoes` — what is a lexeme of a text is one of the text in parentheses.
-/

namespace PriorityLexer.Source

variable {n : Nat} {c c' : Cursor}

/-! ## Quantifiers -/

theorem readCount_within (h : c.Within n c') (ignoreSpace : Bool) :
    ((∃ f, (readCount ignoreSpace c).1 = .error f) ∨
      (readCount ignoreSpace c').1 = (readCount ignoreSpace c).1) ∧
    (readCount ignoreSpace c).2.Within n (readCount ignoreSpace c').2 := by
  obtain ⟨digits, last, last', hgather, hgather', hlast⟩ :=
    h.skipWhite.gather ignoreSpace Char.isDigit (.inl rfl)
  simp only [readCount, hgather, hgather']
  refine ⟨?_, hlast.skipWhite⟩
  split
  · exact .inl ⟨_, rfl⟩
  split
  · exact .inl ⟨_, rfl⟩
  · exact .inr rfl

theorem readBounds_echoes (ignoreSpace : Bool) (h : c.Within n c') (hc : c.rest ≠ []) :
    Echoes (n - 1) id (readBounds ignoreSpace c) (readBounds ignoreSpace c') := by
  have hfirst := h.next hc ignoreSpace
  simp only [readBounds]
  refine .unlessAtEnd hfirst fun _ => ?_
  obtain ⟨hcount, hlast⟩ := readCount_within hfirst ignoreSpace
  generalize readCount ignoreSpace (c.next ignoreSpace) = lower at hcount hlast ⊢
  generalize readCount ignoreSpace (c'.next ignoreSpace) = lower' at hcount hlast ⊢
  rcases lower with ⟨lower, last⟩
  rcases lower' with ⟨lower', last'⟩
  cases ha : last.peek? with
  | none => exact .error _
  | some a =>
      simp only [hlast.peek? ha]
      split
      · have hsecond := hlast.next_le (Cursor.ne_nil_of_peek? ha) ignoreSpace
        refine .unlessAtEnd hsecond fun _ => ?_
        rcases hcount with ⟨f, rfl⟩ | rfl
        · exact .error f
        cases lower' with
        | error f => exact .error f
        | ok lower =>
            simp only [bind, Except.bind]
            have hbrace : (last'.next ignoreSpace).peek? = some '\x7d' ↔
                (last.next ignoreSpace).peek? = some '\x7d' := hsecond.peek?_iff (by decide)
            simp only [hbrace]
            split
            · exact .ok rfl hsecond
            obtain ⟨hcount, hlast⟩ := readCount_within hsecond ignoreSpace
            rcases hcount with ⟨f, hf⟩ | heq
            · simp only [hf]
              exact .error f
            rw [heq]
            cases (readCount ignoreSpace (last.next ignoreSpace)).1 with
            | error f => exact .error f
            | ok upper => exact .ok rfl hlast
      · rcases hcount with ⟨f, rfl⟩ | rfl
        · exact .error f
        cases lower' with
        | error f => exact .error f
        | ok count => exact .ok rfl hlast

theorem readCounted_echoes (ignoreSpace : Bool) (h : c.Within n c') (hc : c.rest ≠ []) :
    Echoes (n - 1) id (readCounted ignoreSpace c) (readCounted ignoreSpace c') := by
  simp only [readCounted]
  obtain ⟨f, hr⟩ | ⟨_, last, ⟨lower, upper⟩, last', hr, hr', rfl, hlast⟩ :=
    (readBounds_echoes ignoreSpace h hc).cases
  · rw [hr]
    exact .error f
  rw [hr, hr']
  simp only [bind, Except.bind, id]
  have hbrace : last'.peek? = some '\x7d' ↔ last.peek? = some '\x7d' := hlast.peek?_iff (by decide)
  simp only [ne_eq, hbrace]
  split
  · exact .error _
  · next hclose =>
      have hclosed :=
        hlast.next_le (Cursor.ne_nil_of_peek? (Classical.not_not.1 hclose)) ignoreSpace
      have hlazy : (last'.next ignoreSpace).peek? = some '?' ↔
          (last.next ignoreSpace).peek? = some '?' := hclosed.peek?_iff (by decide)
      simp only [hlazy]
      split
      · exact .error _
      · refine .ok rfl ?_
        split
        · next hpeek => exact hclosed.bump_le (Cursor.ne_nil_of_peek? hpeek)
        · exact hclosed

theorem readSign_within (lower : Nat) (upper : Option Nat) (h : c.Within n c') (hc : c.rest ≠ []) :
    (readSign lower upper c').1 = (readSign lower upper c).1 ∧
      (readSign lower upper c).2.Within (n - 1) (readSign lower upper c').2 := by
  have hsign := h.bump hc
  have hlazy : c'.bump.peek? = some '?' ↔ c.bump.peek? = some '?' := hsign.peek?_iff (by decide)
  simp only [readSign, hlazy]
  refine ⟨trivial, ?_⟩
  split
  · next hpeek => exact hsign.bump_le (Cursor.ne_nil_of_peek? hpeek)
  · exact hsign

/-! ## Groups -/

/-- A flag with its place, without it. -/
def flagOf (s : Flag × Bool × Span) : Flag × Bool := (s.1, s.2.1)

theorem find?_flag (flag : Flag) (seen : List (Flag × Bool × Span)) :
    (seen.find? (·.1 = flag)).map flagOf = (seen.map flagOf).find? (·.1 = flag) := by
  rw [List.find?_map]
  rfl

theorem readFlagsFrom_echoes (negation negation' : Option Span) (dangling : Bool)
    (seen seen' : List (Flag × Bool × Span)) (pos pos' : Nat) (cs : List Char)
    (hnegation : negation = none ∧ negation' = none ∨
      ∃ span span', negation = some span ∧ negation' = some span')
    (hseen : seen'.map flagOf = seen.map flagOf) :
    Echoes cs.length id (readFlagsFrom negation dangling seen pos cs)
      (readFlagsFrom negation' dangling seen' pos' (cs ++ [')'])) := by
  induction cs generalizing negation negation' dangling seen seen' pos pos' with
  | nil => exact .error _
  | cons a cs ih =>
      have hchanges : seen'.reverse.map flagOf = seen.reverse.map flagOf := by
        rw [List.map_reverse, List.map_reverse, hseen]
      have hstop : Cursor.Within (a :: cs).length ⟨pos + 1, cs⟩ ⟨pos' + 1, cs ++ [')']⟩ :=
        ⟨Nat.le_succ _, .inl rfl⟩
      simp only [List.cons_append, readFlagsFrom]
      split
      · -- The flags end here.
        rcases hnegation with ⟨rfl, rfl⟩ | ⟨span, span', rfl, rfl⟩
        · exact .ok (congrArg (·, a) hchanges) hstop
        · simp only
          split
          · exact .error _
          · exact .ok (congrArg (·, a) hchanges) hstop
      split
      · rcases hnegation with ⟨rfl, rfl⟩ | ⟨span, span', rfl, rfl⟩
        · exact Echoes.mono (ih _ _ _ _ _ _ _ (.inr ⟨_, _, rfl, rfl⟩) hseen) (Nat.le_succ _)
        · exact .error _
      cases Flag.find? a with
      | none => exact .error _
      | some flag =>
          have hnone : negation'.isNone = negation.isNone := by
            rcases hnegation with ⟨rfl, rfl⟩ | ⟨span, span', rfl, rfl⟩ <;> rfl
          have hfind := find?_flag flag seen'
          rw [hseen, ← find?_flag] at hfind
          cases hold : seen.find? (·.1 = flag) with
          | some s => simp only [hold]; exact .error _
          | none =>
              rw [hold, Option.map_none, Option.map_eq_none_iff] at hfind
              simp only [hold, hfind]
              exact Echoes.mono (ih _ _ _ _ _ _ _ hnegation (by simp [flagOf, hnone, hseen]))
                (Nat.le_succ _)

/-- The name of a group ends at its bracket, which stands before the end of the text. -/
theorem readNameFrom_echoes (first : Bool) (pos pos' : Nat) (cs : List Char) :
    Echoes cs.length id (readNameFrom first pos cs) (readNameFrom first pos' (cs ++ [')'])) := by
  induction cs generalizing first pos pos' with
  | nil => exact .error _
  | cons a cs ih =>
      simp only [List.cons_append, readNameFrom]
      split
      · exact .ok rfl ⟨Nat.le_succ _, .inl rfl⟩
      cases (if first = true then isNameStart a else isNamePart a) with
      | false => exact .error _
      | true =>
          obtain ⟨f, hr⟩ | ⟨_, after, name, after', hr, hr', rfl, hafter⟩ :=
            (ih false (pos + 1) (pos' + 1)).cases
          · rw [hr]
            exact .error f
          · rw [hr, hr']
            exact .ok rfl (hafter.mono (Nat.le_succ _))

/-! ## Lexemes -/

def Lexeme.bare : Lexeme → Lexeme
  | .part t => .part t.bare
  | .opening kind => .opening kind.bare
  | .quantifier q => .quantifier q
  | .directive changes => .directive changes
  | .closing => .closing
  | .bar => .bar

theorem readNamed_echoes (h : c.Within n c') :
    Echoes n Lexeme.bare (readNamed c) (readNamed c') := by
  simp only [readNamed]
  rcases h.rest with hrest | ⟨hnil, -⟩
  · rw [hrest]
    obtain ⟨f, hr⟩ | ⟨_, after, name, after', hr, hr', rfl, hafter⟩ :=
      (readNameFrom_echoes true c.pos c'.pos c.rest).cases
    · rw [hr]
      exact .error f
    · rw [hr, hr']
      simp only [bind, Except.bind, id]
      split
      · exact .error _
      · exact .ok rfl (hafter.mono h.length_le)
  · rw [hnil]
    exact .error _

/-- What starts a group that looks ahead or behind comes next in both or in neither. -/
theorem findSome?_skipText? (h : c.Within n c') :
    lookArounds.findSome? (fun text => c.skipText? text) = none →
      lookArounds.findSome? (fun text => c'.skipText? text) = none := by
  intro hnone
  rw [List.findSome?_eq_none_iff] at hnone ⊢
  intro text htext
  have hparen : ∀ text ∈ lookArounds, ')' ∉ text := by decide
  rcases h.skipText? text (hparen text htext) with ⟨-, hnone'⟩ | ⟨after, -, hafter, -⟩
  · exact hnone'
  · cases (hnone text htext).symm.trans hafter

theorem readGroup_echoes (ignoreSpace : Bool) (h : c.Within n c') (hc : c.rest ≠ []) :
    Echoes (n - 1) Lexeme.bare (readGroup ignoreSpace c) (readGroup ignoreSpace c') := by
  have hinner := h.next hc ignoreSpace
  simp only [readGroup]
  generalize c.next ignoreSpace = inner at hinner ⊢
  generalize c'.next ignoreSpace = inner' at hinner ⊢
  cases hlook : lookArounds.findSome? (fun text => inner.skipText? text) with
  | some after => exact .error _
  | none =>
      rw [findSome?_skipText? hinner hlook]
      simp only
      rcases hinner.skipText?_or ['?', 'P', '<'] ['?', '<'] (by decide) (by decide) with
        ⟨hname, hname'⟩ | ⟨after, after', hname, hname', hafter⟩
      · rw [hname, hname']
        have hmark : inner'.peek? = some '?' ↔ inner.peek? = some '?' :=
          hinner.peek?_iff (by decide)
        simp only [hmark]
        split
        · next hpeek =>
            have hflags := hinner.bump_le (Cursor.ne_nil_of_peek? hpeek)
            generalize inner.bump = flags at hflags ⊢
            generalize inner'.bump = flags' at hflags ⊢
            refine .unlessAtEnd hflags fun hne => ?_
            rw [hflags.rest_eq_append hne]
            obtain ⟨f, hr⟩ | ⟨_, after, ⟨changes, last⟩, after', hr, hr', rfl, hafter⟩ :=
              (readFlagsFrom_echoes none none false [] [] flags.pos flags'.pos flags.rest
                (.inl ⟨rfl, rfl⟩) rfl).cases
            · rw [hr]
              exact .error f
            rw [hr, hr']
            have hafter := hafter.mono hflags.length_le
            simp only [bind, Except.bind, id]
            split
            · exact .ok rfl hafter
            split
            · exact .error _
            · exact .ok rfl hafter
        · exact .ok rfl hinner
      · rw [hname, hname']
        exact readNamed_echoes hafter

/-- A lexeme takes at least one character. -/
theorem readLexeme_echoes (ignoreSpace repeatable : Bool) {a : Char} (h : c.Within n c')
    (ha : c.peek? = some a) :
    Echoes (n - 1) Lexeme.bare (readLexeme ignoreSpace repeatable a c)
      (readLexeme ignoreSpace repeatable a c') := by
  have hne := Cursor.ne_nil_of_peek? ha
  have hbump := h.bump hne
  have hsign (lower : Nat) (upper : Option Nat) :
      Echoes (n - 1) Lexeme.bare
        (if repeatable then (Except.ok (readSign lower upper c)).map fun q => (.quantifier q.1, q.2)
          else .error (.of .repetitionMissing (.point c.pos)))
        (if repeatable then
          (Except.ok (readSign lower upper c')).map fun q => (.quantifier q.1, q.2)
          else .error (.of .repetitionMissing (.point c'.pos))) := by
    obtain ⟨hq, hafter⟩ := readSign_within lower upper h hne
    split
    · exact .ok (congrArg (fun q => (Lexeme.quantifier q).bare) hq) hafter
    · exact .error _
  dsimp only [readLexeme]
  split
  · exact readGroup_echoes ignoreSpace h hne
  · exact .ok rfl hbump
  · exact .ok rfl hbump
  · obtain ⟨f, hr⟩ | ⟨t, after, t', after', hr, hr', ht, hafter⟩ :=
      (readBracket_echoes ignoreSpace h hne).cases
    · rw [hr]
      exact .error f
    · rw [hr, hr']
      exact .ok (congrArg Lexeme.part ht) hafter
  · exact hsign 0 (some 1)
  · exact hsign 0 none
  · exact hsign 1 none
  · split
    · obtain ⟨f, hr⟩ | ⟨_, after, q, after', hr, hr', rfl, hafter⟩ :=
        (readCounted_echoes ignoreSpace h hne).cases
      · rw [hr]
        exact .error f
      · rw [hr, hr']
        exact .ok rfl hafter
    · exact .error _
  · obtain ⟨f, hr⟩ | ⟨a, after, a', after', hr, hr', ha, hafter⟩ :=
      (readEscape_echoes ignoreSpace h hne).cases
    · rw [hr]
      exact .error f
    · rw [hr, hr']
      exact .ok (congrArg (fun a => Lexeme.part (.atom a)) ha) hafter
  · exact .ok rfl hbump
  · exact .ok rfl hbump
  · exact .ok rfl hbump
  · exact .ok rfl hbump

end PriorityLexer.Source
