import PriorityLexer.Proofs.Source.Spans
import PriorityLexer.Proofs.Source.Within
import PriorityLexer.Source.Bracket

/-!
# Readers — escapes and classes in parentheses

What is read of a text as an escape or a class is read of the text in parentheses as well.  A class
may hold a parenthesis, so each reader is seen to stop before the one behind the text.

* `readEscape_echoes` — escapes, with hexadecimal numbers, properties and boundaries;
* `Members.bare`, `Level.bare` — what has been read of an open class, without its spans;
* `within_run` — a run of characters in both texts;
* `peekAfter?_iff` — the character behind a hyphen;
* `readRange_echoes`, `readBracket_echoes` — members and ranges, and a whole class.
-/

namespace PriorityLexer.Source

variable {n : Nat} {c c' : Cursor}

/-! ## Escapes -/

theorem readDigits_echoes (ignoreSpace : Bool) (count : Nat) (h : c.Within n c') :
    Echoes n id (readDigits ignoreSpace count c) (readDigits ignoreSpace count c') := by
  induction count generalizing c c' with
  | zero => exact .ok rfl h
  | succ count ih =>
      rw [readDigits, readDigits]
      cases hd : c.peek? with
      | none => exact .error _
      | some d =>
          simp only [h.peek? hd]
          split
          · exact .error _
          have hnext := h.next_le (Cursor.ne_nil_of_peek? hd) ignoreSpace
          obtain ⟨f, hr⟩ | ⟨_, last, ds, last', hr, hr', rfl, hlast⟩ := (ih hnext).cases
          · rw [hr]
            exact .error f
          · rw [hr, hr']
            exact .ok rfl hlast

theorem readBracedHex_echoes (ignoreSpace : Bool) (start start' : Nat) (h : c.Within n c')
    (hc : c.rest ≠ []) :
    Echoes n Atom.bare (readBracedHex ignoreSpace start c)
      (readBracedHex ignoreSpace start' c') := by
  obtain ⟨digits, last, last', hgather, hgather', hlast⟩ :=
    (h.bump_le hc).gather ignoreSpace (fun d => (hexDigit? d).isSome) (.inl rfl)
  simp only [readBracedHex, hgather, hgather']
  cases ha : last.peek? with
  | none => exact .error _
  | some a =>
      simp only [hlast.peek? ha]
      split
      · split
        · exact .error _
        cases scalar? digits with
        | none => exact .error _
        | some char => exact .ok rfl (hlast.next_le (Cursor.ne_nil_of_peek? ha) ignoreSpace)
      · exact .error _

theorem readHex_echoes (ignoreSpace : Bool) (start start' count : Nat) (h : c.Within n c') :
    Echoes n Atom.bare (readHex ignoreSpace start count c)
      (readHex ignoreSpace start' count c') := by
  simp only [readHex]
  cases ha : c.peek? with
  | none => exact .error _
  | some a =>
      simp only [h.peek? ha]
      split
      · exact readBracedHex_echoes ignoreSpace start start' h (Cursor.ne_nil_of_peek? ha)
      obtain ⟨f, hr⟩ | ⟨_, last, digits, last', hr, hr', rfl, hlast⟩ :=
        (readDigits_echoes ignoreSpace count h).cases
      · rw [hr]
        exact .error f
      · simp only [hr, hr', id]
        cases scalar? digits with
        | none => exact .error _
        | some char => exact .ok rfl hlast

theorem readProperty_echoes (ignoreSpace : Bool) (start start' : Nat) (negated : Bool)
    (h : c.Within n c') :
    Echoes n Atom.bare (readProperty ignoreSpace start negated c)
      (readProperty ignoreSpace start' negated c') := by
  simp only [readProperty]
  cases ha : c.peek? with
  | none => exact .error _
  | some a =>
      have hne := Cursor.ne_nil_of_peek? ha
      simp only [h.peek? ha]
      split
      · -- A name may hold a parenthesis, but not the one behind the text.
        by_cases hend : (c.bump.gather ignoreSpace (· != '\x7d')).2.rest = []
        · simp only [if_pos (Cursor.atEnd_iff.2 hend)]
          exact .error _
        obtain ⟨text, last, last', hgather, hgather', hlast⟩ :=
          (h.bump_le hne).gather ignoreSpace (· != '\x7d') (.inr hend)
        simp only [hgather, hgather']
        exact .unlessAtEnd hlast fun hne => .ok rfl (hlast.bump_le hne)
      split
      · exact .error _
      · exact .ok rfl (h.next_le hne ignoreSpace)

theorem readBoundary_echoes (ignoreSpace : Bool) (start start' : Nat) (h : c.Within n c') :
    Echoes n Atom.bare (readBoundary ignoreSpace start c)
      (readBoundary ignoreSpace start' c') := by
  have hbrace : c'.peek? = some '\x7b' ↔ c.peek? = some '\x7b' := h.peek?_iff (by decide)
  simp only [readBoundary, hbrace]
  split
  · next hopen =>
      have hfirst := h.next_le (Cursor.ne_nil_of_peek? hopen) ignoreSpace
      cases ha : (c.next ignoreSpace).peek? with
      | none => exact .error _
      | some a =>
          simp only [hfirst.peek? ha]
          split
          · obtain ⟨name, last, last', hgather, hgather', hlast⟩ :=
              hfirst.gather ignoreSpace (fun a => a.isAlpha || decide (a = '-')) (.inl rfl)
            have hclose : last'.peek? = some '\x7d' ↔ last.peek? = some '\x7d' :=
              hlast.peek?_iff (by decide)
            simp only [hgather, hgather', hclose]
            split
            · next hbrace =>
                cases boundaryNamed? (.ofList name) with
                | none => exact .error _
                | some kind => exact .ok rfl (hlast.bump_le (Cursor.ne_nil_of_peek? hbrace))
            · exact .error _
          · exact .ok rfl h
  · exact .ok rfl h

theorem readEscape_echoes (ignoreSpace : Bool) (h : c.Within n c') (hc : c.rest ≠ []) :
    Echoes (n - 1) Atom.bare (readEscape ignoreSpace c) (readEscape ignoreSpace c') := by
  have hletter := h.bump hc
  simp only [readEscape]
  cases ha : c.bump.peek? with
  | none => exact .error _
  | some a =>
      have hne := Cursor.ne_nil_of_peek? ha
      have hafter := hletter.bump_le hne
      have hnext := hletter.next_le hne ignoreSpace
      simp only [hletter.peek? ha]
      split
      · exact .error _
      split
      · exact readHex_echoes ignoreSpace c.pos c'.pos _ hnext
      split
      · exact readProperty_echoes ignoreSpace c.pos c'.pos _ hnext
      split
      · exact .ok rfl hafter
      split
      · exact .ok rfl hafter
      split
      · exact .ok rfl hafter
      split
      · exact .ok rfl hafter
      split
      · exact readBoundary_echoes ignoreSpace c.pos c'.pos hafter
      · exact .error _

/-! ## Open classes -/

def Members.bare (m : Members) : Members :=
  ⟨.nowhere, m.reversed.map ClassTree.bare⟩

namespace Members

variable {m m' : Members}

theorem bare_add (h : m'.bare = m.bare) {t t' : ClassTree} (ht : t'.bare = t.bare) :
    (m'.add t').bare = (m.add t).bare := by
  have hreversed : m'.reversed.map ClassTree.bare = m.reversed.map ClassTree.bare :=
    congrArg Members.reversed h
  simp [bare, add, ht, hreversed]

theorem isEmpty_eq (h : m'.bare = m.bare) : m'.reversed.isEmpty = m.reversed.isEmpty := by
  have hempty := congrArg (fun m => m.reversed.isEmpty) h
  simpa [bare] using hempty

theorem bare_toTree (m : Members) : m.toTree.bare = m.bare.toTree := by
  rcases m with ⟨span, reversed⟩
  match reversed with
  | [] => rfl
  | [t] => rfl
  | t :: t' :: ts =>
      simp [toTree, bare, ClassTree.bare, ClassTree.bareAll_eq_map]

end Members

def Level.bare (l : Level) : Level :=
  ⟨.nowhere, l.negated, l.pending.map fun p => (p.1, p.2.bare), l.members.bare⟩

namespace Level

variable {l l' : Level}

theorem bare_toTree (l : Level) :
    l.toTree.bare =
      match l.bare.pending with
      | none => l.bare.members.toTree
      | some (operator, lhs) => .operation .nowhere operator lhs l.bare.members.toTree := by
  rcases l with ⟨opening, negated, pending, members⟩
  cases pending with
  | none => exact members.bare_toTree
  | some p => simp [toTree, bare, ClassTree.bare, members.bare_toTree]

theorem bare_toTree_eq (h : l'.bare = l.bare) : l'.toTree.bare = l.toTree.bare := by
  rw [bare_toTree, bare_toTree, h]

theorem negated_eq (h : l'.bare = l.bare) : l'.negated = l.negated :=
  (Level.mk.inj h).2.1

theorem bare_add (h : l'.bare = l.bare) {t t' : ClassTree} (ht : t'.bare = t.bare) :
    (l'.add t').bare = (l.add t).bare := by
  simp only [bare, Level.mk.injEq] at h
  simp [bare, add, h, Members.bare_add h.2.2.2 ht]

theorem bare_operate (h : l'.bare = l.bare) (operator : SetOperator) (pos pos' : Nat) :
    (l'.operate operator pos').bare = (l.operate operator pos).bare := by
  simp [bare, operate, negated_eq h, bare_toTree_eq h, Members.bare, Members.none]

theorem bare_bracketed (h : l'.bare = l.bare) (span span' : Span) :
    (ClassTree.bracketed span' l'.negated l'.toTree).bare =
      (ClassTree.bracketed span l.negated l.toTree).bare := by
  simp [ClassTree.bare, negated_eq h, bare_toTree_eq h]

end Level

/-! ## Parts of a class -/

theorem readHyphens_echoes (ignoreSpace : Bool) (start start' : Nat) {fuel fuel' : Nat}
    (m m' : Members) (hm : m'.bare = m.bare) (h : c.Within n c') (hc : c.rest ≠ [])
    (hn : n ≤ fuel) (hfuel : fuel ≤ fuel') :
    Echoes n Members.bare (readHyphens ignoreSpace start fuel m c)
      (readHyphens ignoreSpace start' fuel' m' c') := by
  -- With fuel for every character it never runs out before a character that is no hyphen.
  induction fuel generalizing n m m' c c' fuel' with
  | zero =>
      have hle := Nat.le_trans h.length_le hn
      exact absurd (List.length_eq_zero_iff.1 (Nat.le_zero.1 hle)) hc
  | succ fuel ih =>
      rcases fuel' with _ | fuel'
      · exact absurd hfuel (Nat.not_succ_le_zero fuel)
      have hhyphen : c'.peek? = some '-' ↔ c.peek? = some '-' := h.peek?_iff (by decide)
      simp only [readHyphens, hhyphen]
      split
      · have hnext := h.next hc ignoreSpace
        refine .unlessAtEnd hnext fun hne => ?_
        exact Echoes.mono (ih _ _ (Members.bare_add hm rfl) hnext hne
          (Nat.sub_le_of_le_add hn) (Nat.le_of_succ_le_succ hfuel)) (Nat.sub_le n 1)
      · exact .ok hm h

theorem readOpening_echoes (ignoreSpace : Bool) (h : c.Within n c') (hc : c.rest ≠ []) :
    Echoes (n - 1) Level.bare (readOpening ignoreSpace c) (readOpening ignoreSpace c') := by
  have hfirst := h.next hc ignoreSpace
  have hnegated : (c'.next ignoreSpace).peek? = some '^' ↔ (c.next ignoreSpace).peek? = some '^' :=
    hfirst.peek?_iff (by decide)
  simp only [readOpening, hnegated]
  refine .unlessAtEnd hfirst fun hne => ?_
  -- The circumflex is passed over where there is one.
  have hsecond : Cursor.Within (n - 1)
      (if (c.next ignoreSpace).peek? = some '^' then (c.next ignoreSpace).next ignoreSpace
        else c.next ignoreSpace)
      (if (c.next ignoreSpace).peek? = some '^' then (c'.next ignoreSpace).next ignoreSpace
        else c'.next ignoreSpace) := by
    split
    · exact hfirst.next_le hne ignoreSpace
    · exact hfirst
  generalize (if (c.next ignoreSpace).peek? = some '^' then (c.next ignoreSpace).next ignoreSpace
    else c.next ignoreSpace) = second at hsecond ⊢
  generalize (if (c.next ignoreSpace).peek? = some '^' then (c'.next ignoreSpace).next ignoreSpace
    else c'.next ignoreSpace) = second' at hsecond ⊢
  refine .unlessAtEnd hsecond fun hne => ?_
  have hhyphens := readHyphens_echoes ignoreSpace c.pos c'.pos
    (.none second.pos) (.none second'.pos) rfl ⟨Nat.le_refl _, hsecond.rest⟩
    hne (Nat.le_refl _) hsecond.length_le_length
  obtain ⟨f, hr⟩ | ⟨members, third, members', third', hr, hr', hmembers, hthird⟩ := hhyphens.cases
  · rw [hr]
    exact .error f
  rw [hr, hr']
  have hthird := hthird.mono hsecond.length_le
  have hbracket : third'.peek? = some ']' ↔ third.peek? = some ']' := hthird.peek?_iff (by decide)
  simp only [Members.isEmpty_eq hmembers, hbracket]
  split
  · next hclose =>
      rw [Bool.and_eq_true, decide_eq_true_eq] at hclose
      have hafter := hthird.next_le (Cursor.ne_nil_of_peek? hclose.2) ignoreSpace
      refine .unlessAtEnd hafter fun _ => .ok ?_ hafter
      rw [Level.bare, Level.bare, Members.bare_add hmembers rfl]
      rfl
  · refine .ok ?_ hthird
    simp [Level.bare, hmembers]

theorem drop_length_takeWhile (p : Char → Bool) (cs : List Char) :
    cs.drop (cs.takeWhile p).length = cs.dropWhile p := by
  calc
    cs.drop (cs.takeWhile p).length
      = (cs.takeWhile p ++ cs.dropWhile p).drop (cs.takeWhile p).length := by
        rw [List.takeWhile_append_dropWhile]
    _ = cs.dropWhile p := List.drop_left

/-- A run of characters that ends inside the text is the same in both. -/
theorem within_run (h : c.Within n c') {p : Char → Bool} (hp : p ')' = true) :
    (c.rest.dropWhile p = [] ∧ c'.rest.dropWhile p = []) ∨
      (c'.rest.takeWhile p = c.rest.takeWhile p ∧
        Cursor.Within n ⟨c.pos + (c.rest.takeWhile p).length, c.rest.dropWhile p⟩
          ⟨c'.pos + (c.rest.takeWhile p).length, c'.rest.dropWhile p⟩) := by
  rcases h.rest with hrest | ⟨hnil, hnil'⟩
  · rw [hrest, List.takeWhile_append, List.dropWhile_append]
    by_cases hend : c.rest.dropWhile p = []
    · simp [hend, hp]
    · refine .inr ⟨?_, ?_, .inl ?_⟩
      · rw [if_neg]
        intro hlength
        have hall := (List.takeWhile_prefix p).eq_of_length hlength
        have happend := c.rest.takeWhile_append_dropWhile (p := p)
        rw [hall] at happend
        exact hend (List.append_right_eq_self.1 happend)
      · exact Nat.le_trans (c.rest.dropWhile_suffix p).length_le h.length_le
      · simp [hend]
  · simp [hnil, hnil']

theorem readAscii?_within (h : c.Within n c') :
    (readAscii? c = none ∧ readAscii? c' = none) ∨
      ∃ t after t' after', readAscii? c = some (t, after) ∧ readAscii? c' = some (t', after') ∧
        t'.bare = t.bare ∧ after.Within n after' := by
  unfold readAscii?
  rcases h.skipText? ['[', ':'] (by decide) with
    ⟨hnone, hnone'⟩ | ⟨first, first', hfirst, hfirst', hwithin⟩
  · simp [hnone, hnone']
  simp only [hfirst, hfirst', bind, Option.bind]
  have hnegated : first'.peek? = some '^' ↔ first.peek? = some '^' := hwithin.peek?_iff (by decide)
  simp only [hnegated, drop_length_takeWhile]
  have hname : Cursor.Within n (if first.peek? = some '^' then first.bump else first)
      (if first.peek? = some '^' then first'.bump else first') := by
    split
    · next hpeek => exact hwithin.bump_le (Cursor.ne_nil_of_peek? hpeek)
    · exact hwithin
  generalize (if first.peek? = some '^' then first.bump else first) = name at hname ⊢
  generalize (if first.peek? = some '^' then first'.bump else first') = name' at hname ⊢
  rcases within_run hname (p := (· != ':')) (by decide) with ⟨hend, hend'⟩ | ⟨hletters, hbehind⟩
  · simp [hend, hend', Cursor.skipText?]
  rw [hletters]
  rcases hbehind.skipText? [':', ']'] (by decide) with
    ⟨hnone, hnone'⟩ | ⟨after, after', hafter, hafter', hlast⟩
  · simp [hnone, hnone']
  simp only [hafter, hafter']
  cases AsciiClass.find? (.ofList (name.rest.takeWhile (· != ':'))) with
  | none => exact .inl ⟨rfl, rfl⟩
  | some kind => exact .inr ⟨_, after, _, after', rfl, rfl, rfl, hlast⟩

/-! ## Ranges -/

theorem peekAfterFrom_append (comment : Bool) (cs : List Char) :
    peekAfterFrom comment (cs ++ [')']) = (peekAfterFrom comment cs).or (some ')') := by
  induction cs generalizing comment with
  | nil => simp [peekAfterFrom, Cursor.isBlank_paren]
  | cons a cs ih =>
      simp only [List.cons_append, peekAfterFrom]
      split
      · exact ih comment
      split
      · exact ih true
      · rfl

theorem peekAfter?_iff (h : c.Within n c') (hc : c.rest ≠ []) (ignoreSpace : Bool) {a : Char}
    (ha : a ≠ ')' ∧ a ≠ '#' ∧ isBlank a = false) :
    peekAfter? ignoreSpace c' = some a ↔ peekAfter? ignoreSpace c = some a := by
  obtain ⟨hparen, hsign, hblank⟩ := ha
  have hrest : c'.rest.drop 1 = c.rest.drop 1 ++ [')'] := by
    rw [h.rest_eq_append hc, List.drop_append_of_le_length]
    exact List.length_pos_iff.2 hc
  have hhead (cs : List Char) : (cs ++ [')']).head? = some a ↔ cs.head? = some a := by
    cases cs with
    | nil => simp [Ne.symm hparen]
    | cons b cs => rfl
  simp only [peekAfter?, hrest]
  generalize c.rest.drop 1 = cs
  cases ignoreSpace with
  | false => exact hhead cs
  | true =>
      simp only [if_true, peekAfterFrom_append]
      cases hfrom : peekAfterFrom false cs with
      | some b => rfl
      | none =>
          -- All that is left is white space, which `a` is not.
          have hcs : cs.head? ≠ some a := by
            intro hfirst
            rcases List.head?_eq_some_iff.1 hfirst with ⟨more, rfl⟩
            simp [peekAfterFrom, hblank, hsign] at hfrom
          simp [hcs, Ne.symm hparen]

theorem readMember_echoes (ignoreSpace : Bool) (h : c.Within n c') :
    Echoes n Atom.bare (readMember ignoreSpace c) (readMember ignoreSpace c') := by
  unfold readMember
  cases ha : c.peek? with
  | none => exact .error _
  | some a =>
      have hne := Cursor.ne_nil_of_peek? ha
      rw [h.peek? ha]
      split
      · exact (readEscape_echoes ignoreSpace h hne).mono (Nat.sub_le n 1)
      · exact .ok rfl (h.bump_le hne)
      · exact .error _

theorem memberOf_bare {a a' : Atom} (h : a'.bare = a.bare) :
    (∃ f, memberOf a = .error f) ∨
      ∃ t t', memberOf a = .ok t ∧ memberOf a' = .ok t' ∧ t'.bare = t.bare := by
  cases a <;> cases a' <;> simp_all [Atom.bare, memberOf, ClassTree.bare]

theorem boundOf_bare {a a' : Atom} (h : a'.bare = a.bare) :
    (∃ f, boundOf a = .error f) ∨
      ∃ l l', boundOf a = .ok l ∧ boundOf a' = .ok l' ∧ l'.bare = l.bare := by
  cases a <;> cases a' <;> simp_all [Atom.bare, boundOf]

/-- Both members of a range are read before they are looked at. -/
theorem readRange_echoes (ignoreSpace : Bool) (l l' : Level) (h : c.Within n c') :
    Echoes n ClassTree.bare (readRange ignoreSpace l c) (readRange ignoreSpace l' c') := by
  simp only [readRange]
  obtain ⟨f, hr⟩ | ⟨first, next, first', next', hr, hr', hfirst, hnext⟩ :=
    (readMember_echoes ignoreSpace h).cases
  · rw [hr]
    exact .error f
  rw [hr, hr']
  simp only [bind, Except.bind]
  have hskip := hnext.skipBlanks ignoreSpace
  generalize next.skipBlanks ignoreSpace = c at hskip ⊢
  generalize next'.skipBlanks ignoreSpace = c' at hskip ⊢
  refine .unlessAtEnd hskip fun hne => ?_
  have hhyphen : c'.peek? = some '-' ↔ c.peek? = some '-' := hskip.peek?_iff (by decide)
  have hclose := peekAfter?_iff hskip hne ignoreSpace (a := ']') (by decide)
  have hdouble := peekAfter?_iff hskip hne ignoreSpace (a := '-') (by decide)
  simp only [ne_eq, hhyphen, hclose, hdouble]
  split
  · obtain ⟨f, hm⟩ | ⟨t, t', ht, ht', hbare⟩ := memberOf_bare hfirst
    · rw [hm]
      exact .error f
    · rw [ht, ht']
      exact .ok hbare hskip
  have hnext := hskip.next_le hne ignoreSpace
  refine .unlessAtEnd hnext fun hne => ?_
  obtain ⟨f, hr⟩ | ⟨second, last, second', last', hr, hr', hsecond, hlast⟩ :=
    (readMember_echoes ignoreSpace hnext).cases
  · rw [hr]
    exact .error f
  rw [hr, hr']
  obtain ⟨f, hlo⟩ | ⟨lo, lo', hlo, hlo', hlobare⟩ := boundOf_bare hfirst
  · simp only [hlo]
    exact .error f
  simp only [hlo, hlo']
  obtain ⟨f, hhi⟩ | ⟨hi, hi', hhi, hhi', hhibare⟩ := boundOf_bare hsecond
  · simp only [hhi]
    exact .error f
  have hlochar : lo'.char = lo.char := (Literal.mk.inj hlobare).2.1
  have hhichar : hi'.char = hi.char := (Literal.mk.inj hhibare).2.1
  simp only [hhi, hhi', hlochar, hhichar]
  split
  · exact .error _
  · refine .ok ?_ hlast
    rw [ClassTree.bare, ClassTree.bare, hlobare, hhibare]

/-! ## Classes -/

/-- An operator does not reach over the end of the text. -/
theorem operatorAt?_within (h : c.Within n c') (hc : c.rest ≠ []) :
    operatorAt? c' = operatorAt? c ∧ ((operatorAt? c).isSome = true → c.bump.rest ≠ []) := by
  have hrest := h.rest_eq_append hc
  rcases c with ⟨pos, _ | ⟨a, _ | ⟨b, cs⟩⟩⟩
  · exact absurd rfl hc
  · -- One character is left, and the parenthesis is no part of an operator.
    simp only [List.cons_append, List.nil_append] at hrest
    simp [operatorAt?, hrest]
  · simp only [List.cons_append] at hrest
    refine ⟨?_, fun _ => by simp [Cursor.bump]⟩
    simp only [operatorAt?, hrest]
    split
    · next heq =>
        cases heq
        rfl
    · next heq =>
        cases heq
        rfl
    · next heq =>
        cases heq
        rfl
    · next hinter hdiff hsymm =>
        split
        · next heq =>
            cases heq
            exact (hinter _ rfl).elim
        · next heq =>
            cases heq
            exact (hdiff _ rfl).elim
        · next heq =>
            cases heq
            exact (hsymm _ rfl).elim
        · rfl

theorem readLevels_echoes (ignoreSpace : Bool) {fuel fuel' : Nat} (hfuel : fuel ≤ fuel')
    {outer outer' : List Level} (houter : outer'.map Level.bare = outer.map Level.bare)
    {l l' : Level} (hl : l'.bare = l.bare) (h : c.Within n c') :
    Echoes n Tree.bare (readLevels ignoreSpace fuel outer l c)
      (readLevels ignoreSpace fuel' outer' l' c') := by
  -- Every case but the closing bracket of the outermost class goes on with less fuel.
  induction fuel generalizing fuel' outer outer' l l' c c' with
  | zero => exact .error _
  | succ fuel ih =>
      rcases fuel' with _ | fuel'
      · exact absurd hfuel (Nat.not_succ_le_zero fuel)
      have hfuel := Nat.le_of_succ_le_succ hfuel
      have hskip := h.skipBlanks ignoreSpace
      simp only [readLevels]
      generalize c.skipBlanks ignoreSpace = c at hskip ⊢
      generalize c'.skipBlanks ignoreSpace = c' at hskip ⊢
      cases ha : c.peek? with
      | none => exact .error _
      | some a =>
          have hne := Cursor.ne_nil_of_peek? ha
          simp only [hskip.peek? ha]
          split
          · -- A bracket opens a class of ASCII characters or, failing that, a nested class.
            obtain ⟨hnone, hnone'⟩ | ⟨t, after, t', after', ht, ht', hbare, hafter⟩ :=
              readAscii?_within hskip
            · simp only [hnone, hnone']
              obtain ⟨f, hr⟩ | ⟨inner, after, inner', after', hr, hr', hinner, hafter⟩ :=
                (readOpening_echoes ignoreSpace hskip hne).cases
              · rw [hr]
                exact .error f
              · rw [hr, hr']
                exact ih hfuel (by simp [hl, houter]) hinner (hafter.mono (Nat.sub_le n 1))
            · simp only [ht, ht']
              exact ih hfuel houter (Level.bare_add hl hbare) hafter
          split
          · have hbump := hskip.bump_le hne
            cases outer with
            | nil =>
                cases List.map_eq_nil_iff.1 houter
                refine .ok ?_ hbump
                simp [Tree.bare, Level.negated_eq hl, Level.bare_toTree_eq hl]
            | cons parent outer =>
                obtain ⟨parent', outer', rfl, hparent, houter⟩ := List.map_eq_cons_iff.1 houter
                exact ih hfuel houter (Level.bare_add hparent (Level.bare_bracketed hl _ _)) hbump
          · obtain ⟨hoperator, hbump⟩ := operatorAt?_within hskip hne
            rw [hoperator]
            cases hop : operatorAt? c with
            | some operator =>
                have hsecond := hbump (by rw [hop]; rfl)
                exact ih hfuel houter (Level.bare_operate hl operator _ _)
                  ((hskip.bump_le hne).bump_le hsecond)
            | none =>
                obtain ⟨f, hr⟩ | ⟨t, after, t', after', hr, hr', hbare, hafter⟩ :=
                  (readRange_echoes ignoreSpace l l' hskip).cases
                · simp only [hr]
                  exact .error f
                · simp only [hr, hr']
                  exact ih hfuel houter (Level.bare_add hl hbare) hafter

theorem readBracket_echoes (ignoreSpace : Bool) (h : c.Within n c') (hc : c.rest ≠ []) :
    Echoes (n - 1) Tree.bare (readBracket ignoreSpace c) (readBracket ignoreSpace c') := by
  unfold readBracket
  obtain ⟨f, hr⟩ | ⟨l, after, l', after', hr, hr', hl, hafter⟩ :=
    (readOpening_echoes ignoreSpace h hc).cases
  · rw [hr]
    exact .error f
  · rw [hr, hr']
    exact readLevels_echoes ignoreSpace (Nat.succ_le_succ hafter.length_le_length) rfl hl hafter

end PriorityLexer.Source
