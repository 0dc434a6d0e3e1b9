import Mathlib.Data.List.TakeWhile
import PriorityLexer.Proofs.Json.Form

/-!
# Scanning — reading the text of a form

The text of a form is read into its tree, whatever white space and escapes it holds and whatever
comes behind it.

* `scanString_inner` — a string is read as the characters that its pieces write;
* `scanNumber_text` — a number is read to its end;
* `NumberForm.value?_ofNatural` — a number is read from its decimal digits;
* `Form.scanNode_text` — a value is read to its end;
* `Form.ofText_append`, `Form.ofText_text` — a text that starts with a value, and a whole text;
* `Form.read_eq`, `Form.skip_node` — the tree of a form is taken in or passed over.
-/

namespace PriorityLexer.Json

/-! ## White space -/

theorem skipSpace_append (sp : Space) (cs : List Char) : skipSpace (sp ++ cs) = skipSpace cs := by
  rcases sp with ⟨space, hspace⟩
  induction space with
  | nil => rfl
  | cons c space ih =>
      rcases List.forall_mem_cons.1 hspace with ⟨hc, hrest⟩
      have hskip : skipSpace (c :: (space ++ cs)) = skipSpace (space ++ cs) :=
        List.dropWhile_cons_of_pos hc
      exact hskip.trans (ih hrest)

theorem skipSpace_cons {c : Char} (hc : isSpace c = false) (cs : List Char) :
    skipSpace (c :: cs) = c :: cs :=
  List.dropWhile_cons_of_neg (by simp [hc])

/-! ## Strings -/

theorem scanUnits_piece (p : Piece) (rest : List Char) :
    scanUnits (p.text ++ rest) = (p.units ++ (scanUnits rest).1, (scanUnits rest).2) := by
  have hcode (q : Quad) (rest : List Char) :
      scanUnits (q.text ++ rest) = (.code q.number :: (scanUnits rest).1, (scanUnits rest).2) := by
    simp [Quad.text, scanUnits, q.reads]
  cases p with
  | plain c h =>
      simp only [isPlain, Bool.and_eq_true, decide_eq_true_eq] at h
      rcases h with ⟨⟨hquote, hbackslash⟩, hcontrol⟩
      have hle : ¬ c.toNat < 0x20 := Nat.not_lt.2 hcontrol
      simp [Piece.text, Piece.units, scanUnits, hquote, hbackslash, hle]
  | short letter c h =>
      have hu : letter ≠ 'u' := by
        rintro rfl
        cases h
      simp [Piece.text, Piece.units, scanUnits, hu, h]
  | code q h => exact hcode q rest
  | pair lead trail h =>
      rw [Piece.text, List.append_assoc, hcode, hcode]
      rfl

theorem joinUnits_piece (p : Piece) (us : List CodeUnit) :
    joinUnits (p.units ++ us) = .cons p.char (joinUnits us) := by
  cases p with
  | plain c h => rfl
  | short letter c h => rfl
  | code q h =>
      cases us with
      | nil => simp [Piece.units, Piece.char, joinUnits, h, Joined.cons]
      | cons u us => simp [Piece.units, Piece.char, joinUnits, h]
  | pair lead trail h =>
      have hlead : isTrail lead.number = false := by
        have := h.1
        simp only [isLead, isTrail, Bool.and_eq_true, decide_eq_true_eq] at this ⊢
        simp only [Bool.and_eq_false_iff, decide_eq_false_iff_not]
        omega
      simp [Piece.units, Piece.char, joinUnits, h, hlead]

/-- The pieces of a string are read one by one up to the quotation mark. -/
theorem scanUnits_pieces (ps : List Piece) (rest : List Char) :
    scanUnits (ps.flatMap Piece.text ++ '"' :: rest) = (ps.flatMap Piece.units, .ok rest) := by
  induction ps with
  | nil => simp [scanUnits]
  | cons p ps ih =>
      rw [List.flatMap_cons, List.append_assoc, scanUnits_piece, ih, List.flatMap_cons]

theorem joinUnits_pieces (ps : List Piece) :
    joinUnits (ps.flatMap Piece.units) = .text (ps.map Piece.char) := by
  induction ps with
  | nil => rfl
  | cons p ps ih =>
      rw [List.flatMap_cons, joinUnits_piece, ih]
      rfl

theorem scanString_inner (s : StringForm) (rest : List Char) :
    scanString (s.inner ++ '"' :: rest) = .found s.value rest := by
  simp only [scanString, StringForm.inner, scanUnits_pieces, joinUnits_pieces]
  rfl

/-! ## Numbers -/

/-- The first character satisfies `p` if there is one. -/
def StartsWith (p : Char → Prop) (cs : List Char) : Prop :=
  ∀ c ∈ cs.head?, p c

/-- What comes behind a value does not belong to it, even if it is a number. -/
def Ends (rest : List Char) : Prop :=
  StartsWith (fun c => isDigit c = false ∧ c ≠ '.' ∧ c ≠ 'e' ∧ c ≠ 'E') rest

/-- What comes behind the number does not belong to it: which signs could depends on its parts. -/
def NumberForm.EndsBefore (n : NumberForm) (rest : List Char) : Prop :=
  StartsWith (fun c => isDigit c = false ∧
    (n.power = none → c ≠ 'e' ∧ c ≠ 'E' ∧ (n.fraction = [] → c ≠ '.'))) rest

/-- What comes behind the form does not belong to it; only numbers could go on. -/
def Form.EndsBefore : Form → List Char → Prop
  | .number n, rest => n.EndsBefore rest
  | _, _ => True

theorem Ends.endsBefore {rest : List Char} (h : Ends rest) (f : Form) : f.EndsBefore rest := by
  cases f with
  | number n =>
      intro c hc
      obtain ⟨hdigit, hpoint, he, hE⟩ := h c hc
      exact ⟨hdigit, fun _ => ⟨he, hE, fun _ => hpoint⟩⟩
  | _ => exact trivial

/-- A run of digits ends where another character comes. -/
theorem span_digits {ds rest : List Char} (hds : ∀ c ∈ ds, isDigit c = true)
    (hrest : StartsWith (isDigit · = false) rest) :
    (ds ++ rest).takeWhile isDigit = ds ∧ (ds ++ rest).dropWhile isDigit = rest := by
  have hstop : rest.takeWhile isDigit = [] ∧ rest.dropWhile isDigit = rest := by
    cases rest with
    | nil => exact ⟨rfl, rfl⟩
    | cons c rest =>
        have hc : isDigit c = false := hrest c rfl
        simp [hc]
  rw [List.takeWhile_append_of_pos hds, List.dropWhile_append_of_pos hds, hstop.1, hstop.2]
  simp

theorem isDigit_sign {c : Char} (h : isDigit c = true) : c ≠ '-' ∧ c ≠ '+' := by
  constructor
  · rintro rfl
    cases h
  · rintro rfl
    cases h

/-- The power behind its letter; the sign is told by the first character. -/
theorem scanPower_letter (u : Numeral) (p : PowerForm) {rest : List Char}
    (hrest : StartsWith (isDigit · = false) rest) :
    scanPower u (p.text ++ rest) = finishNumber { u with power := some p.power } rest := by
  have hspan := span_digits p.isDigit_digits hrest
  rcases hds : p.digits with _ | ⟨d, ds⟩
  · exact absurd hds p.digits_ne
  have hsign := isDigit_sign (p.isDigit_digits d (by simp [hds]))
  have hbehind : (p.sign.text ++ (p.digits ++ rest)).head? = some '-' ↔ p.sign = .minus := by
    cases p.sign <;> simp [PowerSign.text, hds, hsign]
  have hdigits : (if p.sign = .minus ∨ (p.sign.text ++ (p.digits ++ rest)).head? = some '+' then
      (p.sign.text ++ (p.digits ++ rest)).drop 1
      else p.sign.text ++ (p.digits ++ rest)) = p.digits ++ rest := by
    cases p.sign <;> simp [PowerSign.text, hds, hsign]
  have htext : p.text ++ rest = p.letter :: (p.sign.text ++ (p.digits ++ rest)) := by
    simp [PowerForm.text]
  rw [htext, scanPower]
  simp only [p.letter_eq, if_true, hbehind, hdigits, hspan, PowerForm.power]
  rw [hds]

theorem scanPower_text (u : Numeral) (p : Option PowerForm) {rest : List Char}
    (hu : u.power = none)
    (hrest : StartsWith (fun c => isDigit c = false ∧ (p = none → c ≠ 'e' ∧ c ≠ 'E')) rest) :
    scanPower u ((p.map PowerForm.text).getD [] ++ rest) =
      finishNumber { u with power := p.map PowerForm.power } rest := by
  cases p with
  | none =>
      have hsame : { u with power := none } = u := by
        rcases u with ⟨_, _, _, power⟩
        cases hu
        rfl
      cases rest with
      | nil => simp [scanPower, hsame]
      | cons c rest =>
          have hc := (hrest c rfl).2 rfl
          simp [scanPower, hc, hsame]
  | some p => exact scanPower_letter u p fun c hc => (hrest c hc).1

namespace NumberForm

/-- What comes behind the fraction does not belong to it. -/
theorem startsWith_powerText (n : NumberForm) {rest : List Char} (hrest : n.EndsBefore rest) :
    StartsWith (fun c => isDigit c = false ∧ (n.fraction = [] → c ≠ '.'))
      (n.powerText ++ rest) := by
  rw [powerText]
  cases hpower : n.power with
  | none => exact fun c hc => ⟨(hrest c hc).1, ((hrest c hc).2 hpower).2.2⟩
  | some p =>
      intro c hc
      have hletter : p.letter = c := by simpa [PowerForm.text] using hc
      rw [← hletter]
      rcases p.letter_eq with h | h <;> rw [h] <;> exact ⟨rfl, fun _ => by decide⟩

theorem startsWith_fractionText (n : NumberForm) {rest : List Char} (hrest : n.EndsBefore rest) :
    StartsWith (isDigit · = false) (n.fractionText ++ (n.powerText ++ rest)) := by
  rw [fractionText]
  split
  · exact fun c hc => (n.startsWith_powerText hrest c hc).1
  · intro c hc
    have hpoint : '.' = c := by simpa using hc
    rw [← hpoint]
    decide

theorem scanFraction_text (n : NumberForm) {rest : List Char} (hrest : n.EndsBefore rest) :
    scanFraction ⟨n.negative, n.whole, [], none⟩ (n.fractionText ++ (n.powerText ++ rest)) =
      finishNumber n.numeral rest := by
  have hpower (fraction : List Char) :=
    scanPower_text ⟨n.negative, n.whole, fraction, none⟩ n.power rfl fun c hc =>
      ⟨(hrest c hc).1, fun hnone => ⟨((hrest c hc).2 hnone).1, ((hrest c hc).2 hnone).2.1⟩⟩
  have hbehind := n.startsWith_powerText hrest
  by_cases hnone : n.fraction = []
  · -- Without a point the number goes on with its power.
    have hskip : scanFraction ⟨n.negative, n.whole, [], none⟩ (n.powerText ++ rest) =
        scanPower ⟨n.negative, n.whole, [], none⟩ (n.powerText ++ rest) := by
      unfold scanFraction
      split
      · next after hafter =>
          have hpoint := (hbehind '.' (by rw [hafter]; rfl)).2 hnone
          exact absurd rfl hpoint
      · rfl
    rw [fractionText, if_pos hnone, List.nil_append, hskip, powerText, hpower, numeral, hnone]
  · have hspan := span_digits n.isDigit_fraction fun c hc => (hbehind c hc).1
    rw [fractionText, if_neg hnone, List.cons_append, scanFraction]
    simp only [hspan]
    exact hpower n.fraction

end NumberForm

theorem scanNumber_text (n : NumberForm) {rest : List Char} (hrest : n.EndsBefore rest) :
    scanNumber (n.text ++ rest) = finishNumber n.numeral rest := by
  have hspan := span_digits n.isDigit_whole (n.startsWith_fractionText hrest)
  have hfraction := n.scanFraction_text hrest
  generalize hbehind : n.fractionText ++ (n.powerText ++ rest) = behind at hspan hfraction
  have htext : n.text ++ rest = (if n.negative then ['-'] else []) ++ (n.whole ++ behind) := by
    simp [NumberForm.text, ← hbehind]
  have hminus : ((if n.negative then ['-'] else []) ++ (n.whole ++ behind)).head? = some '-' ↔
      n.negative = true := by
    rcases hwhole : n.whole with _ | ⟨d, ds⟩
    · exact absurd hwhole n.whole_ne
    have hsign := isDigit_sign (n.isDigit_whole d (by simp [hwhole]))
    cases n.negative <;> simp [hsign]
  have hdigits : (if n.negative = true then
      ((if n.negative then ['-'] else []) ++ (n.whole ++ behind)).drop 1
      else (if n.negative then ['-'] else []) ++ (n.whole ++ behind)) = n.whole ++ behind := by
    cases n.negative <;> rfl
  rw [htext, scanNumber]
  simp only [hminus, hdigits, hspan, Bool.decide_eq_true]
  split
  · next hnone => exact absurd hnone n.whole_ne
  · next hzero =>
      have heq := n.eq_of_zero (by rw [hzero]; rfl)
      cases hzero.symm.trans heq
  · exact hfraction

/-! ### Decimal digits -/

theorem isDigit_of_isDigit {c : Char} (h : c.isDigit = true) : isDigit c = true := by
  simp only [Char.isDigit, Bool.and_eq_true, decide_eq_true_eq] at h
  simp only [isDigit, Bool.and_eq_true, decide_eq_true_eq]
  exact ⟨h.1, h.2⟩

theorem digitValue_digitChar : ∀ n < 10, digitValue (Nat.digitChar n) = n := by decide

theorem digitChar_ne_zero : ∀ n < 10, 0 < n → Nat.digitChar n ≠ '0' := by decide

theorem absorb_append {n k : Nat} {ds : List Char} (h : Numeral.absorb n ds = (k, []))
    (es : List Char) : Numeral.absorb n (ds ++ es) = Numeral.absorb k es := by
  induction ds generalizing n with
  | nil =>
      cases h
      rfl
  | cons d ds ih =>
      rw [Numeral.absorb] at h
      split at h
      · cases h
      · next hle =>
          rw [List.cons_append, Numeral.absorb, if_neg hle]
          exact ih h

/-- The decimal digits of a number that is kept exactly are read back. -/
theorem absorb_toDigits {n : Nat} (h : n ≤ Numeral.greatest) :
    Numeral.absorb 0 (Nat.toDigits 10 n) = (n, []) := by
  induction n using Nat.strongRecOn with
  | ind n ih =>
      by_cases hlt : n < 10
      · rw [Nat.toDigits_of_lt_base hlt]
        simp only [Numeral.absorb, digitValue_digitChar n hlt, Nat.mul_zero, Nat.zero_add]
        rw [if_neg (Nat.not_lt.2 h)]
      · have hdiv : n / 10 < n := by omega
        have hmod : n % 10 < 10 := Nat.mod_lt n (by decide)
        have hfront := ih (n / 10) hdiv (Nat.le_trans hdiv.le h)
        have hsum : 10 * (n / 10) + n % 10 = n := Nat.div_add_mod n 10
        rw [Nat.toDigits_of_base_le (by decide) (Nat.not_lt.1 hlt), absorb_append hfront]
        simp only [Numeral.absorb, digitValue_digitChar _ hmod, hsum]
        rw [if_neg (Nat.not_lt.2 h)]

theorem head?_toDigits {n : Nat} (h : 0 < n) : (Nat.toDigits 10 n).head? ≠ some '0' := by
  induction n using Nat.strongRecOn with
  | ind n ih =>
      by_cases hlt : n < 10
      · rw [Nat.toDigits_of_lt_base hlt]
        intro hhead
        exact digitChar_ne_zero n hlt h (Option.some.inj hhead)
      · have hfront := ih (n / 10) (by omega) (by omega)
        rw [Nat.toDigits_of_base_le (by decide) (Nat.not_lt.1 hlt)]
        intro hhead
        rcases List.head?_eq_some_iff.1 hhead with ⟨ds, hds⟩
        rcases List.exists_cons_of_ne_nil (Nat.toDigits_ne_nil (b := 10) (n := n / 10)) with
          ⟨d, front, hd⟩
        rw [hd] at hds hfront
        cases hds
        exact hfront rfl

/-- A number as its decimal digits. -/
def NumberForm.ofNatural (n : Nat) : NumberForm where
  negative := false
  whole := Nat.toDigits 10 n
  fraction := []
  power := none
  whole_ne := Nat.toDigits_ne_nil
  isDigit_whole c hc := isDigit_of_isDigit (Nat.isDigit_of_mem_toDigits (by decide) (by decide) hc)
  eq_of_zero hzero := by
    rcases Nat.eq_zero_or_pos n with rfl | hpos
    · rfl
    · exact absurd hzero (head?_toDigits hpos)
  isDigit_fraction _ hc := absurd hc List.not_mem_nil

theorem NumberForm.text_ofNatural (n : Nat) :
    (NumberForm.ofNatural n).text = Nat.toDigits 10 n := by
  simp [NumberForm.text, NumberForm.ofNatural, NumberForm.fractionText, NumberForm.powerText]

theorem NumberForm.value?_ofNatural {n : Nat} (h : n ≤ Numeral.greatest) :
    (NumberForm.ofNatural n).numeral.value? = some (.natural n) := by
  simp [NumberForm.numeral, NumberForm.ofNatural, Numeral.value?, absorb_toDigits h]

/-! ## Values -/

theorem ends_of_sign {c : Char} (hc : c = ',' ∨ c = ']' ∨ c = '\x7d' ∨ c = '"')
    (rest : List Char) : Ends (c :: rest) := by
  rintro c' ⟨⟩
  rcases hc with rfl | rfl | rfl | rfl <;> decide

theorem ends_append (sp : Space) {rest : List Char} (hrest : Ends rest) : Ends (sp ++ rest) := by
  rcases sp with ⟨space, hspace⟩
  cases space with
  | nil => exact hrest
  | cons c space =>
      rintro c' ⟨⟩
      have hc := hspace c List.mem_cons_self
      simp only [isSpace, Bool.or_eq_true, decide_eq_true_eq] at hc
      rcases hc with ((rfl | rfl) | rfl) | rfl <;> decide

/-- Behind an item comes a comma, or what follows the last one. -/
theorem Items.ends_text (items : Items) {rest : List Char} (hrest : Ends rest) :
    Ends (items.text true ++ rest) := by
  cases items with
  | nil => exact hrest
  | cons before item after more =>
      rw [Items.text, List.append_assoc]
      exact ends_of_sign (by decide) _

theorem Entries.ends_text (entries : Entries) {rest : List Char} (hrest : Ends rest) :
    Ends (entries.text true ++ rest) := by
  cases entries with
  | nil => exact hrest
  | cons before key middle gap value after more =>
      rw [Entries.text, List.append_assoc]
      exact ends_of_sign (by decide) _

/-- The characters that a value may start with. -/
def isOpening (c : Char) : Bool :=
  c = 'n' || c = 't' || c = 'f' || c = '"' || c = '[' || c = '\x7b' || c = '-' || isDigit c

theorem NumberForm.exists_text (n : NumberForm) :
    ∃ c cs, n.text = c :: cs ∧ (c = '-' ∨ isDigit c = true) := by
  rcases hwhole : n.whole with _ | ⟨d, ds⟩
  · exact absurd hwhole n.whole_ne
  have hd : isDigit d = true := n.isDigit_whole d (by simp [hwhole])
  cases hneg : n.negative with
  | true =>
      refine ⟨'-', n.whole ++ (n.fractionText ++ n.powerText), ?_, .inl rfl⟩
      simp [NumberForm.text, hneg]
  | false =>
      refine ⟨d, ds ++ (n.fractionText ++ n.powerText), ?_, .inr hd⟩
      simp [NumberForm.text, hneg, hwhole]

theorem Form.exists_text (f : Form) : ∃ c cs, f.text = c :: cs ∧ isOpening c = true := by
  cases f with
  | null => exact ⟨'n', _, rfl, rfl⟩
  | bool b =>
      cases b with
      | true => exact ⟨'t', _, rfl, rfl⟩
      | false => exact ⟨'f', _, rfl, rfl⟩
  | number n =>
      rcases n.exists_text with ⟨c, cs, htext, hc⟩
      refine ⟨c, cs, htext, ?_⟩
      rcases hc with rfl | hc
      · rfl
      · simp [isOpening, hc]
  | string s => exact ⟨'"', _, rfl, rfl⟩
  | array inner items => exact ⟨'[', _, rfl, rfl⟩
  | object inner entries => exact ⟨'\x7b', _, rfl, rfl⟩

/-- White space is skipped up to a value and no further. -/
theorem Form.skipSpace_text (f : Form) (rest : List Char) :
    skipSpace (f.text ++ rest) = f.text ++ rest := by
  rcases f.exists_text with ⟨c, cs, htext, hc⟩
  have hspace : isSpace c = false := by
    rw [Bool.eq_false_iff]
    intro hspace
    simp only [isSpace, Bool.or_eq_true, decide_eq_true_eq] at hspace
    rcases hspace with ((rfl | rfl) | rfl) | rfl <;> cases hc
  rw [htext]
  exact skipSpace_cons hspace _

theorem scanNode_space (fuel : Nat) (sp : Space) (cs : List Char) :
    scanNode fuel (sp ++ cs) = scanNode fuel cs := by
  cases fuel with
  | zero => rfl
  | succ fuel => rw [scanNode, scanNode, skipSpace_append]

theorem scanNode_number (fuel : Nat) (n : NumberForm) {rest : List Char}
    (hrest : n.EndsBefore rest) :
    scanNode (fuel + 1) (n.text ++ rest) = (n.node, some rest) := by
  have hskip := (Form.number n).skipSpace_text rest
  have hscan : numberNode (n.text ++ rest) = (n.node, some rest) := by
    rw [numberNode, scanNumber_text n hrest, finishNumber, NumberForm.node]
    cases n.numeral.value? <;> rfl
  rcases n.exists_text with ⟨c, cs, htext, hc⟩
  have hfirst : c = '-' ∨ isDigit c = true := hc
  simp only [Form.text, htext, List.cons_append] at hskip hscan ⊢
  rw [scanNode, hskip]
  split
  case h_1 heq => cases heq
  case h_8 heq =>
    cases heq
    simp [hscan, hfirst]
  all_goals
    next heq =>
      cases heq
      simp [isDigit] at hfirst

theorem scanItems_space (fuel : Nat) (sp : Space) (cs : List Char) :
    scanItems fuel (sp ++ cs) = scanItems fuel cs := by
  cases fuel with
  | zero => rfl
  | succ fuel => rw [scanItems, scanItems, scanNode_space]

/-- Items are read behind the bracket; the white space before the first one is gone then. -/
theorem scanNode_array (fuel : Nat) (inner before : Space) (item : Form) (cs : List Char) :
    scanNode (fuel + 1) ('[' :: (inner ++ (before ++ (item.text ++ cs)))) =
      match scanItems fuel (item.text ++ cs) with
      | ((items, stop), after) => (.array items stop, after) := by
  rcases item.exists_text with ⟨c, text, htext, hc⟩
  have hskip := item.skipSpace_text cs
  rw [htext, List.cons_append] at hskip ⊢
  rw [scanNode, skipSpace_cons (by decide)]
  simp only [skipSpace_append, hskip]
  split
  · next heq =>
      cases heq
      cases hc
  · next heq => cases heq
  · rfl

theorem scanNode_emptyArray (fuel : Nat) (inner : Space) (rest : List Char) :
    scanNode (fuel + 1) ('[' :: (inner ++ ']' :: rest)) = (.array [] none, some rest) := by
  rw [scanNode]
  simp (disch := decide) only [skipSpace_append, skipSpace_cons]

theorem scanNode_emptyObject (fuel : Nat) (inner : Space) (rest : List Char) :
    scanNode (fuel + 1) ('\x7b' :: (inner ++ '\x7d' :: rest)) = (.object [] none, some rest) := by
  rw [scanNode]
  simp (disch := decide) only [skipSpace_append, skipSpace_cons]

theorem scanNode_object (fuel : Nat) (inner before : Space) (cs : List Char) :
    scanNode (fuel + 1) ('\x7b' :: (inner ++ (before ++ '"' :: cs))) =
      match scanEntries fuel cs with
      | ((entries, stop), after) => (.object entries stop, after) := by
  rw [scanNode]
  simp (disch := decide) only [skipSpace_append, skipSpace_cons]

mutual

theorem Form.scanNode_text (f : Form) (fuel : Nat) (hfuel : 2 * f.text.length ≤ fuel)
    {rest : List Char} (hrest : f.EndsBefore rest) :
    scanNode fuel (f.text ++ rest) = (f.node rest, some rest) := by
  obtain ⟨fuel, rfl⟩ : ∃ k, fuel = k + 1 := by
    rcases f.exists_text with ⟨c, cs, htext, -⟩
    rw [htext, List.length_cons] at hfuel
    exact ⟨fuel - 1, by omega⟩
  cases f with
  | null => rfl
  | bool b => cases b <;> rfl
  | number n => exact scanNode_number fuel n hrest
  | string s =>
      have hscan := scanString_inner s rest
      have htext : (Form.string s).text ++ rest = '"' :: (s.inner ++ '"' :: rest) := by
        simp [Form.text, StringForm.text]
      rw [htext, scanNode, skipSpace_cons (by decide)]
      simp only [stringNode, hscan, Form.node]
  | array inner items =>
      cases items with
      | nil =>
          have htext : (Form.array inner .nil).text ++ rest = '[' :: (inner ++ ']' :: rest) := by
            simp [Form.text, Items.text]
          rw [htext, scanNode_emptyArray]
          rfl
      | cons before item after more =>
          have hitems := Items.scanItems_text (.cons before item after more) (by simp)
            fuel (by simp [Form.text] at hfuel ⊢; omega) rest
          have htext : (Form.array inner (.cons before item after more)).text ++ rest =
              '[' :: (inner ++ (before ++ (item.text ++
                (after ++ (more.text true ++ ']' :: rest))))) := by
            simp [Form.text, Items.text, comma]
          simp only [Items.text, comma, Bool.false_eq_true, if_false, List.nil_append,
            List.append_assoc, scanItems_space] at hitems
          rw [htext, scanNode_array, hitems]
          rfl
  | object inner entries =>
      cases entries with
      | nil =>
          have htext : (Form.object inner .nil).text ++ rest =
              '\x7b' :: (inner ++ '\x7d' :: rest) := by
            simp [Form.text, Entries.text]
          rw [htext, scanNode_emptyObject]
          rfl
      | cons before key middle gap value after more =>
          have hentries := Entries.scanEntries_text (.cons before key middle gap value after more)
            (by simp) fuel (by simp [Form.text] at hfuel ⊢; omega) rest
          have htext : (Form.object inner (.cons before key middle gap value after more)).text ++
              rest = '\x7b' :: (inner ++ (before ++ '"' ::
                (Entries.cons before key middle gap value after more).unquoted
                  ('\x7d' :: rest))) := by
            simp [Form.text, Entries.text, comma, StringForm.text, Entries.unquoted]
          rw [htext, scanNode_object, hentries]
          rfl

theorem Items.scanItems_text (items : Items) (hne : items ≠ .nil) (fuel : Nat)
    (hfuel : 2 * (items.text false).length + 1 ≤ fuel) (rest : List Char) :
    scanItems fuel (items.text false ++ ']' :: rest) =
      ((items.nodes (']' :: rest), none), some rest) := by
  obtain ⟨fuel, rfl⟩ : ∃ k, fuel = k + 1 := ⟨fuel - 1, by omega⟩
  cases items with
  | nil => exact absurd rfl hne
  | cons before item after more =>
      simp only [Items.text, comma, Bool.false_eq_true, if_false, List.nil_append,
        List.length_append] at hfuel
      have hends := ends_append after (more.ends_text (ends_of_sign (c := ']') (by decide) rest))
      have hitem := item.scanNode_text fuel (by omega) (hends.endsBefore item)
      simp only [Items.text, comma, Bool.false_eq_true, if_false, List.nil_append,
        List.append_assoc]
      rw [scanItems, scanNode_space, hitem]
      simp only [skipSpace_append]
      cases more with
      | nil =>
          simp (disch := decide) only [Items.text, List.nil_append, skipSpace_cons]
          rfl
      | cons before' item' after' more' =>
          have hmore := Items.scanItems_text (.cons before' item' after' more') (by simp)
            fuel (by simp [Items.text, comma] at hfuel ⊢; omega) rest
          have htext : Items.text true (.cons before' item' after' more') =
              ',' :: Items.text false (.cons before' item' after' more') := rfl
          simp (disch := decide) only [htext, List.cons_append, skipSpace_cons, hmore]
          rfl

theorem Entries.scanEntries_text (entries : Entries) (hne : entries ≠ .nil) (fuel : Nat)
    (hfuel : 2 * (entries.text false).length + 1 ≤ fuel) (rest : List Char) :
    scanEntries fuel (entries.unquoted ('\x7d' :: rest)) =
      ((entries.nodes ('\x7d' :: rest), none), some rest) := by
  obtain ⟨fuel, rfl⟩ : ∃ k, fuel = k + 1 := ⟨fuel - 1, by omega⟩
  cases entries with
  | nil => exact absurd rfl hne
  | cons before key middle gap value after more =>
      simp only [Entries.text, comma, Bool.false_eq_true, if_false, List.nil_append,
        List.length_append, List.length_cons] at hfuel
      have hends := ends_append after (more.ends_text (ends_of_sign (c := '\x7d') (by decide) rest))
      have hvalue := value.scanNode_text fuel (by omega) (hends.endsBefore value)
      simp only [Entries.unquoted, Entries.nodes]
      rw [scanEntries]
      simp (disch := decide) only [scanKey, scanString_inner, skipSpace_append, skipSpace_cons,
        scanNode_space, hvalue]
      cases more with
      | nil =>
          simp (disch := decide) only [Entries.text, List.nil_append, skipSpace_cons]
          rfl
      | cons before' key' middle' gap' value' after' more' =>
          have hmore := Entries.scanEntries_text
            (.cons before' key' middle' gap' value' after' more') (by simp)
            fuel (by simp [Entries.text, comma] at hfuel ⊢; omega) rest
          rw [Entries.text_cons]
          simp (disch := decide) only [comma, if_true, List.cons_append, List.nil_append,
            skipSpace_append, skipSpace_cons, hmore]

end

/-! ## Texts -/

/-- A value is read with white space before it and anything behind that could not belong to it. -/
theorem Form.ofText_append (f : Form) (lead : Space) {rest : List Char}
    (hrest : f.EndsBefore rest) :
    Document.ofText (lead ++ (f.text ++ rest)) = ⟨f.node rest, !(skipSpace rest).isEmpty⟩ := by
  have hscan := f.scanNode_text (2 * (lead ++ (f.text ++ rest)).length + 2) (by simp; omega) hrest
  rw [Document.ofText, scanNode_space, hscan]

/-- A whole text is read, with white space before and behind its value. -/
theorem Form.ofText_text (f : Form) (lead trail : Space) :
    ∃ rest, Document.ofText (lead ++ f.text ++ trail) = ⟨f.node rest, false⟩ := by
  have hends : Ends trail := by
    have hnil : Ends [] := by
      intro c hc
      cases hc
    have htrail := ends_append trail hnil
    rwa [List.append_nil] at htrail
  have hskip : skipSpace trail = [] := by
    have hspace := skipSpace_append trail []
    rwa [List.append_nil] at hspace
  refine ⟨trail, ?_⟩
  rw [List.append_assoc, f.ofText_append lead (hends.endsBefore f), hskip]
  rfl

/-! ## Taking in and passing over -/

/-- What is missing is reported as malformed. -/
def orMalformed {α : Type} : Option α → Except Flaw α
  | some a => .ok a
  | none => .error .malformed

mutual

/-- A value is taken in if its form has one and there is room for its containers. -/
theorem Form.read_eq (f : Form) (rest : List Char) (room : Nat) :
    (f.node rest).read room = orMalformed (if f.depth ≤ room then f.value? else none) := by
  cases f with
  | null => rfl
  | bool b => rfl
  | number n =>
      simp only [Form.node, NumberForm.node, Form.depth, Nat.zero_le, if_true, Form.value?]
      cases n.numeral.value? <;> rfl
  | string s => rfl
  | array inner items =>
      have hitems := Items.readItems_eq items (']' :: rest) (room - 1)
      by_cases hroom : room = 0
      · simp [Form.node, Node.read, Form.depth, hroom, orMalformed]
      · -- The brackets take one level of the room for themselves.
        have hdepth : items.depth + 1 ≤ room ↔ items.depth ≤ room - 1 := by omega
        simp only [Form.node, Node.read, if_neg hroom, hitems, Form.depth, hdepth, Form.value?]
        by_cases hle : items.depth ≤ room - 1
        · cases items.values? <;> simp [hle, orMalformed, readStop, bind, Except.bind]
        · simp [hle, orMalformed, bind, Except.bind]
  | object inner entries =>
      have hentries := Entries.readEntries_eq entries ('\x7d' :: rest) (room - 1)
      by_cases hroom : room = 0
      · simp [Form.node, Node.read, Form.depth, hroom, orMalformed]
      · have hdepth : entries.depth + 1 ≤ room ↔ entries.depth ≤ room - 1 := by omega
        simp only [Form.node, Node.read, if_neg hroom, hentries, Form.depth, hdepth, Form.value?]
        by_cases hle : entries.depth ≤ room - 1
        · cases entries.values? <;> simp [hle, orMalformed, readStop, bind, Except.bind]
        · simp [hle, orMalformed, bind, Except.bind]

theorem Items.readItems_eq (items : Items) (rest : List Char) (room : Nat) :
    Node.readItems room (items.nodes rest) =
      orMalformed (if items.depth ≤ room then items.values? else none) := by
  cases items with
  | nil => rfl
  | cons before item after more =>
      have hitem := item.read_eq (after ++ (more.text true ++ rest)) room
      have hmore := Items.readItems_eq more rest room
      simp only [Items.nodes, Node.readItems, hitem, hmore, Items.depth, Nat.max_le,
        Items.values?]
      by_cases hi : item.depth ≤ room
      · by_cases hm : more.depth ≤ room
        · cases item.value? <;> cases more.values? <;>
            simp [hi, hm, orMalformed, bind, Except.bind]
        · cases item.value? <;> simp [hi, hm, orMalformed, bind, Except.bind]
      · simp [hi, orMalformed, bind, Except.bind]

theorem Entries.readEntries_eq (entries : Entries) (rest : List Char) (room : Nat) :
    Node.readEntries room (entries.nodes rest) =
      orMalformed (if entries.depth ≤ room then entries.values? else none) := by
  cases entries with
  | nil => rfl
  | cons before key middle gap value after more =>
      have hvalue := value.read_eq (after ++ (more.text true ++ rest)) room
      have hmore := Entries.readEntries_eq more rest room
      simp only [Entries.nodes, Node.readEntries, KeyText.read, hvalue, hmore, Entries.depth,
        Nat.max_le, Entries.values?]
      by_cases hv : value.depth ≤ room
      · by_cases hm : more.depth ≤ room
        · cases value.value? <;> cases more.values? <;>
            simp [hv, hm, orMalformed, bind, Except.bind]
        · cases value.value? <;> simp [hv, hm, orMalformed, bind, Except.bind]
      · simp [hv, orMalformed, bind, Except.bind]

end

theorem Form.read_eq_ok_iff {f : Form} {rest : List Char} {room : Nat} {v : Value} :
    (f.node rest).read room = .ok v ↔ f.depth ≤ room ∧ f.value? = some v := by
  rw [f.read_eq]
  by_cases hle : f.depth ≤ room
  · cases f.value? <;> simp [hle, orMalformed]
  · simp [hle, orMalformed]

theorem Form.read_node (f : Form) (rest : List Char) (room : Nat) (h : f.depth ≤ room) {v : Value}
    (hv : f.value? = some v) : (f.node rest).read room = .ok v :=
  Form.read_eq_ok_iff.2 ⟨h, hv⟩

mutual

theorem Form.skip_node (f : Form) (rest : List Char) : (f.node rest).skip = .ok () := by
  cases f with
  | null => rfl
  | bool b => rfl
  | number n =>
      rw [Form.node, NumberForm.node]
      cases n.numeral.value? <;> rfl
  | string s => rfl
  | array inner items =>
      simp only [Form.node, Node.skip, Items.skipItems_nodes items]
      rfl
  | object inner entries =>
      simp only [Form.node, Node.skip, Entries.skipEntries_nodes entries]
      rfl

theorem Items.skipItems_nodes (items : Items) (rest : List Char) :
    Node.skipItems (items.nodes rest) = .ok () := by
  cases items with
  | nil => rfl
  | cons before item after more =>
      simp only [Items.nodes, Node.skipItems, Form.skip_node item, Items.skipItems_nodes more]
      rfl

theorem Entries.skipEntries_nodes (entries : Entries) (rest : List Char) :
    Node.skipEntries (entries.nodes rest) = .ok () := by
  cases entries with
  | nil => rfl
  | cons before key middle gap value after more =>
      simp only [Entries.nodes, Node.skipEntries, KeyText.skip, Form.skip_node value,
        Entries.skipEntries_nodes more]
      rfl

end

end PriorityLexer.Json
