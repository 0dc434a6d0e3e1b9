import PriorityLexer.Proofs.Json.Prefix
import PriorityLexer.Proofs.Outcome

/-!
# Recognition — only the texts of forms are taken in

What is taken in is the text of a form, with white space before it and anything behind it that could
not belong to the form.

* `scanNumber_sound`, `scanString_sound` — numbers and strings;
* `scanNode_sound` — values;
* `Document.exists_form` — a text whose tree is taken in.
-/

namespace PriorityLexer.Json

theorem exists_space (cs : List Char) : ∃ sp : Space, cs = sp ++ skipSpace cs :=
  ⟨⟨cs.takeWhile isSpace, fun _ hc => List.mem_takeWhile_imp hc⟩,
    List.takeWhile_append_dropWhile.symm⟩

/-! ## Numbers -/

theorem startsWith_dropWhile (cs : List Char) :
    StartsWith (isDigit · = false) (cs.dropWhile isDigit) := by
  intro c hc
  have hhead := List.head?_dropWhile_not isDigit cs
  rw [hc] at hhead
  simpa using hhead

theorem finishNumber_eq_found {u : Numeral} {n : Number} {rest after : List Char}
    (h : finishNumber u rest = .found n after) : after = rest := by
  unfold finishNumber at h
  split at h
  · cases h
    rfl
  · cases h

theorem missingDigit_ne_found (rest : List Char) (n : Number) (after : List Char) :
    missingDigit rest ≠ .found n after := by
  unfold missingDigit
  split <;> nofun

/-- The sign behind the letter, as it is written. -/
theorem exists_sign (cs : List Char) :
    ∃ sign : PowerSign, cs = sign.text ++
      if cs.head? = some '-' ∨ cs.head? = some '+' then cs.drop 1 else cs := by
  rcases cs with _ | ⟨c, cs⟩
  · exact ⟨.absent, rfl⟩
  by_cases hminus : c = '-'
  · exact ⟨.minus, by simp [hminus, PowerSign.text]⟩
  by_cases hplus : c = '+'
  · exact ⟨.plus, by simp [hplus, PowerSign.text]⟩
  · exact ⟨.absent, by simp [hminus, hplus, PowerSign.text]⟩

theorem scanPower_sound {u : Numeral} {n : Number} {cs after : List Char}
    (hcs : StartsWith (isDigit · = false) cs) (h : scanPower u cs = .found n after) :
    ∃ p : Option PowerForm, cs = (p.map PowerForm.text).getD [] ++ after ∧
      StartsWith (fun c => isDigit c = false ∧ (p = none → c ≠ 'e' ∧ c ≠ 'E')) after := by
  unfold scanPower at h
  split at h
  · cases finishNumber_eq_found h
    exact ⟨none, rfl, nofun⟩
  · next c cs =>
      split at h
      · next hletter =>
          obtain ⟨sign, hsign⟩ := exists_sign cs
          simp only at h
          -- From here on only what stands behind the sign matters.
          generalize (if cs.head? = some '-' ∨ cs.head? = some '+' then cs.drop 1 else cs) = digits
            at h hsign
          split at h
          · exact absurd h (missingDigit_ne_found _ _ _)
          · next hne =>
              cases finishNumber_eq_found h
              let p : PowerForm := ⟨c, sign, digits.takeWhile isDigit, hletter, hne,
                fun _ hd => List.mem_takeWhile_imp hd⟩
              refine ⟨some p, ?_, fun c hc => ⟨startsWith_dropWhile digits c hc, nofun⟩⟩
              simp [p, PowerForm.text, hsign]
      · next hletter =>
          cases finishNumber_eq_found h
          rw [not_or] at hletter
          refine ⟨none, rfl, ?_⟩
          rintro c' ⟨⟩
          exact ⟨hcs c rfl, fun _ => hletter⟩

theorem scanFraction_sound {u : Numeral} {n : Number} {cs after : List Char}
    (hcs : StartsWith (isDigit · = false) cs) (h : scanFraction u cs = .found n after) :
    ∃ (fraction : List Char) (p : Option PowerForm), (∀ c ∈ fraction, isDigit c = true) ∧
      cs = (if fraction = [] then [] else '.' :: fraction) ++
        ((p.map PowerForm.text).getD [] ++ after) ∧
      StartsWith (fun c => isDigit c = false ∧
        (p = none → c ≠ 'e' ∧ c ≠ 'E' ∧ (fraction = [] → c ≠ '.'))) after := by
  unfold scanFraction at h
  split at h
  · next cs =>
      split at h
      · exact absurd h (missingDigit_ne_found _ _ _)
      · next hne =>
          obtain ⟨p, hp, hafter⟩ := scanPower_sound (startsWith_dropWhile cs) h
          refine ⟨cs.takeWhile isDigit, p, fun _ hd => List.mem_takeWhile_imp hd, ?_, ?_⟩
          · rw [if_neg hne, List.cons_append, ← hp, List.takeWhile_append_dropWhile]
          · exact fun c hc => ⟨(hafter c hc).1, fun hnone => ⟨((hafter c hc).2 hnone).1,
              ((hafter c hc).2 hnone).2, fun hempty => absurd hempty hne⟩⟩
  · next hpoint =>
      obtain ⟨p, hp, hafter⟩ := scanPower_sound hcs h
      refine ⟨[], p, List.forall_mem_nil _, hp, fun c hc => ⟨(hafter c hc).1, fun hnone => ?_⟩⟩
      refine ⟨((hafter c hc).2 hnone).1, ((hafter c hc).2 hnone).2, ?_⟩
      -- Without a power the number ends where its fraction would have begun.
      rintro - rfl
      obtain ⟨rest, rfl⟩ := List.head?_eq_some_iff.1 hc
      subst hnone
      exact hpoint rest hp

theorem scanNumber_sound {n : Number} {cs after : List Char} (h : scanNumber cs = .found n after) :
    ∃ form : NumberForm, cs = form.text ++ after ∧ form.EndsBefore after := by
  unfold scanNumber at h
  have hsign : cs = (if cs.head? = some '-' then ['-'] else []) ++
      (if cs.head? = some '-' then cs.drop 1 else cs) := by
    split
    · next hminus =>
        obtain ⟨rest, rfl⟩ := List.head?_eq_some_iff.1 hminus
        rfl
    · rfl
  simp only at h
  generalize (if cs.head? = some '-' then cs.drop 1 else cs) = digits at h hsign
  split at h
  · exact absurd h (missingDigit_ne_found _ _ _)
  · cases h
  · next hne hzero =>
      obtain ⟨fraction, p, hfraction, hrest, hafter⟩ :=
        scanFraction_sound (startsWith_dropWhile digits) h
      -- The scan has refused a zero with more digits behind it, which a form must not have.
      let form : NumberForm :=
        { negative := cs.head? = some '-'
          whole := digits.takeWhile isDigit
          fraction := fraction
          power := p
          whole_ne := hne
          isDigit_whole := fun _ hd => List.mem_takeWhile_imp hd
          eq_of_zero := by
            intro hhead
            obtain ⟨more, hmore⟩ := List.head?_eq_some_iff.1 hhead
            cases more with
            | nil => exact hmore
            | cons d ds => exact absurd hmore (hzero d ds)
          isDigit_fraction := hfraction }
      have hdigits : digits = digits.takeWhile isDigit ++ digits.dropWhile isDigit :=
        List.takeWhile_append_dropWhile.symm
      refine ⟨form, ?_, hafter⟩
      rw [hrest] at hdigits
      rw [hsign, hdigits]
      simp [form, NumberForm.text, NumberForm.fractionText, NumberForm.powerText]

/-! ## Strings -/

/-- One unit of a string as it is written; a character may take two of them. -/
inductive UnitForm where
  | plain (c : Char) (h : isPlain c = true)
  | short (letter c : Char) (h : escaped? letter = some c)
  | code (q : Quad)

namespace UnitForm

def text : UnitForm → List Char
  | plain c _ => [c]
  | short letter _ _ => ['\\', letter]
  | code q => q.text

def unit : UnitForm → CodeUnit
  | plain c _ => .char c
  | short _ c _ => .char c
  | code q => .code q.number

end UnitForm

theorem scanUnits_sound {cs rest : List Char} {units : List CodeUnit}
    (h : scanUnits cs = (units, .ok rest)) :
    ∃ us : List UnitForm, cs = us.flatMap UnitForm.text ++ '"' :: rest ∧
      units = us.map UnitForm.unit := by
  -- By the cases of the scan: those that meet a flaw do not stop at a quotation mark.
  fun_induction scanUnits cs generalizing units with
  | case2 a b c d behind n hn units' stop hscan ih =>
      cases h
      obtain ⟨us, rfl, rfl⟩ := ih hscan
      exact ⟨.code ⟨a, b, c, d, n, hn⟩ :: us, rfl, rfl⟩
  | case6 letter behind hshape hu c hc units' stop hscan ih =>
      cases h
      obtain ⟨us, rfl, rfl⟩ := ih hscan
      exact ⟨.short letter c hc :: us, rfl, rfl⟩
  | case8 behind =>
      cases h
      exact ⟨[], rfl, rfl⟩
  | case10 c behind hcode hend hshort hquote hcontrol units' stop hscan ih =>
      cases h
      obtain ⟨us, rfl, rfl⟩ := ih hscan
      have hbackslash : c ≠ '\\' := by
        intro hc
        have hne : us.flatMap UnitForm.text ++ '"' :: rest ≠ [] := by simp
        obtain ⟨a, more, hmore⟩ := List.exists_cons_of_ne_nil hne
        exact hshort a more hc hmore
      have hplain : isPlain c = true := by
        simp [isPlain, hquote, hbackslash, Nat.not_lt.1 hcontrol]
      exact ⟨.plain c hplain :: us, rfl, rfl⟩
  | _ => cases h

theorem Joined.cons_eq_text {c : Char} {j : Joined} {cs : List Char} (h : j.cons c = .text cs) :
    ∃ cs', j = .text cs' := by
  cases j with
  | text cs' => exact ⟨cs', rfl⟩
  | unpaired => cases h
  | unfinished => cases h

/-- Units that can be joined are those of some pieces. -/
theorem exists_pieces : ∀ {us : List UnitForm} {cs : List Char},
    joinUnits (us.map UnitForm.unit) = .text cs →
    ∃ ps : List Piece, ps.flatMap Piece.text = us.flatMap UnitForm.text
  | [], _, _ => ⟨[], rfl⟩
  | .plain c hc :: us, _, h => by
      obtain ⟨cs, hcs⟩ := Joined.cons_eq_text h
      obtain ⟨ps, hps⟩ := exists_pieces hcs
      exact ⟨.plain c hc :: ps, by rw [List.flatMap_cons, List.flatMap_cons, hps]; rfl⟩
  | .short letter c hc :: us, _, h => by
      obtain ⟨cs, hcs⟩ := Joined.cons_eq_text h
      obtain ⟨ps, hps⟩ := exists_pieces hcs
      exact ⟨.short letter c hc :: ps, by rw [List.flatMap_cons, List.flatMap_cons, hps]; rfl⟩
  | [.code q], _, h => by
      simp only [List.map_cons, List.map_nil, UnitForm.unit, joinUnits] at h
      split at h
      · cases h
      split at h
      · cases h
      · next htrail hlead =>
          exact ⟨[.code q ⟨Bool.eq_false_iff.2 hlead, Bool.eq_false_iff.2 htrail⟩], rfl⟩
  | .code q :: u :: us, _, h => by
      simp only [List.map_cons, UnitForm.unit, joinUnits] at h
      split at h
      · cases h
      next htrail =>
      split at h
      · next hlead =>
          -- The first half of a pair goes with the second one only.
          cases u with
          | plain c hc => cases h
          | short letter c hc => cases h
          | code q' =>
              simp only at h
              split at h
              · next htrail' =>
                  obtain ⟨cs, hcs⟩ := Joined.cons_eq_text h
                  obtain ⟨ps, hps⟩ := exists_pieces hcs
                  refine ⟨.pair q q' ⟨hlead, htrail'⟩ :: ps, ?_⟩
                  simp [Piece.text, UnitForm.text, hps]
              · cases h
      · next hlead =>
          obtain ⟨cs, hcs⟩ := Joined.cons_eq_text h
          obtain ⟨ps, hps⟩ : ∃ ps : List Piece, ps.flatMap Piece.text =
              (u :: us).flatMap UnitForm.text := exists_pieces hcs
          refine ⟨.code q ⟨Bool.eq_false_iff.2 hlead, Bool.eq_false_iff.2 htrail⟩ :: ps, ?_⟩
          rw [List.flatMap_cons, hps]
          rfl

theorem scanString_sound {cs after : List Char} {value : String}
    (h : scanString cs = .found value after) : ∃ s : StringForm, cs = s.inner ++ '"' :: after := by
  unfold scanString at h
  split at h
  · next units rest hunits =>
      obtain ⟨us, rfl, rfl⟩ := scanUnits_sound hunits
      split at h
      · next text htext =>
          obtain ⟨ps, hps⟩ := exists_pieces htext
          cases h
          exact ⟨⟨ps⟩, by rw [StringForm.inner, hps]⟩
      · cases h
      · cases h
  · split at h <;> cases h

/-! ## Values -/

theorem scanWord_sound {value n : Node} {ws cs : List Char} {after : Option (List Char)}
    {room : Nat} {v : Value} (h : scanWord value ws cs = (n, after)) (hv : n.read room = .ok v) :
    ∃ rest, cs = ws ++ rest ∧ after = some rest := by
  fun_induction scanWord value ws cs with
  | case1 rest =>
      cases h
      exact ⟨rest, rfl, rfl⟩
  | case3 ws c cs ih =>
      obtain ⟨rest, rfl, hafter⟩ := ih h
      exact ⟨rest, rfl, hafter⟩
  | _ =>
      cases h
      cases hv

theorem numberNode_sound {cs : List Char} {n : Node} {after : Option (List Char)} {room : Nat}
    {v : Value} (h : numberNode cs = (n, after)) (hv : n.read room = .ok v) :
    ∃ (form : NumberForm) (rest : List Char),
      cs = form.text ++ rest ∧ form.EndsBefore rest ∧ after = some rest := by
  unfold numberNode at h
  split at h
  · next k rest hscan =>
      cases h
      obtain ⟨form, hcs, hrest⟩ := scanNumber_sound hscan
      exact ⟨form, rest, hcs, hrest, rfl⟩
  · cases h
    cases hv
  · cases h
    cases hv

theorem stringNode_sound {cs : List Char} {n : Node} {after : Option (List Char)} {room : Nat}
    {v : Value} (h : stringNode cs = (n, after)) (hv : n.read room = .ok v) :
    ∃ (s : StringForm) (rest : List Char), cs = s.inner ++ '"' :: rest ∧ after = some rest := by
  unfold stringNode at h
  split at h
  · next value rest hscan =>
      cases h
      obtain ⟨s, hcs⟩ := scanString_sound hscan
      exact ⟨s, rest, hcs, rfl⟩
  · cases h
    cases hv
  · cases h
    cases hv

theorem scanKey_sound {cs : List Char} {key : Key} {after : Option (List Char)} {name : String}
    (h : scanKey cs = (key, after)) (hname : key.text.read = .ok name) :
    ∃ (s : StringForm) (rest : List Char), cs = s.inner ++ '"' :: rest ∧ after = some rest := by
  unfold scanKey at h
  split at h
  · next value rest hscan =>
      cases h
      obtain ⟨s, hcs⟩ := scanString_sound hscan
      exact ⟨s, rest, hcs, rfl⟩
  · cases h
    cases hname
  · cases h
    cases hname

theorem Node.read_array_eq_ok {items : List Node} {stop : Option Flaw} {room : Nat} {v : Value}
    (h : (Node.array items stop).read room = .ok v) :
    ∃ vs, Node.readItems (room - 1) items = .ok vs ∧ readStop stop = .ok () := by
  rw [Node.read] at h
  split at h
  · cases h
  · obtain ⟨vs, hvs, h⟩ := bind_eq_ok_iff.1 h
    obtain ⟨_, hstop, -⟩ := bind_eq_ok_iff.1 h
    exact ⟨vs, hvs, hstop⟩

theorem Node.read_object_eq_ok {entries : List (Key × Node)} {stop : Option Flaw} {room : Nat}
    {v : Value} (h : (Node.object entries stop).read room = .ok v) :
    ∃ vs, Node.readEntries (room - 1) entries = .ok vs ∧ readStop stop = .ok () := by
  rw [Node.read] at h
  split at h
  · cases h
  · obtain ⟨vs, hvs, h⟩ := bind_eq_ok_iff.1 h
    obtain ⟨_, hstop, -⟩ := bind_eq_ok_iff.1 h
    exact ⟨vs, hvs, hstop⟩

theorem Node.readItems_cons_eq_ok {n : Node} {ns : List Node} {room : Nat} {vs : List Value}
    (h : Node.readItems room (n :: ns) = .ok vs) :
    (∃ v, n.read room = .ok v) ∧ ∃ vs', Node.readItems room ns = .ok vs' := by
  obtain ⟨v, hv, h⟩ := bind_eq_ok_iff.1 h
  obtain ⟨vs', hvs', -⟩ := bind_eq_ok_iff.1 h
  exact ⟨⟨v, hv⟩, vs', hvs'⟩

theorem Node.readEntries_cons_eq_ok {key : Key} {n : Node} {entries : List (Key × Node)}
    {room : Nat} {vs : List (String × Value)}
    (h : Node.readEntries room ((key, n) :: entries) = .ok vs) :
    (∃ name, key.text.read = .ok name) ∧ (∃ v, n.read room = .ok v) ∧
      ∃ vs', Node.readEntries room entries = .ok vs' := by
  obtain ⟨name, hname, h⟩ := bind_eq_ok_iff.1 h
  obtain ⟨v, hv, h⟩ := bind_eq_ok_iff.1 h
  obtain ⟨vs', hvs', -⟩ := bind_eq_ok_iff.1 h
  exact ⟨⟨name, hname⟩, ⟨v, hv⟩, vs', hvs'⟩

mutual

/-- A value that is taken in is written as a form. -/
theorem scanNode_sound : ∀ {fuel : Nat} {cs : List Char} {n : Node} {after : Option (List Char)}
    {room : Nat} {v : Value}, scanNode fuel cs = (n, after) → n.read room = .ok v →
    ∃ (lead : Space) (f : Form) (rest : List Char), cs = lead ++ (f.text ++ rest) ∧
      f.EndsBefore rest ∧ after = some rest
  | 0, cs, n, after, room, v, h, hv => by
      cases h
      cases hv
  | fuel + 1, cs, n, after, room, v, h, hv => by
      obtain ⟨lead, hlead⟩ := exists_space cs
      rw [hlead]
      rw [scanNode] at h
      refine ⟨lead, ?_⟩
      -- The first character tells the form; each case reads back what the scan has passed.
      split at h
      case h_1 =>
        cases h
        cases hv
      case h_2 hcs =>
        obtain ⟨rest, hrest, hafter⟩ := scanWord_sound h hv
        exact ⟨.null, rest, by rw [hcs, hrest]; rfl, trivial, hafter⟩
      case h_3 hcs =>
        obtain ⟨rest, hrest, hafter⟩ := scanWord_sound h hv
        exact ⟨.bool true, rest, by rw [hcs, hrest]; rfl, trivial, hafter⟩
      case h_4 hcs =>
        obtain ⟨rest, hrest, hafter⟩ := scanWord_sound h hv
        exact ⟨.bool false, rest, by rw [hcs, hrest]; rfl, trivial, hafter⟩
      case h_5 hcs =>
        obtain ⟨s, rest, hrest, hafter⟩ := stringNode_sound h hv
        exact ⟨.string s, rest, by simp [hcs, hrest, Form.text, StringForm.text], trivial, hafter⟩
      case h_6 cs hcs =>
        obtain ⟨inner, hinner⟩ := exists_space cs
        split at h
        · next rest hrest =>
            cases h
            refine ⟨.array inner .nil, rest, ?_, trivial, rfl⟩
            rw [hcs, hinner, hrest]
            simp [Form.text, Items.text]
        · cases h
          obtain ⟨vs, -, hstop⟩ := Node.read_array_eq_ok hv
          cases hstop
        · cases h
          obtain ⟨vs, hvs, hstop⟩ := Node.read_array_eq_ok hv
          obtain ⟨items, rest, -, hitems, hafter⟩ := scanItems_sound rfl hvs hstop
          refine ⟨.array inner items, rest, ?_, trivial, hafter⟩
          rw [hcs, hinner, hitems]
          simp [Form.text]
      case h_7 cs hcs =>
        obtain ⟨inner, hinner⟩ := exists_space cs
        split at h
        · next rest hrest =>
            cases h
            refine ⟨.object inner .nil, rest, ?_, trivial, rfl⟩
            rw [hcs, hinner, hrest]
            simp [Form.text, Entries.text]
        · next rest hrest =>
            cases h
            obtain ⟨vs, hvs, hstop⟩ := Node.read_object_eq_ok hv
            obtain ⟨key, middle, gap, value, behind, more, rest, hentries, hafter⟩ :=
              scanEntries_sound rfl hvs hstop
            refine ⟨.object ⟨[], List.forall_mem_nil _⟩
              (.cons inner key middle gap value behind more), rest, ?_, trivial, hafter⟩
            rw [hcs, hinner, hrest, hentries]
            simp [Form.text, Entries.text, comma, StringForm.text]
        · cases h
          obtain ⟨vs, -, hstop⟩ := Node.read_object_eq_ok hv
          cases hstop
      case h_8 c cs _ _ _ _ _ _ hcs =>
        split at h
        · obtain ⟨form, rest, hrest, hends, hafter⟩ := numberNode_sound h hv
          exact ⟨.number form, rest, by rw [hcs, hrest]; rfl, hends, hafter⟩
        · cases h
          cases hv

theorem scanItems_sound : ∀ {fuel : Nat} {cs : List Char} {items : List Node} {stop : Option Flaw}
    {after : Option (List Char)} {room : Nat} {vs : List Value},
    scanItems fuel cs = ((items, stop), after) → Node.readItems room items = .ok vs →
    readStop stop = .ok () →
    ∃ (form : Items) (rest : List Char), form ≠ .nil ∧
      cs = form.text false ++ ']' :: rest ∧ after = some rest
  | 0, cs, items, stop, after, room, vs, h, hvs, hstop => by
      cases h
      cases hstop
  | fuel + 1, cs, items, stop, after, room, vs, h, hvs, hstop => by
      rw [scanItems] at h
      split at h
      · next n hscan =>
          -- An item that breaks off is not taken in.
          cases h
          obtain ⟨⟨v, hv⟩, -⟩ := Node.readItems_cons_eq_ok hvs
          obtain ⟨_, _, _, _, _, hafter⟩ := scanNode_sound hscan hv
          cases hafter
      · next n rest hscan =>
          obtain ⟨behind, hbehind⟩ := exists_space rest
          split at h
          · next tail htail =>
              cases h
              obtain ⟨⟨v, hv⟩, -⟩ := Node.readItems_cons_eq_ok hvs
              obtain ⟨before, f, rest', hcs, -, hafter⟩ := scanNode_sound hscan hv
              cases hafter
              refine ⟨.cons before f behind .nil, tail, by simp, ?_, rfl⟩
              rw [hcs, hbehind, htail]
              simp [Items.text, comma]
          · next tail htail =>
              cases h
              obtain ⟨⟨v, hv⟩, vs', hvs'⟩ := Node.readItems_cons_eq_ok hvs
              obtain ⟨before, f, rest', hcs, -, hafter⟩ := scanNode_sound hscan hv
              cases hafter
              obtain ⟨more, rest'', hne, hitems, hafter⟩ := scanItems_sound rfl hvs' hstop
              have htext : more.text true = ',' :: more.text false := by
                cases more with
                | nil => exact absurd rfl hne
                | cons => rfl
              refine ⟨.cons before f behind more, rest'', by simp, ?_, hafter⟩
              rw [hcs, hbehind, htail, hitems]
              simp [Items.text, comma, htext]
          · cases h
            cases hstop

/-- What stands before the first key has been read with its quotation mark. -/
theorem scanEntries_sound : ∀ {fuel : Nat} {cs : List Char} {entries : List (Key × Node)}
    {stop : Option Flaw} {after : Option (List Char)} {room : Nat} {vs : List (String × Value)},
    scanEntries fuel cs = ((entries, stop), after) → Node.readEntries room entries = .ok vs →
    readStop stop = .ok () →
    ∃ (key : StringForm) (middle gap : Space) (value : Form) (behind : Space) (more : Entries)
      (rest : List Char), cs = key.inner ++ '"' :: (middle ++ ':' :: (gap ++ (value.text ++
        (behind ++ (more.text true ++ '\x7d' :: rest))))) ∧ after = some rest
  | 0, cs, entries, stop, after, room, vs, h, hvs, hstop => by
      cases h
      cases hstop
  | fuel + 1, cs, entries, stop, after, room, vs, h, hvs, hstop => by
      rw [scanEntries] at h
      split at h
      · next key hkey =>
          cases h
          obtain ⟨⟨name, hname⟩, -⟩ := Node.readEntries_cons_eq_ok hvs
          obtain ⟨_, _, _, hafter⟩ := scanKey_sound hkey hname
          cases hafter
      · next key rest hkey =>
          obtain ⟨middle, hmiddle⟩ := exists_space rest
          split at h
          · next colon hcolon =>
              split at h
              · next n hscan =>
                  cases h
                  obtain ⟨-, ⟨v, hv⟩, -⟩ := Node.readEntries_cons_eq_ok hvs
                  obtain ⟨_, _, _, _, _, hafter⟩ := scanNode_sound hscan hv
                  cases hafter
              · next n tail hscan =>
                  obtain ⟨behind, hbehind⟩ := exists_space tail
                  split at h
                  · next rest' hend =>
                      cases h
                      obtain ⟨⟨name, hname⟩, ⟨v, hv⟩, -⟩ := Node.readEntries_cons_eq_ok hvs
                      obtain ⟨s, _, hs, hafter⟩ := scanKey_sound hkey hname
                      cases hafter
                      obtain ⟨gap, f, _, hcs, -, hafter⟩ := scanNode_sound hscan hv
                      cases hafter
                      refine ⟨s, middle, gap, f, behind, .nil, rest', ?_, rfl⟩
                      rw [hs, hmiddle, hcolon, hcs, hbehind, hend]
                      simp [Entries.text]
                  · next next hcomma =>
                      obtain ⟨before, hbefore⟩ := exists_space next
                      split at h
                      · next quoted hquote =>
                          cases h
                          obtain ⟨⟨name, hname⟩, ⟨v, hv⟩, vs', hvs'⟩ :=
                            Node.readEntries_cons_eq_ok hvs
                          obtain ⟨s, _, hs, hafter⟩ := scanKey_sound hkey hname
                          cases hafter
                          obtain ⟨gap, f, _, hcs, -, hafter⟩ := scanNode_sound hscan hv
                          cases hafter
                          obtain ⟨key', middle', gap', value', behind', more, rest', hentries,
                            hafter⟩ := scanEntries_sound rfl hvs' hstop
                          refine ⟨s, middle, gap, f, behind,
                            .cons before key' middle' gap' value' behind' more, rest', ?_, hafter⟩
                          rw [hs, hmiddle, hcolon, hcs, hbehind, hcomma, hbefore, hquote, hentries]
                          simp [Entries.text, comma, StringForm.text]
                      · cases h
                        cases hstop
                  · cases h
                    cases hstop
          · cases h
            obtain ⟨-, ⟨v, hv⟩, -⟩ := Node.readEntries_cons_eq_ok hvs
            cases hv

end

/-- A text whose tree is taken in starts with the text of a form. -/
theorem Document.exists_form {cs : List Char} {room : Nat} {v : Value}
    (h : (Document.ofText cs).root.read room = .ok v) :
    ∃ (lead : Space) (f : Form) (rest : List Char), cs = lead ++ (f.text ++ rest) ∧
      f.EndsBefore rest := by
  have hroot := Document.root_ofText ⟨[], List.forall_mem_nil _⟩ cs
  rw [List.nil_append] at hroot
  rw [hroot] at h
  obtain ⟨lead, f, rest, hcs, hends, -⟩ := scanNode_sound rfl h
  exact ⟨lead, f, rest, hcs, hends⟩

end PriorityLexer.Json
