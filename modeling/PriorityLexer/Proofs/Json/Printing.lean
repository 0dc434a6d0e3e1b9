import PriorityLexer.Json.Printer
import PriorityLexer.Proofs.Reading

/-!
# Printing — printed values are read back

What is printed is the text of a form without white space, and the value of the form is the value
that was printed.  So reading gives back every character of its strings and every digit of its
numbers.  Nothing is said of numbers of double precision.

* `exists_piece`, `exists_stringForm` — characters and strings as they are printed;
* `Value.Exact` — values whose numbers are whole and kept exactly;
* `Value.exists_form` — the form of a printed value;
* `Value.ofText?_write` — a printed value is read back.
-/

namespace PriorityLexer.Json

/-! ## Strings -/

/-- Of the four digits of a control character the first two are zeros. -/
theorem zeros_append_toDigits : ∀ n < 0x20,
    (if n < 0x10 then ['0', '0', '0'] else ['0', '0']) ++ Nat.toDigits 16 n =
      ['0', '0', Nat.digitChar (n / 16), Nat.digitChar (n % 16)] := by decide

theorem hexNumber?_control : ∀ n < 0x20,
    hexNumber? '0' '0' (Nat.digitChar (n / 16)) (Nat.digitChar (n % 16)) = some n := by decide

def controlPiece (n : Nat) (h : n < 0x20) : Piece :=
  .code ⟨'0', '0', Nat.digitChar (n / 16), Nat.digitChar (n % 16), n, hexNumber?_control n h⟩
    (by
      simp only [isLead, isTrail, Bool.and_eq_false_iff, decide_eq_false_iff_not]
      omega)

theorem text_controlPiece (n : Nat) (h : n < 0x20) :
    (controlPiece n h).text =
      (if n < 0x10 then "\\u000".toList else "\\u00".toList) ++ (hexText n).toList := by
  have hhex : (hexText n).toList = Nat.toDigits 16 n := String.toList_ofList
  calc
    (controlPiece n h).text
        = '\\' :: 'u' :: ['0', '0', Nat.digitChar (n / 16), Nat.digitChar (n % 16)] := rfl
    _ = '\\' :: 'u' ::
          ((if n < 0x10 then ['0', '0', '0'] else ['0', '0']) ++ Nat.toDigits 16 n) := by
            rw [zeros_append_toDigits n h]
    _ = (if n < 0x10 then "\\u000".toList else "\\u00".toList) ++ (hexText n).toList := by
          rw [hhex]
          split <;> rfl

/-- Each character is printed in one of the ways in which it can be written. -/
theorem exists_piece (c : Char) : ∃ p : Piece, p.text = quoteChar c ∧ p.char = c := by
  unfold quoteChar
  split
  · exact ⟨.short '"' '"' rfl, rfl, rfl⟩
  · exact ⟨.short '\\' '\\' rfl, rfl, rfl⟩
  · exact ⟨.short 'b' '\x08' rfl, rfl, rfl⟩
  · exact ⟨.short 'f' '\x0c' rfl, rfl, rfl⟩
  · exact ⟨.short 'n' '\n' rfl, rfl, rfl⟩
  · exact ⟨.short 'r' '\r' rfl, rfl, rfl⟩
  · exact ⟨.short 't' '\t' rfl, rfl, rfl⟩
  · next hquote hbackslash _ _ _ _ _ =>
      -- What has no letter of its own is written with a number, or stands for itself.
      by_cases hcontrol : c.toNat < 0x20
      · refine ⟨controlPiece c.toNat hcontrol, ?_, Char.ofNat_toNat c⟩
        rw [text_controlPiece, if_pos hcontrol]
        split <;> rfl
      · have hshort : ¬ c.toNat < 0x10 := by
          intro hlt
          exact hcontrol (Nat.lt_trans hlt (by decide))
        have hplain : isPlain c = true := by
          simp only [isPlain, Bool.and_eq_true, decide_eq_true_eq]
          exact ⟨⟨hquote, hbackslash⟩, Nat.not_lt.1 hcontrol⟩
        refine ⟨.plain c hplain, ?_, rfl⟩
        rw [if_neg hshort, if_neg hcontrol]
        rfl

theorem exists_stringForm (s : String) :
    ∃ form : StringForm, form.text = writeString s ∧ form.value = s := by
  have hpieces (cs : List Char) : ∃ ps : List Piece,
      ps.flatMap Piece.text = cs.flatMap quoteChar ∧ ps.map Piece.char = cs := by
    induction cs with
    | nil => exact ⟨[], rfl, rfl⟩
    | cons c cs ih =>
        rcases exists_piece c with ⟨p, htext, hchar⟩
        rcases ih with ⟨ps, htexts, hchars⟩
        refine ⟨p :: ps, ?_, ?_⟩
        · rw [List.flatMap_cons, List.flatMap_cons, htext, htexts]
        · rw [List.map_cons, hchar, hchars]
  rcases hpieces s.toList with ⟨ps, htext, hchars⟩
  refine ⟨⟨ps⟩, ?_, ?_⟩
  · rw [StringForm.text, StringForm.inner, htext, writeString]
  · rw [StringForm.value, hchars, String.ofList_toList]

/-! ## Numbers -/

/-- A number below zero as its sign and its decimal digits. -/
def NumberForm.ofNegative (n : Nat) : NumberForm :=
  { NumberForm.ofNatural n with negative := true }

theorem NumberForm.text_ofNegative (n : Nat) :
    (NumberForm.ofNegative n).text = '-' :: Nat.toDigits 10 n :=
  congrArg ('-' :: ·) (NumberForm.text_ofNatural n)

theorem NumberForm.value?_ofNegative {n : Nat} (hpos : 0 < n) (hle : n ≤ .pow 2 63) :
    (NumberForm.ofNegative n).numeral.value? = some (.negative n) := by
  have hdigits := absorb_toDigits (Nat.le_trans hle (by decide : _ ≤ Numeral.greatest))
  simp [NumberForm.numeral, NumberForm.ofNegative, NumberForm.ofNatural, Numeral.value?, hdigits,
    hpos, hle]

/-- Whole numbers that are kept with all their digits. -/
def Number.Exact : Number → Prop
  | .natural n => n ≤ Numeral.greatest
  | .negative n => 0 < n ∧ n ≤ .pow 2 63
  | .double _ _ => False

theorem Number.Exact.exists_form {n : Number} (h : n.Exact) :
    ∃ form : NumberForm, form.text = n.write ∧ form.numeral.value? = some n := by
  -- Numbers are printed in decimal.
  have hprint (k : Nat) : Nat.toDigits 10 k = (toString k).toList := Nat.toList_repr.symm
  cases n with
  | natural n =>
      refine ⟨.ofNatural n, ?_, NumberForm.value?_ofNatural h⟩
      rw [NumberForm.text_ofNatural, hprint, Number.write]
  | negative n =>
      refine ⟨.ofNegative n, ?_, NumberForm.value?_ofNegative h.1 h.2⟩
      rw [NumberForm.text_ofNegative, hprint, Number.write]
  | double negative magnitude => exact h.elim

/-! ## Values -/

mutual

/-- All numbers in a value are whole and kept with all their digits. -/
def Value.Exact : Value → Prop
  | .null | .bool _ | .string _ => True
  | .number n => n.Exact
  | .array items => Value.ExactItems items
  | .object entries => Value.ExactEntries entries

def Value.ExactItems : List Value → Prop
  | [] => True
  | v :: vs => v.Exact ∧ Value.ExactItems vs

def Value.ExactEntries : List (String × Value) → Prop
  | [] => True
  | (_, v) :: entries => v.Exact ∧ Value.ExactEntries entries

end

mutual

/-- How deep containers are nested. -/
def Value.depth : Value → Nat
  | .null | .bool _ | .number _ | .string _ => 0
  | .array items => Value.depthItems items + 1
  | .object entries => Value.depthEntries entries + 1

def Value.depthItems : List Value → Nat
  | [] => 0
  | v :: vs => max v.depth (Value.depthItems vs)

def Value.depthEntries : List (String × Value) → Nat
  | [] => 0
  | (_, v) :: entries => max v.depth (Value.depthEntries entries)

end

/-- The text of items, where `started` tells whether others are printed before them. -/
def Value.itemsText (started : Bool) : List Value → List Char
  | [] => []
  | v :: vs => comma started ++ (v.write ++ Value.itemsText true vs)

def Value.entriesText (started : Bool) : List (String × Value) → List Char
  | [] => []
  | (key, v) :: entries =>
    comma started ++ (writeString key ++ ':' :: (v.write ++ Value.entriesText true entries))

theorem Value.writeItems_eq (vs : List Value) : Value.writeItems vs = Value.itemsText false vs := by
  induction vs with
  | nil => rfl
  | cons v vs ih =>
      cases vs with
      | nil => exact (List.append_nil v.write).symm
      | cons w vs =>
          rw [Value.writeItems, ih]
          · rfl
          · nofun

theorem Value.writeEntries_eq (es : List (String × Value)) :
    Value.writeEntries es = Value.entriesText false es := by
  induction es with
  | nil => rfl
  | cons e es ih =>
      rcases e with ⟨key, v⟩
      cases es with
      | nil => simp [Value.writeEntries, Value.entriesText, comma]
      | cons e es =>
          rw [Value.writeEntries, ih]
          · simp [Value.entriesText, comma]
          · nofun

-- By induction on the value; the forms of parts are put together without white space.
mutual

theorem Value.exists_form : ∀ {v : Value}, v.Exact →
    ∃ f : Form, f.text = v.write ∧ f.value? = some v ∧ f.depth = v.depth
  | .null, _ => ⟨.null, rfl, rfl, rfl⟩
  | .bool true, _ => ⟨.bool true, rfl, rfl, rfl⟩
  | .bool false, _ => ⟨.bool false, rfl, rfl, rfl⟩
  | .number n, h => by
      rcases Number.Exact.exists_form h with ⟨form, htext, hvalue⟩
      refine ⟨.number form, htext, ?_, rfl⟩
      rw [Form.value?, hvalue]
      rfl
  | .string s, _ => by
      rcases exists_stringForm s with ⟨form, htext, hvalue⟩
      refine ⟨.string form, htext, ?_, rfl⟩
      rw [Form.value?, hvalue]
  | .array items, h => by
      rcases Value.exists_items h with ⟨forms, htext, hvalues, hdepth⟩
      refine ⟨.array noSpace forms, ?_, ?_, ?_⟩
      · rw [Form.text, htext, Value.write, Value.writeItems_eq]
        rfl
      · rw [Form.value?, hvalues]
        rfl
      · rw [Form.depth, hdepth, Value.depth]
  | .object entries, h => by
      rcases Value.exists_entries h with ⟨forms, htext, hvalues, hdepth⟩
      refine ⟨.object noSpace forms, ?_, ?_, ?_⟩
      · rw [Form.text, htext, Value.write, Value.writeEntries_eq]
        rfl
      · rw [Form.value?, hvalues]
        rfl
      · rw [Form.depth, hdepth, Value.depth]

theorem Value.exists_items : ∀ {vs : List Value}, Value.ExactItems vs →
    ∃ items : Items, (∀ started, items.text started = Value.itemsText started vs) ∧
      items.values? = some vs ∧ items.depth = Value.depthItems vs
  | [], _ => ⟨.nil, fun _ => rfl, rfl, rfl⟩
  | v :: vs, h => by
      rcases Value.exists_form h.1 with ⟨f, htext, hvalue, hdepth⟩
      rcases Value.exists_items h.2 with ⟨items, htexts, hvalues, hdepths⟩
      refine ⟨.cons noSpace f noSpace items, ?_, ?_, ?_⟩
      · intro started
        rw [Items.text, htext, htexts]
        rfl
      · rw [Items.values?, hvalue, hvalues]
        rfl
      · rw [Items.depth, hdepth, hdepths, Value.depthItems]

theorem Value.exists_entries : ∀ {es : List (String × Value)}, Value.ExactEntries es →
    ∃ entries : Entries, (∀ started, entries.text started = Value.entriesText started es) ∧
      entries.values? = some es ∧ entries.depth = Value.depthEntries es
  | [], _ => ⟨.nil, fun _ => rfl, rfl, rfl⟩
  | (key, v) :: es, h => by
      rcases exists_stringForm key with ⟨name, hname, hkey⟩
      rcases Value.exists_form h.1 with ⟨f, htext, hvalue, hdepth⟩
      rcases Value.exists_entries h.2 with ⟨entries, htexts, hvalues, hdepths⟩
      refine ⟨.cons noSpace name noSpace noSpace f noSpace entries, ?_, ?_, ?_⟩
      · intro started
        rw [Entries.text, hname, htext, htexts]
        rfl
      · rw [Entries.values?, hvalue, hvalues, hkey]
        rfl
      · rw [Entries.depth, hdepth, hdepths, Value.depthEntries]

end

/-! ## Texts -/

/-- A printed value is read back. -/
theorem Value.ofText?_write {v : Value} (hexact : v.Exact) (hdepth : v.depth ≤ nestLimit) :
    Value.ofText? v.write = .ok v := by
  rcases Value.exists_form hexact with ⟨f, htext, hvalue, hforms⟩
  rcases f.ofText_text noSpace noSpace with ⟨rest, hroot⟩
  rw [f.text_alone, htext] at hroot
  have hread := f.read_node rest nestLimit (hforms.trans_le hdepth) hvalue
  simp only [Value.ofText?, hroot, hread]
  rfl

end PriorityLexer.Json
