import PriorityLexer.Proofs.ConfigParts
import PriorityLexer.Proofs.Json.Prefix

/-!
# Flag — options are read in one way only

Options are an object or an array.  Of an object only the values under the two names of the option
count, of an array all items do.  The first one has to be a boolean, and there must not be a second
one.

* `Options.ofForms` — what is read from the values that count;
* `Options.ofText_object_eq`, `Options.ofText_array_eq`, `Options.ofText_other_eq` — whole texts;
* `Options.ofText_prefix`, `Options.ofText_key` — how little of a text is enough to refuse it;
* `Options.ofText_flag` — all of it together.
-/

namespace PriorityLexer

open Json

namespace Options

/-- What options are read as from the values that count; `second` is reported of a second one. -/
def ofForms (second : ReadError) : List Form → Except ReadError Options
  | [] => .ok ⟨false⟩
  | [.bool b] => .ok ⟨b⟩
  | .bool _ :: _ :: _ => .error second
  | f :: _ => .error (f.refusal "a boolean")

/-- What is reported of a name of the option where one has been read. -/
def repeated : ReadError := .mismatch (.duplicateField "ignore_case")

/-! ## Objects -/

theorem map_scan (fs : List Form) : (scan none fs).map ofSeen = ofForms repeated fs := by
  cases fs with
  | nil => rfl
  | cons f fs =>
      rw [scan, f.readBool_eq]
      cases f with
      | bool b => cases fs <;> rfl
      | _ => rfl

theorem ofText_object_eq (lead inner trail : Space) (entries : Entries) :
    ofText (.ofList (lead ++ (Form.object inner entries).text ++ trail)) =
      ofForms repeated (entries.under ["ignoreCase", "ignore_case"]) := by
  obtain ⟨rest, hread⟩ := readText_form ofNode lead trail (.object inner entries)
  rw [ofText, hread, Form.node, ofNode, ofEntries_nodes, ← map_scan]
  cases scan none (entries.under ["ignoreCase", "ignore_case"]) <;> rfl

theorem ofEntries_append (seen : Option Bool) (entries more : List (Key × Node)) :
    ofEntries seen (entries ++ more) = ofEntries seen entries >>= (ofEntries · more) := by
  induction entries generalizing seen with
  | nil => rfl
  | cons e entries ih =>
      rcases e with ⟨key, n⟩
      simp only [List.cons_append, ofEntries, ih]
      cases key.readString with
      | error e => rfl
      | ok name =>
          simp only [bind, Except.bind]
          split
          · cases add seen n.readBool <;> rfl
          · cases orFlaw n.skip <;> rfl

/-- An error among the first entries is reported before the rest of the object is looked at. -/
theorem ofText_of_root {cs rest : List Char} {entries : Entries} {more : List (Key × Node)}
    {stop : Option Flaw} {e : ReadError}
    (hroot : (Document.ofText cs).root = .object (entries.nodes rest ++ more) stop)
    (h : scan none (entries.under ["ignoreCase", "ignore_case"]) >>= (ofEntries · more) =
      .error e) :
    ofText (.ofList cs) = .error e := by
  apply readText_of_error
  rw [hroot, ofNode, ofEntries_append, ofEntries_nodes, h]
  rfl

/-- An error is reported as soon as the value that it is about has ended. -/
theorem ofText_prefix {sep : Char} (hsep : sep = ',' ∨ sep = '\x7d') (lead inner : Space)
    {entries : Entries} {e : ReadError}
    (h : ofForms repeated (entries.under ["ignoreCase", "ignore_case"]) = .error e)
    (tail : List Char) :
    ofText (.ofList (lead ++ '\x7b' :: (inner ++ (entries.text false ++ sep :: tail)))) =
      .error e := by
  have hne : entries ≠ .nil := by
    rintro rfl
    cases h
  obtain ⟨more, stop, hroot⟩ := Entries.ofText_prefix hsep lead inner hne tail
  refine ofText_of_root hroot ?_
  -- The error is one of the scan, which comes before anything that follows.
  rw [← map_scan] at h
  cases hscan : scan none (entries.under ["ignoreCase", "ignore_case"]) with
  | ok seen =>
      rw [hscan] at h
      cases h
  | error e' =>
      rw [hscan] at h
      cases h
      rfl

/-- A second name of the option is refused before its value is looked at. -/
theorem ofText_key (lead inner before : Space) {entries : Entries} {b : Bool} {key : StringForm}
    (hentries : entries.under ["ignoreCase", "ignore_case"] = [.bool b])
    (hkey : key.value ∈ ["ignoreCase", "ignore_case"]) (tail : List Char) :
    ofText (.ofList (lead ++ '\x7b' :: (inner ++ (entries.text false ++
      ',' :: (before ++ (key.text ++ tail)))))) = .error repeated := by
  have hne : entries ≠ .nil := by
    rintro rfl
    cases hentries
  obtain ⟨raw, n, more, stop, hroot⟩ := Entries.ofText_key lead inner before hne key tail
  refine ofText_of_root hroot ?_
  have hname : isName key.value = true := isName_iff.2 hkey
  have hread : Key.readString ⟨raw, .text key.value⟩ = .ok key.value := rfl
  rw [hentries]
  simp only [scan, Form.node, Node.readBool, add, ofEntries, hread, bind, Except.bind, hname,
    if_true]
  rfl

/-! ## Other texts -/

theorem ofText_array_eq (lead inner trail : Space) (items : Items) :
    ofText (.ofList (lead ++ (Form.array inner items).text ++ trail)) =
      ofForms (.flaw .malformed) items.toList := by
  obtain ⟨rest, hread⟩ := readText_form ofNode lead trail (.array inner items)
  rw [ofText, hread, Form.node, ofNode]
  cases items with
  | nil => rfl
  | cons before item after more =>
      rw [Items.nodes, Items.toList, ofItems, item.readBool_eq]
      cases item with
      | bool b => cases more <;> rfl
      | _ => rfl

theorem ofText_other_eq (lead trail : Space) {f : Form}
    (harray : ∀ inner items, f ≠ .array inner items)
    (hobject : ∀ inner entries, f ≠ .object inner entries) :
    ofText (.ofList (lead ++ f.text ++ trail)) = .error (f.refusal "struct LexerOptions") := by
  obtain ⟨rest, hread⟩ := readText_form ofNode lead trail f
  rw [ofText, hread, ← f.unexpected_eq_refusal rest]
  cases f with
  | array inner items => exact absurd rfl (harray inner items)
  | object inner entries => exact absurd rfl (hobject inner entries)
  | number n =>
      rw [Form.node, NumberForm.node]
      cases n.numeral.value? <;> rfl
  | _ => rfl

/-- Options are read from the values under the two names of an object, or from the items of an
array, and nothing else is.  What is wrong is reported where it stands, whatever follows. -/
theorem ofText_flag :
    (∀ (lead inner trail : Space) (entries : Entries),
      ofText (.ofList (lead ++ (Form.object inner entries).text ++ trail)) =
        ofForms repeated (entries.under ["ignoreCase", "ignore_case"])) ∧
    (∀ (lead inner : Space) (entries : Entries) (e : ReadError) (sep : Char) (tail : List Char),
      ofForms repeated (entries.under ["ignoreCase", "ignore_case"]) = .error e →
      sep = ',' ∨ sep = '\x7d' →
      ofText (.ofList (lead ++ '\x7b' :: (inner ++ (entries.text false ++ sep :: tail)))) =
        .error e) ∧
    (∀ (lead inner before : Space) (entries : Entries) (b : Bool) (key : StringForm)
      (tail : List Char), entries.under ["ignoreCase", "ignore_case"] = [.bool b] →
      key.value ∈ ["ignoreCase", "ignore_case"] →
      ofText (.ofList (lead ++ '\x7b' :: (inner ++ (entries.text false ++
        ',' :: (before ++ (key.text ++ tail)))))) = .error repeated) ∧
    (∀ (lead inner trail : Space) (items : Items),
      ofText (.ofList (lead ++ (Form.array inner items).text ++ trail)) =
        ofForms (.flaw .malformed) items.toList) ∧
    ∀ (lead trail : Space) (f : Form), (∀ inner items, f ≠ .array inner items) →
      (∀ inner entries, f ≠ .object inner entries) →
      ofText (.ofList (lead ++ f.text ++ trail)) =
        .error (f.refusal "struct LexerOptions") := by
  refine ⟨ofText_object_eq, ?_, ?_, ofText_array_eq, ?_⟩
  · intro lead inner entries e sep tail h hsep
    exact ofText_prefix hsep lead inner h tail
  · intro lead inner before entries b key tail hentries hkey
    exact ofText_key lead inner before hentries hkey tail
  · intro lead trail f harray hobject
    exact ofText_other_eq lead trail harray hobject

/-! ### Five texts

In the first one, a key that means nothing holds a number that is too large.  The second one breaks
off behind a repeated name, the third one behind a value that is wrong. -/

theorem ofText_flag_five :
    ofText "\x7b\"note\": 0.1e999, \"ignoreCase\": true\x7d" = .ok ⟨true⟩ ∧
    ofText "\x7b\"note\": 0.1e999, \"ignoreCase\": true, \"ignore_case\"]" =
      mismatch (.duplicateField "ignore_case") ∧
    ofText "\x7b\"note\": 0.1e999, \"ignoreCase\": null, ]" =
      mismatch (.invalidType .null "a boolean") ∧
    ofText "[true, null]" = .error (.flaw .malformed) ∧
    ofText " true" = mismatch (.invalidType (.bool true) "struct LexerOptions") := by
  let note := plainForm "note" (by decide)
  let name := plainForm "ignoreCase" (by decide)
  let entries (value : Form) : Entries :=
    .spaced noSpace [(note, .number farNumber), (name, value)]
  refine ⟨?_, ?_, ?_, ?_, ?_⟩
  · exact ofText_flag.1 noSpace noSpace noSpace (entries (.bool true))
  · exact ofText_flag.2.2.1 noSpace noSpace oneSpace (entries (.bool true)) true
      (plainForm "ignore_case" (by decide)) [']'] rfl (by decide)
  · exact ofText_flag.2.1 noSpace noSpace (entries .null) _ ',' [' ', ']'] rfl (.inl rfl)
  · exact ofText_flag.2.2.2.1 noSpace noSpace noSpace
      (.cons noSpace (.bool true) noSpace (.cons oneSpace .null noSpace .nil))
  · exact ofText_flag.2.2.2.2 oneSpace noSpace (.bool true) nofun nofun

/-- A number that is too large has no value, so that it is malformed rather than of a wrong type. -/
theorem ofText_farNumber :
    (Form.object noSpace (.cons noSpace (plainForm "ignoreCase" (by decide)) noSpace noSpace
      (.number farNumber) noSpace .nil)).text = "\x7b\"ignoreCase\":0.1e999\x7d".toList ∧
    ofText "\x7b\"ignoreCase\":0.1e999\x7d" = .error (.flaw .malformed) ∧
    ∀ s, ofText "\x7b\"ignoreCase\":0.1e999\x7d" ≠ mismatch (.invalidType s "a boolean") := by
  have hread : ofText "\x7b\"ignoreCase\":0.1e999\x7d" = .error (.flaw .malformed) := by
    decide +kernel
  refine ⟨by decide, hread, fun s h => ?_⟩
  cases hread.symm.trans h

end Options

end PriorityLexer
