import PriorityLexer.Proofs.Outcome
import PriorityLexer.Proofs.Reading

/-!
# Spelling — what is read from a text is what it spells

Every text that spells a pattern or a definition is read as that; here it is shown that no other
text is, where kinds are strings.  How deep the text lies does not matter: what counts is not
nested, and what is passed over may be.

* `Pattern.ofNode_eq_ok_iff`, `Definition.ofNode_eq_ok_iff` — what a part of a text is read as;
* `Definition.Fields.add_eq_ok` — what one entry does to the fields;
* `Pattern.ofNode_eq_ok_iff_ofText`, `Definition.ofNode_eq_ok_iff_ofText` — parts of a text next to
  texts of their own.
-/

namespace PriorityLexer

open Json

variable {f : Form} {rest : List Char} {room : Nat}

/-! ## Patterns -/

theorem Json.Form.exists_of_value?_eq_entry {f : Form} {name s : String}
    (h : f.value? = some (.object [(name, .string s)])) :
    ∃ inner entries key form, f = .object inner entries ∧
      entries.toList = [(key, .string form)] ∧ key.value = name ∧ form.value = s := by
  obtain ⟨inner, entries, rfl, hvalues⟩ := Form.value?_eq_object h
  cases entries with
  | nil => cases hvalues
  | cons before key middle gap value after more =>
      obtain ⟨v, hv, h⟩ := Option.bind_eq_some_iff.1 hvalues
      obtain ⟨vs, hvs, h⟩ := Option.bind_eq_some_iff.1 h
      cases h
      obtain ⟨form, rfl, hform⟩ := Form.value?_eq_string hv
      cases more with
      | nil => exact ⟨inner, _, key, form, rfl, rfl, rfl, hform⟩
      | cons before' key' middle' gap' value' after' more' =>
          obtain ⟨v, hv, h⟩ := Option.bind_eq_some_iff.1 hvs
          obtain ⟨vs, hvs, h⟩ := Option.bind_eq_some_iff.1 h
          cases h

theorem Pattern.ofValue_eq_ok {v : Value} {p : Pattern} (h : Pattern.ofValue v = .ok p) :
    (∃ s, v = .string s ∧ p = .literal s) ∨
    (∃ s, v = .object [("literal", .string s)] ∧ p = .literal s) ∨
    (∃ s, v = .object [("regex", .string s)] ∧ p = .regex s) := by
  unfold Pattern.ofValue at h
  split at h
  · cases h
    exact .inl ⟨_, rfl, rfl⟩
  · split at h
    · next hkey =>
        cases h
        exact .inr (.inl ⟨_, by rw [hkey], rfl⟩)
    · split at h
      · next hkey =>
          cases h
          exact .inr (.inr ⟨_, by rw [hkey], rfl⟩)
      · cases h
  · cases h

theorem Pattern.ofNode_eq_ok_iff (hroom : 1 ≤ room) {p : Pattern} :
    Pattern.ofNode room (f.node rest) = .ok p ↔ p.SpelledBy f := by
  constructor
  · intro h
    obtain ⟨v, hread, hv⟩ := bind_eq_ok_iff.1 h
    have hvalue := (Form.read_eq_ok_iff.1 (orFlaw_eq_ok_iff.1 hread)).2
    rcases Pattern.ofValue_eq_ok hv with ⟨s, rfl, rfl⟩ | ⟨s, rfl, rfl⟩ | ⟨s, rfl, rfl⟩
    · obtain ⟨form, rfl, rfl⟩ := Form.value?_eq_string hvalue
      exact .bare form
    · obtain ⟨inner, entries, key, form, rfl, hentries, hkey, rfl⟩ :=
        Form.exists_of_value?_eq_entry hvalue
      exact .literal inner entries key form hentries hkey
    · obtain ⟨inner, entries, key, form, rfl, hentries, hkey, rfl⟩ :=
        Form.exists_of_value?_eq_entry hvalue
      exact .regex inner entries key form hentries hkey
  · intro h
    exact Pattern.ofNode_node h rest room hroom

theorem Pattern.ofText_form_eq_ok_iff (lead trail : Space) {p : Pattern} :
    Pattern.ofText (.ofList (lead ++ f.text ++ trail)) = .ok p ↔ p.SpelledBy f := by
  obtain ⟨rest, hread⟩ := readText_form (Pattern.ofNode nestLimit) lead trail f
  rw [Pattern.ofText, hread]
  exact Pattern.ofNode_eq_ok_iff (by decide)

theorem Pattern.ofText_eq_ok_iff {p : Pattern} :
    Pattern.ofText (.ofList f.text) = .ok p ↔ p.SpelledBy f := by
  rw [← Pattern.ofText_form_eq_ok_iff noSpace noSpace, f.text_alone]

/-- A pattern is read anywhere in a text exactly if it is read alone. -/
theorem Pattern.ofNode_eq_ok_iff_ofText (hroom : 1 ≤ room) {p : Pattern} :
    Pattern.ofNode room (f.node rest) = .ok p ↔ Pattern.ofText (.ofList f.text) = .ok p :=
  (Pattern.ofNode_eq_ok_iff hroom).trans Pattern.ofText_eq_ok_iff.symm

/-! ## Fields -/

namespace Awaits

variable {α : Type} {spells : α → Form → Prop} {goal : Option α} {fs : List Form}

theorem cons {a : α} (h : spells a f) (hmore : Awaits spells (some a) goal fs) :
    Awaits spells none goal (f :: fs) := by
  cases hmore
  exact .one h

theorem exists_of_some {a : α} (h : Awaits spells none (some a) fs) :
    ∃ f, fs = [f] ∧ spells a f := by
  cases h with
  | one hf => exact ⟨_, rfl, hf⟩

end Awaits

theorem Json.Form.value?_of_readString {s : String} (h : (f.node rest).readString = .ok s) :
    f.value? = some (.string s) := by
  cases f with
  | number n =>
      simp only [Form.node, NumberForm.node] at h
      split at h <;> cases h
  | string form =>
      cases h
      rfl
  | _ => cases h

namespace Definition

variable {fields fields' : Fields String}

/-- What one entry does to the fields. -/
theorem Fields.add_eq_ok (hroom : 1 ≤ room) {name : String}
    (h : fields.add room name (f.node rest) = .ok fields') :
    (name ∈ ["kind", "type"] ∧ fields.kind = none ∧
      ∃ k, f.value? = some (.string k) ∧ fields' = { fields with kind := some k }) ∨
    (name ∉ ["kind", "type"] ∧ name = "pattern" ∧ fields.pattern = none ∧
      ∃ p : Pattern, p.SpelledBy f ∧ fields' = { fields with pattern := some p }) ∨
    (name ∉ ["kind", "type"] ∧ name ≠ "pattern" ∧ fields' = fields) := by
  unfold Fields.add at h
  split at h
  · next hname =>
      split at h
      · cases h
      · next hnone =>
          obtain ⟨k, hk, h⟩ := bind_eq_ok_iff.1 h
          cases h
          exact .inl ⟨by simpa using hname, hnone, k, Form.value?_of_readString hk, rfl⟩
  · next hname =>
      have hother : name ∉ ["kind", "type"] := by simpa using hname
      split at h
      · next hpattern =>
          split at h
          · cases h
          · next hnone =>
              obtain ⟨p, hp, h⟩ := bind_eq_ok_iff.1 h
              cases h
              exact .inr (.inl ⟨hother, hpattern, hnone, p,
                (Pattern.ofNode_eq_ok_iff hroom).1 hp, rfl⟩)
      · next hpattern =>
          obtain ⟨_, -, h⟩ := bind_eq_ok_iff.1 h
          cases h
          exact .inr (.inr ⟨hother, hpattern, rfl⟩)

/-- When the entries have been read, each field holds what it waited for. -/
theorem awaits_of_ofEntries (hroom : 1 ≤ room) : ∀ {entries : Entries} {fields : Fields String},
    ofEntries room fields (entries.nodes rest) = .ok fields' →
    Awaits (fun k form => form.value? = some (.string k)) fields.kind fields'.kind
      (entries.under ["kind", "type"]) ∧
    Awaits Pattern.SpelledBy fields.pattern fields'.pattern (entries.under ["pattern"])
  | .nil, fields, h => by
      cases h
      exact ⟨.done _, .done _⟩
  | .cons before key middle gap value after more, fields, h => by
      obtain ⟨name, hname, h⟩ := bind_eq_ok_iff.1 h
      cases hname
      obtain ⟨fields, hadd, h⟩ := bind_eq_ok_iff.1 h
      -- The entries behind go on from what this one leaves in the fields.
      obtain ⟨hkind, hpattern⟩ := awaits_of_ofEntries hroom h
      rcases Fields.add_eq_ok hroom hadd with ⟨hname, hnone, k, hk, rfl⟩ |
        ⟨hname, hname', hnone, p, hp, rfl⟩ | ⟨hname, hname', rfl⟩
      · have hother : key.value ∉ ["pattern"] := by
          rcases List.mem_pair.1 hname with h | h <;> simp [h]
        rw [Entries.under_cons_of_mem hname, Entries.under_cons_of_not_mem hother, hnone]
        exact ⟨.cons hk hkind, hpattern⟩
      · rw [Entries.under_cons_of_not_mem hname, Entries.under_cons_of_mem (by simp [hname']),
          hnone]
        exact ⟨hkind, .cons hp hpattern⟩
      · rw [Entries.under_cons_of_not_mem hname,
          Entries.under_cons_of_not_mem (by simpa using hname')]
        exact ⟨hkind, hpattern⟩

/-! ## Definitions -/

theorem Fields.finish_eq_ok {d : Definition String} (h : fields.finish = .ok d) :
    fields = ⟨some d.kind, some d.pattern⟩ := by
  rcases fields with ⟨_ | kind, _ | pattern⟩ <;> cases h
  rfl

/-- Two items are read, and there must not be a third one. -/
theorem spelledBy_of_ofItems (hroom : 1 ≤ room) {items : Items} {d : Definition String}
    (h : ofItems room (items.nodes rest) none = .ok d) (inner : Space) :
    d.SpelledBy (.array inner items) := by
  rcases items with _ | ⟨before, k, after, _ | ⟨before', p, after', _ | more⟩⟩
  · cases h
  · obtain ⟨kind, -, h⟩ := bind_eq_ok_iff.1 h
    cases h
  · obtain ⟨kind, hkind, h⟩ := bind_eq_ok_iff.1 h
    obtain ⟨pattern, hpattern, h⟩ := bind_eq_ok_iff.1 h
    cases h
    exact .array inner _ k p rfl (Form.value?_of_readString hkind)
      ((Pattern.ofNode_eq_ok_iff hroom).1 hpattern)
  · obtain ⟨kind, -, h⟩ := bind_eq_ok_iff.1 h
    obtain ⟨pattern, -, h⟩ := bind_eq_ok_iff.1 h
    cases h

theorem ofNode_eq_ok_iff (hroom : 2 ≤ room) {d : Definition String} :
    ofNode room (f.node rest) = .ok d ↔ d.SpelledBy f := by
  have hinside : 1 ≤ room - 1 := Nat.le_sub_of_add_le hroom
  constructor
  · intro h
    cases f with
    | number n =>
        simp only [Form.node, NumberForm.node] at h
        split at h <;> cases h
    | array inner items => exact spelledBy_of_ofItems hinside h inner
    | object inner entries =>
        obtain ⟨fields, hfields, h⟩ := bind_eq_ok_iff.1 h
        obtain ⟨_, -, h⟩ := bind_eq_ok_iff.1 h
        cases Fields.finish_eq_ok h
        obtain ⟨hkind, hpattern⟩ := awaits_of_ofEntries hinside hfields
        obtain ⟨k, hk, hkind⟩ := hkind.exists_of_some
        obtain ⟨p, hp, hpattern⟩ := hpattern.exists_of_some
        exact .object inner entries k p hk hp hkind hpattern
    | _ => cases h
  · intro h
    exact ofNode_node h rest room hroom

theorem ofText_form_eq_ok_iff (lead trail : Space) {d : Definition String} :
    ofText (.ofList (lead ++ f.text ++ trail)) = .ok d ↔ d.SpelledBy f := by
  obtain ⟨rest, hread⟩ := readText_form (ofNode (κ := String) nestLimit) lead trail f
  rw [ofText, hread]
  exact ofNode_eq_ok_iff (by decide)

theorem ofText_eq_ok_iff {d : Definition String} :
    ofText (.ofList f.text) = .ok d ↔ d.SpelledBy f := by
  rw [← ofText_form_eq_ok_iff noSpace noSpace, f.text_alone]

/-- A definition is read anywhere in a text exactly if it is read alone. -/
theorem ofNode_eq_ok_iff_ofText (hroom : 2 ≤ room) {d : Definition String} :
    ofNode room (f.node rest) = .ok d ↔ ofText (.ofList f.text) = .ok d :=
  (ofNode_eq_ok_iff hroom).trans ofText_eq_ok_iff.symm

end Definition

end PriorityLexer
