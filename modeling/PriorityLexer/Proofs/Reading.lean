import PriorityLexer.Proofs.ConfigReading

/-!
# Reading — a part of a text is read as it is alone

Where kinds are strings, what is read from a value does not depend on where it stands: neither what
follows it nor how deep it lies matters, as long as the nesting stays within the limit.

* `Form.Fits` — values that can be taken in;
* `Form.read_moved` — a value is taken in, or refused, alike at two places;
* `Written`, `readText_form` — a whole text is read from the tree of its form;
* `Pattern.ofNode_moved`, `Definition.ofNode_moved`, `Definitions.ofNode_moved` — the same form at
  two places of texts, with more or less room;
* `Pattern.ofNode_alone`, `Definition.ofNode_alone`, `Definitions.ofNode_alone` — a part of a text
  next to the text that holds nothing else.
-/

namespace PriorityLexer

open Json

/-! ## Values within the limits -/

/-- A form has a value, and its containers are not nested deeper than there is room. -/
structure Json.Form.Fits (room : Nat) (f : Form) : Prop where
  depth_le : f.depth ≤ room
  isSome : f.value?.isSome = true

namespace Json

theorem Form.Fits.exists_value {room : Nat} {f : Form} (h : f.Fits room) :
    ∃ v, f.value? = some v :=
  Option.isSome_iff_exists.1 h.isSome

theorem Form.Fits.mono {room room' : Nat} {f : Form} (h : f.Fits room) (hle : room ≤ room') :
    f.Fits room' :=
  ⟨Nat.le_trans h.depth_le hle, h.isSome⟩

/-- The values of an object fit into what room it leaves. -/
theorem Entries.fits {entries : Entries} {room : Nat} (hdepth : entries.depth ≤ room)
    (hsome : entries.values?.isSome = true) : ∀ e ∈ entries.toList, e.2.Fits room := by
  intro e he
  fun_induction Entries.toList entries with
  | case1 => cases he
  | case2 before key middle gap value after more ih =>
      simp only [Entries.depth] at hdepth
      obtain ⟨vs, hvs⟩ := Option.isSome_iff_exists.1 hsome
      obtain ⟨v, hv, hvs⟩ := Option.bind_eq_some_iff.1 hvs
      obtain ⟨ws, hws, ⟨⟩⟩ := Option.bind_eq_some_iff.1 hvs
      rcases List.mem_cons.1 he with rfl | he
      · exact ⟨(by omega : value.depth ≤ room), by rw [hv]; rfl⟩
      · exact ih (by omega) (by rw [hws]; rfl) he

theorem Form.Fits.entries {inner : Space} {entries : Entries} {room : Nat}
    (h : (Form.object inner entries).Fits room) :
    ∀ e ∈ entries.toList, e.2.Fits (room - 1) := by
  obtain ⟨hdepth, hsome⟩ := h
  rw [Form.depth] at hdepth
  exact Entries.fits (by omega) (by simpa [Form.value?] using hsome)

/-! ## Depth -/

theorem Items.depth_le {items : Items} {room : Nat} (h : items.depth ≤ room) :
    ∀ f ∈ items.toList, f.depth ≤ room := by
  intro f hf
  fun_induction Items.toList items with
  | case1 => cases hf
  | case2 before item after more ih =>
      rw [Items.depth, Nat.max_le] at h
      rcases List.mem_cons.1 hf with rfl | hf
      · exact h.1
      · exact ih h.2 hf

theorem Entries.depth_le {entries : Entries} {room : Nat} (h : entries.depth ≤ room) :
    ∀ e ∈ entries.toList, e.2.depth ≤ room := by
  intro e he
  fun_induction Entries.toList entries with
  | case1 => cases he
  | case2 before key middle gap value after more ih =>
      rw [Entries.depth, Nat.max_le] at h
      rcases List.mem_cons.1 he with rfl | he
      · exact h.1
      · exact ih h.2 he

/-- With enough room, taking in a value depends on the value only. -/
theorem Form.read_moved (f : Form) {room room' : Nat} (h : f.depth ≤ room) (h' : f.depth ≤ room')
    (rest rest' : List Char) : (f.node rest).read room = (f.node rest').read room' := by
  rw [f.read_eq, f.read_eq, if_pos h, if_pos h']

/-! ## Simple values -/

theorem NumberForm.exists_node {n : NumberForm} {v : Value}
    (hv : (Form.number n).value? = some v) : ∃ k, v = .number k ∧ n.node = .number k := by
  obtain ⟨k, hk, rfl⟩ := Option.map_eq_some_iff.1 hv
  exact ⟨k, rfl, by rw [node, hk]⟩

/-- What a message says of a form; there is nothing to say of a number that is too large. -/
def Form.shape? : Form → Option Shape
  | .null => some .null
  | .bool b => some (.bool b)
  | .number n => n.numeral.value?.map .number
  | .string s => some (.string s.value)
  | .array _ _ => some .sequence
  | .object _ _ => some .map

/-- What is reported where something else is expected. -/
def Form.refusal (expected : String) (f : Form) : ReadError :=
  match f.shape? with
  | some s => .mismatch (.invalidType s expected)
  | none => .flaw .malformed

theorem Form.unexpected_eq_refusal (f : Form) (rest : List Char) (expected : String) :
    (f.node rest).unexpected expected = f.refusal expected := by
  cases f with
  | number n =>
      rw [Form.node, NumberForm.node, refusal, shape?]
      cases n.numeral.value? <;> rfl
  | _ => rfl

theorem Form.shape?_of_value {f : Form} {v : Value} (hv : f.value? = some v) :
    f.shape? = some v.shape := by
  cases f with
  | number n =>
      obtain ⟨k, hk, rfl⟩ := Option.map_eq_some_iff.1 hv
      rw [shape?, hk]
      rfl
  | array inner items =>
      obtain ⟨vs, -, rfl⟩ := Option.map_eq_some_iff.1 hv
      rfl
  | object inner entries =>
      obtain ⟨vs, -, rfl⟩ := Option.map_eq_some_iff.1 hv
      rfl
  | _ =>
      cases hv
      rfl

/-- What is said of a value of the wrong kind. -/
theorem Form.unexpected_node {f : Form} {v : Value} (hv : f.value? = some v) (rest : List Char)
    (expected : String) :
    (f.node rest).unexpected expected = .mismatch (.invalidType v.shape expected) := by
  rw [f.unexpected_eq_refusal, refusal, shape?_of_value hv]

/-- Only a string is read as one. -/
theorem Form.readString_eq (f : Form) (rest : List Char) :
    (f.node rest).readString =
      match f with
      | .string s => .ok s.value
      | f => .error (f.refusal "a string") := by
  cases f with
  | number n =>
      have hnode : n.node.readString = .error (n.node.unexpected "a string") := by
        rw [NumberForm.node]
        cases n.numeral.value? <;> rfl
      exact hnode.trans (congrArg _ ((Form.number n).unexpected_eq_refusal rest _))
  | _ => rfl

theorem Form.readBool_eq (f : Form) (rest : List Char) :
    (f.node rest).readBool =
      match f with
      | .bool b => .ok b
      | f => .error (f.refusal "a boolean") := by
  cases f with
  | number n =>
      have hnode : n.node.readBool = .error (n.node.unexpected "a boolean") := by
        rw [NumberForm.node]
        cases n.numeral.value? <;> rfl
      exact hnode.trans (congrArg _ ((Form.number n).unexpected_eq_refusal rest _))
  | _ => rfl

theorem Form.readString_moved (f : Form) (rest rest' : List Char) :
    (f.node rest).readString = (f.node rest').readString := by
  cases f <;> rfl

theorem Form.readBool_moved (f : Form) (rest rest' : List Char) :
    (f.node rest).readBool = (f.node rest').readBool := by
  cases f <;> rfl

end Json

/-! ## Whole texts -/

/-- A well-formed text within the limits: a form with white space around it. -/
structure Json.Written where
  lead : Space
  form : Form
  trail : Space
  fits : form.Fits nestLimit

def Json.Written.text (t : Written) : String := .ofList (t.lead ++ t.form.text ++ t.trail)

/-- A reader sees the tree of the form of a text, with something behind it. -/
theorem readText_form {α : Type} (reader : Node → Except ReadError α) (lead trail : Space)
    (f : Form) :
    ∃ rest, readText reader (.ofList (lead ++ f.text ++ trail)) = reader (f.node rest) := by
  obtain ⟨rest, hrest⟩ := f.ofText_text lead trail
  refine ⟨rest, ?_⟩
  rw [readText, String.toList_ofList, hrest]
  cases reader (f.node rest) <;> rfl

theorem readText_text {α : Type} (reader : Node → Except ReadError α) (t : Written) :
    ∃ rest, readText reader t.text = reader (t.form.node rest) :=
  readText_form reader t.lead t.trail t.form

theorem Json.Form.text_alone (f : Form) : noSpace ++ f.text ++ noSpace = f.text :=
  List.append_nil f.text

/-- Without white space around it. -/
theorem readText_alone {α : Type} (reader : Node → Except ReadError α) (f : Form) :
    ∃ rest, readText reader (.ofList f.text) = reader (f.node rest) := by
  have hread := readText_form reader noSpace noSpace f
  rwa [f.text_alone] at hread

/-- An error of the reader is reported before the rest of the text is looked at. -/
theorem readText_of_error {α : Type} {reader : Node → Except ReadError α} {cs : List Char}
    {e : ReadError} (h : reader (Document.ofText cs).root = .error e) :
    readText reader (.ofList cs) = .error e := by
  rw [readText, String.toList_ofList, h]
  rfl

/-! ## Parts of texts -/

section

variable {room room' : Nat}

theorem Pattern.ofNode_moved {f : Form} (h : f.depth ≤ room) (h' : f.depth ≤ room')
    (rest rest' : List Char) :
    Pattern.ofNode room (f.node rest) = Pattern.ofNode room' (f.node rest') := by
  rw [Pattern.ofNode, Pattern.ofNode, f.read_moved h h' rest rest']

theorem Definition.Fields.add_moved {f : Form} (h : f.depth ≤ room) (h' : f.depth ≤ room')
    (rest rest' : List Char) (fields : Fields String) (name : String) :
    fields.add room name (f.node rest) = fields.add room' name (f.node rest') := by
  have hkind : KindFormat.ofNode (κ := String) (f.node rest) = KindFormat.ofNode (f.node rest') :=
    f.readString_moved rest rest'
  simp only [Fields.add, hkind, Pattern.ofNode_moved h h' rest rest', Form.skip_node]

theorem Definition.ofEntries_moved (rest rest' : List Char) :
    ∀ {entries : Entries} (fields : Fields String),
    (∀ e ∈ entries.toList, e.2.depth ≤ room) → (∀ e ∈ entries.toList, e.2.depth ≤ room') →
    Definition.ofEntries room fields (entries.nodes rest) =
      Definition.ofEntries room' fields (entries.nodes rest')
  | .nil, _, _, _ => rfl
  | .cons before key middle gap value after more, fields, h, h' => by
      have hadd := Fields.add_moved (h (key, value) List.mem_cons_self)
        (h' (key, value) List.mem_cons_self) (after ++ (more.text true ++ rest))
        (after ++ (more.text true ++ rest'))
      have hmore (fields : Fields String) := Definition.ofEntries_moved rest rest' fields
        (fun e he => h e (List.mem_cons_of_mem _ he))
        (fun e he => h' e (List.mem_cons_of_mem _ he))
      simp only [Entries.nodes, Definition.ofEntries, Key.readString, KeyText.read, orFlaw, hadd,
        hmore]

theorem Definition.ofItems_moved {items : Items} (h : ∀ f ∈ items.toList, f.depth ≤ room)
    (h' : ∀ f ∈ items.toList, f.depth ≤ room') (rest rest' : List Char) :
    Definition.ofItems (κ := String) room (items.nodes rest) none =
      Definition.ofItems room' (items.nodes rest') none := by
  cases items with
  | nil => rfl
  | cons before item after more =>
      have hkind : KindFormat.ofNode (κ := String) (item.node (after ++ (more.text true ++ rest))) =
          KindFormat.ofNode (item.node (after ++ (more.text true ++ rest'))) :=
        item.readString_moved _ _
      cases more with
      | nil => simp only [Items.nodes, Definition.ofItems, hkind]
      | cons before' pattern after' more =>
          have hpattern := Pattern.ofNode_moved (h pattern (by simp [Items.toList]))
            (h' pattern (by simp [Items.toList])) (after' ++ (more.text true ++ rest))
            (after' ++ (more.text true ++ rest'))
          simp only [Items.nodes, Definition.ofItems, hkind, hpattern]
          -- A third item is refused, whatever it is.
          cases more <;> rfl

theorem Definition.ofNode_moved {f : Form} (h : f.depth ≤ room) (h' : f.depth ≤ room')
    (rest rest' : List Char) :
    Definition.ofNode (κ := String) room (f.node rest) =
      Definition.ofNode room' (f.node rest') := by
  cases f with
  | number n =>
      simp only [Form.node, NumberForm.node]
      cases n.numeral.value? <;> rfl
  | array inner items =>
      exact Definition.ofItems_moved (Items.depth_le (Nat.le_sub_of_add_le h))
        (Items.depth_le (Nat.le_sub_of_add_le h')) _ _
  | object inner entries =>
      simp only [Form.node, Definition.ofNode,
        Definition.ofEntries_moved ('\x7d' :: rest) ('\x7d' :: rest') _
          (Entries.depth_le (Nat.le_sub_of_add_le h)) (Entries.depth_le (Nat.le_sub_of_add_le h'))]
  | _ => rfl

theorem Definitions.ofItems_moved (rest rest' : List Char) : ∀ {items : Items},
    (∀ f ∈ items.toList, f.depth ≤ room) → (∀ f ∈ items.toList, f.depth ≤ room') →
    Definitions.ofItems (κ := String) room (items.nodes rest) =
      Definitions.ofItems room' (items.nodes rest')
  | .nil, _, _ => rfl
  | .cons before item after more, h, h' => by
      have hitem := Definition.ofNode_moved (h item List.mem_cons_self) (h' item List.mem_cons_self)
        (after ++ (more.text true ++ rest)) (after ++ (more.text true ++ rest'))
      have hmore := Definitions.ofItems_moved rest rest'
        (fun f hf => h f (List.mem_cons_of_mem _ hf))
        (fun f hf => h' f (List.mem_cons_of_mem _ hf))
      simp only [Items.nodes, Definitions.ofItems, hitem, hmore]

theorem Definitions.ofEntries_moved (rest rest' : List Char) : ∀ {entries : Entries},
    (∀ e ∈ entries.toList, e.2.depth ≤ room) → (∀ e ∈ entries.toList, e.2.depth ≤ room') →
    Definitions.ofEntries (κ := String) room (entries.nodes rest) =
      Definitions.ofEntries room' (entries.nodes rest')
  | .nil, _, _ => rfl
  | .cons before key middle gap value after more, h, h' => by
      have hvalue := Pattern.ofNode_moved (h (key, value) List.mem_cons_self)
        (h' (key, value) List.mem_cons_self) (after ++ (more.text true ++ rest))
        (after ++ (more.text true ++ rest'))
      have hmore := Definitions.ofEntries_moved rest rest'
        (fun e he => h e (List.mem_cons_of_mem _ he))
        (fun e he => h' e (List.mem_cons_of_mem _ he))
      simp only [Entries.nodes, Definitions.ofEntries, KindFormat.ofKey, Key.readString, hvalue,
        hmore]

/-- Definitions are read alike wherever their form stands. -/
theorem Definitions.ofNode_moved {f : Form} (h : f.depth ≤ room) (h' : f.depth ≤ room')
    (rest rest' : List Char) :
    Definitions.ofNode (κ := String) room (f.node rest) =
      Definitions.ofNode room' (f.node rest') := by
  cases f with
  | number n =>
      simp only [Form.node, NumberForm.node]
      cases n.numeral.value? <;> rfl
  | array inner items =>
      simp only [Form.node, Definitions.ofNode,
        Definitions.ofItems_moved (']' :: rest) (']' :: rest')
          (Items.depth_le (Nat.le_sub_of_add_le h)) (Items.depth_le (Nat.le_sub_of_add_le h'))]
  | object inner entries =>
      simp only [Form.node, Definitions.ofNode,
        Definitions.ofEntries_moved ('\x7d' :: rest) ('\x7d' :: rest')
          (Entries.depth_le (Nat.le_sub_of_add_le h)) (Entries.depth_le (Nat.le_sub_of_add_le h'))]
  | _ => rfl

/-! ### Next to a text of their own -/

theorem Pattern.ofNode_alone {f : Form} (h : f.depth ≤ room) (hroom : room ≤ nestLimit)
    (rest : List Char) :
    Pattern.ofNode room (f.node rest) = Pattern.ofText (.ofList f.text) := by
  obtain ⟨rest', hread⟩ := readText_alone (Pattern.ofNode nestLimit) f
  rw [Pattern.ofText, hread]
  exact Pattern.ofNode_moved h (Nat.le_trans h hroom) rest rest'

theorem Definition.ofNode_alone {f : Form} (h : f.depth ≤ room) (hroom : room ≤ nestLimit)
    (rest : List Char) :
    Definition.ofNode (κ := String) room (f.node rest) = Definition.ofText (.ofList f.text) := by
  obtain ⟨rest', hread⟩ := readText_alone (Definition.ofNode (κ := String) nestLimit) f
  rw [Definition.ofText, hread]
  exact Definition.ofNode_moved h (Nat.le_trans h hroom) rest rest'

/-- Inside another text, definitions are read as the text that holds nothing else. -/
theorem Definitions.ofNode_alone {f : Form} (h : f.Fits room) (hroom : room ≤ nestLimit)
    (rest : List Char) :
    Definitions.ofNode (κ := String) room (f.node rest) = Definitions.ofText (.ofList f.text) := by
  obtain ⟨rest', hread⟩ := readText_alone (Definitions.ofNode (κ := String) nestLimit) f
  rw [Definitions.ofText, hread]
  exact Definitions.ofNode_moved h.depth_le (Nat.le_trans h.depth_le hroom) rest rest'

end

end PriorityLexer
