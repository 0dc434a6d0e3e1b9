import PriorityLexer.Proofs.Variants

/-!
# Fields — what texts of definitions are read as

The entries of an object are judged one by one.  A key counts only if it belongs to one of the two
fields; then it must not come again, and its value must suit the field.  Which fields are missing is
asked only when all entries have been read.

* `Definition.Field.of?` — the field of a key;
* `Definition.Fault`, `Definition.Faultless` — what is wrong with an entry behind others;
* `Definition.scan_eq_error_iff` — the first entry that is wrong is reported;
* `Definition.ofText_object_eq_error_iff`, `Definition.ofText_array_eq`,
  `Definition.ofText_other_eq` — whole texts;
* `Definition.ofText_fields` — all of it together.
-/

namespace PriorityLexer

open Json

/-! ## Values -/

/-- What a pattern inside a definition is read as: as alone, unless its brackets do not fit. -/
def Pattern.ofInner (f : Form) : Except ReadError Pattern :=
  if f.depth < nestLimit then Pattern.ofText (.ofList f.text) else .error (.flaw .malformed)

theorem Pattern.ofNode_inner (f : Form) (rest : List Char) :
    Pattern.ofNode (nestLimit - 1) (f.node rest) = Pattern.ofInner f := by
  unfold Pattern.ofInner
  split
  · next hlt => exact Pattern.ofNode_alone (Nat.le_sub_one_of_lt hlt) (by decide) rest
  · next hge =>
      have hdepth : ¬ f.depth ≤ nestLimit - 1 := by
        have hpos : 0 < nestLimit := by decide
        omega
      rw [Pattern.ofNode, f.read_eq, if_neg hdepth]
      rfl

namespace Definition

/-- What a kind is read as: it has to be a string. -/
def kindOf : Form → Except ReadError String
  | .string s => .ok s.value
  | f => .error (f.refusal "a string")

theorem ofNode_kind (f : Form) (rest : List Char) :
    KindFormat.ofNode (f.node rest) = kindOf f := by
  refine (f.readString_eq rest).trans ?_
  cases f <;> rfl

/-! ## Fields -/

inductive Field where
  | kind | pattern
deriving DecidableEq

namespace Field

def name : Field → String
  | .kind => "kind"
  | .pattern => "pattern"

/-- The field that a key belongs to. -/
def of? (key : StringForm) : Option Field :=
  if key.value = "kind" ∨ key.value = "type" then some .kind
  else if key.value = "pattern" then some .pattern
  else none

/-- What is wrong with a value of the field. -/
def Refuses (f : Form) (e : ReadError) : Field → Prop
  | .kind => kindOf f = .error e
  | .pattern => Pattern.ofInner f = .error e

end Field

/-- One of the entries belongs to the field. -/
def Seen (field : Field) (entries : List (StringForm × Form)) : Prop :=
  ∃ e ∈ entries, Field.of? e.1 = some field

/-- What is wrong with an entry behind others: its field has been read, or refuses its value. -/
inductive Fault (earlier : List (StringForm × Form)) : StringForm × Form → ReadError → Prop where
  | again {key : StringForm} {f : Form} {field : Field} (h : Field.of? key = some field)
      (hseen : Seen field earlier) :
      Fault earlier (key, f) (.mismatch (.duplicateField field.name))
  | refused {key : StringForm} {f : Form} {field : Field} {e : ReadError}
      (h : Field.of? key = some field) (hnew : ¬ Seen field earlier) (hf : field.Refuses f e) :
      Fault earlier (key, f) e

/-- Nothing is wrong with any of the entries behind others. -/
def Faultless (earlier entries : List (StringForm × Form)) : Prop :=
  ∀ pre x post, entries = pre ++ x :: post → ∀ e, ¬ Fault (earlier ++ pre) x e

theorem faultless_nil (earlier : List (StringForm × Form)) : Faultless earlier [] := by
  intro pre x post h
  cases pre <;> cases h

theorem faultless_cons {earlier entries : List (StringForm × Form)} {x : StringForm × Form} :
    Faultless earlier (x :: entries) ↔
      (∀ e, ¬ Fault earlier x e) ∧ Faultless (earlier ++ [x]) entries := by
  constructor
  · intro h
    refine ⟨fun e => ?_, fun pre y post hentries e => ?_⟩
    · simpa using h [] x entries rfl e
    · simpa using h (x :: pre) y post (by rw [hentries]; rfl) e
  · rintro ⟨hx, hmore⟩ pre y post hentries e
    cases pre with
    | nil =>
        cases hentries
        simpa using hx e
    | cons z pre =>
        cases hentries
        simpa using hmore pre y post rfl e

/-! ## One entry -/

variable {fields fields' : Fields String} {earlier : List (StringForm × Form)} {key : StringForm}
  {f : Form}

/-- Whether the field has been read. -/
def Fields.has (fields : Fields String) : Field → Bool
  | .kind => fields.kind.isSome
  | .pattern => fields.pattern.isSome

/-- The fields that have been read are those of the earlier entries. -/
def Fields.Holds (fields : Fields String) (earlier : List (StringForm × Form)) : Prop :=
  ∀ field, fields.has field = true ↔ Seen field earlier

theorem seen_concat {field : Field} :
    Seen field (earlier ++ [(key, f)]) ↔ Seen field earlier ∨ Field.of? key = some field := by
  simp [Seen, or_and_right, exists_or]

/-- Reads the value of a field. -/
def Fields.take (fields : Fields String) (room : Nat) (n : Node) :
    Field → Except ReadError (Fields String)
  | .kind => do
    let kind ← KindFormat.ofNode n
    .ok { fields with kind := some kind }
  | .pattern => do
    let pattern ← Pattern.ofNode room n
    .ok { fields with pattern := some pattern }

theorem Fields.add_eq (fields : Fields String) (room : Nat) (key : StringForm) (n : Node) :
    fields.add room key.value n =
      match Field.of? key with
      | some field =>
        if fields.has field then mismatch (.duplicateField field.name)
        else fields.take room n field
      | none => (orFlaw n.skip).map fun _ => fields := by
  rcases fields with ⟨kind, pattern⟩
  unfold Fields.add Field.of?
  split
  · cases kind <;> rfl
  · split
    · cases pattern <;> rfl
    · cases orFlaw n.skip <;> rfl

/-- A key without a field changes nothing, whatever its value is. -/
theorem Fields.add_of_none (h : Field.of? key = none) (fields : Fields String) (room : Nat)
    (rest : List Char) : fields.add room key.value (f.node rest) = .ok fields := by
  simp only [Fields.add_eq, h, f.skip_node]
  rfl

theorem Fields.add_of_some {field : Field} (h : Field.of? key = some field)
    (fields : Fields String) (room : Nat) (n : Node) :
    fields.add room key.value n =
      if fields.has field then mismatch (.duplicateField field.name)
      else fields.take room n field := by
  simp only [Fields.add_eq, h]

theorem Fields.take_eq_error_iff (fields : Fields String) (rest : List Char) {field : Field}
    {e : ReadError} :
    fields.take (nestLimit - 1) (f.node rest) field = .error e ↔ field.Refuses f e := by
  cases field with
  | kind => simp [take, bind_eq_error_iff, ofNode_kind, Field.Refuses]
  | pattern => simp [take, bind_eq_error_iff, Pattern.ofNode_inner, Field.Refuses]

theorem Fields.has_of_take {room : Nat} {n : Node} {field : Field}
    (h : fields.take room n field = .ok fields') (field' : Field) :
    fields'.has field' = true ↔ fields.has field' = true ∨ field = field' := by
  cases field with
  | kind =>
      obtain ⟨kind, -, h⟩ := bind_eq_ok_iff.1 h
      cases h
      cases field' <;> simp [has]
  | pattern =>
      obtain ⟨pattern, -, h⟩ := bind_eq_ok_iff.1 h
      cases h
      cases field' <;> simp [has]

/-- The field of an entry has been read behind it, and no other one has been added. -/
theorem Fields.has_of_add {room : Nat} {rest : List Char}
    (h : fields.add room key.value (f.node rest) = .ok fields') (field : Field) :
    fields'.has field = true ↔ fields.has field = true ∨ Field.of? key = some field := by
  cases hkey : Field.of? key with
  | none =>
      rw [Fields.add_of_none hkey] at h
      cases h
      simp
  | some field' =>
      rw [Fields.add_of_some hkey] at h
      split at h
      · cases h
      · rw [Fields.has_of_take h, Option.some.injEq]

/-- An entry is refused exactly if something is wrong with it behind the earlier ones. -/
theorem Fields.Holds.add_eq_error_iff (h : fields.Holds earlier) (rest : List Char)
    {e : ReadError} :
    fields.add (nestLimit - 1) key.value (f.node rest) = .error e ↔ Fault earlier (key, f) e := by
  cases hkey : Field.of? key with
  | none =>
      rw [Fields.add_of_none hkey]
      refine ⟨nofun, fun hfault => ?_⟩
      cases hfault with
      | again h' => cases hkey.symm.trans h'
      | refused h' => cases hkey.symm.trans h'
  | some field =>
      -- A field that has been read refuses any value, otherwise the value decides.
      rw [Fields.add_of_some hkey]
      split
      · next hhas =>
          have hseen := (h field).1 hhas
          rw [mismatch, Except.error.injEq]
          constructor
          · rintro rfl
            exact .again hkey hseen
          · intro hfault
            cases hfault with
            | again h' =>
                cases hkey.symm.trans h'
                rfl
            | refused h' hnew =>
                cases hkey.symm.trans h'
                exact absurd hseen hnew
      · next hhas =>
          have hnew : ¬ Seen field earlier := fun hseen => hhas ((h field).2 hseen)
          rw [Fields.take_eq_error_iff]
          constructor
          · exact .refused hkey hnew
          · intro hfault
            cases hfault with
            | again h' hseen =>
                cases hkey.symm.trans h'
                exact absurd hseen hnew
            | refused h' _ hf =>
                cases hkey.symm.trans h'
                exact hf

theorem Fields.Holds.add {rest : List Char} (h : fields.Holds earlier)
    (hadd : fields.add (nestLimit - 1) key.value (f.node rest) = .ok fields') :
    fields'.Holds (earlier ++ [(key, f)]) := by
  intro field
  rw [Fields.has_of_add hadd, h field, seen_concat]

/-! ## All entries -/

/-- Reads the entries one after the other. -/
def scan (fields : Fields String) : List (StringForm × Form) → Except ReadError (Fields String)
  | [] => .ok fields
  | (key, f) :: entries => do
    let fields ← fields.add (nestLimit - 1) key.value (f.node [])
    scan fields entries

/-- What follows an entry does not matter to it. -/
theorem Fields.add_node (fields : Fields String) (key : StringForm) (f : Form) (rest : List Char) :
    fields.add (nestLimit - 1) key.value (f.node rest) =
      fields.add (nestLimit - 1) key.value (f.node []) := by
  have htake (field : Field) : fields.take (nestLimit - 1) (f.node rest) field =
      fields.take (nestLimit - 1) (f.node []) field := by
    cases field <;> simp only [take, ofNode_kind, Pattern.ofNode_inner]
  simp only [Fields.add_eq, f.skip_node, htake]

theorem ofEntries_scan (rest : List Char) : ∀ (entries : Entries) (fields : Fields String),
    ofEntries (nestLimit - 1) fields (entries.nodes rest) = scan fields entries.toList
  | .nil, _ => rfl
  | .cons before key middle gap value after more, fields => by
      have hmore := ofEntries_scan rest more
      simp only [Entries.nodes, Entries.toList, ofEntries, scan, Key.readString, KeyText.read,
        orFlaw, hmore]
      simp only [bind, Except.bind]
      rw [Fields.add_node]

/-- Entries whose keys have no field might as well not be there. -/
theorem scan_filter (entries : List (StringForm × Form)) (fields : Fields String) :
    scan fields (entries.filter fun e => (Field.of? e.1).isSome) = scan fields entries := by
  induction entries generalizing fields with
  | nil => rfl
  | cons e entries ih =>
      rcases e with ⟨key, f⟩
      cases hkey : Field.of? key with
      | none =>
          rw [List.filter_cons_of_neg (by simp [hkey]), ih, scan, Fields.add_of_none hkey]
          rfl
      | some field =>
          rw [List.filter_cons_of_pos (by simp [hkey]), scan, scan]
          simp only [ih]

/-- The first entry that is wrong is reported. -/
theorem scan_eq_error_iff {entries : List (StringForm × Form)} (h : fields.Holds earlier)
    {e : ReadError} :
    scan fields entries = .error e ↔
      ∃ pre x post, entries = pre ++ x :: post ∧ Faultless earlier pre ∧
        Fault (earlier ++ pre) x e := by
  induction entries generalizing fields earlier with
  | nil => simp [scan]
  | cons y entries ih =>
      rcases y with ⟨key, f⟩
      rw [scan, bind_eq_error_iff, h.add_eq_error_iff]
      constructor
      · intro hscan
        rcases hscan with hfault | ⟨fields', hadd, hscan⟩
        · exact ⟨[], (key, f), entries, rfl, faultless_nil earlier, by simpa using hfault⟩
        · obtain ⟨pre, x, post, rfl, hpre, hfault⟩ := (ih (h.add hadd)).1 hscan
          refine ⟨(key, f) :: pre, x, post, rfl, faultless_cons.2 ⟨fun e' he' => ?_, hpre⟩, ?_⟩
          · cases hadd.symm.trans ((h.add_eq_error_iff []).2 he')
          · simpa using hfault
      · intro hfault
        rcases hfault with ⟨pre, x, post, hentries, hpre, hfault⟩
        cases pre with
        | nil =>
            cases hentries
            exact .inl (by simpa using hfault)
        | cons z pre =>
            cases hentries
            obtain ⟨hz, hpre⟩ := faultless_cons.1 hpre
            -- Nothing is wrong with the first entry, so it is read.
            cases hadd : fields.add (nestLimit - 1) key.value (f.node []) with
            | error e' => exact absurd ((h.add_eq_error_iff []).1 hadd) (hz e')
            | ok fields' =>
                exact .inr ⟨fields', rfl,
                  (ih (h.add hadd)).2 ⟨pre, x, post, rfl, hpre, by simpa using hfault⟩⟩

theorem Fields.Holds.scan {entries : List (StringForm × Form)} (h : fields.Holds earlier)
    (hscan : scan fields entries = .ok fields') : fields'.Holds (earlier ++ entries) := by
  induction entries generalizing fields earlier with
  | nil =>
      cases hscan
      simpa using h
  | cons y entries ih =>
      rcases y with ⟨key, f⟩
      obtain ⟨fields'', hadd, hscan⟩ := bind_eq_ok_iff.1 hscan
      simpa using ih (h.add hadd) hscan

theorem exists_scan_iff {entries : List (StringForm × Form)} (h : fields.Holds earlier) :
    (∃ fields', scan fields entries = .ok fields') ↔ Faultless earlier entries := by
  induction entries generalizing fields earlier with
  | nil => exact ⟨fun _ => faultless_nil earlier, fun _ => ⟨fields, rfl⟩⟩
  | cons y entries ih =>
      rcases y with ⟨key, f⟩
      rw [faultless_cons]
      cases hadd : fields.add (nestLimit - 1) key.value (f.node []) with
      | error e =>
          have hfault := (h.add_eq_error_iff []).1 hadd
          refine ⟨fun ⟨fields', hscan⟩ => ?_, fun hgood => absurd hfault (hgood.1 e)⟩
          rw [scan, hadd] at hscan
          cases hscan
      | ok fields' =>
          have hgood : ∀ e, ¬ Fault earlier (key, f) e := fun e hfault => by
            cases hadd.symm.trans ((h.add_eq_error_iff []).2 hfault)
          rw [scan, hadd]
          exact (ih (h.add hadd)).trans ⟨fun hmore => ⟨hgood, hmore⟩, fun hboth => hboth.2⟩

theorem Fields.holds_none : Fields.Holds ⟨none, none⟩ [] := by
  intro field
  cases field <;> simp [Fields.has, Seen]

/-! ## Objects -/

theorem Fields.finish_eq_error_iff {entries : List (StringForm × Form)} (h : fields.Holds entries)
    {e : ReadError} :
    fields.finish = .error e ↔
      ¬ Seen .kind entries ∧ e = .mismatch (.missingField "kind") ∨
      Seen .kind entries ∧ ¬ Seen .pattern entries ∧ e = .mismatch (.missingField "pattern") := by
  rw [← h .kind, ← h .pattern]
  rcases fields with ⟨_ | kind, _ | pattern⟩ <;>
    simp [Fields.finish, Fields.has, mismatch, eq_comm]

theorem ofText_object_scan (lead inner trail : Space) (entries : Entries) :
    ofText (.ofList (lead ++ (Form.object inner entries).text ++ trail)) =
      scan ⟨none, none⟩ entries.toList >>= Fields.finish := by
  obtain ⟨rest, hread⟩ := readText_form (ofNode (κ := String) nestLimit) lead trail
    (.object inner entries)
  rw [ofText, hread, Form.node, ofNode, ofEntries_scan]
  rfl

/-- An object is refused for its first entry that is wrong, or for the first field that is
missing. -/
theorem ofText_object_eq_error_iff (lead inner trail : Space) (entries : Entries) {e : ReadError} :
    ofText (κ := String) (.ofList (lead ++ (Form.object inner entries).text ++ trail)) = .error e ↔
      (∃ pre x post, entries.toList = pre ++ x :: post ∧ Faultless [] pre ∧ Fault pre x e) ∨
      Faultless [] entries.toList ∧
        (¬ Seen .kind entries.toList ∧ e = .mismatch (.missingField "kind") ∨
        Seen .kind entries.toList ∧ ¬ Seen .pattern entries.toList ∧
          e = .mismatch (.missingField "pattern")) := by
  rw [ofText_object_scan, bind_eq_error_iff, scan_eq_error_iff Fields.holds_none]
  refine or_congr Iff.rfl ?_
  constructor
  · intro hfinish
    rcases hfinish with ⟨fields, hscan, hfinish⟩
    exact ⟨(exists_scan_iff Fields.holds_none).1 ⟨fields, hscan⟩,
      (Fields.finish_eq_error_iff (Fields.holds_none.scan hscan)).1 hfinish⟩
  · intro hmissing
    -- All entries are read, so that the fields are those that the entries have.
    rcases hmissing with ⟨hgood, hmissing⟩
    obtain ⟨fields, hscan⟩ := (exists_scan_iff Fields.holds_none).2 hgood
    exact ⟨fields, hscan,
      (Fields.finish_eq_error_iff (Fields.holds_none.scan hscan)).2 hmissing⟩

/-! ## Beginnings of objects -/

theorem ofEntries_append (room : Nat) (fields : Fields String) (entries more : List (Key × Node)) :
    ofEntries room fields (entries ++ more) =
      ofEntries room fields entries >>= (ofEntries room · more) := by
  induction entries generalizing fields with
  | nil => rfl
  | cons e entries ih =>
      rcases e with ⟨key, n⟩
      simp only [List.cons_append, ofEntries, ih]
      cases key.readString with
      | error e => rfl
      | ok name =>
          simp only [bind, Except.bind]
          cases fields.add room name n <;> rfl

/-- An error among the first entries is reported before the rest of the object is looked at. -/
theorem ofText_of_root {cs rest : List Char} {entries : Entries} {more : List (Key × Node)}
    {stop : Option Flaw} {e : ReadError}
    (hroot : (Document.ofText cs).root = .object (entries.nodes rest ++ more) stop)
    (h : scan ⟨none, none⟩ entries.toList >>= (ofEntries (nestLimit - 1) · more) = .error e) :
    ofText (κ := String) (.ofList cs) = .error e := by
  apply readText_of_error
  rw [hroot, ofNode, ofEntries_append, ofEntries_scan, h]
  rfl

/-- An entry that is wrong is reported as soon as its value has ended. -/
theorem ofText_prefix {sep : Char} (hsep : sep = ',' ∨ sep = '\x7d') (lead inner : Space)
    {entries : Entries} {pre : List (StringForm × Form)} {x : StringForm × Form} {e : ReadError}
    (hentries : entries.toList = pre ++ [x]) (hpre : Faultless [] pre) (hfault : Fault pre x e)
    (tail : List Char) :
    ofText (κ := String)
      (.ofList (lead ++ '\x7b' :: (inner ++ (entries.text false ++ sep :: tail)))) = .error e := by
  have hne : entries ≠ .nil := by
    rintro rfl
    cases pre <;> cases hentries
  obtain ⟨more, stop, hroot⟩ := Entries.ofText_prefix hsep lead inner hne tail
  have hscan : scan ⟨none, none⟩ entries.toList = .error e :=
    (scan_eq_error_iff Fields.holds_none).2 ⟨pre, x, [], hentries, hpre, hfault⟩
  refine ofText_of_root hroot ?_
  rw [hscan]
  rfl

/-- A field that comes again is refused before its value is looked at. -/
theorem ofText_key (lead inner before : Space) {entries : Entries} {field : Field}
    (hgood : Faultless [] entries.toList) (hseen : Seen field entries.toList)
    (hkey : Field.of? key = some field) (tail : List Char) :
    ofText (κ := String) (.ofList (lead ++ '\x7b' :: (inner ++ (entries.text false ++
      ',' :: (before ++ (key.text ++ tail)))))) = mismatch (.duplicateField field.name) := by
  have hne : entries ≠ .nil := by
    rintro rfl
    obtain ⟨e, he, -⟩ := hseen
    cases he
  obtain ⟨raw, n, more, stop, hroot⟩ := Entries.ofText_key lead inner before hne key tail
  obtain ⟨fields, hscan⟩ := (exists_scan_iff Fields.holds_none).2 hgood
  have hhas : fields.has field = true := (Fields.holds_none.scan hscan field).2 hseen
  have hread : Key.readString ⟨raw, .text key.value⟩ = .ok key.value := rfl
  -- Nothing is known of the tree of the value, and nothing has to be.
  refine ofText_of_root hroot ?_
  simp only [hscan, ofEntries, hread, bind, Except.bind, Fields.add_of_some hkey, hhas, if_true]
  rfl

/-! ## Arrays and other values -/

/-- What a definition is read as from the items of an array. -/
def ofForms : List Form → Except ReadError (Definition String)
  | [] => mismatch (.invalidLength 0 "struct TokenDefinition with 2 elements")
  | [k] => do
    let _ ← kindOf k
    mismatch (.invalidLength 1 "struct TokenDefinition with 2 elements")
  | k :: p :: more => do
    let kind ← kindOf k
    let pattern ← Pattern.ofInner p
    if more.isEmpty then .ok ⟨kind, pattern⟩ else .error (.flaw .malformed)

theorem ofText_array_eq (lead inner trail : Space) (items : Items) :
    ofText (.ofList (lead ++ (Form.array inner items).text ++ trail)) = ofForms items.toList := by
  obtain ⟨rest, hread⟩ := readText_form (ofNode (κ := String) nestLimit) lead trail
    (.array inner items)
  rw [ofText, hread, Form.node, ofNode]
  rcases items with _ | ⟨before, k, after, _ | ⟨before', p, after', more⟩⟩
  · rfl
  · simp only [Items.nodes, ofItems, ofNode_kind]
    rfl
  · simp only [Items.nodes, ofItems, ofNode_kind, Pattern.ofNode_inner, Items.toList, ofForms]
    cases more <;> rfl

theorem ofText_other_eq (lead trail : Space) {f : Form}
    (harray : ∀ inner items, f ≠ .array inner items)
    (hobject : ∀ inner entries, f ≠ .object inner entries) :
    ofText (κ := String) (.ofList (lead ++ f.text ++ trail)) =
      .error (f.refusal "struct TokenDefinition") := by
  obtain ⟨rest, hread⟩ := readText_form (ofNode (κ := String) nestLimit) lead trail f
  rw [ofText, hread, ← f.unexpected_eq_refusal rest]
  cases f with
  | array inner items => exact absurd rfl (harray inner items)
  | object inner entries => exact absurd rfl (hobject inner entries)
  | number n =>
      rw [Form.node, NumberForm.node]
      cases n.numeral.value? <;> rfl
  | _ => rfl

/-- A definition is read from the entries of an object whose keys have a field, or from the two
items of an array.  Of an object the first entry that is wrong is reported, whatever follows its
value or, if its field comes again, whatever follows its key; then the first field that is
missing. -/
theorem ofText_fields :
    (∀ (lead trail : Space) (f : Form) (d : Definition String),
      ofText (.ofList (lead ++ f.text ++ trail)) = .ok d ↔ d.SpelledBy f) ∧
    (∀ (lead inner trail : Space) (entries : Entries) (e : ReadError),
      ofText (κ := String) (.ofList (lead ++ (Form.object inner entries).text ++ trail)) =
          .error e ↔
        (∃ pre x post, entries.toList = pre ++ x :: post ∧ Faultless [] pre ∧ Fault pre x e) ∨
        Faultless [] entries.toList ∧
          (¬ Seen .kind entries.toList ∧ e = .mismatch (.missingField "kind") ∨
          Seen .kind entries.toList ∧ ¬ Seen .pattern entries.toList ∧
            e = .mismatch (.missingField "pattern"))) ∧
    (∀ (lead inner trail lead' inner' trail' : Space) (entries entries' : Entries),
      (entries.toList.filter fun e => (Field.of? e.1).isSome) =
        (entries'.toList.filter fun e => (Field.of? e.1).isSome) →
      ofText (κ := String) (.ofList (lead ++ (Form.object inner entries).text ++ trail)) =
        ofText (.ofList (lead' ++ (Form.object inner' entries').text ++ trail'))) ∧
    (∀ (lead inner : Space) (entries : Entries) (pre : List (StringForm × Form))
      (x : StringForm × Form) (e : ReadError) (sep : Char) (tail : List Char),
      entries.toList = pre ++ [x] → Faultless [] pre → Fault pre x e → sep = ',' ∨ sep = '\x7d' →
      ofText (κ := String)
        (.ofList (lead ++ '\x7b' :: (inner ++ (entries.text false ++ sep :: tail)))) = .error e) ∧
    (∀ (lead inner before : Space) (entries : Entries) (field : Field) (key : StringForm)
      (tail : List Char), Faultless [] entries.toList → Seen field entries.toList →
      Field.of? key = some field →
      ofText (κ := String) (.ofList (lead ++ '\x7b' :: (inner ++ (entries.text false ++
        ',' :: (before ++ (key.text ++ tail)))))) = mismatch (.duplicateField field.name)) ∧
    (∀ (lead inner trail : Space) (items : Items),
      ofText (.ofList (lead ++ (Form.array inner items).text ++ trail)) = ofForms items.toList) ∧
    ∀ (lead trail : Space) (f : Form), (∀ inner items, f ≠ .array inner items) →
      (∀ inner entries, f ≠ .object inner entries) →
      ofText (κ := String) (.ofList (lead ++ f.text ++ trail)) =
        .error (f.refusal "struct TokenDefinition") := by
  refine ⟨fun lead trail f d => ofText_form_eq_ok_iff lead trail, ?_, ?_, ?_, ?_, ofText_array_eq,
    ?_⟩
  · intro lead inner trail entries e
    exact ofText_object_eq_error_iff lead inner trail entries
  · intro lead inner trail lead' inner' trail' entries entries' h
    rw [ofText_object_scan, ofText_object_scan, ← scan_filter, h, scan_filter]
  · intro lead inner entries pre x e sep tail hentries hpre hfault hsep
    exact ofText_prefix hsep lead inner hentries hpre hfault tail
  · intro lead inner before entries field key tail hgood hseen hkey
    exact ofText_key lead inner before hgood hseen hkey tail
  · intro lead trail f harray hobject
    exact ofText_other_eq lead trail harray hobject

/-! ### Seven texts

The first three hold a number that is too large under a key without a field.  The fourth one breaks
off behind a key that comes again, the fifth one behind a value that is refused. -/

section

variable {note kind : StringForm}

/-- A note, and the kind. -/
theorem faultless_pair (hnote : Field.of? note = none) (hkind : Field.of? kind = some .kind)
    (f : Form) (s : StringForm) : Faultless [] [(note, f), (kind, .string s)] := by
  refine (exists_scan_iff Fields.holds_none).1 ⟨⟨some s.value, none⟩, ?_⟩
  rw [scan, Fields.add_of_none hnote]
  simp only [bind, Except.bind, scan, Fields.add_of_some hkind]
  rfl

/-- A pattern that is refused is the first thing that is wrong behind them. -/
theorem fault_pair (hnote : Field.of? note = none) (hkind : Field.of? kind = some .kind)
    {pattern : StringForm} (hpattern : Field.of? pattern = some .pattern) {f g p : Form}
    {e : ReadError} (h : Pattern.ofInner p = .error e) :
    Fault [(note, f), (kind, g)] (pattern, p) e := by
  refine .refused hpattern ?_ h
  rintro ⟨x, hx, hkey⟩
  rcases List.mem_pair.1 hx with rfl | rfl
  · cases hnote.symm.trans hkey
  · cases hkind.symm.trans hkey

/-- A pattern that is nested too deep is malformed. -/
theorem ofText_of_deep (hnote : Field.of? note = none) (hkind : Field.of? kind = some .kind)
    {pattern : StringForm} (hpattern : Field.of? pattern = some .pattern) (f : Form)
    (s : StringForm) {p : Form} (hdeep : nestLimit ≤ p.depth) :
    ofText (κ := String) (.ofList (Form.object noSpace
      (.spaced noSpace [(note, f), (kind, .string s), (pattern, p)])).text) =
      .error (.flaw .malformed) := by
  have hrefused : Pattern.ofInner p = .error (.flaw .malformed) := if_neg (Nat.not_lt.2 hdeep)
  have hread := (ofText_object_eq_error_iff noSpace noSpace noSpace
    (.spaced noSpace [(note, f), (kind, .string s), (pattern, p)])).2
    (.inl ⟨[(note, f), (kind, .string s)], (pattern, p), [], rfl, faultless_pair hnote hkind f s,
      fault_pair hnote hkind hpattern hrefused⟩)
  rwa [Form.text_alone] at hread

end

theorem ofText_fields_seven :
    ofText "\x7b\"note\": 0.1e999, \"kind\": \"a\", \"pattern\": \"-\"\x7d" =
      .ok (⟨"a", .literal "-"⟩ : Definition String) ∧
    ofText (κ := String) "\x7b\"note\": 0.1e999, \"kind\": \"a\", \"type\": null\x7d" =
      mismatch (.duplicateField "kind") ∧
    ofText (κ := String) "\x7b\"note\": 0.1e999, \"kind\": \"a\", \"-\": null\x7d" =
      ofText "\x7b\"kind\": \"a\"\x7d" ∧
    ofText (κ := String) "\x7b\"note\": 0.1e999, \"kind\": \"a\", \"-\": null,\"type\" ]" =
      mismatch (.duplicateField "kind") ∧
    ofText (κ := String) "\x7b\"note\": 0.1e999, \"kind\": \"a\", \"pattern\": [], ]" =
      mismatch (.noVariant "untagged enum PatternRepr") ∧
    ofText (κ := String) "[\"a\"]" =
      mismatch (.invalidLength 1 "struct TokenDefinition with 2 elements") ∧
    ofText (κ := String) " true" =
      mismatch (.invalidType (.bool true) "struct TokenDefinition") := by
  let note := plainForm "note" (by decide)
  let kind := plainForm "kind" (by decide)
  let type := plainForm "type" (by decide)
  let pattern := plainForm "pattern" (by decide)
  let sign := plainForm "-" (by decide)
  let a := plainForm "a" (by decide)
  let first : List (StringForm × Form) := [(note, .number farNumber), (kind, .string a)]
  let entries (key : StringForm) (value : Form) : Entries :=
    .spaced noSpace [(note, .number farNumber), (kind, .string a), (key, value)]
  have hgood : Faultless [] first := faultless_pair rfl rfl _ a
  have hseen : Seen .kind first := ⟨(kind, .string a), by simp [first], rfl⟩
  have htype : Field.of? type = some .kind := rfl
  refine ⟨?_, ?_, ?_, ?_, ?_, ?_, ?_⟩
  · exact (ofText_fields.1 noSpace noSpace
      (.object noSpace (entries pattern (.string sign))) _).2
      (.object _ _ _ _ rfl rfl rfl (.bare sign))
  · exact (ofText_fields.2.1 noSpace noSpace noSpace (entries type .null) _).2
      (.inl ⟨first, _, [], rfl, hgood, .again htype hseen⟩)
  · exact ofText_fields.2.2.1 noSpace noSpace noSpace noSpace noSpace noSpace
      (entries sign .null) (.spaced noSpace [(kind, .string a)]) rfl
  · have hmore : Faultless [] (first ++ [(sign, .null)]) :=
      (exists_scan_iff Fields.holds_none).1 ⟨_, rfl⟩
    exact ofText_fields.2.2.2.2.1 noSpace noSpace noSpace
      (entries sign .null) .kind type [' ', ']'] hmore
      (seen_concat.2 (.inl hseen)) htype
  · have hempty : Pattern.ofInner (.array noSpace .nil) =
        mismatch (.noVariant "untagged enum PatternRepr") := rfl
    exact ofText_fields.2.2.2.1 noSpace noSpace (entries pattern (.array noSpace .nil)) first
      (pattern, .array noSpace .nil) _ ',' [' ', ']'] rfl hgood (fault_pair rfl rfl rfl hempty)
      (.inl rfl)
  · exact ofText_fields.2.2.2.2.2.1 noSpace noSpace noSpace
      (.cons noSpace (.string a) noSpace .nil)
  · exact ofText_fields.2.2.2.2.2.2 oneSpace noSpace (.bool true) nofun nofun

/-! ### Beyond the limits

A number that is too large has no type that could be wrong, and a pattern that is too deep inside a
definition is not told to have no form, although it is alone. -/

theorem ofText_beyond_limits :
    ((Form.number farNumber).text = "0.1e999".toList ∧
      ofText (κ := String) "0.1e999" = .error (.flaw .malformed) ∧
      ∀ s, ofText (κ := String) "0.1e999" ≠ mismatch (.invalidType s "struct TokenDefinition")) ∧
    Pattern.ofText (.ofList (Form.nested 126).text) =
      mismatch (.noVariant "untagged enum PatternRepr") ∧
    ofText (κ := String) (.ofList (Form.object noSpace (.spaced noSpace
      [(plainForm "note" (by decide), .null),
        (plainForm "kind" (by decide), .string (plainForm "a" (by decide))),
        (plainForm "pattern" (by decide), .nested 126)])).text) = .error (.flaw .malformed) := by
  have hnumber : ofText (κ := String) "0.1e999" = .error (.flaw .malformed) :=
    ofText_other_eq noSpace noSpace (f := .number farNumber) nofun nofun
  refine ⟨⟨rfl, hnumber, fun s h => ?_⟩, Pattern.ofText_nested 126, ?_⟩
  · cases hnumber.symm.trans h
  · exact ofText_of_deep rfl rfl rfl .null _ (Form.depth_nested 126).ge

end Definition

end PriorityLexer
