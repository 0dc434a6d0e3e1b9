import PriorityLexer.Proofs.Json.Prefix
import PriorityLexer.Proofs.Spelling

/-!
# Elements — definitions are read one by one, up to the first that is wrong

Definitions are an array or an object.  Each element is judged as soon as it has been read, and as
the text that holds nothing else.  So the first element that is wrong decides what is reported, and
the text behind it is not looked at, even if it is malformed or breaks off.

* `Definitions.ofItems_eq_ok_iff`, `Definitions.ofEntries_eq_ok_iff` — all elements are right;
* `Definitions.ofItems_eq_error`, `Definitions.ofEntries_eq_error` — the first that is wrong;
* `Definitions.ofText_elements` — what every text of definitions is read as.
-/

namespace PriorityLexer

open Json

variable {rest : List Char} {room : Nat}

namespace Definitions

/-! ## Right elements -/

/-- An item is read as definition `d` where it stands exactly if it is read so alone. -/
theorem ofItems_eq_ok_iff (hroom : 2 ≤ room) :
    ∀ {items : Items} {ds : List (Definition String)},
    ofItems room (items.nodes rest) = .ok ds ↔
      List.Forall₂ (fun f d => Definition.ofText (.ofList f.text) = .ok d) items.toList ds
  | .nil, ds => by
      rw [Items.nodes, ofItems, Items.toList, List.forall₂_nil_left_iff, Except.ok.injEq, eq_comm]
  | .cons before item after more, ds => by
      simp only [Items.nodes, ofItems, Items.toList, List.forall₂_cons_left_iff, bind_eq_ok_iff,
        Definition.ofNode_eq_ok_iff_ofText hroom]
      constructor
      · rintro ⟨d, hd, ds, hds, ⟨⟩⟩
        exact ⟨d, ds, hd, (ofItems_eq_ok_iff hroom).1 hds, rfl⟩
      · rintro ⟨d, ds, hd, hds, rfl⟩
        exact ⟨d, hd, ds, (ofItems_eq_ok_iff hroom).2 hds, rfl⟩

/-- Every key is a kind of its own, also one that comes again. -/
theorem ofEntries_eq_ok_iff (hroom : 1 ≤ room) :
    ∀ {entries : Entries} {ds : List (Definition String)},
    ofEntries room (entries.nodes rest) = .ok ds ↔
      List.Forall₂ (fun e d => d.kind = e.1.value ∧
        Pattern.ofText (.ofList e.2.text) = .ok d.pattern) entries.toList ds
  | .nil, ds => by
      rw [Entries.nodes, ofEntries, Entries.toList, List.forall₂_nil_left_iff, Except.ok.injEq,
        eq_comm]
  | .cons before key middle gap value after more, ds => by
      simp only [Entries.nodes, ofEntries, Entries.toList, List.forall₂_cons_left_iff,
        bind_eq_ok_iff, Pattern.ofNode_eq_ok_iff_ofText hroom]
      constructor
      · rintro ⟨k, ⟨⟩, p, hp, ds, hds, ⟨⟩⟩
        exact ⟨⟨key.value, p⟩, ds, ⟨rfl, hp⟩, (ofEntries_eq_ok_iff hroom).1 hds, rfl⟩
      · rintro ⟨⟨k, p⟩, ds, ⟨rfl, hp⟩, hds, rfl⟩
        exact ⟨key.value, rfl, p, hp, ds, (ofEntries_eq_ok_iff hroom).2 hds, rfl⟩

/-! ## The first element that is wrong -/

variable {f : Form} {e : ReadError}

/-- Whatever follows the item, it is reported as it is alone. -/
theorem ofItems_eq_error (hroom : 2 ≤ room) (hlimit : room ≤ nestLimit) (hdepth : f.depth ≤ room)
    (hf : Definition.ofText (κ := String) (.ofList f.text) = .error e) (behind : List Node) :
    ∀ {good : List Form} {items : Items}, items.toList = good ++ [f] →
    (∀ g ∈ good, ∃ d : Definition String, Definition.ofText (.ofList g.text) = .ok d) →
    ofItems (κ := String) room (items.nodes rest ++ behind) = .error e
  | [], items, h, _ => by
      -- The item has enough room here as well as in a text of its own.
      obtain ⟨before, after, more, rfl, -⟩ := Items.exists_of_toList_cons h
      have hitem := Definition.ofNode_alone hdepth hlimit (after ++ (more.text true ++ rest))
      rw [Items.nodes, List.cons_append, ofItems, hitem, hf]
      rfl
  | g :: good, items, h, hgood => by
      obtain ⟨before, after, more, rfl, hmore⟩ := Items.exists_of_toList_cons h
      obtain ⟨d, hd⟩ := hgood g List.mem_cons_self
      have hitem (rest : List Char) : Definition.ofNode room (g.node rest) = .ok d :=
        (Definition.ofNode_eq_ok_iff_ofText hroom).2 hd
      have hbehind : ofItems (κ := String) room (more.nodes rest ++ behind) = .error e :=
        ofItems_eq_error hroom hlimit hdepth hf behind hmore
          fun g hg => hgood g (List.mem_cons_of_mem _ hg)
      rw [Items.nodes, List.cons_append, ofItems, hitem, hbehind]
      rfl

theorem ofEntries_eq_error (hroom : 1 ≤ room) (hlimit : room ≤ nestLimit) (hdepth : f.depth ≤ room)
    (hf : Pattern.ofText (.ofList f.text) = .error e) (behind : List (Key × Node))
    {key : StringForm} :
    ∀ {good : List (StringForm × Form)} {entries : Entries},
    entries.toList = good ++ [(key, f)] →
    (∀ g ∈ good, ∃ p : Pattern, Pattern.ofText (.ofList g.2.text) = .ok p) →
    ofEntries (κ := String) room (entries.nodes rest ++ behind) = .error e
  | [], entries, h, _ => by
      obtain ⟨before, middle, gap, after, more, rfl, -⟩ := Entries.exists_of_toList_cons h
      have hvalue := Pattern.ofNode_alone hdepth hlimit (after ++ (more.text true ++ rest))
      rw [Entries.nodes, List.cons_append, ofEntries, hvalue, hf]
      rfl
  | (key', g) :: good, entries, h, hgood => by
      obtain ⟨before, middle, gap, after, more, rfl, hmore⟩ := Entries.exists_of_toList_cons h
      obtain ⟨p, hp⟩ := hgood (key', g) List.mem_cons_self
      have hvalue (rest : List Char) : Pattern.ofNode room (g.node rest) = .ok p :=
        (Pattern.ofNode_eq_ok_iff_ofText hroom).2 hp
      have hbehind : ofEntries (κ := String) room (more.nodes rest ++ behind) = .error e :=
        ofEntries_eq_error hroom hlimit hdepth hf behind hmore
          fun g hg => hgood g (List.mem_cons_of_mem _ hg)
      rw [Entries.nodes, List.cons_append, ofEntries, hvalue, hbehind]
      rfl

/-! ## Texts -/

theorem ofText_array (lead inner trail : Space) (items : Items) (ds : Definitions String) :
    ofText (.ofList (lead ++ (Form.array inner items).text ++ trail)) = .ok ds ↔
      List.Forall₂ (fun f d => Definition.ofText (.ofList f.text) = .ok d) items.toList
        ds.toList := by
  obtain ⟨rest, hread⟩ := readText_form (ofNode (κ := String) nestLimit) lead trail
    (.array inner items)
  simp only [ofText, hread, Form.node, ofNode, bind_eq_ok_iff]
  constructor
  · rintro ⟨ds', hitems, ⟨⟩, -, ⟨⟩⟩
    exact (ofItems_eq_ok_iff (by decide)).1 hitems
  · intro hitems
    exact ⟨ds.toList, (ofItems_eq_ok_iff (by decide)).2 hitems, (), rfl, rfl⟩

theorem ofText_object (lead inner trail : Space) (entries : Entries) (ds : Definitions String) :
    ofText (.ofList (lead ++ (Form.object inner entries).text ++ trail)) = .ok ds ↔
      List.Forall₂ (fun e d => d.kind = e.1.value ∧
        Pattern.ofText (.ofList e.2.text) = .ok d.pattern) entries.toList ds.toList := by
  obtain ⟨rest, hread⟩ := readText_form (ofNode (κ := String) nestLimit) lead trail
    (.object inner entries)
  simp only [ofText, hread, Form.node, ofNode, bind_eq_ok_iff]
  constructor
  · rintro ⟨ds', hentries, ⟨⟩, -, ⟨⟩⟩
    exact (ofEntries_eq_ok_iff (by decide)).1 hentries
  · intro hentries
    exact ⟨ds.toList, (ofEntries_eq_ok_iff (by decide)).2 hentries, (), rfl, rfl⟩

theorem ofText_array_error (lead inner : Space) {items : Items} {good : List Form} {sep : Char}
    (hitems : items.toList = good ++ [f]) (hsep : sep = ',' ∨ sep = ']')
    (hdepth : f.depth < nestLimit)
    (hgood : ∀ g ∈ good, ∃ d : Definition String, Definition.ofText (.ofList g.text) = .ok d)
    (hf : Definition.ofText (κ := String) (.ofList f.text) = .error e) (tail : List Char) :
    ofText (κ := String) (.ofList (lead ++ '[' :: (inner ++ (items.text false ++ sep :: tail)))) =
      .error e := by
  have hne : items ≠ .nil := by
    rintro rfl
    cases good <;> cases hitems
  obtain ⟨more, stop, hroot⟩ := Items.ofText_prefix hsep lead inner hne tail
  have herror : ofItems (κ := String) (nestLimit - 1) (items.nodes (sep :: tail) ++ more) =
      .error e :=
    ofItems_eq_error (by decide) (by decide) (Nat.le_sub_one_of_lt hdepth) hf more hitems hgood
  apply readText_of_error
  rw [hroot, ofNode, herror]
  rfl

theorem ofText_object_error (lead inner : Space) {entries : Entries}
    {good : List (StringForm × Form)} {key : StringForm} {sep : Char}
    (hentries : entries.toList = good ++ [(key, f)]) (hsep : sep = ',' ∨ sep = '\x7d')
    (hdepth : f.depth < nestLimit)
    (hgood : ∀ g ∈ good, ∃ p : Pattern, Pattern.ofText (.ofList g.2.text) = .ok p)
    (hf : Pattern.ofText (.ofList f.text) = .error e) (tail : List Char) :
    ofText (κ := String)
      (.ofList (lead ++ '\x7b' :: (inner ++ (entries.text false ++ sep :: tail)))) = .error e := by
  have hne : entries ≠ .nil := by
    rintro rfl
    cases good <;> cases hentries
  obtain ⟨more, stop, hroot⟩ := Entries.ofText_prefix hsep lead inner hne tail
  have herror : ofEntries (κ := String) (nestLimit - 1) (entries.nodes (sep :: tail) ++ more) =
      .error e :=
    ofEntries_eq_error (by decide) (by decide) (Nat.le_sub_one_of_lt hdepth) hf more hentries hgood
  apply readText_of_error
  rw [hroot, ofNode, herror]
  rfl

/-- A number that is too large has no value, so that it is malformed rather than of a wrong type. -/
theorem ofText_other (lead trail : Space) {f : Form}
    (harray : ∀ inner items, f ≠ .array inner items)
    (hobject : ∀ inner entries, f ≠ .object inner entries) :
    ofText (κ := String) (.ofList (lead ++ f.text ++ trail)) =
      match f.value? with
      | some v => mismatch (.invalidType v.shape expected)
      | none => .error (.flaw .malformed) := by
  obtain ⟨rest, hread⟩ := readText_form (ofNode (κ := String) nestLimit) lead trail f
  rw [ofText, hread]
  cases f with
  | array inner items => exact absurd rfl (harray inner items)
  | object inner entries => exact absurd rfl (hobject inner entries)
  | number n =>
      simp only [Form.node, NumberForm.node, Form.value?]
      cases n.numeral.value? <;> rfl
  | _ => rfl

/-- Definitions are read as their elements are alone.  They are in order exactly if each of them is,
and of those that are not, the first one is reported as it is alone, whatever stands behind it, as
long as its brackets fit into the text.  What is neither an array nor an object is of a wrong
type. -/
theorem ofText_elements :
    (∀ (lead inner trail : Space) (items : Items) (ds : Definitions String),
      ofText (.ofList (lead ++ (Form.array inner items).text ++ trail)) = .ok ds ↔
        List.Forall₂ (fun f d => Definition.ofText (.ofList f.text) = .ok d) items.toList
          ds.toList) ∧
    (∀ (lead inner trail : Space) (entries : Entries) (ds : Definitions String),
      ofText (.ofList (lead ++ (Form.object inner entries).text ++ trail)) = .ok ds ↔
        List.Forall₂ (fun e d => d.kind = e.1.value ∧
          Pattern.ofText (.ofList e.2.text) = .ok d.pattern) entries.toList ds.toList) ∧
    (∀ (lead inner : Space) (items : Items) (good : List Form) (f : Form) (e : ReadError)
      (sep : Char) (tail : List Char),
      items.toList = good ++ [f] → sep = ',' ∨ sep = ']' → f.depth < nestLimit →
      (∀ g ∈ good, ∃ d : Definition String, Definition.ofText (.ofList g.text) = .ok d) →
      Definition.ofText (κ := String) (.ofList f.text) = .error e →
      ofText (κ := String) (.ofList (lead ++ '[' :: (inner ++ (items.text false ++ sep :: tail)))) =
        .error e) ∧
    (∀ (lead inner : Space) (entries : Entries) (good : List (StringForm × Form))
      (key : StringForm) (f : Form) (e : ReadError) (sep : Char) (tail : List Char),
      entries.toList = good ++ [(key, f)] → sep = ',' ∨ sep = '\x7d' → f.depth < nestLimit →
      (∀ g ∈ good, ∃ p : Pattern, Pattern.ofText (.ofList g.2.text) = .ok p) →
      Pattern.ofText (.ofList f.text) = .error e →
      ofText (κ := String)
        (.ofList (lead ++ '\x7b' :: (inner ++ (entries.text false ++ sep :: tail)))) = .error e) ∧
    ∀ (lead trail : Space) (f : Form), (∀ inner items, f ≠ .array inner items) →
      (∀ inner entries, f ≠ .object inner entries) →
      ofText (κ := String) (.ofList (lead ++ f.text ++ trail)) =
        match f.value? with
        | some v => mismatch (.invalidType v.shape
            "a list of token definitions or a map of token names to patterns")
        | none => .error (.flaw .malformed) := by
  refine ⟨ofText_array, ofText_object, ?_, ?_, ?_⟩
  · intro lead inner items good f e sep tail hitems hsep hdepth hgood hf
    exact ofText_array_error lead inner hitems hsep hdepth hgood hf tail
  · intro lead inner entries good key f e sep tail hentries hsep hdepth hgood hf
    exact ofText_object_error lead inner hentries hsep hdepth hgood hf tail
  · intro lead trail f harray hobject
    exact ofText_other lead trail harray hobject

/-! ### At the limits

Brackets that take up all the room of a text do not fit into another one, so they are reported as
malformed there.  What is written like a value but has none is malformed wherever it stands. -/

/-- Brackets that are nested as deep as they may be. -/
def deepText : List Char := List.replicate nestLimit '[' ++ List.replicate nestLimit ']'

theorem ofText_deepText :
    Pattern.ofText (.ofList deepText) = mismatch (.noVariant "untagged enum PatternRepr") ∧
    ofText (κ := String) (.ofList (['\x7b', '"', 'a', '"', ':'] ++ deepText ++ ['\x7d'])) =
      .error (.flaw .malformed) ∧
    ofText (κ := String) "1e999" = .error (.flaw .malformed) ∧
    ofText (κ := String) "\"\\ud800\"" = .error (.flaw .malformed) := by
  refine ⟨?_, ?_, by decide +kernel, by decide +kernel⟩
  · rw [Pattern.ofText, readText, String.toList_ofList]
    decide +kernel
  · rw [ofText, readText, String.toList_ofList]
    decide +kernel

/-! ### Four texts

The first one breaks off behind an item that is wrong; in the third one, a bracket stands in the
place of a key behind a pattern that is wrong. -/

def signForm : StringForm := plainForm "-" (by decide)

def signItem : Form :=
  .array noSpace (.cons noSpace (.string (plainForm "minus" (by decide))) noSpace
    (.cons oneSpace (.string signForm) noSpace .nil))

def signEntries (key : StringForm) (value : Form) : Entries :=
  .cons noSpace (plainForm "kind" (by decide)) noSpace oneSpace (.string signForm) noSpace
    (.cons oneSpace key noSpace oneSpace value noSpace .nil)

theorem ofText_elements_four :
    ofText (κ := String) "[[\"minus\", \"-\"], null, [" =
      mismatch (.invalidType .null "struct TokenDefinition") ∧
    ofText "\x7b\"kind\": \"-\", \"kind\": \"-\"\x7d" =
      .ok (⟨[⟨"kind", .literal "-"⟩, ⟨"kind", .literal "-"⟩]⟩ : Definitions String) ∧
    ofText (κ := String) "\x7b\"kind\": \"-\", \"pattern\": [], ]" =
      mismatch (.noVariant "untagged enum PatternRepr") ∧
    ofText (κ := String) " true" =
      mismatch (.invalidType (.bool true)
        "a list of token definitions or a map of token names to patterns") := by
  have hsign : Pattern.ofText (.ofList (Form.string signForm).text) = .ok (.literal "-") :=
    Pattern.ofText_eq_ok_iff.2 (.bare signForm)
  refine ⟨?_, ?_, ?_, ?_⟩
  · have hitem : Definition.ofText (.ofList signItem.text) =
        .ok (⟨"minus", .literal "-"⟩ : Definition String) :=
      Definition.ofText_eq_ok_iff.2 (.array _ _ _ _ rfl rfl (.bare signForm))
    have hnull : Definition.ofText (κ := String) (.ofList Form.null.text) =
        mismatch (.invalidType .null "struct TokenDefinition") :=
      (Definition.ofNode_alone (Nat.zero_le nestLimit) (Nat.le_refl nestLimit) []).symm
    exact ofText_elements.2.2.1 noSpace noSpace
      (.cons noSpace signItem noSpace (.cons oneSpace .null noSpace .nil)) [signItem] .null _ ','
      [' ', '['] rfl (.inl rfl) (by decide) (by simpa using ⟨_, hitem⟩) hnull
  · exact (ofText_elements.2.1 noSpace noSpace noSpace
      (signEntries (plainForm "kind" (by decide)) (.string signForm)) _).2
      (.cons ⟨rfl, hsign⟩ (.cons ⟨rfl, hsign⟩ .nil))
  · have hempty : Pattern.ofText (.ofList (Form.array noSpace .nil).text) =
        mismatch (.noVariant "untagged enum PatternRepr") :=
      (Pattern.ofNode_alone (by decide : _ ≤ 1) (by decide) []).symm
    let first : StringForm × Form := (plainForm "kind" (by decide), .string signForm)
    exact ofText_elements.2.2.2.1 noSpace noSpace
      (signEntries (plainForm "pattern" (by decide)) (.array noSpace .nil)) [first] _ _ _ ','
      [' ', ']'] rfl (.inl rfl) (by decide) (by simpa using ⟨_, hsign⟩) hempty
  · exact ofText_elements.2.2.2.2 oneSpace noSpace (.bool true) nofun nofun

end Definitions

end PriorityLexer
