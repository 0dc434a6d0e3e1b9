import PriorityLexer.Proofs.Json.Scanning

/-!
# Prefix — the first parts of a text, whatever follows them

The items at the start of an array are read into their trees as soon as a comma or the bracket has
ended them.  What stands behind that only adds to the tree: it may be malformed or missing.

* `Items.scanItems_prefix`, `Entries.scanEntries_prefix` — the items and entries that come first;
* `Items.ofText_prefix`, `Entries.ofText_prefix` — a text that starts with them;
* `Entries.ofText_key` — a text that starts with them and one more key.
-/

namespace PriorityLexer.Json

variable {sep : Char}

/-! ## Items and entries -/

/-- The last of the items ends at `sep`, the others at the commas between them. -/
theorem Items.scanItems_prefix (hsep : sep = ',' ∨ sep = ']') (tail : List Char) :
    ∀ (items : Items), items ≠ .nil → ∀ fuel, 2 * (items.text false).length + 1 ≤ fuel →
    ∃ more stop after, scanItems fuel (items.text false ++ sep :: tail) =
      ((items.nodes (sep :: tail) ++ more, stop), after)
  | .nil, hne, _, _ => absurd rfl hne
  | .cons before item after rest, _, fuel, hfuel => by
      obtain ⟨fuel, rfl⟩ : ∃ k, fuel = k + 1 := ⟨fuel - 1, by omega⟩
      simp only [Items.text, comma, Bool.false_eq_true, if_false, List.nil_append,
        List.length_append] at hfuel
      -- A number would go on into what follows, but neither sign can belong to it.
      have hends : Ends (sep :: tail) := ends_of_sign (hsep.imp_right .inl) tail
      have hitem := item.scanNode_text fuel (by omega)
        ((ends_append after (rest.ends_text hends)).endsBefore item)
      simp only [Items.text, comma, Bool.false_eq_true, if_false, List.nil_append,
        List.append_assoc]
      rw [scanItems, scanNode_space, hitem]
      simp only [skipSpace_append]
      cases rest with
      | nil =>
          -- Behind a comma the scan goes on with whatever is there.
          rcases hsep with rfl | rfl
          · simp (disch := decide) only [Items.text, List.nil_append, skipSpace_cons]
            exact ⟨_, _, _, rfl⟩
          · simp (disch := decide) only [Items.text, List.nil_append, skipSpace_cons]
            exact ⟨[], _, _, rfl⟩
      | cons before' item' after' rest' =>
          obtain ⟨more, stop, behind, hmore⟩ := Items.scanItems_prefix hsep tail
            (.cons before' item' after' rest') (by simp) fuel
            (by simp [Items.text, comma] at hfuel ⊢; omega)
          have htext : Items.text true (.cons before' item' after' rest') =
              ',' :: Items.text false (.cons before' item' after' rest') := rfl
          simp (disch := decide) only [htext, List.cons_append, skipSpace_cons, hmore]
          exact ⟨more, stop, behind, rfl⟩

/-- An entry is read up to the comma behind it, and the scan goes on if a key follows. -/
theorem scanEntries_comma (fuel : Nat) (key : StringForm) (middle gap : Space) {value : Form}
    (after : Space) (hfuel : 2 * value.text.length ≤ fuel) (tail : List Char) :
    ∃ more stop behind,
      scanEntries (fuel + 1) (key.inner ++ '"' :: (middle ++ ':' :: (gap ++ (value.text ++
        (after ++ ',' :: tail))))) =
          (((⟨key.inner ++ '"' :: (middle ++ ':' :: (gap ++ (value.text ++
            (after ++ ',' :: tail)))), .text key.value⟩, value.node (after ++ ',' :: tail)) :: more,
            stop), behind) ∧
      ∀ (before : Space) (cs : List Char), tail = before ++ '"' :: cs →
        scanEntries fuel cs = ((more, stop), behind) := by
  -- A number would go on into what follows, but a comma cannot belong to it.
  have hends : Ends (after ++ ',' :: tail) := ends_append after (ends_of_sign (by decide) tail)
  rw [scanEntries]
  simp (disch := decide) only [scanKey, scanString_inner, skipSpace_append, skipSpace_cons,
    scanNode_space, value.scanNode_text fuel hfuel (hends.endsBefore value)]
  split
  · next cs hkey =>
      refine ⟨_, _, _, rfl, fun before cs' htail => ?_⟩
      simp (disch := decide) only [htail, skipSpace_append, skipSpace_cons] at hkey
      rw [(List.cons.inj hkey).2]
  · next hnone =>
      refine ⟨[], _, _, rfl, fun before cs' htail => ?_⟩
      refine absurd ?_ (hnone cs')
      simp (disch := decide) only [htail, skipSpace_append, skipSpace_cons]

/-- Where another key follows, the scan goes on behind its quotation mark. -/
theorem Entries.scanEntries_prefix (hsep : sep = ',' ∨ sep = '\x7d') (tail : List Char) :
    ∀ (entries : Entries), entries ≠ .nil → ∀ fuel,
    2 * (entries.text false).length + 1 ≤ fuel →
    ∃ more stop after, scanEntries fuel (entries.unquoted (sep :: tail)) =
        ((entries.nodes (sep :: tail) ++ more, stop), after) ∧
      (sep = ',' → ∀ (before : Space) (cs : List Char), tail = before ++ '"' :: cs →
        ∃ left, scanEntries (left + 1) cs = ((more, stop), after))
  | .nil, hne, _, _ => absurd rfl hne
  | .cons before key middle gap value after rest, _, fuel, hfuel => by
      obtain ⟨fuel, rfl⟩ : ∃ k, fuel = k + 1 := ⟨fuel - 1, by omega⟩
      simp only [Entries.text, comma, Bool.false_eq_true, if_false, List.nil_append,
        List.length_append, List.length_cons] at hfuel
      have hvalue : 2 * value.text.length ≤ fuel := by omega
      cases rest with
      | nil =>
          rcases hsep with rfl | rfl
          · obtain ⟨more, stop, behind, hscan, hkey⟩ :=
              scanEntries_comma fuel key middle gap after hvalue tail
            obtain ⟨left, rfl⟩ : ∃ left, fuel = left + 1 := ⟨fuel - 1, by omega⟩
            exact ⟨more, stop, behind, hscan, fun _ before' cs htail =>
              ⟨left, hkey before' cs htail⟩⟩
          · have hscan := scanEntries_text (.cons before key middle gap value after .nil) (by simp)
              (fuel + 1) (by simp [Entries.text, comma]; omega) tail
            exact ⟨[], none, some tail, hscan, nofun⟩
      | cons before' key' middle' gap' value' after' rest' =>
          obtain ⟨more, stop, behind, hmore, hkey⟩ := Entries.scanEntries_prefix hsep tail
            (.cons before' key' middle' gap' value' after' rest') (by simp) fuel
            (by simp [Entries.text, comma] at hfuel ⊢; omega)
          obtain ⟨more', stop', behind', hscan, hgo⟩ := scanEntries_comma fuel key middle gap after
            hvalue (before' ++ '"' ::
              (Entries.cons before' key' middle' gap' value' after' rest').unquoted (sep :: tail))
          cases (hgo before' _ rfl).symm.trans hmore
          refine ⟨more, stop, behind, ?_, hkey⟩
          rw [Entries.unquoted, Entries.nodes, Entries.unquoted, Entries.text_cons]
          exact hscan

/-! ## Texts -/

theorem Document.root_ofText (lead : Space) (cs : List Char) :
    (Document.ofText (lead ++ cs)).root = (scanNode (2 * (lead ++ cs).length + 2) cs).1 := by
  rw [Document.ofText, scanNode_space]
  rcases scanNode (2 * (lead ++ cs).length + 2) cs with ⟨root, _ | rest⟩ <;> rfl

/-- A text of an array, up to the end of some of its items and with anything behind. -/
theorem Items.ofText_prefix (hsep : sep = ',' ∨ sep = ']') (lead inner : Space) {items : Items}
    (hne : items ≠ .nil) (tail : List Char) :
    ∃ more stop,
      (Document.ofText (lead ++ '[' :: (inner ++ (items.text false ++ sep :: tail)))).root =
        .array (items.nodes (sep :: tail) ++ more) stop := by
  rw [Document.root_ofText]
  cases items with
  | nil => exact absurd rfl hne
  | cons before item after rest =>
      obtain ⟨more, stop, behind, hscan⟩ := Items.scanItems_prefix hsep tail
        (.cons before item after rest) hne
        (2 * (lead ++ '[' :: (inner ++ ((Items.cons before item after rest).text false ++
          sep :: tail))).length + 1)
        (by simp; omega)
      refine ⟨more, stop, ?_⟩
      simp only [Items.text, comma, Bool.false_eq_true, if_false, List.nil_append,
        List.append_assoc, scanItems_space] at hscan ⊢
      rw [scanNode_array, hscan]

/-- A text of an object is scanned from its first key on. -/
theorem Entries.root_ofText (lead inner : Space) {entries : Entries} (hne : entries ≠ .nil)
    (cs : List Char) :
    ∃ fuel, 2 * (entries.text false).length + 1 ≤ fuel ∧
      (Document.ofText (lead ++ '\x7b' :: (inner ++ (entries.text false ++ cs)))).root =
        .object (scanEntries fuel (entries.unquoted cs)).1.1
          (scanEntries fuel (entries.unquoted cs)).1.2 := by
  rw [Document.root_ofText]
  cases entries with
  | nil => exact absurd rfl hne
  | cons before key middle gap value after rest =>
      have htext : (Entries.cons before key middle gap value after rest).text false ++ cs =
          before ++ '"' :: (Entries.cons before key middle gap value after rest).unquoted cs :=
        Entries.text_cons false before key middle gap value after rest cs
      refine ⟨2 * (lead ++ '\x7b' :: (inner ++ ((Entries.cons before key middle gap value after
        rest).text false ++ cs))).length + 1, ?_, ?_⟩
      · simp only [List.length_append, List.length_cons]
        omega
      · rw [htext, scanNode_object]

theorem Entries.ofText_prefix (hsep : sep = ',' ∨ sep = '\x7d') (lead inner : Space)
    {entries : Entries} (hne : entries ≠ .nil) (tail : List Char) :
    ∃ more stop,
      (Document.ofText (lead ++ '\x7b' :: (inner ++ (entries.text false ++ sep :: tail)))).root =
        .object (entries.nodes (sep :: tail) ++ more) stop := by
  obtain ⟨fuel, hfuel, hroot⟩ := Entries.root_ofText lead inner hne (sep :: tail)
  obtain ⟨more, stop, after, hscan, -⟩ := entries.scanEntries_prefix hsep tail hne fuel hfuel
  rw [hscan] at hroot
  exact ⟨more, stop, hroot⟩

/-- A key is read before what stands behind it. -/
theorem scanEntries_key (fuel : Nat) (key : StringForm) (tail : List Char) :
    ∃ n more stop after, scanEntries (fuel + 1) (key.inner ++ '"' :: tail) =
      (((⟨key.inner ++ '"' :: tail, .text key.value⟩, n) :: more, stop), after) := by
  simp only [scanEntries, scanKey, scanString_inner]
  repeat' split
  all_goals exact ⟨_, _, _, _, rfl⟩

/-- A text of an object, up to the end of a key and with anything behind. -/
theorem Entries.ofText_key (lead inner before : Space) {entries : Entries} (hne : entries ≠ .nil)
    (key : StringForm) (tail : List Char) :
    ∃ raw n more stop,
      (Document.ofText (lead ++ '\x7b' :: (inner ++ (entries.text false ++
        ',' :: (before ++ (key.text ++ tail)))))).root =
        .object (entries.nodes (',' :: (before ++ (key.text ++ tail))) ++
          (⟨raw, .text key.value⟩, n) :: more) stop := by
  obtain ⟨fuel, hfuel, hroot⟩ :=
    Entries.root_ofText lead inner hne (',' :: (before ++ (key.text ++ tail)))
  obtain ⟨more, stop, after, hscan, hkey⟩ := entries.scanEntries_prefix (.inl rfl)
    (before ++ (key.text ++ tail)) hne fuel hfuel
  have htext : before ++ (key.text ++ tail) = before ++ '"' :: (key.inner ++ '"' :: tail) := by
    simp [StringForm.text]
  obtain ⟨left, hleft⟩ := hkey rfl before _ htext
  obtain ⟨n, more', stop', after', hfirst⟩ := scanEntries_key left key tail
  cases hfirst.symm.trans hleft
  rw [hscan] at hroot
  exact ⟨_, _, _, _, hroot⟩

end PriorityLexer.Json
