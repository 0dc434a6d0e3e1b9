import PriorityLexer.Proofs.Reading

/-!
# ConfigParts — what a configuration is read as, and in which order its parts are judged

Definitions are judged where they stand; the option waits for the end of the object.  So a fault of
the definitions always comes before one of the option, wherever the two stand.

* `Options.scan`, `Config.scan` — readers of the values under the names of a field;
* `Options.ofEntries_nodes`, `Config.ofEntries_scan` — what is read from the entries of an object;
* `Config.ofParts` — the order in which the parts are judged;
* `Config.ofText_parts` — every well-formed text is read as its parts are.
-/

namespace PriorityLexer

open Json

/-! ## Options -/

/-- A value that has been taken in is judged like the one that is read. -/
theorem Options.boolOf_value {f : Form} {v : Value} (hv : f.value? = some v) (rest : List Char) :
    Options.boolOf v = (f.node rest).readBool := by
  cases f with
  | number n =>
      obtain ⟨k, rfl, hnode⟩ := NumberForm.exists_node hv
      rw [Form.node, hnode]
      rfl
  | array inner items =>
      obtain ⟨vs, -, rfl⟩ := Option.map_eq_some_iff.1 hv
      rfl
  | object inner entries =>
      obtain ⟨vs, -, rfl⟩ := Option.map_eq_some_iff.1 hv
      rfl
  | _ =>
      cases hv
      rfl

/-- Reads the values under the names of the option, one after the other. -/
def Options.scan (seen : Option Bool) : List Form → Except ReadError (Option Bool)
  | [] => .ok seen
  | f :: fs => do
    let seen ← add seen (f.node []).readBool
    scan seen fs

theorem Options.ofEntries_nodes (rest : List Char) : ∀ (entries : Entries) (seen : Option Bool),
    Options.ofEntries seen (entries.nodes rest) =
      Options.scan seen (entries.under ["ignoreCase", "ignore_case"])
  | .nil, _ => rfl
  | .cons before key middle gap value after more, seen => by
      have hmore := Options.ofEntries_nodes rest more
      simp only [Entries.nodes, Options.ofEntries, Key.readString, KeyText.read, orFlaw, hmore]
      simp only [bind, Except.bind]
      by_cases hname : key.value ∈ ["ignoreCase", "ignore_case"]
      · rw [Entries.under_cons_of_mem hname, if_pos (Options.isName_iff.2 hname),
          value.readBool_moved _ []]
        rfl
      · rw [Entries.under_cons_of_not_mem hname, if_neg (Options.isName_iff.not.2 hname),
          Form.skip_node]

/-- Values that have been taken in tell the same as the entries that they come from. -/
theorem Options.ofValues_cons {before middle gap after : Space} {key : StringForm} {value : Form}
    {more : Entries} {v : Value} {others : List (String × Value)} (hv : value.value? = some v)
    (hothers : ∀ seen, Options.ofValues seen others =
      Options.scan seen (more.under ["ignoreCase", "ignore_case"])) (seen : Option Bool) :
    Options.ofValues seen ((key.value, v) :: others) =
      Options.scan seen ((Entries.cons before key middle gap value after more).under
        ["ignoreCase", "ignore_case"]) := by
  simp only [Options.ofValues, hothers]
  by_cases hname : key.value ∈ ["ignoreCase", "ignore_case"]
  · rw [Entries.under_cons_of_mem hname, if_pos (Options.isName_iff.2 hname),
      Options.boolOf_value hv []]
    rfl
  · rw [Entries.under_cons_of_not_mem hname, if_neg (Options.isName_iff.not.2 hname)]

theorem Options.ofText_object (t : Written) {inner : Space} {entries : Entries}
    (hform : t.form = .object inner entries) :
    Options.ofText t.text =
      (Options.scan none (entries.under ["ignoreCase", "ignore_case"])).map Options.ofSeen := by
  obtain ⟨rest, hread⟩ := readText_text Options.ofNode t
  rw [Options.ofText, hread, hform, Form.node, Options.ofNode, Options.ofEntries_nodes]
  cases Options.scan none (entries.under ["ignoreCase", "ignore_case"]) <;> rfl

/-! ## Configurations -/

/-- Reads the values under `tokens`, one after the other. -/
def Config.scan (tokens : Option (Definitions String)) :
    List Form → Except ReadError (Option (Definitions String))
  | [] => .ok tokens
  | f :: fs =>
    match tokens with
    | some _ => mismatch (.duplicateField "tokens")
    | none => do
      let ds ← Definitions.ofText (.ofList f.text)
      scan (some ds) fs

/-- Definitions are read on the way; what is left for the option tells as much as the entries. -/
theorem Config.ofEntries_scan (rest : List Char) {room : Nat} (hroom : room ≤ nestLimit) :
    ∀ {entries : Entries}, (∀ e ∈ entries.toList, e.2.Fits room) →
    ∃ others, (∀ tokens, Config.ofEntries room tokens (entries.nodes rest) =
        (Config.scan tokens (entries.under ["tokens"])).map (⟨·, others⟩)) ∧
      ∀ seen, Options.ofValues seen others =
        Options.scan seen (entries.under ["ignoreCase", "ignore_case"])
  | .nil, _ => ⟨[], fun _ => rfl, fun _ => rfl⟩
  | .cons before key middle gap value after more, h => by
      obtain ⟨others, htokens, hoptions⟩ :=
        Config.ofEntries_scan rest hroom fun e he => h e (List.mem_cons_of_mem _ he)
      have hfits : value.Fits room := h (key, value) List.mem_cons_self
      by_cases hname : key.value = "tokens"
      · refine ⟨others, fun tokens => ?_, fun seen => ?_⟩
        · rw [Entries.under_cons_of_mem (by simp [hname])]
          simp only [Entries.nodes, Config.ofEntries, Key.readString, KeyText.read, orFlaw, htokens]
          simp only [bind, Except.bind, if_pos hname]
          cases tokens with
          | some ds => rfl
          | none =>
              simp only [Definitions.ofNode_alone hfits hroom, Config.scan]
              cases Definitions.ofText (κ := String) (.ofList value.text) <;> rfl
        · rw [Entries.under_cons_of_not_mem (by simp [hname])]
          exact hoptions seen
      · obtain ⟨v, hv⟩ := hfits.exists_value
        have hvalue := value.read_node (after ++ (more.text true ++ rest)) room hfits.depth_le hv
        refine ⟨(key.value, v) :: others, fun tokens => ?_, fun seen => ?_⟩
        · rw [Entries.under_cons_of_not_mem (by simpa using hname)]
          simp only [Entries.nodes, Config.ofEntries, Key.readString, KeyText.read, orFlaw, htokens,
            hvalue]
          simp only [bind, Except.bind, if_neg hname]
          cases Config.scan tokens (more.under ["tokens"]) <;> rfl
        · exact Options.ofValues_cons hv hoptions seen

/-- What a configuration is, given the values under `tokens` and what its options are read as: the
first definitions are judged first, then their number, and the options last. -/
def Config.ofParts (tokens : List Form) (options : Except ReadError Options) :
    Except ReadError (Config String) :=
  match tokens with
  | [] => mismatch (.missingField "tokens")
  | [f] => do
    let ds ← Definitions.ofText (.ofList f.text)
    let o ← options
    .ok ⟨ds, o⟩
  | f :: _ :: _ => do
    let _ ← Definitions.ofText (κ := String) (.ofList f.text)
    mismatch (.duplicateField "tokens")

theorem Config.ofText_object (t : Written) {inner : Space} {entries : Entries}
    (hform : t.form = .object inner entries) :
    Config.ofText t.text = Config.ofParts (entries.under ["tokens"]) (Options.ofText t.text) := by
  obtain ⟨rest, hread⟩ := readText_text (Config.ofNode (κ := String) nestLimit) t
  have hfits : (Form.object inner entries).Fits nestLimit := hform ▸ t.fits
  obtain ⟨others, htokens, hoptions⟩ :=
    Config.ofEntries_scan ('\x7d' :: rest) (Nat.sub_le nestLimit 1) hfits.entries
  rw [Options.ofText_object t hform, Config.ofText, hread, hform, Form.node, Config.ofNode, htokens]
  simp only [Config.ofParts, Config.Fields.finish, readStop, orFlaw, bind, Except.bind, Except.map]
  rcases entries.under ["tokens"] with _ | ⟨f, fs⟩
  · rfl
  cases hds : Definitions.ofText (κ := String) (.ofList f.text) with
  | error e => cases fs <;> simp only [Config.scan, hds, bind, Except.bind]
  | ok ds =>
      cases fs with
      | nil =>
          -- The option is judged only here.
          simp only [Config.scan, hds, bind, Except.bind, hoptions]
          cases Options.scan none (entries.under ["ignoreCase", "ignore_case"]) <;> rfl
      | cons g fs => simp only [Config.scan, hds, bind, Except.bind, mismatch]

theorem Config.ofText_other (t : Written) {v : Value} (hv : t.form.value? = some v)
    (hform : ∀ inner entries, t.form ≠ .object inner entries) :
    Config.ofText (κ := String) t.text =
      mismatch (.invalidType v.shape "struct LexerConfig") := by
  obtain ⟨rest, hread⟩ := readText_text (Config.ofNode (κ := String) nestLimit) t
  have hother : Config.ofNode (κ := String) nestLimit (t.form.node rest) =
      .error ((t.form.node rest).unexpected Config.expected) := by
    cases hf : t.form with
    | object inner entries => exact absurd hf (hform inner entries)
    | number n =>
        obtain ⟨k, -, hnode⟩ := NumberForm.exists_node (hf ▸ hv)
        rw [Form.node, hnode]
        rfl
    | _ => rfl
  rw [Config.ofText, hread, hother, Form.unexpected_node hv]
  rfl

/-- Every well-formed text is read as its parts are, and nothing else in it matters. -/
theorem Config.ofText_parts (t : Written) :
    (∀ v, t.form.value? = some v → (∀ inner entries, t.form ≠ .object inner entries) →
      Config.ofText (κ := String) t.text =
        mismatch (.invalidType v.shape "struct LexerConfig")) ∧
    (∀ inner entries, t.form = .object inner entries →
      Config.ofText t.text =
        Config.ofParts (entries.under ["tokens"]) (Options.ofText t.text) ∧
      ∀ (t' : Written) (inner' : Space) (entries' : Entries), t'.form = .object inner' entries' →
        entries'.under ["tokens"] = entries.under ["tokens"] →
        entries'.under ["ignoreCase", "ignore_case"] =
          entries.under ["ignoreCase", "ignore_case"] →
        Config.ofText (κ := String) t'.text = Config.ofText t.text) := by
  refine ⟨fun v hv hform => Config.ofText_other t hv hform, fun inner entries hform => ?_⟩
  refine ⟨Config.ofText_object t hform, fun t' inner' entries' hform' htokens hoptions => ?_⟩
  rw [Config.ofText_object t hform, Config.ofText_object t' hform', htokens,
    Options.ofText_object t hform, Options.ofText_object t' hform', hoptions]

/-! ### Two texts

In both the option holds a number; it is blamed only where the definitions are in order. -/

/-- The key `tokens`, with an escape. -/
def escapedTokens : StringForm :=
  ⟨.code ⟨'0', '0', '7', '4', 0x74, by decide⟩ (by decide) ::
    (plainForm "okens" (by decide)).pieces⟩

/-- An option, and definitions twice. -/
def repeatedEntries : Entries :=
  .cons noSpace (plainForm "ignoreCase" (by decide)) noSpace oneSpace (.number (.ofNatural 1))
    noSpace
  (.cons oneSpace escapedTokens noSpace oneSpace (.object noSpace .nil) noSpace
  (.cons oneSpace escapedTokens noSpace oneSpace .null noSpace .nil))

/-- An option behind definitions. -/
def lateEntries : Entries :=
  .cons noSpace escapedTokens noSpace oneSpace (.object noSpace .nil) noSpace
  (.cons oneSpace (plainForm "ignoreCase" (by decide)) noSpace oneSpace (.number (.ofNatural 1))
    noSpace .nil)

theorem Config.ofText_parts_order :
    Config.ofText (κ := String) ("\x7b\"ignoreCase\": 1, \"\\u0074okens\": \x7b\x7d, " ++
        "\"\\u0074okens\": null\x7d") =
      mismatch (.duplicateField "tokens") ∧
    Config.ofText (κ := String) "\x7b\"\\u0074okens\": \x7b\x7d, \"ignoreCase\": 1\x7d" =
      mismatch (.invalidType (.number (.natural 1)) "a boolean") := by
  have hempty : Definitions.ofText (κ := String) (.ofList (Form.object noSpace .nil).text) =
      .ok ⟨[]⟩ :=
    (Definitions.ofNode_alone ⟨by decide, rfl⟩ (Nat.le_refl nestLimit) []).symm
  constructor
  · let t : Written := ⟨noSpace, .object noSpace repeatedEntries, noSpace, ⟨by decide, rfl⟩⟩
    have hunder : repeatedEntries.under ["tokens"] = [.object noSpace .nil, .null] := rfl
    rw [← String.ofList_append]
    refine ((Config.ofText_parts t).2 noSpace repeatedEntries rfl).1.trans ?_
    rw [hunder, Config.ofParts, hempty]
    rfl
  · let t : Written := ⟨noSpace, .object noSpace lateEntries, noSpace, ⟨by decide, rfl⟩⟩
    have hunder : lateEntries.under ["tokens"] = [.object noSpace .nil] := rfl
    refine ((Config.ofText_parts t).2 noSpace lateEntries rfl).1.trans ?_
    rw [hunder, Config.ofParts, hempty, Options.ofText_object t rfl]
    rfl

end PriorityLexer
