import Mathlib.Data.List.Forall2
import PriorityLexer.ConfigText
import PriorityLexer.Proofs.Json.Scanning

/-!
# ConfigReading — configurations are read back from every text that spells them

The same configuration can be written in many ways.  Each of them is read as that configuration,
with its definitions in their order.

* `KindSpelling` — how a kind is written as a key;
* `Pattern.SpelledBy`, `Definition.SpelledBy`, `Definitions.SpelledBy`, `Config.SpelledBy` — the
  texts that spell something;
* `Awaits` — what a field holds while the entries of an object are read;
* `Config.ofText_of_spelledBy` — every text that spells a configuration is read as it.
-/

namespace PriorityLexer

open Json

/-! ## Spelling -/

/-- How kinds are written as the keys of an object. -/
class KindSpelling (κ : Type) [KindFormat κ] where
  SpellsKey : StringForm → κ → Prop
  ofNode_of_value : ∀ {f : Form} {k : κ}, f.value? = some (KindFormat.toValue k) →
    ∀ rest, KindFormat.ofNode (f.node rest) = .ok k
  ofKey_of_spells : ∀ {key : StringForm} {k : κ}, SpellsKey key k →
    ∀ rest, KindFormat.ofKey ⟨key.inner ++ '"' :: rest, .text key.value⟩ = .ok k

/-- A literal is a string, or an object with its text under `literal`; a regular expression is an
object with its source under `regex`. -/
inductive Pattern.SpelledBy : Pattern → Form → Prop where
  | bare (s : StringForm) : SpelledBy (.literal s.value) (.string s)
  | literal (inner : Space) (entries : Entries) (key s : StringForm)
      (h : entries.toList = [(key, .string s)]) (hkey : key.value = "literal") :
      SpelledBy (.literal s.value) (.object inner entries)
  | regex (inner : Space) (entries : Entries) (key s : StringForm)
      (h : entries.toList = [(key, .string s)]) (hkey : key.value = "regex") :
      SpelledBy (.regex s.value) (.object inner entries)

section

variable {κ : Type} [KindFormat κ]

/-- An object with one of the names of the kind, one pattern and any other keys, or an array of the
two. -/
inductive Definition.SpelledBy (d : Definition κ) : Form → Prop where
  | object (inner : Space) (entries : Entries) (k p : Form)
      (hk : entries.under ["kind", "type"] = [k]) (hp : entries.under ["pattern"] = [p])
      (hkind : k.value? = some (KindFormat.toValue d.kind)) (hpattern : d.pattern.SpelledBy p) :
      SpelledBy d (.object inner entries)
  | array (inner : Space) (items : Items) (k p : Form) (h : items.toList = [k, p])
      (hkind : k.value? = some (KindFormat.toValue d.kind)) (hpattern : d.pattern.SpelledBy p) :
      SpelledBy d (.array inner items)

variable [KindSpelling κ]

/-- An array of definitions, or an object of kinds with their patterns, where the same kind may come
again. -/
inductive Definitions.SpelledBy (ds : Definitions κ) : Form → Prop where
  | array (inner : Space) (items : Items)
      (h : List.Forall₂ Definition.SpelledBy ds.toList items.toList) :
      SpelledBy ds (.array inner items)
  | object (inner : Space) (entries : Entries)
      (h : List.Forall₂ (fun d e => KindSpelling.SpellsKey e.1 d.kind ∧ d.pattern.SpelledBy e.2)
        ds.toList entries.toList) :
      SpelledBy ds (.object inner entries)

/-- The entries of an object that spells a configuration. -/
structure Config.SpelledBy (c : Config κ) (entries : Entries) : Prop where
  tokens : ∃ f, entries.under ["tokens"] = [f] ∧ c.tokens.SpelledBy f
  ignoreCase : entries.under ["ignoreCase", "ignore_case"] = [.bool c.options.ignoreCase] ∨
    entries.under ["ignoreCase", "ignore_case"] = [] ∧ c.options.ignoreCase = false
  /-- Beside the definitions, values are taken in as a whole. -/
  others : ∀ e ∈ entries.toList, e.1.value ≠ "tokens" →
    e.2.depth < nestLimit ∧ e.2.value?.isSome = true

end

/-! ## Kinds -/

instance : KindSpelling String where
  SpellsKey key k := key.value = k
  ofNode_of_value h rest := by
    rcases Form.value?_eq_string h with ⟨s, rfl, rfl⟩
    rfl
  ofKey_of_spells h rest := by
    cases h
    rfl

theorem wordOf_toNat (k : UInt32) : Node.wordOf (.natural k.toNat) = .ok k := by
  have hle : k.toNat ≤ Node.greatestWord := Nat.le_of_lt_succ k.toNat_lt
  simp [Node.wordOf, hle]

theorem readWord_toDigits (k : UInt32) (text : KeyText) (rest : List Char) :
    Key.readWord ⟨Nat.toDigits 10 k.toNat ++ '"' :: rest, text⟩ = .ok k := by
  have hle : k.toNat ≤ Numeral.greatest := Nat.le_trans k.toNat_lt.le (by decide)
  have hends := (ends_of_sign (c := '"') (by decide) rest).endsBefore (.number (.ofNatural k.toNat))
  have hscan := scanNumber_text (.ofNatural k.toNat) hends
  rw [NumberForm.text_ofNatural, finishNumber, NumberForm.value?_ofNatural hle] at hscan
  have hfirst : (Nat.toDigits 10 k.toNat ++ '"' :: rest).head?.any
      (fun c => c = '-' || isDigit c) = true := by
    rcases (NumberForm.ofNatural k.toNat).exists_text with ⟨c, cs, htext, hc⟩
    rw [NumberForm.text_ofNatural] at htext
    simpa [htext] using hc
  rw [Key.readWord, if_pos hfirst, hscan]
  simp only [wordOf_toNat]
  rfl

/-- As a key, a number is written in decimal. -/
instance : KindSpelling UInt32 where
  SpellsKey key k := key.inner = Nat.toDigits 10 k.toNat
  ofNode_of_value {f k} h rest := by
    rcases Form.value?_eq_number h with ⟨n, rfl, hn⟩
    have hnode : (Form.number n).node rest = .number (.natural k.toNat) := by
      rw [Form.node, NumberForm.node, hn]
    rw [hnode]
    exact wordOf_toNat k
  ofKey_of_spells {key k} h rest := by
    rw [h]
    exact readWord_toDigits k (.text key.value) rest

/-! ## Patterns -/

/-- A pattern is taken in as a value first. -/
theorem Pattern.ofNode_of_value {f : Form} {v : Value} (hv : f.value? = some v) (rest : List Char)
    {room : Nat} (hroom : f.depth ≤ room) :
    Pattern.ofNode room (f.node rest) = Pattern.ofValue v := by
  rw [Pattern.ofNode, f.read_node rest room hroom hv]
  rfl

theorem Pattern.ofNode_node {p : Pattern} {f : Form} (h : p.SpelledBy f) (rest : List Char)
    (room : Nat) (hroom : 1 ≤ room) : Pattern.ofNode room (f.node rest) = .ok p := by
  cases h with
  | bare s => exact Pattern.ofNode_of_value (f := .string s) rfl rest (Nat.zero_le room)
  | literal inner entries key s hentries hkey =>
      obtain ⟨before, middle, gap, after, rfl⟩ := Entries.exists_of_toList_singleton hentries
      rw [Pattern.ofNode_of_value rfl rest hroom, Pattern.ofValue, if_pos hkey]
  | regex inner entries key s hentries hkey =>
      obtain ⟨before, middle, gap, after, rfl⟩ := Entries.exists_of_toList_singleton hentries
      rw [Pattern.ofNode_of_value rfl rest hroom, Pattern.ofValue, if_neg (by simp [hkey]),
        if_pos hkey]

/-! ## Fields -/

/-- A field holds `found` so far, and `goal` when the values of these forms have been read. -/
inductive Awaits {α : Type} (spells : α → Form → Prop) : (found goal : Option α) → List Form → Prop
    where
  | done (a : Option α) : Awaits spells a a []
  | one {a : α} {f : Form} (h : spells a f) : Awaits spells none (some a) [f]

namespace Awaits

variable {α : Type} {spells : α → Form → Prop} {found goal : Option α}

theorem eq_of_nil (h : Awaits spells found goal []) : found = goal := by
  cases h
  rfl

/-- The last value is the one that the field waits for. -/
theorem of_cons {f : Form} {fs : List Form} (h : Awaits spells found goal (f :: fs)) :
    found = none ∧ ∃ a, spells a f ∧ Awaits spells (some a) goal fs := by
  cases h with
  | one hf => exact ⟨rfl, _, hf, .done _⟩

end Awaits

section

variable {κ : Type} [KindFormat κ]

theorem Config.ofEntries_tokens {room : Nat} {raw : List Char} {n : Node} {ds : Definitions κ}
    (hds : Definitions.ofNode room n = .ok ds) (entries : List (Key × Node)) :
    Config.ofEntries room none ((⟨raw, .text "tokens"⟩, n) :: entries) =
      Config.ofEntries room (some ds) entries := by
  simp only [Config.ofEntries, Key.readString, KeyText.read, orFlaw, bind, Except.bind, if_true,
    hds]

/-- What is not a definition is taken in. -/
theorem Config.ofEntries_other {room : Nat} {raw : List Char} {name : String} {n : Node} {v : Value}
    (hname : name ≠ "tokens") (hv : n.read room = .ok v) {tokens : Option (Definitions κ)}
    {entries : List (Key × Node)} {f : Config.Fields κ}
    (hf : Config.ofEntries room tokens entries = .ok f) :
    Config.ofEntries room tokens ((⟨raw, .text name⟩, n) :: entries) =
      .ok { f with others := (name, v) :: f.others } := by
  simp only [Config.ofEntries, Key.readString, KeyText.read, orFlaw, bind, Except.bind,
    if_neg hname, hv, hf]

variable [KindSpelling κ]

/-! ## Definitions -/

/-- While the entries of an object are read, each field waits for the one value under its names. -/
theorem Definition.ofEntries_nodes (d : Definition κ) (rest : List Char) (room : Nat)
    (hroom : 1 ≤ room) : ∀ (entries : Entries) (f : Definition.Fields κ),
    Awaits (fun k form => form.value? = some (KindFormat.toValue k)) f.kind (some d.kind)
      (entries.under ["kind", "type"]) →
    Awaits Pattern.SpelledBy f.pattern (some d.pattern) (entries.under ["pattern"]) →
    Definition.ofEntries room f (entries.nodes rest) = .ok ⟨some d.kind, some d.pattern⟩
  | .nil, ⟨kind, pattern⟩, hkind, hpattern => by
      cases hkind.eq_of_nil
      cases hpattern.eq_of_nil
      rfl
  | .cons before key middle gap value after more, ⟨kind, pattern⟩, hkind, hpattern => by
      -- What the entry does to the fields decides what the entries behind it start from.
      have hstep {f : Definition.Fields κ}
          (hadd : Fields.add room ⟨kind, pattern⟩ key.value
            (value.node (after ++ (more.text true ++ rest))) = .ok f)
          (hkind : Awaits (fun k form => form.value? = some (KindFormat.toValue k)) f.kind
            (some d.kind) (more.under ["kind", "type"]))
          (hpattern : Awaits Pattern.SpelledBy f.pattern (some d.pattern)
            (more.under ["pattern"])) :
          Definition.ofEntries room ⟨kind, pattern⟩
            ((Entries.cons before key middle gap value after more).nodes rest) =
              .ok ⟨some d.kind, some d.pattern⟩ := by
        have hmore := Definition.ofEntries_nodes d rest room hroom more f hkind hpattern
        simp only [Entries.nodes, Definition.ofEntries, Key.readString, KeyText.read, orFlaw]
        simp only [bind, Except.bind, hadd, hmore]
      by_cases hname : key.value ∈ ["kind", "type"]
      · have hother : key.value ∉ ["pattern"] := by
          rcases List.mem_pair.1 hname with h | h <;> simp [h]
        rw [Entries.under_cons_of_mem hname] at hkind
        rw [Entries.under_cons_of_not_mem hother] at hpattern
        obtain ⟨rfl, k, hk, hkind⟩ := hkind.of_cons
        refine hstep (f := ⟨some k, pattern⟩) ?_ hkind hpattern
        rw [Fields.add, if_pos (by simpa using hname)]
        simp only [KindSpelling.ofNode_of_value hk]
        rfl
      rw [Entries.under_cons_of_not_mem hname] at hkind
      by_cases hname' : key.value = "pattern"
      · rw [Entries.under_cons_of_mem (by simp [hname'])] at hpattern
        obtain ⟨rfl, p, hp, hpattern⟩ := hpattern.of_cons
        refine hstep (f := ⟨kind, some p⟩) ?_ hkind hpattern
        rw [Fields.add, if_neg (by simpa using hname), if_pos hname']
        simp only [Pattern.ofNode_node hp _ room hroom]
        rfl
      · rw [Entries.under_cons_of_not_mem (by simpa using hname')] at hpattern
        refine hstep (f := ⟨kind, pattern⟩) ?_ hkind hpattern
        rw [Fields.add, if_neg (by simpa using hname), if_neg hname', Form.skip_node]
        rfl

theorem Definition.ofNode_node {d : Definition κ} {f : Form} (h : d.SpelledBy f) (rest : List Char)
    (room : Nat) (hroom : 2 ≤ room) : Definition.ofNode room (f.node rest) = .ok d := by
  have hinside : 1 ≤ room - 1 := Nat.le_sub_of_add_le hroom
  cases h with
  | object inner entries k p hk hp hkind hpattern =>
      have hfields := Definition.ofEntries_nodes d ('\x7d' :: rest) (room - 1) hinside entries
        ⟨none, none⟩ (by rw [hk]; exact .one hkind) (by rw [hp]; exact .one hpattern)
      simp only [Form.node, Definition.ofNode, hfields]
      rfl
  | array inner items k p h hkind hpattern =>
      obtain ⟨before, after, more, rfl, hmore⟩ := Items.exists_of_toList_cons h
      obtain ⟨before', after', more', rfl, hmore'⟩ := Items.exists_of_toList_cons hmore
      cases Items.eq_nil_of_toList hmore'
      simp only [Form.node, Items.nodes, Definition.ofNode, Definition.ofItems,
        KindSpelling.ofNode_of_value hkind, Pattern.ofNode_node hpattern _ _ hinside]
      rfl

theorem Definitions.ofItems_nodes (rest : List Char) (room : Nat) (hroom : 2 ≤ room) :
    ∀ (items : Items) {ds : List (Definition κ)},
    List.Forall₂ Definition.SpelledBy ds items.toList →
    Definitions.ofItems room (items.nodes rest) = .ok ds
  | .nil, _, .nil => rfl
  | .cons before item after more, _, .cons hitem hmore => by
      have hmore := Definitions.ofItems_nodes rest room hroom more hmore
      simp only [Items.nodes, Definitions.ofItems, Definition.ofNode_node hitem _ room hroom, hmore]
      rfl

theorem Definitions.ofEntries_nodes (rest : List Char) (room : Nat) (hroom : 1 ≤ room) :
    ∀ (entries : Entries) {ds : List (Definition κ)},
    List.Forall₂ (fun d e => KindSpelling.SpellsKey e.1 d.kind ∧ d.pattern.SpelledBy e.2) ds
      entries.toList →
    Definitions.ofEntries room (entries.nodes rest) = .ok ds
  | .nil, _, .nil => rfl
  | .cons before key middle gap value after more, _, .cons ⟨hkey, hpattern⟩ hmore => by
      have hmore := Definitions.ofEntries_nodes rest room hroom more hmore
      simp only [Entries.nodes, Definitions.ofEntries, Entries.unquoted,
        KindSpelling.ofKey_of_spells hkey, Pattern.ofNode_node hpattern _ room hroom, hmore]
      rfl

theorem Definitions.ofNode_node {ds : Definitions κ} {f : Form} (h : ds.SpelledBy f)
    (rest : List Char) (room : Nat) (hroom : 3 ≤ room) :
    Definitions.ofNode room (f.node rest) = .ok ds := by
  cases h with
  | array inner items h =>
      have hitems := Definitions.ofItems_nodes (']' :: rest) (room - 1) (by omega) items h
      simp only [Form.node, Definitions.ofNode, hitems]
      rfl
  | object inner entries h =>
      have hentries := Definitions.ofEntries_nodes ('\x7d' :: rest) (room - 1) (by omega) entries h
      simp only [Form.node, Definitions.ofNode, hentries]
      rfl

/-! ## Configurations -/

theorem Options.isName_iff {name : String} :
    Options.isName name = true ↔ name ∈ ["ignoreCase", "ignore_case"] := by
  simp [Options.isName]

/-- The definitions are read at once, the option from the values that were taken in on the way. -/
theorem Config.ofEntries_nodes (c : Config κ) (flag : Option Bool) (rest : List Char) (room : Nat)
    (hroom : 3 ≤ room) : ∀ (entries : Entries) (tokens : Option (Definitions κ))
    (seen : Option Bool),
    Awaits Definitions.SpelledBy tokens (some c.tokens) (entries.under ["tokens"]) →
    Awaits (fun b form => form = .bool b) seen flag
      (entries.under ["ignoreCase", "ignore_case"]) →
    (∀ e ∈ entries.toList, e.1.value ≠ "tokens" →
      e.2.depth ≤ room ∧ e.2.value?.isSome = true) →
    ∃ others, Config.ofEntries room tokens (entries.nodes rest) = .ok ⟨some c.tokens, others⟩ ∧
      Options.ofValues seen others = .ok flag
  | .nil, _, _, htokens, hflag, _ => by
      cases htokens.eq_of_nil
      cases hflag.eq_of_nil
      exact ⟨[], rfl, rfl⟩
  | .cons before key middle gap value after more, tokens, seen, htokens, hflag, hothers => by
      have hmore := fun tokens seen htokens hflag =>
        Config.ofEntries_nodes c flag rest room hroom more tokens seen htokens hflag
          fun e he => hothers e (List.mem_cons_of_mem _ he)
      rw [Entries.nodes]
      by_cases hname : key.value = "tokens"
      · rw [Entries.under_cons_of_mem (by simp [hname])] at htokens
        rw [Entries.under_cons_of_not_mem (by simp [hname])] at hflag
        obtain ⟨rfl, ds, hds, htokens⟩ := htokens.of_cons
        rw [hname, Config.ofEntries_tokens (Definitions.ofNode_node hds _ room hroom)]
        exact hmore (some ds) seen htokens hflag
      rw [Entries.under_cons_of_not_mem (by simpa using hname)] at htokens
      obtain ⟨hdepth, hsome⟩ := hothers (key, value) List.mem_cons_self hname
      obtain ⟨v, hv⟩ := Option.isSome_iff_exists.1 hsome
      have hvalue := value.read_node (after ++ (more.text true ++ rest)) room hdepth hv
      by_cases hoption : key.value ∈ ["ignoreCase", "ignore_case"]
      · rw [Entries.under_cons_of_mem hoption] at hflag
        obtain ⟨rfl, b, rfl, hbehind⟩ := hflag.of_cons
        obtain ⟨others, hread, hvalues⟩ := hmore tokens (some b) htokens hbehind
        refine ⟨_, Config.ofEntries_other hname hvalue hread, ?_⟩
        cases hv
        simp only [Options.ofValues, Options.isName_iff.2 hoption, if_true]
        exact hvalues
      · rw [Entries.under_cons_of_not_mem hoption] at hflag
        obtain ⟨others, hread, hvalues⟩ := hmore tokens seen htokens hflag
        refine ⟨_, Config.ofEntries_other hname hvalue hread, ?_⟩
        rw [Options.ofValues, if_neg (Options.isName_iff.not.2 hoption)]
        exact hvalues

theorem Config.ofNode_node {c : Config κ} {entries : Entries} (h : c.SpelledBy entries)
    (inner : Space) (rest : List Char) :
    Config.ofNode nestLimit ((Form.object inner entries).node rest) = .ok c := by
  obtain ⟨f, hf, htokens⟩ := h.tokens
  have hothers : ∀ e ∈ entries.toList, e.1.value ≠ "tokens" →
      e.2.depth ≤ nestLimit - 1 ∧ e.2.value?.isSome = true := by
    intro e he hname
    obtain ⟨hdepth, hsome⟩ := h.others e he hname
    exact ⟨Nat.le_sub_one_of_lt hdepth, hsome⟩
  obtain ⟨flag, hflag, hoptions⟩ : ∃ flag, Awaits (fun b form => form = .bool b) none flag
      (entries.under ["ignoreCase", "ignore_case"]) ∧ Options.ofSeen flag = c.options := by
    rcases h.ignoreCase with hunder | ⟨hunder, hfalse⟩
    · exact ⟨some c.options.ignoreCase, hunder ▸ .one rfl, rfl⟩
    · refine ⟨none, hunder ▸ .done none, ?_⟩
      change Options.mk false = c.options
      rw [← hfalse]
  obtain ⟨others, hread, hvalues⟩ := Config.ofEntries_nodes c flag ('\x7d' :: rest)
    (nestLimit - 1) (by decide) entries none none (hf ▸ .one htokens) hflag hothers
  simp only [Form.node, Config.ofNode, hread, readStop, orFlaw, bind, Except.bind,
    Config.Fields.finish, hvalues, hoptions]

theorem Config.ofText_text {c : Config κ} {entries : Entries} (h : c.SpelledBy entries)
    (lead inner trail : Space) :
    Config.ofText (.ofList (lead ++ (Form.object inner entries).text ++ trail)) = .ok c := by
  obtain ⟨rest, hrest⟩ := (Form.object inner entries).ofText_text lead trail
  simp only [Config.ofText, readText, String.toList_ofList, hrest, Config.ofNode_node h]
  rfl

end

/-- Every text that spells a configuration is read as that configuration, whether its kinds are
strings or numbers. -/
theorem Config.ofText_of_spelledBy :
    (∀ (c : Config String) (lead inner trail : Space) (entries : Entries), c.SpelledBy entries →
      Config.ofText (.ofList (lead ++ (Form.object inner entries).text ++ trail)) = .ok c) ∧
    (∀ (c : Config UInt32) (lead inner trail : Space) (entries : Entries), c.SpelledBy entries →
      Config.ofText (.ofList (lead ++ (Form.object inner entries).text ++ trail)) = .ok c) :=
  ⟨fun _ lead inner trail _ h => Config.ofText_text h lead inner trail,
    fun _ lead inner trail _ h => Config.ofText_text h lead inner trail⟩

/-! ### Two texts

Both hold a name of the option, a name of the kind and a key that means nothing; the first one is
an array, the second an object with a repeated key. -/

/-- A string whose characters stand for themselves. -/
def plainForm (s : String) (h : s.toList.all isPlain = true) : StringForm :=
  ⟨s.toList.attach.map fun c => .plain c.1 (List.all_eq_true.1 h c.1 c.2)⟩

def noSpace : Space := ⟨[], List.forall_mem_nil _⟩

def oneSpace : Space := ⟨[' '], List.forall_mem_singleton.2 rfl⟩

/-- Entries with a space behind each comma and each colon. -/
def Json.Entries.spaced (before : Space) : List (StringForm × Form) → Entries
  | [] => .nil
  | (key, value) :: entries =>
    .cons before key noSpace oneSpace value noSpace (spaced oneSpace entries)

/-- A number too large for any value. -/
def farNumber : NumberForm where
  negative := false
  whole := ['0']
  fraction := ['1']
  power := some ⟨'e', .absent, ['9', '9', '9'], .inl rfl, List.cons_ne_nil _ _,
    List.all_eq_true.1 rfl⟩
  whole_ne := List.cons_ne_nil _ _
  isDigit_whole := List.forall_mem_singleton.2 rfl
  eq_of_zero _ := rfl
  isDigit_fraction := List.forall_mem_singleton.2 rfl

/-- The string `a+`, with an escape. -/
def escapedForm : StringForm :=
  ⟨[.code ⟨'0', '0', '6', '1', 0x61, by decide⟩ (by decide), .plain '+' (by decide)]⟩

/-- One definition as an array, one as an object. -/
def arrayEntries : Entries :=
  .cons noSpace (plainForm "tokens" (by decide)) noSpace oneSpace (.array noSpace
    (.cons noSpace (.array noSpace (.cons noSpace (.string (plainForm "a" (by decide))) noSpace
      (.cons oneSpace (.string (plainForm "+" (by decide))) noSpace .nil))) noSpace
    (.cons oneSpace (.object noSpace
      (.cons noSpace (plainForm "pattern" (by decide)) noSpace oneSpace (.object noSpace
        (.cons noSpace (plainForm "regex" (by decide)) noSpace oneSpace (.string escapedForm)
          noSpace .nil)) noSpace
      (.cons oneSpace (plainForm "note" (by decide)) noSpace oneSpace (.number farNumber) noSpace
      (.cons oneSpace (plainForm "type" (by decide)) noSpace oneSpace
        (.string (plainForm "b" (by decide))) noSpace .nil)))) noSpace .nil))) noSpace
  (.cons oneSpace (plainForm "ignore_case" (by decide)) noSpace oneSpace (.bool true) noSpace .nil)

/-- The same kind twice. -/
def objectEntries : Entries :=
  .cons noSpace (plainForm "note" (by decide)) noSpace oneSpace .null noSpace
  (.cons oneSpace (plainForm "tokens" (by decide)) noSpace oneSpace (.object noSpace
    (.cons noSpace (plainForm "70" (by decide)) noSpace oneSpace
      (.string (plainForm "+" (by decide))) noSpace
    (.cons oneSpace (plainForm "70" (by decide)) noSpace oneSpace (.object noSpace
      (.cons noSpace (plainForm "literal" (by decide)) noSpace oneSpace (.string escapedForm)
        noSpace .nil)) noSpace .nil))) noSpace .nil)

set_option maxRecDepth 2000 in
theorem Config.ofText_of_spelledBy_both :
    Config.ofText ("\x7b\"tokens\": [[\"a\", \"+\"], " ++
        "\x7b\"pattern\": \x7b\"regex\": \"\\u0061+\"\x7d, \"note\": 0.1e999, " ++
        "\"type\": \"b\"\x7d], \"ignore_case\": true\x7d") =
      .ok (⟨⟨[⟨"a", .literal "+"⟩, ⟨"b", .regex "a+"⟩]⟩, ⟨true⟩⟩ : Config String) ∧
    Config.ofText ("\x7b\"note\": null, \"tokens\": \x7b\"70\": \"+\", " ++
        "\"70\": \x7b\"literal\": \"\\u0061+\"\x7d\x7d\x7d") =
      .ok (⟨⟨[⟨70, .literal "+"⟩, ⟨70, .literal "a+"⟩]⟩, ⟨false⟩⟩ : Config UInt32) := by
  constructor
  · rw [← String.ofList_append]
    exact Config.ofText_of_spelledBy.1 _ noSpace noSpace noSpace arrayEntries
      { tokens := ⟨_, rfl, .array _ _ (.cons (.array _ _ _ _ rfl rfl (.bare (plainForm "+" _)))
          (.cons (.object _ _ _ _ rfl rfl rfl (.regex _ _ _ escapedForm rfl rfl)) .nil))⟩
        ignoreCase := .inl rfl
        others := by decide }
  · rw [← String.ofList_append]
    exact Config.ofText_of_spelledBy.2 _ noSpace noSpace noSpace objectEntries
      { tokens := ⟨_, rfl, .object _ _ (.cons ⟨rfl, .bare (plainForm "+" _)⟩
          (.cons ⟨rfl, .literal _ _ _ escapedForm rfl rfl⟩ .nil))⟩
        ignoreCase := .inr ⟨rfl, rfl⟩
        others := by decide }

end PriorityLexer
