import PriorityLexer.Escape
import PriorityLexer.Source.Meaning

/-!
# Escaping — escaped texts are sequences of their characters

Each character of a text is read from its escaped form as one part that stands for it.

* `escapedPart`, `escapedParts` — the parts that are read from an escaped text;
* `parseFrom_escapeChars` — reading them, whatever was read before and comes behind;
* `parse_escapeChars` — the tree of an escaped text;
* `meaning_lastBranch` — a branch stands for its parts in sequence;
* `spelled` — the expression of an escaped text, with `regex_escapedTree`.
-/

namespace PriorityLexer.Source

/-! ## Lexemes -/

theorem readLexeme_of_isSyntaxChar_eq_false {a : Char} (h : isSyntaxChar a = false)
    (ignoreSpace repeatable : Bool) (pos : Nat) (rest : List Char) :
    readLexeme ignoreSpace repeatable a ⟨pos, a :: rest⟩ =
      .ok (.part (.atom (.literal ⟨.char pos, a, false⟩)), ⟨pos + 1, rest⟩) := by
  fun_cases readLexeme
  case case13 => rfl
  all_goals simp [isSyntaxChar] at h

theorem readLexeme_backslash {a : Char} (h : isSyntaxChar a = true)
    (ignoreSpace repeatable : Bool) (pos : Nat) (rest : List Char) :
    readLexeme ignoreSpace repeatable '\\' ⟨pos, '\\' :: a :: rest⟩ =
      .ok (.part (.atom (.literal ⟨⟨pos, pos + 2⟩, a, false⟩)), ⟨pos + 2, rest⟩) := by
  unfold isSyntaxChar at h
  split at h
  case h_15 => cases h
  all_goals rfl

/-! ## Reading -/

/-- The number of characters that write a character. -/
def escapedWidth (c : Char) : Nat := if isSyntaxChar c then 2 else 1

/-- The part that is read from the escaped form of a character, which starts at `pos`. -/
def escapedPart (pos : Nat) (c : Char) : Tree :=
  .atom (.literal ⟨⟨pos, pos + escapedWidth c⟩, c, false⟩)

def escapedParts (pos : Nat) : List Char → List Tree
  | [] => []
  | c :: cs => escapedPart pos c :: escapedParts (pos + escapedWidth c) cs

/-- The state after some more parts. -/
def State.addParts (st : State) (ts : List Tree) : State :=
  { st with branches := { st.branches with parts := ts.reverse ++ st.branches.parts } }

theorem State.addParts_addParts (st : State) (ts ts' : List Tree) :
    (st.addParts ts).addParts ts' = st.addParts (ts ++ ts') := by
  simp [addParts]

/-- Reading a part where blanks are not ignored. -/
theorem parseFrom_of_part {st : State} (hspace : st.ignoreSpace = false) {a : Char}
    {rest : List Char} {pos : Nat} {t : Tree} {after : Cursor}
    (h : readLexeme false st.branches.repeatable a ⟨pos, a :: rest⟩ = .ok (.part t, after))
    (fuel : Nat) :
    parseFrom (fuel + 1) st ⟨pos, a :: rest⟩ = parseFrom fuel (st.addParts [t]) after := by
  rcases st with ⟨enclosures, branches, ignoreSpace, names⟩
  cases hspace
  simp only [parseFrom, Cursor.skipBlanks, Bool.false_eq_true, if_false, h, State.add]
  rfl

theorem parseFrom_escapeChars_cons {st : State} (hspace : st.ignoreSpace = false) (c : Char)
    (cs : List Char) (pos : Nat) (tail : List Char) (fuel : Nat) :
    parseFrom (fuel + 1) st ⟨pos, escapeChars (c :: cs) ++ tail⟩ =
      parseFrom fuel (st.addParts [escapedPart pos c])
        ⟨pos + escapedWidth c, escapeChars cs ++ tail⟩ := by
  rw [escapeChars, escapedPart, escapedWidth]
  by_cases hc : isSyntaxChar c = true
  · simp only [if_pos hc]
    exact parseFrom_of_part hspace (readLexeme_backslash hc ..) fuel
  · simp only [if_neg hc]
    rw [Bool.not_eq_true] at hc
    exact parseFrom_of_part hspace (readLexeme_of_isSyntaxChar_eq_false hc ..) fuel

theorem length_escapeChars_cons (c : Char) (cs : List Char) :
    (escapeChars (c :: cs)).length = escapedWidth c + (escapeChars cs).length := by
  rw [escapeChars, escapedWidth]
  split
  · simp only [List.length_cons]
    omega
  · simp only [List.length_cons]
    omega

theorem parseFrom_escapeChars (st : State) (hspace : st.ignoreSpace = false) (cs : List Char)
    (pos : Nat) (tail : List Char) (fuel : Nat) :
    parseFrom (fuel + cs.length) st ⟨pos, escapeChars cs ++ tail⟩ =
      parseFrom fuel (st.addParts (escapedParts pos cs)) ⟨pos + (escapeChars cs).length, tail⟩ := by
  induction cs generalizing st pos with
  | nil => rfl
  | cons c cs ih =>
      have hstate : (st.addParts [escapedPart pos c]).ignoreSpace = false := hspace
      rw [List.length_cons, ← Nat.add_assoc, parseFrom_escapeChars_cons hspace, ih _ hstate,
        State.addParts_addParts, length_escapeChars_cons, Nat.add_assoc]
      rfl

theorem length_le_length_escapeChars (cs : List Char) : cs.length ≤ (escapeChars cs).length := by
  induction cs with
  | nil => exact Nat.le_refl _
  | cons c cs ih =>
      have hwidth : 1 ≤ escapedWidth c := by
        unfold escapedWidth
        split <;> omega
      rw [length_escapeChars_cons, List.length_cons]
      omega

/-! ## Branches -/

/-- A branch stands for its parts in sequence. -/
theorem meaning_lastBranch (b : Branches) (pos : Nat) (m : Mode) :
    (b.lastBranch pos).meaning m =
      (Tree.meanings m b.parts.reverse).map fun (rs, m) => (.catOf rs, m) := by
  unfold Branches.lastBranch
  split
  · next hparts =>
      rw [hparts]
      rfl
  · next t hparts =>
      rw [hparts, List.reverse_singleton]
      simp only [Tree.meanings]
      cases t.meaning m with
      | error e => rfl
      | ok r => rfl
  · rw [Tree.meaning]
    cases Tree.meanings m b.parts.reverse with
    | error e => rfl
    | ok r => rfl

/-- A branch adds at most one level to its parts. -/
theorem tooDeep?_lastBranch {b : Branches} {pos depth : Nat} (hdepth : depth < nestLimit)
    (h : ∀ depth, Tree.anyTooDeep? depth b.parts.reverse = none) :
    (b.lastBranch pos).tooDeep? depth = none := by
  unfold Branches.lastBranch
  split
  · rfl
  · next t hparts =>
      have hpart := h depth
      rw [hparts] at hpart
      simpa [Tree.anyTooDeep?] using hpart
  · rw [Tree.tooDeep?, if_neg (Nat.not_le.2 hdepth)]
    exact h (depth + 1)

/-! ## Escaped texts -/

theorem anyTooDeep?_escapedParts (depth pos : Nat) (cs : List Char) :
    Tree.anyTooDeep? depth (escapedParts pos cs) = none := by
  induction cs generalizing pos with
  | nil => rfl
  | cons c cs ih =>
      simp only [escapedParts, escapedPart, Tree.anyTooDeep?, Tree.tooDeep?, ih, Option.or_none]

theorem meanings_escapedParts (ignoreCase : Bool) (pos : Nat) (cs : List Char) :
    Tree.meanings (.initial ignoreCase) (escapedParts pos cs) =
      .ok (cs.map fun c => .chars ((Mode.initial ignoreCase).fold (.singleton c)),
        .initial ignoreCase) := by
  induction cs generalizing pos with
  | nil => rfl
  | cons c cs ih =>
      have hpart : (escapedPart pos c).meaning (.initial ignoreCase) =
          .ok (.chars ((Mode.initial ignoreCase).fold (.singleton c)), .initial ignoreCase) := rfl
      simp only [escapedParts, Tree.meanings, hpart, bind, Except.bind, ih]
      rfl

/-- The tree of an escaped text. -/
def escapedTree (cs : List Char) : Tree :=
  Branches.lastBranch ⟨0, [], 0, (escapedParts 0 cs).reverse⟩ (escapeChars cs).length

theorem tooDeep?_escapedTree (cs : List Char) : (escapedTree cs).tooDeep? 0 = none := by
  refine tooDeep?_lastBranch (by decide) fun depth => ?_
  rw [List.reverse_reverse, anyTooDeep?_escapedParts]

theorem parse_escapeChars (cs : List Char) : parse (escapeChars cs) = .ok (escapedTree cs) := by
  have hlength := length_le_length_escapeChars cs
  have hfuel : (escapeChars cs).length + 1 =
      ((escapeChars cs).length - cs.length + 1) + cs.length := by omega
  -- There is a lexeme to read for each character, and fuel for one more to find the end.
  have hread := parseFrom_escapeChars .initial rfl cs 0 []
    ((escapeChars cs).length - cs.length + 1)
  have hstate : State.initial.addParts (escapedParts 0 cs) =
      ⟨[], ⟨0, [], 0, (escapedParts 0 cs).reverse⟩, false, []⟩ := by
    simp [State.addParts, State.initial, Branches.begin]
  have hfinish (n : Nat) : parseFrom (n + 1) (State.initial.addParts (escapedParts 0 cs))
      ⟨0 + (escapeChars cs).length, []⟩ = .ok (escapedTree cs) := by
    rw [hstate, Nat.zero_add]
    rfl
  rw [List.append_nil, ← hfuel, hfinish] at hread
  rw [parse, Cursor.ofSource, hread]
  simp only [tooDeep?_escapedTree]

/-- The characters of a text one by one, with their case variants if case is ignored. -/
def variants (ignoreCase : Bool) (cs : List Char) : List CharSet :=
  cs.map fun c => (Mode.initial ignoreCase).fold (.singleton c)

/-- The expression of an escaped text. -/
def spelled (ignoreCase : Bool) (cs : List Char) : Regex :=
  .catOf ((variants ignoreCase cs).map .chars)

/-- There are no groups in a text. -/
theorem ungrouped_spelled (ignoreCase : Bool) (cs : List Char) :
    (spelled ignoreCase cs).ungrouped = spelled ignoreCase cs := by
  rw [spelled, Regex.ungrouped_catOf, List.map_map]
  rfl

theorem regex_escapedTree (ignoreCase : Bool) (cs : List Char) :
    (escapedTree cs).regex ignoreCase = .ok (spelled ignoreCase cs) := by
  rw [← ungrouped_spelled, Tree.regex, escapedTree, meaning_lastBranch, List.reverse_reverse,
    meanings_escapedParts, spelled, variants, List.map_map]
  rfl

end PriorityLexer.Source
