import PriorityLexer.Proofs.ByteSearch

/-!
# Safety — a token can always be cut out of its input

An input is kept in bytes, and a search runs over them.  Matching a token takes three steps there
that might go wrong.  The search has to start within the input, the number that it reports has to be
that of a definition, and the match has to end between characters, since only then it is a text.
Here each step is checked on its own, and no check ever fails.

* `isBoundary_iff_isValid` — offsets between characters, as the library has them;
* `slice?` — the text between two offsets;
* `Slip`, `Lexer.cutToken?` — matching over bytes, with its steps checked;
* `Lexer.matchAt_safe` — no check fails, and where a token lies.
-/

namespace PriorityLexer

variable {κ : Type}

/-! ## Slices -/

/-- An offset lies between characters if it is the end of the input or that of a byte which starts a
character. -/
theorem isBoundary_iff_isValid {input : String} {offset : Nat} :
    IsBoundary input offset ↔ (String.Pos.Raw.mk offset).IsValid input := by
  rw [String.Pos.Raw.isValid_iff_exists_append]
  constructor
  · intro h
    rcases h with ⟨before, after, hinput, rfl⟩
    exact ⟨before, after, hinput, rfl⟩
  · intro h
    rcases h with ⟨before, after, hinput, hoffset⟩
    exact ⟨before, after, hinput, (congrArg String.Pos.Raw.byteIdx hoffset).symm⟩

/-- The text between two offsets.  There is none if one of them lies inside a character or past the
end, or if they are in the wrong order. -/
def slice? (input : String) (start stop : Nat) : Option String :=
  let bytes := inputBytes input
  if start ≤ stop && isBoundaryAt bytes start && isBoundaryAt bytes stop then
    String.fromUTF8? (input.toByteArray.extract start stop)
  else none

theorem slice?_of_isSlice {input image : String} {start stop : Nat}
    (h : IsSlice input start stop image) : slice? input start stop = some image := by
  have hstart := isBoundaryAt_iff.2 h.isBoundary_start
  have hstop := isBoundaryAt_iff.2 h.isBoundary_stop
  -- The bytes between the offsets are those of a text.
  rw [slice?, ← h.toByteArray_eq]
  simp only [h.start_le_stop, hstart, hstop, decide_true, Bool.and_self, if_true]
  exact dif_pos image.isValidUTF8

/-! ## Matching step by step -/

/-- What might go wrong while a token is cut out of an input. -/
inductive Slip where
  /-- The search starts past the end of the input. -/
  | range
  /-- No definition has the reported number. -/
  | definition
  /-- The match ends inside a character, past the end of the input or before it starts. -/
  | slice
deriving DecidableEq, Repr

namespace Lexer

/-- The token that a search over the bytes tells of, or what goes wrong with it. -/
def cutFound? (l : Lexer κ) (input : String) (offset : Nat) :
    Option Program.ByteFound → Except Slip (Option (Token κ))
  | none => .ok none
  | some found =>
    if found.stop = offset then .ok none
    else
      match l.definitions.get? found.pattern with
      | none => .error .definition
      | some d =>
        match slice? input offset found.stop with
        | none => .error .slice
        | some image => .ok (some ⟨d.kind, image, offset, found.stop⟩)

/-- The token at an offset, or what goes wrong there.  What assertions say inside of characters is
left to `inside`. -/
def cutToken? (l : Lexer κ) (inside : Nat → Look → Bool) (input : String) (offset : Nat) :
    Except Slip (Option (Token κ)) :=
  let bytes := inputBytes input
  if ¬ isBoundaryAt bytes offset then .ok none
  else if bytes.length < offset then .error .range
  else l.cutFound? input offset (l.matcher.searchBytes inside input offset)

variable {l : Lexer κ} {inside : Nat → Look → Bool} {input : String} {offset : Nat}

theorem matchAt_of_not_isBoundary (h : ¬ IsBoundary input offset) :
    l.matchAt input offset = none :=
  Option.eq_none_iff_forall_not_mem.2 fun _ ht => h (isBoundary_of_matchAt ht)

/-- Over the bytes the search finds what it finds over the characters. -/
theorem searchBytes_eq {p : Place} (hp : place? input.toList offset = some p) :
    l.matcher.searchBytes inside input offset =
      (l.matcher.search? p).map (.of offset p.after) :=
  l.whole_matcher.searchBytes_eq inside hp

/-- A match belongs to a definition and ends between characters of the input. -/
theorem slice_of_searchBytes (hoffset : IsBoundary input offset) {found : Program.ByteFound}
    (h : l.matcher.searchBytes inside input offset = some found) :
    (∃ d, l.definitions.get? found.pattern = some d) ∧
      ∃ image, IsSlice input offset found.stop image := by
  rcases isBoundary_iff.1 hoffset with ⟨p, hp⟩
  rw [searchBytes_eq hp, Option.map_eq_some_iff] at h
  rcases h with ⟨found, hs, rfl⟩
  exact ⟨exists_get?_of_search? hs, _, isSlice_take hp found.length⟩

/-- Between characters the search may start. -/
theorem cutToken?_of_isBoundary (h : IsBoundary input offset) :
    l.cutToken? inside input offset =
      l.cutFound? input offset (l.matcher.searchBytes inside input offset) := by
  have hle : offset ≤ (inputBytes input).length := by
    rw [length_inputBytes]
    exact (isBoundary_iff_isValid.1 h).le_utf8ByteSize
  rw [cutToken?, if_neg (not_not.2 (isBoundaryAt_iff.2 h)), if_neg (Nat.not_lt.2 hle)]

theorem cutFound?_of_place {p : Place} (hp : place? input.toList offset = some p) :
    l.cutFound? input offset (l.matcher.searchBytes inside input offset) =
      .ok (l.matchAt input offset) := by
  rw [searchBytes_eq hp]
  cases hs : l.matcher.search? p with
  | none => simp [cutFound?, matchAt, matchPlace?, hp, hs]
  | some found =>
      -- A match that is not empty ends behind its start.
      by_cases h0 : found.length = 0
      · simp [cutFound?, Program.ByteFound.of, matchAt, matchPlace?, hp, hs, h0, byteLength]
      · rcases exists_get?_of_search? hs with ⟨d, hd⟩
        have hmatch := matchAt_eq_some_iff.2 ⟨p, found, d, hp, hs, h0, hd, rfl⟩
        have hlt : offset < offset + byteLength (p.after.take found.length) :=
          lt_nextOffset_of_matchAt hmatch
        have hslice := slice?_of_isSlice (isSlice_take hp found.length)
        simp only [Option.map_some, cutFound?, Program.ByteFound.of, if_neg (Nat.ne_of_gt hlt), hd,
          hslice, hmatch]
        rfl

theorem cutToken?_eq (l : Lexer κ) (inside : Nat → Look → Bool) (input : String)
    (offset : Nat) : l.cutToken? inside input offset = .ok (l.matchAt input offset) := by
  by_cases hboundary : IsBoundary input offset
  · rcases isBoundary_iff.1 hboundary with ⟨p, hp⟩
    rw [cutToken?_of_isBoundary hboundary, cutFound?_of_place hp]
  · have hbyte := isBoundaryAt_iff.not.2 hboundary
    rw [cutToken?, if_pos hbyte, matchAt_of_not_isBoundary hboundary]

/-- Whatever the definitions are, matching goes wrong at no offset of any input.  A search over the
bytes that starts between characters reports one of the definitions and ends between characters, and
a token is the text between two offsets of the input, of which the first is the given one. -/
theorem matchAt_safe (l : Lexer κ) (input : String) (offset : Nat) :
    (∀ inside, l.cutToken? inside input offset = .ok (l.matchAt input offset)) ∧
      (∀ inside found, isBoundaryAt (inputBytes input) offset = true →
        l.matcher.searchBytes inside input offset = some found →
        found.pattern < l.definitions.size ∧ offset ≤ found.stop ∧
          found.stop ≤ (inputBytes input).length ∧
          isBoundaryAt (inputBytes input) found.stop = true) ∧
      ∀ t, l.matchAt input offset = some t →
        t.startOffset = offset ∧ offset < t.nextOffset ∧ t.nextOffset ≤ input.utf8ByteSize ∧
        (String.Pos.Raw.mk t.startOffset).IsValid input ∧
        (String.Pos.Raw.mk t.nextOffset).IsValid input ∧
        t.image.toByteArray = input.toByteArray.extract t.startOffset t.nextOffset := by
  refine ⟨fun inside => l.cutToken?_eq inside input offset, fun inside found hoffset h => ?_,
    fun t ht => ?_⟩
  · rcases slice_of_searchBytes (isBoundaryAt_iff.1 hoffset) h with ⟨⟨d, hd⟩, image, hslice⟩
    exact ⟨(List.getElem?_eq_some_iff.1 hd).1, hslice.start_le_stop,
      length_inputBytes input ▸ hslice.le_size, isBoundaryAt_iff.2 hslice.isBoundary_stop⟩
  · rcases isSlice_of_matchAt ht with ⟨hstart, hslice⟩
    exact ⟨hstart, lt_nextOffset_of_matchAt ht, hslice.le_size,
      isBoundary_iff_isValid.1 hslice.isBoundary_start,
      isBoundary_iff_isValid.1 hslice.isBoundary_stop, hslice.toByteArray_eq⟩

/-- A class of bytes in front of a character, and any character. -/
theorem matchAt_safe_mixed :
    ∃ l : Lexer String,
      build ⟨[⟨"pair", .regex "(?-u:[a-c])é"⟩, ⟨"any", .regex "(?s:.)"⟩]⟩ ⟨false⟩ = .ok l ∧
      ∀ inside, [0, 1, 2, 3, 6, 7].map (l.cutToken? inside "bé€\n") =
        [.ok (some ⟨"pair", "bé", 0, 3⟩), .ok (some ⟨"any", "é", 1, 3⟩), .ok none,
          .ok (some ⟨"any", "€", 3, 6⟩), .ok (some ⟨"any", "\n", 6, 7⟩), .ok none] := by
  let rs : List Regex :=
    [.catOf [.bytes (.range 'a' 'c'), .chars (.singleton 'é')], .chars CharSet.empty.complement]
  have hrs : Expressions false [.regex "(?-u:[a-c])é", .regex "(?s:.)"] rs :=
    .of_map_eq (by decide +kernel)
  obtain ⟨l, hl, hmatcher⟩ := exists_build_eq_ok (κ := String)
    ⟨[⟨"pair", .regex "(?-u:[a-c])é"⟩, ⟨"any", .regex "(?s:.)"⟩]⟩ ⟨false⟩ hrs (by decide +kernel)
  have htokens : [0, 1, 2, 3, 6, 7].map (l.matchAt "bé€\n") =
      [some ⟨"pair", "bé", 0, 3⟩, some ⟨"any", "é", 1, 3⟩, none, some ⟨"any", "€", 3, 6⟩,
        some ⟨"any", "\n", 6, 7⟩, none] := by
    simp only [List.map_cons, List.map_nil, matchAt_eq_bind, matchPlace?, hmatcher,
      (build_eq_ok_iff.1 hl).1]
    decide +kernel
  have hsafe (inside : Nat → Look → Bool) :
      l.cutToken? inside "bé€\n" = .ok ∘ l.matchAt "bé€\n" :=
    funext fun offset => (matchAt_safe l "bé€\n" offset).1 inside
  refine ⟨l, hl, fun inside => ?_⟩
  rw [hsafe, ← List.map_map, htokens]
  rfl

end Lexer

end PriorityLexer
