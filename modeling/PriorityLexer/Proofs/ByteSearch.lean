import PriorityLexer.Proofs.Boundary
import PriorityLexer.Proofs.Instructions
import PriorityLexer.Proofs.Utf8
import PriorityLexer.Regex.ByteMachine

/-!
# ByteSearch — matches over bytes end between characters

Where single bytes are taken only if they are ASCII, all strands that are alive behind a byte wait
for as many bytes as the character still has.  So they meet no instruction inside of it, and behind
it they are where the threads are that have taken the character as a whole.

* `Program.Whole` — single bytes are taken only if they are ASCII;
* `ByteFrontier.Spells` — the same has been reached over bytes and over characters;
* `Program.runBytes_charBytes` — one character, byte by byte;
* `Program.runBytes_eq` — a run over bytes finds what a run over characters finds;
* `Lexer.whole_matcher` — programs of lexers are of this kind.
-/

namespace PriorityLexer

namespace Program

/-- Single bytes are taken only if they are ASCII. -/
def Whole (p : Program) : Prop := p.Obeys (fun s => s.isAscii = true) (fun _ => True)

/-- The strands of the instruction at an address. -/
def strandsAt (p : Program) (i : Nat) : List Strand :=
  match p.insts[i]? with
  | none => []
  | some inst => inst.strands

variable {p : Program} {holds : Look → Bool}

/-! ## One strand after the other -/

theorem exploreBytes_nil (p : Program) (holds : Look → Bool) (f : ByteFrontier) :
    p.exploreBytes holds [] f = f := by
  rw [exploreBytes]

theorem exploreBytes_of_stops {i : Nat} {rest : List Strand} {f : ByteFrontier}
    (h : f.stops i = true) :
    p.exploreBytes holds (.ready i :: rest) f = p.exploreBytes holds rest f := by
  rw [exploreBytes]
  exact if_pos h

theorem exploreBytes_of_none {i : Nat} {rest : List Strand} {f : ByteFrontier}
    (hi : p.insts[i]? = none) :
    p.exploreBytes holds (.ready i :: rest) f = p.exploreBytes holds rest f := by
  rw [exploreBytes]
  simp only [Strand.ready, hi, ite_self]

theorem exploreBytes_of_some {i : Nat} {inst : Inst} {rest : List Strand} {f : ByteFrontier}
    (h : f.stops i = false) (hi : p.insts[i]? = some inst) :
    p.exploreBytes holds (.ready i :: rest) f =
      p.exploreBytes holds ((inst.leads holds).map .ready ++ rest) (f.visit i inst) := by
  rw [exploreBytes]
  simp only [Strand.ready, h, hi, Bool.false_eq_true, if_false]

theorem exploreBytes_of_waits {s : Strand} {rest : List Strand} {f : ByteFrontier}
    (hs : s.ranges ≠ []) (hf : f.accepted = none) :
    p.exploreBytes holds (s :: rest) f =
      p.exploreBytes holds rest { f with waiting := s :: f.waiting } := by
  rw [exploreBytes]
  split
  · simp [ByteFrontier.wait, hf]
  · next hnil => exact absurd hnil hs

/-- Inside of a character all strands go on waiting. -/
theorem exploreBytes_waiting {strands : List Strand} (h : ∀ s ∈ strands, s.ranges ≠ [])
    {f : ByteFrontier} (hf : f.accepted = none) :
    p.exploreBytes holds strands f = { f with waiting := strands.reverse ++ f.waiting } := by
  induction strands generalizing f with
  | nil => exact exploreBytes_nil ..
  | cons s rest ih =>
      rw [List.forall_mem_cons] at h
      have hrest := ih h.2 (f := ⟨s :: f.waiting, f.accepted, f.marks⟩) hf
      rw [exploreBytes_of_waits h.1 hf, hrest, List.reverse_cons, List.append_assoc]
      rfl

end Program

/-! ## Between characters -/

/-- The same has been reached: the strands that wait are those of the threads that wait. -/
structure ByteFrontier.Spells (p : Program) (f : Frontier) (g : ByteFrontier) : Prop where
  waiting : g.waiting = f.waiting.flatMap fun i => (p.strandsAt i).reverse
  accepted : g.accepted = f.accepted
  marks : g.marks = f.marks

namespace ByteFrontier.Spells

variable {p : Program} {f : Frontier} {g : ByteFrontier}

theorem stops (h : Spells p f g) (i : Nat) : g.stops i = f.stops i := by
  rw [ByteFrontier.stops, Frontier.stops, h.accepted, h.marks]

theorem visit (h : Spells p f g) {i : Nat} {inst : Inst} (hi : p.insts[i]? = some inst) :
    Spells p (f.visit i inst) (g.visit i inst) := by
  have hstrands : p.strandsAt i = inst.strands := by rw [Program.strandsAt, hi]
  cases inst with
  | chars | bytes =>
      exact ⟨by simp [ByteFrontier.visit, Frontier.visit, h.waiting, hstrands], h.accepted,
        congrArg (·.insert i) h.marks⟩
  | accept => exact ⟨h.waiting, rfl, congrArg (·.insert i) h.marks⟩
  | look | jump | split => exact ⟨h.waiting, h.accepted, congrArg (·.insert i) h.marks⟩

/-- Threads and strands go side by side where the assertions say the same. -/
theorem explore (h : Spells p f g) {place : Place} {holds : Look → Bool}
    (hholds : ∀ l, holds l = l.holds place) (threads : List Nat) :
    Spells p (p.explore place threads f) (p.exploreBytes holds (threads.map .ready) g) := by
  have hleads (inst : Inst) : inst.leads holds = inst.targets place := by
    cases inst <;> simp [Inst.leads, Inst.targets, hholds]
  -- Both explore in the same order, since they have marked and accepted the same.
  fun_induction p.explore place threads f generalizing g with
  | case1 => rwa [List.map_nil, Program.exploreBytes_nil]
  | case2 f i rest hs ih =>
      rw [List.map_cons, Program.exploreBytes_of_stops (by rw [h.stops, hs])]
      exact ih h
  | case3 f i rest hs hi ih =>
      rw [List.map_cons, Program.exploreBytes_of_none hi]
      exact ih h
  | case4 f i rest hs inst hi ih =>
      have hstops : g.stops i = false := by simpa [h.stops] using hs
      have hvisit := ih (h.visit hi)
      rwa [List.map_cons, Program.exploreBytes_of_some hstops hi, hleads, ← List.map_append]

end ByteFrontier.Spells

namespace Program

variable {p : Program}

theorem spells_byteFrontier {place : Place} {holds : Look → Bool}
    (hholds : ∀ l, holds l = l.holds place) (threads : List Nat) :
    ByteFrontier.Spells p (p.frontier place threads)
      (p.byteFrontier holds (threads.map .ready)) :=
  ByteFrontier.Spells.explore ⟨rfl, rfl, rfl⟩ hholds threads

/-! ## Through a character -/

/-- What is left of strands behind some bytes. -/
def readAll (bytes : List Nat) (strands : List Strand) : List Strand :=
  strands.filterMap fun s => (ByteRange.followAll? bytes s.ranges).map (⟨·, s.next⟩)

theorem readAll_nil (strands : List Strand) : readAll [] strands = strands := by
  simp [readAll, ByteRange.followAll?]

theorem readAll_cons (b : Nat) (bytes : List Nat) (strands : List Strand) :
    readAll (b :: bytes) strands = readAll bytes (strands.filterMap (Strand.read? b)) := by
  rw [readAll, readAll, List.filterMap_filterMap]
  refine List.filterMap_congr fun s _ => ?_
  cases h : ByteRange.follow? b s.ranges <;> simp [Strand.read?, ByteRange.followAll?, h]

theorem readAll_map (bytes : List Nat) (seqs : List (List ByteRange)) (next : Nat) :
    readAll bytes (seqs.map (⟨·, next⟩)) =
      (ByteRange.followAll bytes seqs).map (⟨·, next⟩) := by
  rw [readAll, List.filterMap_map, ByteRange.followAll, List.map_filterMap]
  rfl

/-- A byte of ASCII and a character of it are taken in the same way. -/
theorem strands_bytes {s : CharSet} (hs : s.isAscii = true) (next : Nat) :
    (Inst.bytes s next).strands = (Inst.chars s next).strands := by
  rw [Inst.strands, Inst.strands, CharSet.sequences_of_isAscii hs, List.map_map]
  rfl

theorem readAll_strands_chars (s : CharSet) (c : Char) (next : Nat) :
    readAll (charBytes c) (Inst.chars s next).strands =
      if s.contains c then [.ready next] else [] := by
  rw [Inst.strands, readAll_map, s.followAll_sequences c]
  split <;> rfl

/-- All bytes of a character lead where the character leads. -/
theorem Whole.readAll_strandsAt (hp : p.Whole) (c : Char) (i : Nat) :
    readAll (charBytes c) (p.strandsAt i) = ((p.take? c i).map .ready).toList := by
  unfold strandsAt take?
  cases hi : p.insts[i]? with
  | none => rfl
  | some inst =>
      cases inst with
      | chars s next =>
          simp only [readAll_strands_chars]
          split <;> rfl
      | bytes s next =>
          have hs : s.isAscii = true := hp i _ hi
          simp only [strands_bytes hs, readAll_strands_chars]
          split <;> rfl
      | look | jump | split | accept => rfl

/-- Behind the first byte of a character a strand waits for all the others. -/
theorem Whole.length_ranges (hp : p.Whole) {c : Char} {b : Nat} {bytes : List Nat}
    (hbytes : charBytes c = b :: bytes) {i : Nat} {s : Strand}
    (hs : s ∈ (p.strandsAt i).filterMap (Strand.read? b)) : s.ranges.length = bytes.length := by
  have hchars {set : CharSet} {next : Nat}
      (hs : s ∈ (Inst.chars set next).strands.filterMap (Strand.read? b)) :
      s.ranges.length = bytes.length := by
    rw [Inst.strands, List.filterMap_map] at hs
    rcases List.mem_filterMap.1 hs with ⟨seq, hseq, hread⟩
    rcases Option.map_eq_some_iff.1 hread with ⟨rest, hrest, rfl⟩
    exact CharSet.length_of_mem_follow hbytes (List.mem_filterMap.2 ⟨seq, hseq, hrest⟩)
  -- Single bytes are characters of ASCII here.
  unfold strandsAt at hs
  cases hi : p.insts[i]? with
  | none => simp [hi] at hs
  | some inst =>
      simp only [hi] at hs
      cases inst with
      | chars set next => exact hchars hs
      | bytes set next =>
          have hset : set.isAscii = true := hp i _ hi
          exact hchars (strands_bytes hset next ▸ hs)
      | look | jump | split | accept => simp [Inst.strands] at hs

theorem length_of_read? {b : Nat} {s s' : Strand} (h : s.read? b = some s') :
    s.ranges.length = s'.ranges.length + 1 := by
  rcases Option.map_eq_some_iff.1 h with ⟨rest, hrest, rfl⟩
  rcases s with ⟨_ | ⟨r, ranges⟩, next⟩
  · cases hrest
  · rw [ByteRange.follow?] at hrest
    split at hrest
    · cases hrest
      rfl
    · cases hrest

/-- Strands that wait for the same number of bytes meet no instruction before. -/
theorem runBytes_append {holds : Nat → Look → Bool} {strands : List Strand} {bytes : List Nat}
    (h : ∀ s ∈ strands, s.ranges.length = bytes.length) (offset : Nat) (rest : List Nat) :
    p.runBytes holds strands offset (bytes ++ rest) =
      p.runBytes holds (readAll bytes strands) (offset + bytes.length) rest := by
  induction bytes generalizing strands offset with
  | nil => rw [readAll_nil, List.nil_append, List.length_nil, Nat.add_zero]
  | cons b bytes ih =>
      have hwaiting : ∀ s ∈ strands, s.ranges ≠ [] := by
        intro s hs hnil
        have hlength := h s hs
        simp [hnil] at hlength
      have hread : ∀ s ∈ strands.filterMap (Strand.read? b), s.ranges.length = bytes.length := by
        intro s' hs'
        rcases List.mem_filterMap.1 hs' with ⟨s, hs, hread⟩
        exact Nat.succ.inj ((length_of_read? hread).symm.trans (h s hs))
      have hrun := ih hread (offset + 1)
      -- Nothing accepts at this offset, since all strands wait.
      rw [List.cons_append, runBytes, byteFrontier, exploreBytes_waiting hwaiting rfl]
      simp only [ByteFrontier.begin, List.append_nil, List.reverse_reverse, Option.map_none,
        Option.or_none]
      rw [hrun, readAll_cons, List.length_cons, Nat.add_assoc, Nat.add_comm 1]

/-- The bytes of a character lead from threads to the threads behind the character. -/
theorem Whole.runBytes_charBytes (hp : p.Whole) {holds : Nat → Look → Bool} {offset : Nat}
    {place : Place} (hholds : ∀ l, holds offset l = l.holds place) (threads : List Nat)
    (c : Char) (rest : List Nat) :
    p.runBytes holds (threads.map .ready) offset (charBytes c ++ rest) =
      (p.runBytes holds ((p.advance c (p.frontier place threads)).map .ready)
        (offset + c.utf8Size) rest).or
        ((p.frontier place threads).accepted.map (⟨·, offset⟩)) := by
  have hspells := p.spells_byteFrontier hholds threads
  rcases exists_charBytes_eq_cons c with ⟨b, bytes, hbytes, -⟩
  have hsize : offset + 1 + bytes.length = offset + c.utf8Size := by
    rw [← length_charBytes, hbytes, List.length_cons]
    omega
  have hwaiting : (p.byteFrontier (holds offset) (threads.map .ready)).waiting.reverse =
      (p.frontier place threads).waiting.reverse.flatMap p.strandsAt := by
    rw [hspells.waiting, List.reverse_flatMap]
    simp [Function.comp_def]
  -- Behind the first byte all strands are inside of the character, and behind the last one they are
  -- ready again.
  have hlength : ∀ s ∈ ((p.frontier place threads).waiting.reverse.flatMap
      p.strandsAt).filterMap (Strand.read? b), s.ranges.length = bytes.length := by
    intro s hs
    rw [List.filterMap_flatMap] at hs
    rcases List.mem_flatMap.1 hs with ⟨i, -, hs⟩
    exact hp.length_ranges hbytes hs
  have hadvance : readAll (charBytes c)
      ((p.frontier place threads).waiting.reverse.flatMap p.strandsAt) =
        (p.advance c (p.frontier place threads)).map .ready := by
    rw [readAll, List.filterMap_flatMap, advance, List.map_filterMap,
      List.filterMap_eq_flatMap_toList]
    exact congrArg (List.flatMap · _) (funext fun i => hp.readAll_strandsAt c i)
  rw [hbytes] at hadvance ⊢
  rw [List.cons_append, runBytes, hwaiting, runBytes_append hlength, ← readAll_cons, hadvance,
    hspells.accepted, hsize]

/-! ## Texts -/

/-- A match of a text that starts at an offset. -/
def ByteFound.of (offset : Nat) (text : List Char) (found : Found) : ByteFound :=
  ⟨found.pattern, offset + byteLength (text.take found.length)⟩

theorem holdsAt_of_place (inside : Nat → Look → Bool) {whole : List Char} {offset : Nat}
    {place : Place} (h : place? whole offset = some place) (l : Look) :
    holdsAt inside whole offset l = l.holds place := by
  rw [holdsAt, h]

/-- A run over the bytes from a place on finds what a run over the characters finds. -/
theorem Whole.runBytes_eq (hp : p.Whole) (inside : Nat → Look → Bool) {whole : List Char}
    {offset : Nat} {before : Option Char} {text : List Char}
    (hplace : place? whole offset = some ⟨before, text⟩) (threads : List Nat) :
    p.runBytes (holdsAt inside whole) (threads.map .ready) offset (textBytes text) =
      (p.run threads before text).map (.of offset text) := by
  induction text generalizing offset before threads with
  | nil =>
      have haccepted := (p.spells_byteFrontier (holdsAt_of_place inside hplace) threads).accepted
      simp [textBytes, runBytes, run, haccepted, ByteFound.of, byteLength, Function.comp_def]
  | cons c rest ih =>
      have hnext : place? whole (offset + c.utf8Size) = some ⟨some c, rest⟩ :=
        place?_add_byteLength_take hplace 1
      have hrest := ih hnext (p.advance c (p.frontier ⟨before, c :: rest⟩ threads))
      have hbehind : ByteFound.of (offset + c.utf8Size) rest =
          ByteFound.of offset (c :: rest) ∘ Found.behind 1 := by
        funext found
        simp [ByteFound.of, Found.behind, Nat.add_comm 1, byteLength, Nat.add_assoc]
      rw [textBytes, List.flatMap_cons, hp.runBytes_charBytes (holdsAt_of_place inside hplace),
        ← textBytes, hrest, run, Option.map_or, Option.map_map, Option.map_map, hbehind]
      simp [ByteFound.of, byteLength, Function.comp_def]

end Program

/-! ## Inputs -/

theorem textBytes_append (a b : List Char) : textBytes (a ++ b) = textBytes a ++ textBytes b :=
  List.flatMap_append

theorem length_textBytes (text : List Char) : (textBytes text).length = byteLength text := by
  induction text with
  | nil => rfl
  | cons c text ih =>
      rw [textBytes, List.flatMap_cons, List.length_append, length_charBytes, ← textBytes, ih]
      rfl

theorem inputBytes_eq (input : String) : inputBytes input = textBytes input.toList := by
  have hencode : input.toByteArray = input.toList.utf8Encode := by
    rw [← String.toByteArray_ofList, String.ofList_toList]
  rw [inputBytes, hencode, List.utf8Encode, List.toList_data_toByteArray, List.map_flatMap]
  rfl

theorem length_inputBytes (input : String) : (inputBytes input).length = input.utf8ByteSize := by
  rw [inputBytes_eq, length_textBytes, byteLength_toList]

/-- Bytes in front make no difference. -/
theorem isBoundaryAt_append (bytes rest : List Nat) (offset : Nat) :
    isBoundaryAt (bytes ++ rest) (bytes.length + offset) = isBoundaryAt rest offset := by
  rw [isBoundaryAt, isBoundaryAt, List.getElem?_append_right (Nat.le_add_right ..),
    Nat.add_sub_cancel_left]
  simp

/-- The byte at an offset tells whether a character starts there. -/
theorem isBoundaryAt_textBytes (before : Option Char) (text : List Char) (offset : Nat) :
    isBoundaryAt (textBytes text) offset = (Place.find? before offset text).isSome := by
  induction text generalizing before offset with
  | nil =>
      by_cases h : offset = 0 <;> simp [isBoundaryAt, textBytes, Place.find?, h]
  | cons c text ih =>
      have hcons : textBytes (c :: text) = charBytes c ++ textBytes text := List.flatMap_cons
      rcases exists_charBytes_eq_cons c with ⟨b, bytes, hbytes, hstart, hfurther⟩
      have hsize := length_charBytes c
      rw [hcons, Place.find?]
      split
      · next h0 =>
          rw [h0, hbytes]
          simpa [isBoundaryAt] using hstart
      · split
        · next hle =>
            obtain ⟨rest, rfl⟩ := Nat.exists_eq_add_of_le hle
            rw [Nat.add_sub_cancel_left, ← ih, ← hsize, isBoundaryAt_append]
        · next h0 hlt =>
            -- The byte goes on with the character.
            obtain ⟨k, rfl⟩ := Nat.exists_eq_succ_of_ne_zero h0
            rw [hbytes, List.length_cons] at hsize
            have hk : k < bytes.length := by omega
            have hbyte := ByteRange.contains_iff.1 (hfurther _ (List.getElem_mem hk))
            have hget : (charBytes c ++ textBytes text)[k + 1]? = some bytes[k] := by
              rw [hbytes, List.cons_append, List.getElem?_cons_succ,
                List.getElem?_append_left hk, List.getElem?_eq_getElem hk]
            have hfalse : (decide (bytes[k] < 0x80) || decide (0xC0 ≤ bytes[k])) = false := by
              simp only [ByteRange.further] at hbyte
              rw [Bool.or_eq_false_iff, decide_eq_false_iff_not, decide_eq_false_iff_not]
              omega
            rw [isBoundaryAt, hget]
            exact hfalse

/-- Bytes tell the offsets between characters. -/
theorem isBoundaryAt_iff {input : String} {offset : Nat} :
    isBoundaryAt (inputBytes input) offset = true ↔ IsBoundary input offset := by
  rw [inputBytes_eq, isBoundaryAt_textBytes none, isBoundary_iff, Option.isSome_iff_exists]
  rfl

/-- From a place on, a search over the bytes finds what a search over the characters finds. -/
theorem Program.Whole.searchBytes_eq {p : Program} (hp : p.Whole) (inside : Nat → Look → Bool)
    {input : String} {offset : Nat} {place : Place}
    (hplace : place? input.toList offset = some place) :
    p.searchBytes inside input offset = (p.search? place).map (.of offset place.after) := by
  have hdrop : (inputBytes input).drop offset = textBytes place.after := by
    rcases place?_eq_some_iff.1 hplace with ⟨passed, htext, hlength, -⟩
    rw [inputBytes_eq, htext, textBytes_append]
    exact List.drop_left' ((length_textBytes passed).trans hlength)
  rw [searchBytes, hdrop, search?_eq]
  exact hp.runBytes_eq inside hplace p.starts

/-- A program that takes bytes beyond ASCII may stop inside of a character. -/
example : (Program.ofRegexes [.bytes (.ofText "80-FF")]).searchBytes (fun _ _ => false) "é" 0 =
    some ⟨0, 1⟩ := by
  decide +kernel

/-! ## Sources -/

/-- A set that has been checked is taken by bytes only if they are ASCII. -/
theorem Source.setsObey_isAscii : SetsObey (fun s => s.isAscii = true) (fun _ => True) := by
  intro m span s s' h
  unfold Mode.check at h
  split at h
  · next hok =>
      cases h
      unfold Mode.oneOf
      split
      · trivial
      · next hunicode =>
          have hascii : s.isAscii = true := by simpa [hunicode] using hok
          exact hascii
  · cases h

/-- Whatever flags are set in the sources, a lexer takes no bytes apart from characters. -/
theorem Lexer.whole_matcher {κ : Type} (l : Lexer κ) : l.matcher.Whole :=
  l.obeys_matcher fun d hd r h => by
    have hatoms (a : Source.Atom) : a.Asserts fun _ => True := by
      cases a <;> simp [Source.Atom.Asserts]
    rcases bind_eq_ok_iff.1 h with ⟨t, ht, h⟩
    exact Source.Tree.obeys_regex Source.setsObey_isAscii (fun a _ => hatoms a) h

end PriorityLexer
