import PriorityLexer.Proofs.Matching
import PriorityLexer.Stream

/-!
# Tokenization — what a stream yields

A stream yields tokens of which each is the one that starts where the last one ends.  Behind them
comes nothing if they reach the end of the input, and else the error of the offset where no token
starts.

* `Lexer.Chain` — tokens that follow one another, with their common start and end;
* `Lexer.Stuck` — an offset where a stream has no token to yield;
* `Lexer.yields` — the items of a stream whose tokens end at an offset;
* `Stream.next?_start` — one step in terms of the token at the offset;
* `Lexer.drain_tokenizeFrom`, `Lexer.all_tokenizeFrom` — the items of a whole stream;
* `Lexer.tokenize_exact` — streams and tokenizing at once in terms of chains.
-/

namespace PriorityLexer

variable {κ : Type}

/-! ## Chains -/

namespace Lexer

/-- Tokens of which the first starts at an offset and each further one where the last one ends. -/
inductive Chain (l : Lexer κ) (input : String) : Nat → List (Token κ) → Nat → Prop where
  | nil (offset : Nat) : Chain l input offset [] offset
  | cons {offset stop : Nat} {t : Token κ} {ts : List (Token κ)} :
      t.startOffset = offset → l.matchAt input t.startOffset = some t →
      Chain l input t.nextOffset ts stop → Chain l input offset (t :: ts) stop

/-- No token follows: the input is at its end, or nothing matches. -/
def Stuck (l : Lexer κ) (input : String) (offset : Nat) : Prop :=
  offset < input.utf8ByteSize → l.matchAt input offset = none

/-- What a stream yields whose tokens end at an offset. -/
def yields (input : String) (ts : List (Token κ)) (stop : Nat) : List (Item κ) :=
  ts.map .ok ++ if input.utf8ByteSize ≤ stop then [] else [.error ⟨stop⟩]

variable {l : Lexer κ} {input : String} {offset stop : Nat} {ts : List (Token κ)}

namespace Chain

theorem length_le (h : Chain l input offset ts stop) : offset + ts.length ≤ stop := by
  induction h with
  | nil offset => exact Nat.le_refl _
  | cons hstart hmatch _ ih =>
      have := lt_nextOffset_of_matchAt hmatch
      simp only [List.length_cons]
      omega

theorem start_le_stop (h : Chain l input offset ts stop) : offset ≤ stop := by
  have := h.length_le
  omega

/-- A chain leads to an offset of the input, or nowhere. -/
theorem stop_le (h : Chain l input offset ts stop) : stop ≤ max offset input.utf8ByteSize := by
  induction h with
  | nil offset => exact Nat.le_max_left _ _
  | cons _ hmatch _ ih =>
      have := (isSlice_of_matchAt hmatch).2.le_size
      omega

/-- The images are the bytes of the input that the chain leads over. -/
theorem toByteArray_join (h : Chain l input offset ts stop) :
    (String.join (ts.map (·.image))).toByteArray = input.toByteArray.extract offset stop := by
  induction h with
  | nil offset => simp
  | @cons offset stop t ts hstart hmatch hchain ih =>
      -- The bytes of the first token and those of the rest lie next to each other.
      have himage := (isSlice_of_matchAt hmatch).2.toByteArray_eq
      have hlt := lt_nextOffset_of_matchAt hmatch
      rw [List.map_cons, String.join_cons, String.toByteArray_append, himage, ih, hstart,
        ← ByteArray.extract_eq_extract_append_extract t.nextOffset (by omega) hchain.start_le_stop]

/-- Tokens behind others. -/
theorem append {middle : Nat} {ts' : List (Token κ)} (h : Chain l input offset ts middle)
    (h' : Chain l input middle ts' stop) : Chain l input offset (ts ++ ts') stop := by
  induction h with
  | nil => exact h'
  | cons hstart hmatch _ ih => exact .cons hstart hmatch (ih h')

theorem join_eq (h : Chain l input 0 ts input.utf8ByteSize) :
    String.join (ts.map (·.image)) = input := by
  have hbytes := h.toByteArray_join
  rw [← String.size_toByteArray, ByteArray.extract_zero_size] at hbytes
  exact String.toByteArray_inj.1 hbytes

end Chain

/-- From each offset a chain leads to where no token follows. -/
theorem exists_chain (l : Lexer κ) (input : String) (offset : Nat) :
    ∃ ts stop, Chain l input offset ts stop ∧ Stuck l input stop := by
  -- Each token brings the offset closer to the end of the input.
  induction hleft : input.utf8ByteSize - offset using Nat.strongRecOn generalizing offset with
  | ind left ih =>
      by_cases hstuck : Stuck l input offset
      · exact ⟨[], offset, .nil offset, hstuck⟩
      · simp only [Stuck, Classical.not_imp] at hstuck
        rcases hstuck with ⟨hlt, hmatch⟩
        rcases Option.ne_none_iff_exists'.1 hmatch with ⟨t, ht⟩
        have hstart := (isSlice_of_matchAt ht).1
        have hnext := lt_nextOffset_of_matchAt ht
        rcases ih _ (by omega) t.nextOffset rfl with ⟨ts, stop, hchain, hend⟩
        exact ⟨t :: ts, stop, .cons hstart (hstart ▸ ht) hchain, hend⟩

end Lexer

/-! ## Steps -/

namespace Stream

/-- A stream is told by its lexer, input and offset as long as it has not failed. -/
theorem eq_start {s : Stream κ} (h : s.failed = false) : s = start s.lexer s.input s.offset := by
  rcases s with ⟨lexer, input, offset, failed, place, rfl⟩
  cases h
  rfl

theorem next?_start (l : Lexer κ) (input : String) (offset : Nat) :
    (start l input offset).next? =
      if input.utf8ByteSize ≤ offset then none
      else
        match l.matchAt input offset with
        | none => some (start l input offset).fail
        | some t => some (.ok t, start l input t.nextOffset) := by
  have hover : (start l input offset).isOver = decide (input.utf8ByteSize ≤ offset) := rfl
  unfold next? Lexer.matchAt
  rw [hover]
  -- The kept place is the one that looking for the offset finds.
  by_cases hend : input.utf8ByteSize ≤ offset
  · simp [hend]
  · simp only [hend, decide_false, Bool.false_eq_true, if_false]
    split
    · next hplace =>
        have hnone : place? input.toList offset = none := hplace
        simp [hnone]
    · next p hplace =>
        have hsome : place? input.toList offset = some p := hplace
        cases hmatch : l.matchPlace? p with
        | none => simp [hsome, hmatch, start]
        | some found =>
            have hstart := eq_start (s := (start l input offset).advance p hplace found.2) rfl
            have hfound : (start l input offset).lexer.matchPlace? p = some found := hmatch
            simp only [hsome, hmatch, hfound]
            exact congrArg (some ∘ Prod.mk _) hstart

theorem next?_fail (s : Stream κ) : s.fail.2.next? = none := by
  simp [fail, next?, isOver]

theorem drain_of_next?_eq_none {s : Stream κ} (h : s.next? = none) (n : Nat) :
    s.drain n = ([], s) := by
  cases n with
  | zero => rfl
  | succ n => simp [drain, h]

end Stream

/-! ## Runs -/

namespace Lexer

variable {l : Lexer κ} {input : String} {offset stop : Nat} {ts : List (Token κ)}

theorem drain_start (hchain : Chain l input offset ts stop) (hstuck : Stuck l input stop)
    (n : Nat) : ((Stream.start l input offset).drain n).1 = (yields input ts stop).take n := by
  induction hchain generalizing n with
  | nil offset =>
      by_cases hend : input.utf8ByteSize ≤ offset
      · have hnext : (Stream.start l input offset).next? = none := by
          rw [Stream.next?_start, if_pos hend]
        simp [Stream.drain_of_next?_eq_none hnext, yields, hend]
      · -- The stream is stuck inside the input: one error, and nothing behind it.
        have hmatch := hstuck (by omega)
        cases n with
        | zero => rfl
        | succ n =>
            have hnext : (Stream.start l input offset).next? =
                some (Stream.start l input offset).fail := by
              rw [Stream.next?_start, if_neg hend, hmatch]
            have hover := Stream.drain_of_next?_eq_none
              (Stream.next?_fail (Stream.start l input offset)) n
            rw [Stream.drain, hnext]
            simp only [hover, yields, if_neg hend, List.map_nil, List.nil_append,
              List.take_succ_cons, List.take_nil]
            rfl
  | @cons offset stop t ts hstart hmatch hchain ih =>
      have hlt := lt_nextOffset_of_matchAt hmatch
      have hle := (isSlice_of_matchAt hmatch).2.le_size
      cases n with
      | zero => rfl
      | succ n =>
          have hnext : (Stream.start l input offset).next? =
              some (.ok t, Stream.start l input t.nextOffset) := by
            rw [Stream.next?_start, if_neg (by omega), ← hstart, hmatch]
          have hcons : yields input (t :: ts) stop = .ok t :: yields input ts stop := rfl
          rw [Stream.drain, hnext, hcons, List.take_succ_cons, ← ih hstuck n]

/-- A stream yields the tokens of a chain up to where no token follows. -/
theorem drain_tokenizeFrom (hchain : Chain l input offset ts stop) (hstuck : Stuck l input stop)
    (n : Nat) : ((l.tokenizeFrom input offset).drain n).1 = (yields input ts stop).take n :=
  drain_start hchain hstuck n

/-- There are no more items than bytes that are left. -/
theorem length_yields_le (hchain : Chain l input offset ts stop) :
    (yields input ts stop).length ≤ (l.tokenizeFrom input offset).bound := by
  have hlength := hchain.length_le
  have hstop := hchain.stop_le
  have hbound : (l.tokenizeFrom input offset).bound = input.utf8ByteSize - offset := rfl
  rw [hbound, yields, List.length_append, List.length_map]
  split
  · next hend =>
      simp only [List.length_nil]
      omega
  · simp only [List.length_singleton]
    omega

theorem all_tokenizeFrom (hchain : Chain l input offset ts stop) (hstuck : Stuck l input stop) :
    (l.tokenizeFrom input offset).all.1 = yields input ts stop := by
  rw [Stream.all, drain_tokenizeFrom hchain hstuck]
  exact List.take_of_length_le (length_yields_le hchain)

/-! ## Tokenizing at once -/

theorem gather_tokens (ts : List (Token κ)) : Stream.gather (ts.map .ok) = .ok ts := by
  induction ts with
  | nil => rfl
  | cons t ts ih => rw [List.map_cons, Stream.gather, ih]

theorem gather_error (ts : List (Token κ)) (e : TokenizeError) :
    Stream.gather (ts.map .ok ++ [.error e]) = .error e := by
  induction ts with
  | nil => rfl
  | cons t ts ih => rw [List.map_cons, List.cons_append, Stream.gather, ih]

theorem gather_yields (input : String) (ts : List (Token κ)) (stop : Nat) :
    Stream.gather (yields input ts stop) =
      if input.utf8ByteSize ≤ stop then .ok ts else .error ⟨stop⟩ := by
  by_cases hend : input.utf8ByteSize ≤ stop
  · rw [yields, if_pos hend, if_pos hend, List.append_nil, gather_tokens]
  · rw [yields, if_neg hend, if_neg hend, gather_error]

theorem error_mem_yields {e : TokenizeError} :
    .error e ∈ yields input ts stop ↔ stop < input.utf8ByteSize ∧ e = ⟨stop⟩ := by
  by_cases hend : input.utf8ByteSize ≤ stop
  · simp [yields, hend, Nat.not_lt.2 hend]
  · simp [yields, hend, Nat.lt_of_not_le hend]

/-- The items tell the tokens and where they end. -/
theorem of_yields_eq_tokens {ts' : List (Token κ)} (h : yields input ts' stop = ts.map .ok) :
    ts' = ts ∧ input.utf8ByteSize ≤ stop := by
  have hgather := gather_yields input ts' stop
  rw [h, gather_tokens] at hgather
  split at hgather
  · next hend => exact ⟨(Except.ok.inj hgather).symm, hend⟩
  · cases hgather

theorem of_yields_eq_error {ts' : List (Token κ)} {e : TokenizeError}
    (h : yields input ts' stop = ts.map .ok ++ [.error e]) : ts' = ts ∧ e = ⟨stop⟩ := by
  have hgather := gather_yields input ts' stop
  rw [h, gather_error] at hgather
  split at hgather
  · cases hgather
  · next hend =>
      cases hgather
      rw [yields, if_neg hend] at h
      exact ⟨List.map_injective_iff.2 (fun _ _ => Except.ok.inj) (List.append_cancel_right h), rfl⟩

theorem tokenizeAll_eq (hchain : Chain l input 0 ts stop) (hstuck : Stuck l input stop) :
    l.tokenizeAll input = if input.utf8ByteSize ≤ stop then .ok ts else .error ⟨stop⟩ := by
  rw [← gather_yields, ← all_tokenizeFrom hchain hstuck]
  rfl

theorem tokenizeAll_eq_ok_iff :
    l.tokenizeAll input = .ok ts ↔ Chain l input 0 ts input.utf8ByteSize := by
  constructor
  · intro h
    rcases exists_chain l input 0 with ⟨ts', stop, hchain, hstuck⟩
    rw [tokenizeAll_eq hchain hstuck] at h
    split at h
    · next hend =>
        cases h
        -- A chain that starts within the input does not lead past its end.
        have hstop : stop = input.utf8ByteSize := by
          have := hchain.stop_le
          omega
        exact hstop ▸ hchain
    · cases h
  · intro hchain
    have hstuck : Stuck l input input.utf8ByteSize := fun hlt => absurd hlt (Nat.lt_irrefl _)
    rw [tokenizeAll_eq hchain hstuck, if_pos (Nat.le_refl _)]

theorem tokenizeAll_eq_error_iff {e : TokenizeError} :
    l.tokenizeAll input = .error e ↔ .error e ∈ (l.tokenizeFrom input 0).all.1 := by
  rcases exists_chain l input 0 with ⟨ts, stop, hchain, hstuck⟩
  rw [tokenizeAll_eq hchain hstuck, all_tokenizeFrom hchain hstuck, error_mem_yields]
  split
  · next hend =>
      constructor
      · intro h
        cases h
      · intro h
        omega
  · next hend =>
      rw [Except.error.injEq, eq_comm]
      exact ⟨fun h => ⟨by omega, h⟩, fun h => h.2⟩

theorem tokenize_exact (l : Lexer κ) (input : String) :
    (∀ start, ∃ ts stop, Chain l input start ts stop ∧
      (String.join (ts.map (·.image))).toByteArray = input.toByteArray.extract start stop ∧
      (stop < input.utf8ByteSize → l.matchAt input stop = none) ∧
      (l.tokenizeFrom input start).all.1 =
        ts.map .ok ++ (if input.utf8ByteSize ≤ stop then [] else [.error ⟨stop⟩]) ∧
      ∀ n, ((l.tokenizeFrom input start).drain n).1 =
        (l.tokenizeFrom input start).all.1.take n) ∧
    (∀ ts, l.tokenizeAll input = .ok ts ↔ Chain l input 0 ts input.utf8ByteSize) ∧
    (∀ ts, Chain l input 0 ts input.utf8ByteSize →
      String.join (ts.map (·.image)) = input ∧
      ∀ ts', Chain l input 0 ts' input.utf8ByteSize → ts' = ts) ∧
    ∀ offset, l.tokenizeAll input = .error ⟨offset⟩ ↔
      .error ⟨offset⟩ ∈ (l.tokenizeFrom input 0).all.1 := by
  refine ⟨fun start => ?_, fun ts => tokenizeAll_eq_ok_iff, fun ts hchain => ⟨hchain.join_eq, ?_⟩,
    fun offset => tokenizeAll_eq_error_iff⟩
  · rcases exists_chain l input start with ⟨ts, stop, hchain, hstuck⟩
    refine ⟨ts, stop, hchain, hchain.toByteArray_join, hstuck, all_tokenizeFrom hchain hstuck, ?_⟩
    intro n
    rw [drain_tokenizeFrom hchain hstuck, all_tokenizeFrom hchain hstuck]
  · intro ts' hchain'
    -- Both are what tokenizing at once answers.
    have hsame := (tokenizeAll_eq_ok_iff.2 hchain').symm.trans (tokenizeAll_eq_ok_iff.2 hchain)
    exact Except.ok.inj hsame

end Lexer

end PriorityLexer
