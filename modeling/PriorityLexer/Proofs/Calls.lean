import PriorityLexer.Proofs.Tokenization

/-!
# Calls — the state of a stream between calls

A stream may be called for its next item any number of times, also when it is over.  At each time
its offset is where the last token ended, and once it has failed or has nothing more to yield, no
call changes it.

* `Stream.call`, `Stream.calls` — calls, which are answered by none where there is no item;
* `Stream.Call` — what a call does in each kind of state;
* `Stream.History` — how the state of a stream follows from the answers so far;
* `Stream.history_calls` — each call keeps that relation;
* `Stream.calls_invariant` — the state of a stream after any number of calls.
-/

namespace PriorityLexer

variable {κ : Type}

namespace Stream

/-! ## One call -/

/-- Asks for the next item; where there is none, the state is kept. -/
def call (s : Stream κ) : Option (Item κ) × Stream κ :=
  match s.next? with
  | none => (none, s)
  | some (item, s) => (some item, s)

/-- What a call answers, and the state that it leaves. -/
inductive Call (s : Stream κ) : Option (Item κ) → Stream κ → Prop where
  | finished : s.failed = true ∨ s.input.utf8ByteSize ≤ s.offset → Call s none s
  | token {t : Token κ} : s.failed = false → s.offset < s.input.utf8ByteSize →
      s.lexer.matchAt s.input s.offset = some t →
      Call s (some (.ok t)) (start s.lexer s.input t.nextOffset)
  | error : s.failed = false → s.offset < s.input.utf8ByteSize →
      s.lexer.matchAt s.input s.offset = none → Call s (some (.error ⟨s.offset⟩)) s.fail.2

theorem call_call (s : Stream κ) : s.Call s.call.1 s.call.2 := by
  cases hfailed : s.failed with
  | true =>
      have hnext : s.next? = none := by simp [next?, isOver, hfailed]
      rw [call, hnext]
      exact .finished (.inl hfailed)
  | false =>
      -- Without a failure the state is that of a stream which starts at the offset.
      have hnext := next?_start s.lexer s.input s.offset
      rw [← eq_start hfailed] at hnext
      rw [call]
      by_cases hend : s.input.utf8ByteSize ≤ s.offset
      · rw [hnext, if_pos hend]
        exact .finished (.inr hend)
      · have hlt : s.offset < s.input.utf8ByteSize := Nat.lt_of_not_le hend
        cases hmatch : s.lexer.matchAt s.input s.offset with
        | none =>
            rw [hnext, if_neg hend, hmatch]
            exact .error hfailed hlt hmatch
        | some t =>
            rw [hnext, if_neg hend, hmatch]
            exact .token hfailed hlt hmatch

theorem call_eq_none_iff {s : Stream κ} :
    s.call.1 = none ↔ s.failed = true ∨ s.input.utf8ByteSize ≤ s.offset := by
  have hcall := s.call_call
  constructor
  · intro hnone
    rw [hnone] at hcall
    generalize s.call.2 = s' at hcall
    cases hcall with
    | finished hfinished => exact hfinished
  · intro hsilent
    have hisOver : s.isOver = true := by simpa [isOver] using hsilent
    simp [call, next?, hisOver]

/-- A call that is answered by none changes nothing. -/
theorem call_of_none {s : Stream κ} (h : s.call.1 = none) : s.call = (none, s) := by
  have hcall := s.call_call
  rw [h] at hcall
  refine Prod.ext h ?_
  generalize s.call.2 = s' at hcall
  cases hcall with
  | finished _ => rfl

/-! ## Many calls -/

/-- The answers of `n` calls, and the state after them. -/
def calls : Nat → Stream κ → List (Option (Item κ)) × Stream κ
  | 0, s => ([], s)
  | n + 1, s =>
    let (answer, s) := s.call
    let (answers, s) := calls n s
    (answer :: answers, s)

/-- The last of several calls is made in the state after the others. -/
theorem calls_succ (n : Nat) (s : Stream κ) :
    s.calls (n + 1) = ((s.calls n).1 ++ [(s.calls n).2.call.1], (s.calls n).2.call.2) := by
  induction n generalizing s with
  | zero => rfl
  | succ n ih =>
      have hfirst (k : Nat) :
          s.calls (k + 1) = (s.call.1 :: (s.call.2.calls k).1, (s.call.2.calls k).2) := rfl
      rw [hfirst, hfirst, ih]
      rfl

theorem calls_of_none {s : Stream κ} (h : s.call.1 = none) (n : Nat) :
    s.calls n = (List.replicate n none, s) := by
  induction n with
  | zero => rfl
  | succ n ih =>
      rw [calls_succ, ih, call_of_none h, ← List.replicate_succ']

/-! ## Histories -/

/-- The token that an answer holds. -/
def token? : Option (Item κ) → Option (Token κ)
  | some (.ok t) => some t
  | _ => none

theorem token?_eq_some_iff {a : Option (Item κ)} {t : Token κ} :
    token? a = some t ↔ a = some (.ok t) := by
  rcases a with _ | (e | t)
  · simp [token?]
  · simp [token?]
  · simp [token?]

/-- The last token of the answers. -/
def lastToken? (answers : List (Option (Item κ))) : Option (Token κ) :=
  (answers.filterMap token?).getLast?

theorem lastToken?_append (answers : List (Option (Item κ))) (a : Option (Item κ)) :
    lastToken? (answers ++ [a]) = (token? a).or (lastToken? answers) := by
  cases ha : token? a with
  | none => simp [lastToken?, ha]
  | some t => simp [lastToken?, ha]

/-- A stream over an input that was started at an offset and has given these answers. -/
structure History (l : Lexer κ) (input : String) (start : Nat)
    (answers : List (Option (Item κ))) (s : Stream κ) : Prop where
  lexer_eq : s.lexer = l
  input_eq : s.input = input
  offset_eq : s.offset = ((lastToken? answers).map (·.nextOffset)).getD start
  /-- Tokens lead to offsets within the input. -/
  within : s.offset = start ∨ start ≤ input.utf8ByteSize ∧ s.offset ≤ input.utf8ByteSize
  isBoundary : IsBoundary input start → IsBoundary input s.offset
  failed_iff : s.failed = true ↔ ∃ e, some (.error e) ∈ answers
  stuck : s.failed = true → s.offset < input.utf8ByteSize ∧ l.matchAt input s.offset = none
  /-- Behind an answer that is not a token there is none. -/
  ended : answers.Pairwise fun a b => token? a = none → b = none
  silent : ∀ a ∈ answers, token? a = none → s.call.1 = none

namespace History

variable {l : Lexer κ} {input : String} {start : Nat} {answers : List (Option (Item κ))}
  {s : Stream κ}

theorem init (l : Lexer κ) (input : String) (start : Nat) :
    History l input start [] (l.tokenizeFrom input start) where
  lexer_eq := rfl
  input_eq := rfl
  offset_eq := rfl
  within := .inl rfl
  isBoundary h := h
  failed_iff := by simp [Lexer.tokenizeFrom, Stream.start]
  stuck h := by simp [Lexer.tokenizeFrom, Stream.start] at h
  ended := .nil
  silent := by simp

/-- One more answer comes behind the others. -/
theorem ended_append (h : History l input start answers s) :
    (answers ++ [s.call.1]).Pairwise fun a b => token? a = none → b = none := by
  refine List.pairwise_append.2 ⟨h.ended, List.pairwise_singleton _ _, ?_⟩
  intro a ha b hb
  cases List.mem_singleton.1 hb
  exact h.silent a ha

/-- A call in a state that is told by the answers leads to such a state. -/
theorem call (h : History l input start answers s) :
    History l input start (answers ++ [s.call.1]) s.call.2 := by
  have hended := h.ended_append
  have hsilent := h.silent
  have hcall := s.call_call
  have hself (hnone : s.call.1 = none) : s.call.2 = s := by rw [call_of_none hnone]
  rcases h with ⟨rfl, rfl, hoffset, hwithin, hboundary, hfailed, hstuck, -, -⟩
  generalize hanswer : s.call.1 = answer at hcall hended hsilent hself
  generalize hstate : s.call.2 = s' at hcall hself
  cases hcall with
  | finished =>
      -- Nothing is changed, and the next call is answered in the same way.
      refine ⟨rfl, rfl, ?_, hwithin, hboundary, ?_, hstuck, hended, fun _ _ _ => hanswer⟩
      · rw [lastToken?_append]
        exact hoffset
      · simpa using hfailed
  | @token t hnot hlt hmatch =>
      have hslice := (Lexer.isSlice_of_matchAt hmatch).2
      have hlast : ((lastToken? (answers ++ [some (.ok t)])).map (·.nextOffset)).getD start =
          t.nextOffset := by simp [lastToken?_append, token?]
      have hno : ¬ ∃ e, some (.error e) ∈ answers := by
        rw [← hfailed, hnot]
        exact Bool.false_ne_true
      refine ⟨rfl, rfl, hlast.symm, ?_, fun _ => hslice.isBoundary_stop, ?_, ?_, hended, ?_⟩
      · -- A stream that starts past the end stays there and yields no token.
        refine .inr ⟨?_, hslice.le_size⟩
        rcases hwithin with hsame | hwithin
        · omega
        · exact hwithin.1
      · simpa [Stream.start] using hno
      · simp [Stream.start]
      · -- There is no answer yet that is not a token.
        intro a ha hnone
        rcases List.mem_append.1 ha with ha | ha
        · cases hsilent a ha hnone
        · cases List.mem_singleton.1 ha
          cases hnone
  | error hnot hlt hmatch =>
      refine ⟨rfl, rfl, ?_, hwithin, hboundary, ?_, fun _ => ⟨hlt, hmatch⟩, hended, ?_⟩
      · rw [lastToken?_append]
        exact hoffset
      · simp [Stream.fail]
      · intro _ _ _
        exact call_eq_none_iff.2 (.inl rfl)

end History

/-- However often a stream is called, its state is told by the answers. -/
theorem history_calls (l : Lexer κ) (input : String) (start n : Nat) :
    History l input start ((l.tokenizeFrom input start).calls n).1
      ((l.tokenizeFrom input start).calls n).2 := by
  induction n with
  | zero => exact .init l input start
  | succ n ih =>
      rw [calls_succ]
      exact ih.call

/-- The state of a stream after any number of calls, and what the next ones do.  The offset is that
behind the last token, and only a token moves it on.  The flag tells of an error, which comes behind
tokens only; behind it, or behind an answer of none, nothing comes and nothing changes. -/
theorem calls_invariant (l : Lexer κ) (input : String) (start n : Nat) :
    let answers := ((l.tokenizeFrom input start).calls n).1
    let s := ((l.tokenizeFrom input start).calls n).2
    s.offset = ((lastToken? answers).map (·.nextOffset)).getD start ∧
    (s.call.1 = none ↔ s.failed = true ∨ input.utf8ByteSize ≤ s.offset) ∧
    (∀ t, s.call.1 = some (.ok t) → s.offset < s.call.2.offset) ∧
    ((∀ t, s.call.1 ≠ some (.ok t)) → s.call.2.offset = s.offset) ∧
    (input.utf8ByteSize < s.offset → input.utf8ByteSize < start) ∧
    (input.utf8ByteSize < start → s.offset = start) ∧
    (IsBoundary input start → IsBoundary input s.offset) ∧
    (s.failed = true ↔ ∃ e, some (.error e) ∈ answers) ∧
    (s.failed = true → s.offset < input.utf8ByteSize ∧ l.matchAt input s.offset = none) ∧
    (∀ before e after, answers = before ++ some (.error e) :: after →
      (∀ a ∈ before, ∃ t, a = some (.ok t)) ∧ ∀ a ∈ after, a = none) ∧
    (none ∈ answers ∨ (∃ e, some (.error e) ∈ answers) →
      ∀ k, s.calls k = (List.replicate k none, s)) := by
  intro answers s
  have h : History l input start answers s := history_calls l input start n
  have hcall := s.call_call
  refine ⟨h.offset_eq, h.input_eq ▸ call_eq_none_iff, ?_, ?_, ?_, ?_, h.isBoundary, h.failed_iff,
    h.stuck, ?_, ?_⟩
  · intro t ht
    rw [ht] at hcall
    generalize s.call.2 = s' at hcall
    cases hcall with
    | token _ _ hmatch => exact Lexer.lt_nextOffset_of_matchAt hmatch
  · intro hno
    generalize s.call.1 = answer at hcall hno
    generalize s.call.2 = s' at hcall
    cases hcall with
    | finished => rfl
    | @token t => exact absurd rfl (hno t)
    | error => rfl
  · intro hpast
    rcases h.within with hsame | hwithin
    · exact hsame ▸ hpast
    · omega
  · intro hpast
    rcases h.within with hsame | hwithin
    · exact hsame
    · omega
  · intro before e after hanswers
    have hended := h.ended
    rw [hanswers, List.pairwise_append, List.pairwise_cons] at hended
    rcases hended with ⟨-, ⟨hafter, -⟩, hbefore⟩
    refine ⟨?_, fun a ha => hafter a ha rfl⟩
    intro a ha
    -- An answer that is not a token has only none behind it, and not an error.
    cases htoken : token? a with
    | none => cases hbefore a ha _ List.mem_cons_self htoken
    | some t => exact ⟨t, token?_eq_some_iff.1 htoken⟩
  · intro hend
    have hnone : s.call.1 = none := by
      rcases hend with hmem | ⟨e, hmem⟩
      · exact h.silent _ hmem rfl
      · exact h.silent _ hmem rfl
    exact calls_of_none hnone

end Stream

end PriorityLexer
