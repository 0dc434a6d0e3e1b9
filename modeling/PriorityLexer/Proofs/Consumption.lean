import PriorityLexer.Proofs.Calls
import PriorityLexer.Session

/-!
# Consumption — every way to consume a stream is about one list of items

A stream in any state has a list of items that are left, which calling it again and again would
yield.  Each way to consume it takes the first ones of that list and leaves the others.

* `Stream.Pulls` — calls that yield items one after the other;
* `Stream.Remaining` — the items that are left;
* `Stream.exists_remaining`, `Stream.Remaining.unique` — each state has one list of them;
* `Step.share`, `Step.shows` — what a step takes of a list, and what is seen of that;
* `Stream.Remaining.consume` — a step on a stream is a step on its list;
* `Stream.consume_exact` — all ways to consume a stream, in any order.
-/

namespace PriorityLexer

variable {κ : Type}

namespace Stream

/-! ## Items that are left -/

/-- Calls that yield these items lead from one state to the other. -/
inductive Pulls : Stream κ → List (Item κ) → Stream κ → Prop where
  | nil (s : Stream κ) : Pulls s [] s
  | cons {s s' stop : Stream κ} {i : Item κ} {is : List (Item κ)} :
      s.call = (some i, s') → Pulls s' is stop → Pulls s (i :: is) stop

/-- The items that are left, and the state behind them, in which the stream is over. -/
structure Remaining (s : Stream κ) (items : List (Item κ)) (stop : Stream κ) : Prop where
  pulls : s.Pulls items stop
  finished : stop.call.1 = none

theorem Pulls.append {s s' stop : Stream κ} {is js : List (Item κ)} (h : s.Pulls is s')
    (h' : s'.Pulls js stop) : s.Pulls (is ++ js) stop := by
  induction h with
  | nil => exact h'
  | cons hcall _ ih => exact .cons hcall (ih h')

theorem next?_eq_none_iff {s : Stream κ} : s.next? = none ↔ s.call.1 = none := by
  rw [call]
  cases s.next? with
  | none => simp
  | some next => simp

theorem next?_eq_some_iff {s s' : Stream κ} {i : Item κ} :
    s.next? = some (i, s') ↔ s.call = (some i, s') := by
  rw [call]
  cases s.next? with
  | none => simp
  | some next => simp [Prod.ext_iff]

/-- A token takes its bytes off the bound. -/
theorem bound_of_token {s s' : Stream κ} {t : Token κ} (h : s.call = (some (.ok t), s')) :
    s'.bound + t.image.utf8ByteSize = s.bound := by
  have hcall := s.call_call
  rw [h] at hcall
  cases hcall with
  | token hfailed hlt hmatch =>
      rcases Lexer.isSlice_of_matchAt hmatch with ⟨hstart, hslice⟩
      have hsize := hslice.start_add_size
      have hle := hslice.le_size
      simp only [bound, hfailed, Bool.false_eq_true, if_false]
      omega

/-- An error takes off all that is left. -/
theorem bound_of_error {s s' : Stream κ} {e : TokenizeError}
    (h : s.call = (some (.error e), s')) : 0 < s.bound ∧ s'.bound = 0 := by
  have hcall := s.call_call
  rw [h] at hcall
  cases hcall with
  | error hfailed hlt hmatch =>
      refine ⟨?_, rfl⟩
      simp only [bound, hfailed, Bool.false_eq_true, if_false]
      omega

theorem size_pos_of_token {s s' : Stream κ} {t : Token κ} (h : s.call = (some (.ok t), s')) :
    0 < t.image.utf8ByteSize := by
  have hcall := s.call_call
  rw [h] at hcall
  cases hcall with
  | token hfailed hlt hmatch =>
      have hnext := Lexer.lt_nextOffset_of_matchAt hmatch
      rcases Lexer.isSlice_of_matchAt hmatch with ⟨hstart, hslice⟩
      have hsize := hslice.start_add_size
      omega

/-- Each item lowers the bound. -/
theorem bound_lt_of_call {s s' : Stream κ} {i : Item κ} (h : s.call = (some i, s')) :
    s'.bound < s.bound := by
  cases i with
  | ok t =>
      have hbound := bound_of_token h
      have hpos := size_pos_of_token h
      omega
  | error e =>
      rcases bound_of_error h with ⟨hpos, hzero⟩
      omega

/-- In each state finitely many items are left, at most as many as the bound says. -/
theorem exists_remaining (s : Stream κ) :
    ∃ items stop, s.Remaining items stop ∧ items.length ≤ s.bound := by
  induction hbound : s.bound using Nat.strongRecOn generalizing s with
  | ind b ih =>
      rcases hcall : s.call with ⟨answer, s'⟩
      cases answer with
      | none => exact ⟨[], s, ⟨.nil s, by rw [hcall]⟩, Nat.zero_le _⟩
      | some i =>
          have hlt := bound_lt_of_call hcall
          rcases ih s'.bound (hbound ▸ hlt) s' rfl with ⟨items, stop, hleft, hlength⟩
          refine ⟨i :: items, stop, ⟨.cons hcall hleft.pulls, hleft.finished⟩, ?_⟩
          rw [List.length_cons]
          omega

namespace Remaining

variable {s s' stop stop' : Stream κ} {i : Item κ} {items items' : List (Item κ)}

theorem cons (hcall : s.call = (some i, s')) (h : s'.Remaining items stop) :
    s.Remaining (i :: items) stop :=
  ⟨.cons hcall h.pulls, h.finished⟩

theorem unique (h : s.Remaining items stop) (h' : s.Remaining items' stop') :
    items' = items ∧ stop' = stop := by
  rcases h with ⟨hpulls, hfinished⟩
  rcases h' with ⟨hpulls', hfinished'⟩
  induction hpulls generalizing items' with
  | nil s =>
      cases hpulls' with
      | nil => exact ⟨rfl, rfl⟩
      | cons hcall => simp [hcall] at hfinished
  | cons hcall _ ih =>
      cases hpulls' with
      | nil => simp [hcall] at hfinished'
      | cons hcall' hpulls' =>
          cases hcall.symm.trans hcall'
          rcases ih hfinished hpulls' with ⟨rfl, rfl⟩
          exact ⟨rfl, rfl⟩

theorem length_le (h : s.Remaining items stop) : items.length ≤ s.bound := by
  rcases s.exists_remaining with ⟨items', stop', h', hlength⟩
  rwa [(h'.unique h).1]

/-- An error can only be the last item. -/
theorem tokens_or_error (h : s.Remaining items stop) :
    ∃ ts : List (Token κ), items = ts.map .ok ∨ ∃ e, items = ts.map .ok ++ [.error e] := by
  rcases h with ⟨hpulls, hfinished⟩
  induction hpulls with
  | nil s => exact ⟨[], .inl rfl⟩
  | @cons s s' stop i is hcall hpulls ih =>
      have hstep := s.call_call
      rw [hcall] at hstep
      cases hstep with
      | token =>
          rcases ih hfinished with ⟨ts, rfl | ⟨e, rfl⟩⟩
          · exact ⟨_ :: ts, .inl rfl⟩
          · exact ⟨_ :: ts, .inr ⟨e, rfl⟩⟩
      | error =>
          -- A stream that has failed yields nothing.
          cases hpulls with
          | nil => exact ⟨[], .inr ⟨_, rfl⟩⟩
          | cons hcall' =>
              have hnone := call_eq_none_iff.2 (.inl (rfl : s.fail.2.failed = true))
              rw [show s.fail.2.call = _ from hcall'] at hnone
              cases hnone

end Remaining

/-! ## One step -/

end Stream

namespace Step

/-- The items that a step takes, and those that it leaves. -/
def share (items : List (Item κ)) : Step → List (Item κ) × List (Item κ)
  | .state => ([], items)
  | .next => (items.take 1, items.drop 1)
  | .nth n => (items.take (n + 1), items.drop (n + 1))
  | .take n => (items.take n, items.drop n)
  | .collect | .count | .last => (items, [])

/-- What is seen of the items that a step takes. -/
def shows (items : List (Item κ)) : Step → Yield κ
  | .state => .nothing
  | .next => .item items.head?
  | .nth n => .item items[n]?
  | .take _ => .items items
  | .collect => .tokens (Stream.gather items)
  | .count => .number items.length
  | .last => .item items.getLast?

theorem share_append (items : List (Item κ)) (step : Step) :
    (step.share items).1 ++ (step.share items).2 = items := by
  cases step <;> simp [share, -List.drop_one]

/-- The items that each of several steps takes, and those that the last one leaves. -/
def shareAll (items : List (Item κ)) : List Step → List (List (Item κ)) × List (Item κ)
  | [] => ([], items)
  | step :: steps =>
    let (taken, left) := step.share items
    let (pieces, left) := shareAll left steps
    (taken :: pieces, left)

/-- No item is lost or repeated, and the order is kept. -/
theorem shareAll_flatten (items : List (Item κ)) (steps : List Step) :
    (shareAll items steps).1.flatten ++ (shareAll items steps).2 = items := by
  induction steps generalizing items with
  | nil => rfl
  | cons step steps ih =>
      have hleft := ih (step.share items).2
      rw [shareAll, List.flatten_cons, List.append_assoc, hleft, share_append]

end Step

namespace Stream

/-- What several steps yield, and the state after them. -/
def consumeAll (s : Stream κ) : List Step → List (Yield κ) × Stream κ
  | [] => ([], s)
  | step :: steps =>
    let (yielded, s) := s.consume step
    let (yields, s) := consumeAll s steps
    (yielded :: yields, s)

namespace Remaining

variable {s stop : Stream κ} {items : List (Item κ)}

theorem drain (h : s.Remaining items stop) (n : Nat) :
    ∃ s', s.drain n = (items.take n, s') ∧ s.Pulls (items.take n) s' ∧
      s'.Remaining (items.drop n) stop := by
  rcases h with ⟨hpulls, hfinished⟩
  induction hpulls generalizing n with
  | nil s =>
      have hnext := next?_eq_none_iff.2 hfinished
      rw [List.take_nil, List.drop_nil]
      exact ⟨s, drain_of_next?_eq_none hnext n, .nil s, .nil s, hfinished⟩
  | @cons s s' stop i is hcall hpulls ih =>
      cases n with
      | zero => exact ⟨s, rfl, .nil s, .cons hcall hpulls, hfinished⟩
      | succ n =>
          rcases ih n hfinished with ⟨last, hdrain, htaken, hleft⟩
          refine ⟨last, ?_, .cons hcall htaken, hleft⟩
          rw [Stream.drain, next?_eq_some_iff.2 hcall]
          simp only [hdrain, List.take_succ_cons]

/-- As many items are taken as there are, up to the given number, and none is looked for then. -/
theorem take (h : s.Remaining items stop) (n : Nat) :
    ∃ s', s.take n = (items.take n, s') ∧ s.Pulls (items.take n) s' ∧
      s'.Remaining (items.drop n) stop := by
  -- The bound of the stream cuts off nothing.
  have hlength := h.length_le
  have htake : items.take (min n s.bound) = items.take n := by
    rw [← List.take_take, List.take_of_length_le hlength]
  have hdrop : items.drop (min n s.bound) = items.drop n := by
    by_cases hn : n ≤ s.bound
    · rw [Nat.min_eq_left hn]
    · rw [List.drop_of_length_le (by omega), List.drop_of_length_le (by omega)]
  have hdrain := h.drain (min n s.bound)
  rwa [htake, hdrop] at hdrain

theorem all (h : s.Remaining items stop) : s.all = (items, stop) := by
  rcases h.drain s.bound with ⟨s', hdrain, -, hleft⟩
  rw [List.take_of_length_le h.length_le] at hdrain
  rw [List.drop_of_length_le h.length_le] at hleft
  cases hleft.pulls
  exact hdrain

theorem collect (h : s.Remaining items stop) : s.collect = (gather items, stop) := by
  rw [Stream.collect, h.all]

theorem nth (h : s.Remaining items stop) (n : Nat) :
    ∃ s', s.nth n = (items[n]?, s') ∧ s.Pulls (items.take (n + 1)) s' ∧
      s'.Remaining (items.drop (n + 1)) stop := by
  rcases h.take n with ⟨s', htake, hpulls, hleft⟩
  have hget : items[n]? = (items.drop n).head? := by rw [List.head?_drop]
  rw [Stream.nth, htake, hget]
  cases hrest : items.drop n with
  | nil =>
      -- There are no more than `n` items, and the stream is over behind them.
      rw [hrest] at hleft
      have hlength := List.drop_eq_nil_iff.1 hrest
      have hnone := next?_eq_none_iff.2 hleft.finished
      cases hleft.pulls
      refine ⟨stop, by simp [hnone], ?_, ?_⟩
      · rwa [List.take_of_length_le (by omega), ← List.take_of_length_le hlength]
      · rwa [List.drop_of_length_le (by omega)]
  | cons i rest =>
      rw [hrest] at hleft
      have hdrop : items.drop (n + 1) = rest := by
        rw [← List.drop_drop, hrest, List.drop_one, List.tail_cons]
      have htaken : items.take (n + 1) = items.take n ++ [i] := by
        rw [List.take_add, hrest, List.take_one, List.head?_cons, Option.toList_some]
      cases hleft.pulls with
      | @cons _ s'' _ _ _ hcall hmore =>
          refine ⟨s'', by simp [next?_eq_some_iff.2 hcall], ?_, ?_⟩
          · rw [htaken]
            exact hpulls.append (.cons hcall (.nil s''))
          · rw [hdrop]
            exact ⟨hmore, hleft.finished⟩

/-- A step on a stream is a step on the items that are left. -/
theorem consume (h : s.Remaining items stop) (step : Step) :
    ∃ s', s.consume step = (step.shows (step.share items).1, s') ∧
      s.Pulls (step.share items).1 s' ∧ s'.Remaining (step.share items).2 stop := by
  have hstop : stop.Remaining [] stop := ⟨.nil stop, h.finished⟩
  cases step with
  | state => exact ⟨s, rfl, .nil s, h⟩
  | next =>
      cases hitems : items with
      | nil =>
          subst hitems
          cases h.pulls
          refine ⟨s, ?_, .nil s, h⟩
          simp [Stream.consume, next?_eq_none_iff.2 h.finished, Step.shows, Step.share]
      | cons i rest =>
          subst hitems
          cases h.pulls with
          | @cons _ s' _ _ _ hcall hmore =>
              refine ⟨s', ?_, .cons hcall (.nil s'), hmore, h.finished⟩
              simp [Stream.consume, next?_eq_some_iff.2 hcall, Step.shows, Step.share]
  | nth n =>
      rcases h.nth n with ⟨s', hnth, hpulls, hleft⟩
      refine ⟨s', ?_, hpulls, hleft⟩
      simp [Stream.consume, hnth, Step.shows, Step.share]
  | take n =>
      rcases h.take n with ⟨s', htake, hpulls, hleft⟩
      refine ⟨s', ?_, hpulls, hleft⟩
      simp [Stream.consume, htake, Step.shows, Step.share]
  | collect =>
      refine ⟨stop, ?_, h.pulls, hstop⟩
      simp [Stream.consume, h.collect, Step.shows, Step.share]
  | count =>
      refine ⟨stop, ?_, h.pulls, hstop⟩
      simp [Stream.consume, count, h.all, Step.shows, Step.share]
  | last =>
      refine ⟨stop, ?_, h.pulls, hstop⟩
      simp [Stream.consume, last, h.all, Step.shows, Step.share]

/-! ## Many steps -/

/-- Steps in any order divide the items among them, each one taking what the ones before leave. -/
theorem consumeAll (h : s.Remaining items stop) (steps : List Step) :
    (s.consumeAll steps).1 =
        List.zipWith (fun step taken => step.shows taken) steps (Step.shareAll items steps).1 ∧
      (s.consumeAll steps).2.Remaining (Step.shareAll items steps).2 stop := by
  induction steps generalizing s items with
  | nil => exact ⟨rfl, h⟩
  | cons step steps ih =>
      rcases h.consume step with ⟨s', hconsume, -, hleft⟩
      rcases ih hleft with ⟨hyields, hrest⟩
      rw [Stream.consumeAll, hconsume]
      exact ⟨congrArg (List.cons _) hyields, hrest⟩

end Remaining

/-- In every state there is one list of items that are left, and every way to consume the stream is
about it: what is returned, and what is left then. -/
theorem consume_exact (s : Stream κ) :
    ∃ items stop, s.Remaining items stop ∧
      (∀ items' stop', s.Remaining items' stop' → items' = items ∧ stop' = stop) ∧
      (∀ n, ∃ s', s.nth n = (items[n]?, s') ∧ s'.Remaining (items.drop (n + 1)) stop) ∧
      (∀ n, ∃ s', s.take n = (items.take n, s') ∧ s.Pulls (items.take n) s' ∧
        s'.Remaining (items.drop n) stop) ∧
      ((∀ e, .error e ∉ items) → ∃ ts, items = ts.map .ok ∧ s.collect = (.ok ts, stop)) ∧
      (∀ e, .error e ∈ items → s.collect = (.error e, stop)) ∧
      s.count = (items.length, stop) ∧
      s.last = (items.getLast?, stop) ∧
      (∀ steps, (s.consumeAll steps).1 =
          List.zipWith (fun step taken => step.shows taken) steps (Step.shareAll items steps).1 ∧
        (Step.shareAll items steps).1.flatten ++ (Step.shareAll items steps).2 = items ∧
        (s.consumeAll steps).2.Remaining (Step.shareAll items steps).2 stop) ∧
      (s.failed = false → (s.lexer.tokenizeFrom s.input s.offset).Remaining items stop) := by
  rcases s.exists_remaining with ⟨items, stop, h, -⟩
  refine ⟨items, stop, h, fun _ _ h' => h.unique h', fun n => ?_, h.take, ?_, ?_, ?_, ?_,
    fun steps => ?_, ?_⟩
  · rcases h.nth n with ⟨s', hnth, -, hleft⟩
    exact ⟨s', hnth, hleft⟩
  · intro hno
    rcases h.tokens_or_error with ⟨ts, rfl | ⟨e, rfl⟩⟩
    · exact ⟨ts, rfl, h.collect.trans (Prod.ext (Lexer.gather_tokens ts) rfl)⟩
    · exact absurd (List.mem_append_right _ List.mem_cons_self) (hno e)
  · intro e he
    rcases h.tokens_or_error with ⟨ts, rfl | ⟨e', rfl⟩⟩
    · simp at he
    · have hsame : e = e' := by simpa using he
      rw [hsame]
      exact h.collect.trans (Prod.ext (Lexer.gather_error ts e') rfl)
  · rw [count, h.all]
  · rw [last, h.all]
  · rcases h.consumeAll steps with ⟨hyields, hrest⟩
    exact ⟨hyields, Step.shareAll_flatten items steps, hrest⟩
  · intro hfailed
    have hsame : s.lexer.tokenizeFrom s.input s.offset = s := (eq_start hfailed).symm
    exact hsame.symm ▸ h

end Stream

end PriorityLexer
