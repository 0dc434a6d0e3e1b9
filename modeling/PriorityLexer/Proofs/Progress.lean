import PriorityLexer.Proofs.Consumption

/-!
# Progress — what the bound of a stream promises

The bound of a stream is the number of bytes that are left, and zero behind an error.  A token takes
its own bytes off it and an error all of them.  So there are never more items to come than the bound
says, and a stream that is called as often as that is over.

* `Stream.bound_add_offset` — the bound next to the offset, which may lie past the end;
* `Stream.bound_eq_zero_iff` — the bound is zero where nothing more comes;
* `Stream.Remaining.calls` — calls beyond the last item;
* `Stream.bound_progress` — all of this for any state of a stream.
-/

namespace PriorityLexer

variable {κ : Type}

namespace Stream

/-- Past the end of the input the bound is zero and not less. -/
theorem bound_add_offset {s : Stream κ} (h : s.failed = false) :
    s.bound + s.offset = max s.input.utf8ByteSize s.offset := by
  simp only [bound, h, Bool.false_eq_true, if_false]
  omega

theorem bound_eq_zero_iff {s : Stream κ} : s.bound = 0 ↔ s.call.1 = none := by
  rw [call_eq_none_iff]
  cases hfailed : s.failed with
  | true => simp [bound, hfailed]
  | false => simp [bound, hfailed, Nat.sub_eq_zero_iff_le]

namespace Remaining

variable {s stop : Stream κ} {items : List (Item κ)}

/-- Calls are answered by the items that are left, and by none from then on. -/
theorem calls (h : s.Remaining items stop) (n : Nat) :
    s.calls (items.length + n) = (items.map some ++ List.replicate n none, stop) := by
  rcases h with ⟨hpulls, hfinished⟩
  induction hpulls with
  | nil s =>
      rw [List.length_nil, Nat.zero_add]
      exact calls_of_none hfinished n
  | @cons s s' stop i is hcall _ ih =>
      rw [List.length_cons, Nat.succ_add, Stream.calls, hcall]
      simp only [ih hfinished, List.map_cons, List.cons_append]

end Remaining

/-- In any state there are finitely many items to come, at most as many as the bound says.  The
bound is the number of bytes from the offset to the end of the input, and nothing past the end; a
token lowers it by its own bytes, an error makes it zero, and it is zero exactly where no item
comes. -/
theorem bound_progress (s : Stream κ) :
    (∃ items stop, s.Remaining items stop ∧ items.length ≤ s.bound ∧
      ∀ n, s.calls (items.length + n) = (items.map some ++ List.replicate n none, stop)) ∧
    (s.failed = false → s.bound + s.offset = max s.input.utf8ByteSize s.offset) ∧
    (s.failed = true → s.bound = 0) ∧
    (∀ t s', s.call = (some (.ok t), s') →
      s'.bound + t.image.utf8ByteSize = s.bound ∧ 0 < t.image.utf8ByteSize) ∧
    (∀ e s', s.call = (some (.error e), s') → 0 < s.bound ∧ s'.bound = 0) ∧
    (s.bound = 0 ↔ s.call.1 = none) ∧
    ∀ (l : Lexer κ) input start, ∃ items stop,
      (l.tokenizeFrom input start).Remaining items stop ∧
        items.length ≤ input.utf8ByteSize - start := by
  refine ⟨?_, bound_add_offset, ?_, fun t s' h => ⟨bound_of_token h, size_pos_of_token h⟩,
    fun e s' h => bound_of_error h, bound_eq_zero_iff, ?_⟩
  · rcases s.exists_remaining with ⟨items, stop, hleft, hlength⟩
    exact ⟨items, stop, hleft, hlength, hleft.calls⟩
  · intro hfailed
    simp [bound, hfailed]
  · intro l input start
    exact (l.tokenizeFrom input start).exists_remaining

end Stream

end PriorityLexer
