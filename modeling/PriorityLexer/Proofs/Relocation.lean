import PriorityLexer.Regex.Program

/-!
# Relocation — the code of an expression does not depend on where it lies

Moving an expression to another base address renames the addresses in its instructions and changes
nothing else, and all its instructions stay within the expression or leave for its exit.

* `Inst.nexts` — the addresses that an instruction names;
* `Inst.relocate` — an instruction with its addresses and its expression renamed;
* `Regex.code_add` — the code at another base address;
* `Regex.leadsWithin_code` — where the instructions of an expression lead.
-/

namespace PriorityLexer

namespace Inst

def nexts : Inst → List Nat
  | .chars _ next | .bytes _ next | .look _ next | .jump next => [next]
  | .split first second => [first, second]
  | .accept _ => []

/-- Renames addresses by `e` and expressions by `ρ`. -/
def relocate (e ρ : Nat → Nat) : Inst → Inst
  | .chars s next => .chars s (e next)
  | .bytes s next => .bytes s (e next)
  | .look l next => .look l (e next)
  | .jump next => .jump (e next)
  | .split first second => .split (e first) (e second)
  | .accept pattern => .accept (ρ pattern)

theorem relocate_id (inst : Inst) : inst.relocate id id = inst := by
  cases inst <;> rfl

@[simp] theorem relocate_choice (e ρ : Nat → Nat) (greedy : Bool) (body exit : Nat) :
    (choice greedy body exit).relocate e ρ = choice greedy (e body) (e exit) := by
  cases greedy <;> rfl

theorem nexts_choice {greedy : Bool} {body exit j : Nat} :
    j ∈ (choice greedy body exit).nexts ↔ j = body ∨ j = exit := by
  cases greedy
  · simp [choice, nexts, or_comm]
  · simp [choice, nexts]

end Inst

namespace Regex

theorem repetitionSize_pos (min : Nat) (max : Option Nat) (canBeEmpty : Bool) (n : Nat) :
    0 < repetitionSize min max canBeEmpty n := by
  unfold repetitionSize
  split
  · omega
  · split
    · split <;> omega
    · omega

theorem size_pos (r : Regex) : 0 < r.size := by
  induction r with
  | empty | chars | bytes | look => simp [size]
  | cat a b iha ihb => simp only [size]; omega
  | alt a b iha ihb => simp only [size]; omega
  | repetition min max greedy r ih => exact repetitionSize_pos ..
  | capture r ih => exact ih

/-! ## Moving code -/

section Moving

variable {code : Nat → Nat → List Inst} {n d : Nat} {ρ : Nat → Nat}

theorem copies_add
    (h : ∀ base exit, code (base + d) (exit + d) = (code base exit).map (.relocate (· + d) ρ))
    (count base : Nat) :
    copies code n count (base + d) = (copies code n count base).map (.relocate (· + d) ρ) := by
  induction count generalizing base with
  | zero => simp [copies]
  | succ count ih =>
      have hbase : base + d + n = base + n + d := by omega
      simp [copies, hbase, h, ih]

theorem optionalCopies_add
    (h : ∀ base exit, code (base + d) (exit + d) = (code base exit).map (.relocate (· + d) ρ))
    (greedy : Bool) (exit count base : Nat) :
    optionalCopies code n greedy (exit + d) count (base + d) =
      (optionalCopies code n greedy exit count base).map (.relocate (· + d) ρ) := by
  induction count generalizing base with
  | zero => simp [optionalCopies]
  | succ count ih =>
      have hbody : base + d + 1 = base + 1 + d := by omega
      have hbase : base + 1 + d + n = base + 1 + n + d := by omega
      simp [optionalCopies, hbody, hbase, h, ih]

theorem repetitionCode_add
    (h : ∀ base exit, code (base + d) (exit + d) = (code base exit).map (.relocate (· + d) ρ))
    (canBeEmpty : Bool) (min : Nat) (max : Option Nat) (greedy : Bool) (base exit : Nat) :
    repetitionCode code n canBeEmpty min max greedy (base + d) (exit + d) =
      (repetitionCode code n canBeEmpty min max greedy base exit).map (.relocate (· + d) ρ) := by
  have hbody : base + d + 1 = base + 1 + d := by omega
  have hbehind : base + 1 + d + n = base + 1 + n + d := by omega
  unfold repetitionCode
  split
  · have hopt : base + d + min * n = base + min * n + d := by omega
    simp [copies_add h, hopt, optionalCopies_add h, Inst.relocate]
  · split
    · split
      · simp [hbody, hbehind, h]
      · simp [hbody, h]
    · have hlast : base + d + (min - 1) * n = base + (min - 1) * n + d := by omega
      simp [copies_add h, hlast]

end Moving

theorem code_add (r : Regex) (d : Nat) (ρ : Nat → Nat) (base exit : Nat) :
    r.code (base + d) (exit + d) = (r.code base exit).map (.relocate (· + d) ρ) := by
  induction r generalizing base exit with
  | empty | chars | bytes | look => simp [code, Inst.relocate]
  | cat a b iha ihb =>
      have hbase : base + d + a.size = base + a.size + d := by omega
      simp [code, hbase, iha, ihb]
  | alt a b iha ihb =>
      have hleft : base + d + 1 = base + 1 + d := by omega
      have hright : base + 1 + d + a.size = base + 1 + a.size + d := by omega
      simp [code, hleft, hright, iha, ihb, Inst.relocate]
  | repetition min max greedy r ih => exact repetitionCode_add ih ..
  | capture r ih => exact ih base exit

/-! ## Where code leads -/

/-- All instructions lead into the `n` addresses from `base` on, or to the exit. -/
def LeadsWithin (insts : List Inst) (base n exit : Nat) : Prop :=
  ∀ inst ∈ insts, ∀ j ∈ inst.nexts, (base ≤ j ∧ j < base + n) ∨ j = exit

namespace LeadsWithin

variable {as bs : List Inst} {base n exit : Nat}

theorem append (ha : LeadsWithin as base n exit) (hb : LeadsWithin bs base n exit) :
    LeadsWithin (as ++ bs) base n exit := by
  intro inst hmem j hj
  rcases List.mem_append.1 hmem with hmem | hmem
  · exact ha inst hmem j hj
  · exact hb inst hmem j hj

theorem cons {a : Inst} (ha : ∀ j ∈ a.nexts, (base ≤ j ∧ j < base + n) ∨ j = exit)
    (hb : LeadsWithin bs base n exit) : LeadsWithin (a :: bs) base n exit := by
  intro inst hmem j hj
  rcases List.mem_cons.1 hmem with rfl | hmem
  · exact ha j hj
  · exact hb inst hmem j hj

theorem nil : LeadsWithin [] base n exit := by
  simp [LeadsWithin]

/-- A part of some code may leave for the code behind it. -/
theorem weaken {base' n' exit' : Nat} (h : LeadsWithin as base n exit) (hbase : base' ≤ base)
    (hn : base + n ≤ base' + n') (hexit : (base' ≤ exit ∧ exit < base' + n') ∨ exit = exit') :
    LeadsWithin as base' n' exit' := by
  intro inst hmem j hj
  rcases h inst hmem j hj with h | rfl
  · exact .inl (by omega)
  · exact hexit

end LeadsWithin

section Leading

variable {code : Nat → Nat → List Inst} {n : Nat}

theorem leadsWithin_copies (h : ∀ base exit, LeadsWithin (code base exit) base n exit)
    (count base : Nat) :
    LeadsWithin (copies code n count base) base (count * n) (base + count * n) := by
  induction count generalizing base with
  | zero => exact .nil
  | succ count ih =>
      have hsucc : (count + 1) * n = count * n + n := Nat.succ_mul ..
      have hfirst : LeadsWithin (code base (base + n)) base ((count + 1) * n)
          (base + (count + 1) * n) := by
        refine (h base (base + n)).weaken (by omega) (by omega) ?_
        -- The first copy leaves for the second one, or for the end if there is none.
        rcases Nat.eq_zero_or_pos (count * n) with h0 | h0 <;> omega
      exact hfirst.append ((ih (base + n)).weaken (by omega) (by omega) (by omega))

theorem leadsWithin_optionalCopies (h : ∀ base exit, LeadsWithin (code base exit) base n exit)
    (greedy : Bool) (exit count base : Nat) :
    LeadsWithin (optionalCopies code n greedy exit count base) base (count * (n + 1) + 1) exit := by
  induction count generalizing base with
  | zero => exact .nil
  | succ count ih =>
      have hsucc : (count + 1) * (n + 1) = count * (n + 1) + (n + 1) := Nat.succ_mul ..
      refine .cons ?_ (.append ?_ ?_)
      · intro j hj
        rcases Inst.nexts_choice.1 hj with rfl | rfl
        · exact .inl (by omega)
        · exact .inr rfl
      · exact (h (base + 1) (base + 1 + n)).weaken (by omega) (by omega) (.inl (by omega))
      · exact (ih (base + 1 + n)).weaken (by omega) (by omega) (.inr rfl)

theorem leadsWithin_repetitionCode (hn : 0 < n)
    (h : ∀ base exit, LeadsWithin (code base exit) base n exit) (canBeEmpty : Bool) (min : Nat)
    (max : Option Nat) (greedy : Bool) (base exit : Nat) :
    LeadsWithin (repetitionCode code n canBeEmpty min max greedy base exit) base
      (repetitionSize min max canBeEmpty n) exit := by
  have hchoice {body m : Nat} (hlo : base ≤ body) (hhi : body < base + m) :
      ∀ j ∈ (Inst.choice greedy body exit).nexts, (base ≤ j ∧ j < base + m) ∨ j = exit := by
    intro j hj
    rcases Inst.nexts_choice.1 hj with rfl | rfl
    · exact .inl ⟨hlo, hhi⟩
    · exact .inr rfl
  -- The cases are those of the layout: with an upper bound, or repeating the last copy.
  unfold repetitionCode repetitionSize
  split
  · next max =>
      have hneeded := leadsWithin_copies h min base
      have hoptional := leadsWithin_optionalCopies h greedy exit (max - min) (base + min * n)
      have hjump : LeadsWithin [.jump exit] base 0 exit := by simp [LeadsWithin, Inst.nexts]
      refine ((hneeded.weaken (Nat.le_refl _) ?_ (.inl ?_)).append
        (hoptional.weaken ?_ ?_ (.inr rfl))).append (hjump.weaken (Nat.le_refl _) ?_ (.inr rfl))
      all_goals omega
  · split
    · split
      · refine (LeadsWithin.cons (hchoice ?_ ?_) ((h _ _).weaken ?_ ?_ (.inl ?_))).append
          (.cons (hchoice ?_ ?_) .nil)
        all_goals omega
      · refine .cons (hchoice ?_ ?_) ((h _ _).weaken ?_ ?_ (.inl ?_))
        all_goals omega
    · next hmin =>
        have hlast : (min - 1) * n < min * n := Nat.mul_lt_mul_of_pos_right (by omega) hn
        refine ((leadsWithin_copies h min base).weaken (Nat.le_refl _) ?_ (.inl ?_)).append
          (.cons (hchoice ?_ ?_) .nil)
        all_goals omega

end Leading

theorem leadsWithin_code (r : Regex) (base exit : Nat) :
    LeadsWithin (r.code base exit) base r.size exit := by
  induction r generalizing base exit with
  | empty | chars | bytes | look => simp [code, LeadsWithin, Inst.nexts]
  | cat a b iha ihb =>
      have hb := b.size_pos
      simp only [code, size]
      exact ((iha _ _).weaken (by omega) (by omega) (.inl (by omega))).append
        ((ihb _ _).weaken (by omega) (by omega) (.inr rfl))
  | alt a b iha ihb =>
      have ha := a.size_pos
      have hb := b.size_pos
      have hsplit : ∀ j ∈ (Inst.split (base + 1) (base + 1 + a.size)).nexts,
          (base ≤ j ∧ j < base + (1 + a.size + b.size)) ∨ j = exit := by
        simp only [Inst.nexts, List.mem_cons, List.not_mem_nil, or_false]
        omega
      simp only [code, size]
      exact (LeadsWithin.cons hsplit ((iha _ _).weaken (by omega) (by omega) (.inr rfl))).append
        ((ihb _ _).weaken (by omega) (by omega) (.inr rfl))
  | repetition min max greedy r ih => exact leadsWithin_repetitionCode r.size_pos ih _ _ _ _ _ _
  | capture r ih => exact ih base exit

end Regex

end PriorityLexer
