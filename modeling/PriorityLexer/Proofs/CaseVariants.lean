import Mathlib.Algebra.Group.Nat.Defs
import PriorityLexer.Unicode.CaseFolding

/-!
# CaseVariants — closing sets under case folding

Closing a set goes along the runs of a folding as ranges.  What it adds to a character are its case
variants, provided that each character is sent to one place at most and is not sent on from there.

* `bitsOf` — code points at equal distances as the bits of a number;
* `Folding.Sends` — a run sends one code point to another one;
* `Folding.Proper` — each character is sent once at most;
* `Folding.Linked` — code points that are or send to the same one;
* `Folding.mem_close_singleton` — closing a character adds its case variants;
* `simpleFolding_proper` — the folding of Unicode is proper.
-/

namespace PriorityLexer

/-! ## Bits -/

/-- The bits `first`, `first + step`, …, of which there are `count`. -/
def bitsOf (first step : Nat) : Nat → Nat
  | 0 => 0
  | count + 1 => 2 ^ first ||| bitsOf (first + step) step count

theorem testBit_bitsOf (first step : Nat) {count k : Nat} (hk : k < count) :
    (bitsOf first step count).testBit (first + k * step) = true := by
  induction count generalizing first k with
  | zero => omega
  | succ count ih =>
      rw [bitsOf, Nat.testBit_or]
      cases k with
      | zero => simp
      | succ k =>
          have hrest := ih (first + step) (Nat.lt_of_succ_lt_succ hk)
          rw [Nat.succ_mul, Nat.add_comm (k * step), ← Nat.add_assoc, hrest, Bool.or_true]

/-- Whether no two of the numbers have a bit in common, and none has one in common with `seen`. -/
def unshared (seen : Nat) : List Nat → Bool
  | [] => true
  | bits :: rest => (seen &&& bits) == 0 && unshared (seen ||| bits) rest

theorem not_testBit_of_and_eq_zero {a b n : Nat} (h : a &&& b = 0) (ha : a.testBit n = true) :
    b.testBit n = false := by
  have hn := congrArg (Nat.testBit · n) h
  simpa [Nat.testBit_and, ha] using hn

/-! ## Runs -/

namespace FoldingRun

variable {run : FoldingRun}

/-- The number of members. -/
def count (run : FoldingRun) : Nat := (run.last - run.first) / run.step + 1

/-- The members as bits. -/
def memberBits (run : FoldingRun) : Nat := bitsOf run.first run.step run.count

/-- What the members are sent to, as bits. -/
def targetBits (run : FoldingRun) : Nat := bitsOf run.target run.step run.count

theorem send?_eq_some_iff {n m : Nat} :
    run.send? n = some m ↔
      ∃ x, n = run.first + x ∧ m = run.target + x ∧ n ≤ run.last ∧ x % run.step = 0 := by
  unfold send?
  constructor
  · intro h
    split at h
    · next hn =>
        cases h
        exact ⟨n - run.first, by omega, rfl, hn.2.1, hn.2.2⟩
    · cases h
  · intro hdistance
    rcases hdistance with ⟨x, rfl, rfl, hlast, hstep⟩
    rw [if_pos ⟨Nat.le_add_right .., hlast, by rwa [Nat.add_sub_cancel_left]⟩,
      Nat.add_sub_cancel_left]

/-- What the members of some runs are sent to, as bits. -/
def allTargetBits : List FoldingRun → Nat
  | [] => 0
  | run :: rest => run.targetBits ||| allTargetBits rest

theorem testBit_allTargetBits {runs : List FoldingRun} (hrun : run ∈ runs) {m : Nat}
    (hm : run.targetBits.testBit m = true) : (allTargetBits runs).testBit m = true := by
  induction runs with
  | nil => cases hrun
  | cons first rest ih =>
      rw [allTargetBits, Nat.testBit_or, Bool.or_eq_true]
      rcases List.mem_cons.1 hrun with rfl | hrun
      · exact .inl hm
      · exact .inr (ih hrun)

/-- A code point that is sent is a bit of the members, and its target one of the targets. -/
theorem testBit_of_send? {n m : Nat} (h : run.send? n = some m) :
    run.memberBits.testBit n = true ∧ run.targetBits.testBit m = true := by
  rcases send?_eq_some_iff.1 h with ⟨x, rfl, rfl, hlast, hstep⟩
  have hcount : x / run.step < run.count :=
    Nat.lt_succ_of_le (Nat.div_le_div_right (by omega))
  have hx : x / run.step * run.step = x := Nat.div_mul_cancel (Nat.dvd_of_mod_eq_zero hstep)
  have hmember := testBit_bitsOf run.first run.step hcount
  have htarget := testBit_bitsOf run.target run.step hcount
  rw [hx] at hmember htarget
  exact ⟨hmember, htarget⟩

/-- Runs without common members are told by their members. -/
theorem eq_of_unshared {seen n : Nat} {runs : List FoldingRun}
    (h : unshared seen (runs.map memberBits) = true) :
    (seen.testBit n = true → ∀ run ∈ runs, run.memberBits.testBit n = false) ∧
      ∀ run ∈ runs, ∀ run' ∈ runs, run.memberBits.testBit n = true →
        run'.memberBits.testBit n = true → run = run' := by
  induction runs generalizing seen with
  | nil => simp
  | cons first rest ih =>
      -- The tail shares no bit with what was seen before, the first run included.
      simp only [List.map_cons, unshared, Bool.and_eq_true, beq_iff_eq] at h
      rcases ih h.2 with ⟨hseen, hunique⟩
      rw [Nat.testBit_or, Bool.or_eq_true] at hseen
      have hrest {run' : FoldingRun} (hrun' : run' ∈ rest)
          (hn : first.memberBits.testBit n = true) : run'.memberBits.testBit n = false :=
        hseen (.inr hn) run' hrun'
      simp only [List.mem_cons, forall_eq_or_imp]
      refine ⟨fun hn => ⟨not_testBit_of_and_eq_zero h.1 hn, hseen (.inl hn)⟩, ⟨?_, ?_⟩, ?_⟩
      · exact fun _ _ => trivial
      · intro run' hrun' hn hn'
        simp [hrest hrun' hn] at hn'
      · intro run hrun
        refine ⟨fun hn hn' => ?_, hunique run hrun⟩
        simp [hrest hrun hn'] at hn

/-- The least multiple of `step` that is not below `n`. -/
theorem mul_le_iff_of_mod_eq_zero {step : Nat} (hstep : 0 < step) {n x : Nat}
    (hx : x % step = 0) : (n + (step - 1)) / step * step ≤ x ↔ n ≤ x := by
  rcases Nat.dvd_of_mod_eq_zero hx with ⟨k, rfl⟩
  rw [Nat.mul_comm step, Nat.mul_le_mul_right_iff hstep, Nat.div_le_iff_le_mul_add_pred hstep,
    Nat.mul_comm step]
  omega

/-- Ranges of one number each, at equal distances. -/
theorem exists_mem_map_range {step : Nat} (hstep : 0 < step) {start width x : Nat} :
    (∃ d ∈ (List.range (width / step + 1)).map fun k =>
      CodeRange.mk (start + k * step) (start + k * step), d.lo ≤ x ∧ x ≤ d.hi) ↔
      start ≤ x ∧ x ≤ start + width ∧ (x - start) % step = 0 := by
  simp only [List.mem_map, List.mem_range, Nat.lt_succ_iff, Nat.le_div_iff_mul_le hstep]
  constructor
  · intro h
    rcases h with ⟨d, ⟨k, hk, rfl⟩, hlo, hhi⟩
    simp only at hlo hhi
    have hx : x - start = k * step := by omega
    exact ⟨by omega, by omega, by rw [hx, Nat.mul_mod_left]⟩
  · intro h
    rcases h with ⟨hlo, hhi, hx⟩
    rcases Nat.dvd_of_mod_eq_zero hx with ⟨k, hk⟩
    rw [Nat.mul_comm] at hk
    exact ⟨_, ⟨k, by omega, rfl⟩, by simp only; omega, by simp only; omega⟩

/-- The distances are those of the members of the run between two code points. -/
theorem exists_mem_distances (hstep : 0 < run.step) {lo hi x : Nat} :
    (∃ d ∈ run.distances lo hi, d.lo ≤ x ∧ x ≤ d.hi) ↔
      lo ≤ run.first + x ∧ run.first + x ≤ hi ∧ run.first + x ≤ run.last ∧ x % run.step = 0 := by
  have hstart := mul_le_iff_of_mod_eq_zero hstep (n := lo - run.first) (x := x)
  unfold distances
  -- Only that it is a multiple of the step matters of the first distance.
  generalize (lo - run.first + (run.step - 1)) / run.step = first at hstart
  simp only
  split
  · split
    · next hone =>
        have hx : x % run.step = 0 := by rw [hone, Nat.mod_one]
        have hlo := hstart hx
        simp only [List.mem_singleton, exists_eq_left, hx, and_true]
        omega
    · rw [exists_mem_map_range hstep]
      constructor
      · intro h
        rcases h with ⟨hlo, hhi, hx⟩
        rw [Nat.mul_comm, Nat.sub_mul_mod (by rwa [Nat.mul_comm])] at hx
        have := hstart hx
        exact ⟨by omega, by omega, by omega, hx⟩
      · intro h
        rcases h with ⟨hlo, hhi, hlast, hx⟩
        have hle := (hstart hx).2 (by omega)
        refine ⟨hle, by omega, ?_⟩
        rw [Nat.mul_comm, Nat.sub_mul_mod (by rwa [Nat.mul_comm]), hx]
  · simp only [List.not_mem_nil, false_and, exists_false, false_iff]
    intro h
    rcases h with ⟨hlo, hhi, hlast, hx⟩
    have := hstart hx
    omega

/-- Ranges that are moved by some distance. -/
theorem exists_mem_map_add {ds : List CodeRange} {b n : Nat} :
    (∃ r ∈ ds.map (fun d => CodeRange.mk (b + d.lo) (b + d.hi)), r.lo ≤ n ∧ n ≤ r.hi) ↔
      ∃ x, n = b + x ∧ ∃ d ∈ ds, d.lo ≤ x ∧ x ≤ d.hi := by
  constructor
  · intro h
    rcases h with ⟨r, hr, hlo, hhi⟩
    rcases List.mem_map.1 hr with ⟨d, hd, rfl⟩
    simp only at hlo hhi
    exact ⟨n - b, by omega, d, hd, by omega, by omega⟩
  · intro h
    rcases h with ⟨x, rfl, d, hd, hlo, hhi⟩
    refine ⟨_, List.mem_map_of_mem hd, ?_, ?_⟩
    · simp only
      omega
    · simp only
      omega

theorem exists_mem_image (hstep : 0 < run.step) {r : CodeRange} {m : Nat} :
    (∃ t ∈ run.image r, t.lo ≤ m ∧ m ≤ t.hi) ↔
      ∃ n, r.lo ≤ n ∧ n ≤ r.hi ∧ run.send? n = some m := by
  simp only [send?_eq_some_iff]
  unfold image
  split
  · next hout =>
      simp only [List.not_mem_nil, false_and, exists_false, false_iff, not_exists]
      rintro n ⟨hlo, hhi, x, rfl, rfl, hlast, -⟩
      omega
  · rw [exists_mem_map_add]
    simp only [exists_mem_distances hstep]
    constructor
    · intro h
      rcases h with ⟨x, rfl, hlo, hhi, hlast, hx⟩
      exact ⟨run.first + x, hlo, hhi, x, rfl, rfl, hlast, hx⟩
    · intro h
      rcases h with ⟨n, hlo, hhi, x, rfl, rfl, hlast, hx⟩
      exact ⟨x, rfl, hlo, hhi, hlast, hx⟩

theorem exists_mem_preimage (hstep : 0 < run.step) {r : CodeRange} {n : Nat} :
    (∃ t ∈ run.preimage r, t.lo ≤ n ∧ n ≤ t.hi) ↔
      ∃ m, r.lo ≤ m ∧ m ≤ r.hi ∧ run.send? n = some m := by
  simp only [send?_eq_some_iff]
  unfold preimage
  split
  · next hout =>
      simp only [List.not_mem_nil, false_and, exists_false, false_iff, not_exists]
      rintro m ⟨hlo, hhi, x, rfl, rfl, hlast, -⟩
      omega
  · next hin =>
      rw [exists_mem_map_add]
      simp only [exists_mem_distances hstep]
      constructor
      · intro h
        rcases h with ⟨x, rfl, hlo, hhi, hlast, hx⟩
        exact ⟨run.target + x, by omega, by omega, x, rfl, rfl, hlast, hx⟩
      · intro h
        rcases h with ⟨m, hlo, hhi, x, rfl, rfl, hlast, hx⟩
        exact ⟨x, rfl, by omega, by omega, hlast, hx⟩

end FoldingRun

/-! ## Foldings -/

namespace Folding

/-- One of the runs sends a code point to another one. -/
def Sends (f : Folding) (n m : Nat) : Prop :=
  ∃ run ∈ f.runs, run.send? n = some m

/-- Each character is sent to one place at most, and what it is sent to is not sent on. -/
structure Proper (f : Folding) : Prop where
  step_pos : ∀ run ∈ f.runs, 0 < run.step
  unique : ∀ n m m', f.Sends n m → f.Sends n m' → m = m'
  not_sends : ∀ n m k, f.Sends n m → ¬ f.Sends m k

variable {f : Folding}

theorem proper_of_bits (hstep : ∀ run ∈ f.runs, 0 < run.step)
    (hmembers : unshared 0 (f.runs.map FoldingRun.memberBits) = true)
    (htargets : ∀ run ∈ f.runs, FoldingRun.allTargetBits f.runs &&& run.memberBits = 0) :
    f.Proper where
  step_pos := hstep
  unique := by
    rintro n m m' ⟨run, hrun, hm⟩ ⟨run', hrun', hm'⟩
    have hn := (FoldingRun.testBit_of_send? hm).1
    have hn' := (FoldingRun.testBit_of_send? hm').1
    -- Both runs have the member `n`, so they are the same one.
    cases (FoldingRun.eq_of_unshared hmembers).2 run hrun run' hrun' hn hn'
    exact Option.some.inj (hm.symm.trans hm')
  not_sends := by
    rintro n m k ⟨run, hrun, hm⟩ ⟨run', hrun', hk⟩
    -- As a target, `m` is no member of any run.
    have hall := FoldingRun.testBit_allTargetBits hrun (FoldingRun.testBit_of_send? hm).2
    have hnone := not_testBit_of_and_eq_zero (htargets run' hrun') hall
    rw [(FoldingRun.testBit_of_send? hk).1] at hnone
    cases hnone

theorem apply_of_sends (h : f.Proper) {a : Char} {m : Nat} (hm : f.Sends a.toNat m) :
    f.apply a = m := by
  unfold apply
  cases hfound : f.runs.findSome? (·.send? a.toNat) with
  | none =>
      rcases hm with ⟨run, hrun, hsend⟩
      cases hsend.symm.trans (List.findSome?_eq_none_iff.1 hfound run hrun)
  | some m' =>
      rcases List.exists_of_findSome?_eq_some hfound with ⟨run, hrun, hsend⟩
      exact h.unique _ _ _ ⟨run, hrun, hsend⟩ hm

theorem apply_of_not_sends {a : Char} (h : ∀ m, ¬ f.Sends a.toNat m) : f.apply a = a.toNat := by
  have hnone : f.runs.findSome? (·.send? a.toNat) = none := by
    refine List.findSome?_eq_none_iff.2 fun run hrun => ?_
    exact Option.eq_none_iff_forall_not_mem.2 fun m hm => h m ⟨run, hrun, hm⟩
  rw [apply, hnone, Option.getD_none]

/-- Both are or send to the same code point. -/
def Linked (f : Folding) (n m : Nat) : Prop :=
  ∃ k, (n = k ∨ f.Sends n k) ∧ (m = k ∨ f.Sends m k)

theorem eq_or_sends_apply (h : f.Proper) (a : Char) :
    a.toNat = f.apply a ∨ f.Sends a.toNat (f.apply a) := by
  by_cases hsends : ∃ m, f.Sends a.toNat m
  · rcases hsends with ⟨m, hm⟩
    rw [apply_of_sends h hm]
    exact .inr hm
  · exact .inl (apply_of_not_sends (not_exists.1 hsends)).symm

/-- What a character is sent to is not sent on. -/
theorem apply_of_eq (h : f.Proper) {a : Char} {n : Nat} (hn : f.Sends n a.toNat) :
    f.apply a = a.toNat :=
  apply_of_not_sends fun k => h.not_sends n a.toNat k hn

theorem equivalent_iff_linked (h : f.Proper) {a b : Char} :
    f.Equivalent a b ↔ f.Linked a.toNat b.toNat := by
  constructor
  · intro hab
    refine ⟨f.apply a, eq_or_sends_apply h a, ?_⟩
    rw [show f.apply a = f.apply b from hab]
    exact eq_or_sends_apply h b
  · intro hlinked
    -- Of two characters that meet in `k`, each is `k` itself or is sent there.
    rcases hlinked with ⟨k, rfl | ha, hb | hb⟩
    · rw [Char.toNat_inj.1 hb]
      exact .refl f a
    · exact (apply_of_eq h hb).trans (apply_of_sends h hb).symm
    · subst hb
      exact (apply_of_sends h ha).trans (apply_of_eq h ha).symm
    · exact (apply_of_sends h ha).trans (apply_of_sends h hb).symm

/-! ## Closing -/

/-- Adds to a set what the runs relate to its members. -/
theorem listContains_union_flatMap {g : FoldingRun → CodeRange → List CodeRange}
    {R : FoldingRun → Nat → Nat → Prop}
    (hg : ∀ run ∈ f.runs, ∀ r m,
      (∃ t ∈ g run r, t.lo ≤ m ∧ m ≤ t.hi) ↔ ∃ n, r.lo ≤ n ∧ n ≤ r.hi ∧ R run n m)
    {s : CharSet} {m : Nat} :
    CodeRange.listContains m
        (s.union (.ofRanges (s.ranges.flatMap fun r => f.runs.flatMap (g · r)))).ranges ↔
      ∃ n, CodeRange.listContains n s.ranges ∧ (n = m ∨ ∃ run ∈ f.runs, R run n m) := by
  rw [CharSet.listContains_union, CharSet.listContains_ofRanges]
  simp only [List.mem_flatMap, CodeRange.listContains_iff_exists s.ascending]
  constructor
  · intro h
    rcases h with hm | ⟨t, ⟨r, hr, run, hrun, ht⟩, hm⟩
    · exact ⟨m, hm, .inl rfl⟩
    · rcases (hg run hrun r m).1 ⟨t, ht, hm⟩ with ⟨n, hlo, hhi, hR⟩
      exact ⟨n, ⟨r, hr, hlo, hhi⟩, .inr ⟨run, hrun, hR⟩⟩
  · intro h
    rcases h with ⟨n, ⟨r, hr, hlo, hhi⟩, rfl | ⟨run, hrun, hR⟩⟩
    · exact .inl ⟨r, hr, hlo, hhi⟩
    · rcases (hg run hrun r m).2 ⟨n, hlo, hhi, hR⟩ with ⟨t, ht, hm⟩
      exact .inr ⟨t, ⟨r, hr, run, hrun, ht⟩, hm⟩

theorem listContains_close (hstep : ∀ run ∈ f.runs, 0 < run.step) {s : CharSet} {m : Nat} :
    CodeRange.listContains m (f.close s).ranges ↔
      ∃ n, CodeRange.listContains n s.ranges ∧ f.Linked n m := by
  have himage : ∀ run ∈ f.runs, ∀ r m, (∃ t ∈ run.image r, t.lo ≤ m ∧ m ≤ t.hi) ↔
      ∃ n, r.lo ≤ n ∧ n ≤ r.hi ∧ run.send? n = some m :=
    fun run hrun r m => FoldingRun.exists_mem_image (hstep run hrun)
  have hpreimage : ∀ run ∈ f.runs, ∀ r m, (∃ t ∈ run.preimage r, t.lo ≤ m ∧ m ≤ t.hi) ↔
      ∃ n, r.lo ≤ n ∧ n ≤ r.hi ∧ run.send? m = some n :=
    fun run hrun r m => FoldingRun.exists_mem_preimage (hstep run hrun)
  -- Closing goes to the targets first and back from there.
  simp only [close, listContains_union_flatMap hpreimage, listContains_union_flatMap himage]
  constructor
  · intro h
    rcases h with ⟨k, ⟨n, hn, hnk⟩, hkm⟩
    exact ⟨n, hn, k, hnk, hkm.imp_left Eq.symm⟩
  · intro h
    rcases h with ⟨n, hn, k, hnk, hmk⟩
    exact ⟨k, ⟨n, hn, hnk⟩, hmk.imp_left Eq.symm⟩

theorem mem_close_singleton (h : f.Proper) {a c : Char} :
    c ∈ f.close (.singleton a) ↔ f.Equivalent a c := by
  have hsingleton {n : Nat} :
      CodeRange.listContains n (CharSet.singleton a).ranges ↔ n = a.toNat := by
    simp only [CharSet.singleton, CodeRange.listContains]
    grind
  rw [CharSet.mem_def, listContains_close h.step_pos, equivalent_iff_linked h]
  simp only [hsingleton, exists_eq_left]

end Folding

theorem simpleFolding_proper : simpleFolding.Proper :=
  Folding.proper_of_bits (by decide +kernel) (by decide +kernel) (by decide +kernel)

end PriorityLexer
