import PriorityLexer.Proofs.Run

/-!
# Priority — several expressions in one program

The program of several expressions runs them side by side.  It finds what the first expression that
matches finds when it is the only one of a program.

* `Program.Hosts` — instructions lie in a program from an address on;
* `Program.searchAlone?` — the match of an expression that is the only one of a program;
* `Program.search?_eq_some_iff`, `Program.search?_eq_none_iff` — the match of several expressions.
-/

namespace PriorityLexer

namespace Program

/-- The instructions lie in the program from `base` on. -/
def Hosts (p : Program) (base : Nat) (insts : List Inst) : Prop :=
  ∀ k, k < insts.length → p.insts[k + base]? = insts[k]?

namespace Hosts

variable {p : Program} {base : Nat} {as bs : List Inst}

theorem left (h : p.Hosts base (as ++ bs)) : p.Hosts base as := by
  intro k hk
  rw [h k (by rw [List.length_append]; omega), List.getElem?_append_left hk]

theorem right (h : p.Hosts base (as ++ bs)) : p.Hosts (base + as.length) bs := by
  intro k hk
  have hkb := h (as.length + k) (by rw [List.length_append]; omega)
  rw [List.getElem?_append_right (Nat.le_add_right ..), Nat.add_sub_cancel_left] at hkb
  rw [← hkb]
  congr 1
  omega

/-- Instructions that lead to one another only are a closed part. -/
theorem closed (h : p.Hosts base as)
    (hleads : ∀ inst ∈ as, ∀ j ∈ inst.nexts, base ≤ j ∧ j < base + as.length) :
    p.Closed fun i => base ≤ i ∧ i < base + as.length := by
  rintro i ⟨hlo, hhi⟩ inst hinst j hj
  have hi := h (i - base) (by omega)
  rw [Nat.sub_add_cancel hlo, hinst] at hi
  exact hleads inst (List.mem_of_getElem? hi.symm) j hj

end Hosts

/-! ## Layout of several expressions -/

theorem leads_codeFrom (pattern base : Nat) (rs : List Regex) :
    ∀ inst ∈ codeFrom pattern base rs, ∀ j ∈ inst.nexts,
      base ≤ j ∧ j < base + (codeFrom pattern base rs).length := by
  induction rs generalizing pattern base with
  | nil => simp [codeFrom]
  | cons r rs ih =>
      intro inst hinst j hj
      simp only [codeFrom, List.length_append, List.length_cons, Regex.length_code]
      rcases List.mem_append.1 hinst with hcode | hrest
      · rcases r.leadsWithin_code base (base + r.size) inst hcode j hj with h | h <;> omega
      · rcases List.mem_cons.1 hrest with rfl | hrest
        · simp [Inst.nexts] at hj
        · have := ih (pattern + 1) (base + r.size + 1) inst hrest j hj
          omega

theorem mem_startsFrom {base i : Nat} {rs : List Regex} (h : i ∈ startsFrom base rs)
    (pattern : Nat) : base ≤ i ∧ i < base + (codeFrom pattern base rs).length := by
  induction rs generalizing pattern base with
  | nil => simp [startsFrom] at h
  | cons r rs ih =>
      simp only [codeFrom, List.length_append, List.length_cons, Regex.length_code]
      rcases List.mem_cons.1 h with rfl | h
      · omega
      · have := ih h (pattern + 1)
        omega

/-- The program of one expression, wherever it lies in another one. -/
theorem carries_of_hosts {p : Program} {base pattern : Nat} {r : Regex}
    (h : p.Hosts base (r.code base (base + r.size) ++ [.accept pattern])) :
    (ofRegexes [r]).Carries (fun i => i < r.size + 1) (· + base) (fun _ => pattern) p where
  closed := by
    have hself : (ofRegexes [r]).Hosts 0 (codeFrom 0 0 [r]) := by
      intro k _
      simp [ofRegexes]
    have hlength : (codeFrom 0 0 [r]).length = r.size + 1 := by simp [codeFrom]
    have hclosed := hself.closed (leads_codeFrom 0 0 [r])
    simpa [hlength] using hclosed
  injective i j _ _ hij := by simpa using hij
  insts i hi := by
    have hcode := r.code_add base (fun _ => pattern) 0 r.size
    rw [Nat.zero_add, Nat.add_comm r.size] at hcode
    rw [h i (by simpa using hi), hcode]
    simp only [ofRegexes, codeFrom, List.getElem?_toArray, Nat.zero_add]
    rw [← List.getElem?_map, List.map_append]
    rfl

/-- The match of an expression that is the only one of a program. -/
def searchAlone? (place : Place) (r : Regex) : Option Found := (ofRegexes [r]).search? place

theorem run_startsFrom {p : Program} {pattern base : Nat} {rs : List Regex}
    (h : p.Hosts base (codeFrom pattern base rs)) (before : Option Char) (text : List Char) :
    p.run (startsFrom base rs) before text =
      (rs.zipIdx pattern).findSome? fun (r, i) =>
        (searchAlone? ⟨before, text⟩ r).map (.rename fun _ => i) := by
  induction rs generalizing pattern base with
  | nil => simp [startsFrom]
  | cons r rs ih =>
      have hsplit : codeFrom pattern base (r :: rs) =
          (r.code base (base + r.size) ++ [.accept pattern]) ++
            codeFrom (pattern + 1) (base + r.size + 1) rs := by
        simp [codeFrom]
      rw [hsplit] at h
      have hone := h.left
      have hrest := h.right
      have hcarries := carries_of_hosts hone
      simp only [List.length_append, Regex.length_code, List.length_singleton,
        ← Nat.add_assoc] at hrest
      -- Neither the first expression nor the others leave their part of the program.
      have hA : p.Closed fun i => base ≤ i ∧ i < base + (r.size + 1) := by
        have hleads := leads_codeFrom pattern base [r]
        simpa using hone.closed (by simpa [codeFrom] using hleads)
      have hB := hrest.closed (leads_codeFrom (pattern + 1) (base + r.size + 1) rs)
      have hrun : p.run ([base] ++ startsFrom (base + r.size + 1) rs) before text =
          (p.run [base] before text).or
            (p.run (startsFrom (base + r.size + 1) rs) before text) :=
        run_append hA hB (fun i hi hi' => by omega) (by simp)
          (fun i hi => mem_startsFrom hi (pattern + 1)) before text
      -- In its own program the first expression lies at zero and has the number zero.
      have hzero : ∀ i ∈ [0], i < r.size + 1 := by simp
      have halone := hcarries.run hzero before text
      rw [List.map_singleton, Nat.zero_add] at halone
      rw [List.zipIdx_cons, List.findSome?_cons, startsFrom, ← List.singleton_append, hrun, halone,
        ih hrest]
      simp only [searchAlone?, search?_eq, ofRegexes, startsFrom]
      cases (run _ [0] before text) <;> rfl

theorem findSome?_zipIdx_eq_some_iff {α β : Type} {f : α × Nat → Option β} {as : List α} {n : Nat}
    {b : β} :
    (as.zipIdx n).findSome? f = some b ↔
      ∃ i a, as[i]? = some a ∧ f (a, n + i) = some b ∧
        ∀ j < i, ∀ a', as[j]? = some a' → f (a', n + j) = none := by
  induction as generalizing n with
  | nil => simp
  | cons a as ih =>
      rw [List.zipIdx_cons, List.findSome?_cons]
      cases hf : f (a, n) with
      | some b' =>
          constructor
          · intro h
            exact ⟨0, a, rfl, hf.trans h, fun j hj => absurd hj (Nat.not_lt_zero j)⟩
          · intro hfirst
            rcases hfirst with ⟨i, a', ha', hb, hbefore⟩
            cases i with
            | zero =>
                cases ha'
                exact hf.symm.trans hb
            | succ i => cases hf.symm.trans (hbefore 0 (Nat.zero_lt_succ i) a rfl)
      | none =>
          rw [ih]
          constructor
          · intro hfirst
            rcases hfirst with ⟨i, a', ha', hb, hbefore⟩
            refine ⟨i + 1, a', ha', by rw [← hb]; congr 2; omega, fun j hj a'' ha'' => ?_⟩
            cases j with
            | zero =>
                cases ha''
                exact hf
            | succ j =>
                rw [← hbefore j (by omega) a'' ha'']
                congr 2
                omega
          · intro hfirst
            rcases hfirst with ⟨i, a', ha', hb, hbefore⟩
            cases i with
            | zero =>
                cases ha'
                cases hf.symm.trans hb
            | succ i =>
                refine ⟨i, a', ha', by rw [← hb]; congr 2; omega, fun j hj a'' ha'' => ?_⟩
                rw [← hbefore (j + 1) (by omega) a'' ha'']
                congr 2
                omega

theorem search?_ofRegexes (rs : List Regex) (place : Place) :
    (ofRegexes rs).search? place =
      rs.zipIdx.findSome? fun (r, i) => (searchAlone? place r).map (.rename fun _ => i) := by
  have hhosts : (ofRegexes rs).Hosts 0 (codeFrom 0 0 rs) := by
    intro k _
    simp [ofRegexes]
  rw [search?_eq]
  exact run_startsFrom hhosts place.before place.after

/-- The first expression that matches decides, with its own match. -/
theorem search?_eq_some_iff {rs : List Regex} {place : Place} {found : Found} :
    (ofRegexes rs).search? place = some found ↔
      ∃ r alone, rs[found.pattern]? = some r ∧ searchAlone? place r = some alone ∧
        alone.length = found.length ∧
        ∀ j < found.pattern, ∀ r', rs[j]? = some r' → searchAlone? place r' = none := by
  rcases found with ⟨pattern, length⟩
  rw [search?_ofRegexes, findSome?_zipIdx_eq_some_iff]
  simp only [Nat.zero_add, Option.map_eq_some_iff, Option.map_eq_none_iff, Found.rename,
    Found.mk.injEq]
  constructor
  · intro h
    rcases h with ⟨i, r, hr, ⟨alone, halone, rfl, rfl⟩, hbefore⟩
    exact ⟨r, alone, hr, halone, rfl, hbefore⟩
  · intro h
    rcases h with ⟨r, alone, hr, halone, rfl, hbefore⟩
    exact ⟨pattern, r, hr, ⟨alone, halone, rfl, rfl⟩, hbefore⟩

theorem search?_eq_none_iff {rs : List Regex} {place : Place} :
    (ofRegexes rs).search? place = none ↔ ∀ r ∈ rs, searchAlone? place r = none := by
  simp only [search?_ofRegexes, List.findSome?_eq_none_iff, Option.map_eq_none_iff]
  constructor
  · intro h r hr
    rcases List.mem_iff_getElem?.1 hr with ⟨i, hi⟩
    exact h (r, i) (List.mk_mem_zipIdx_iff_getElem?.2 hi)
  · rintro h ⟨r, i⟩ hr
    exact h r (List.mem_of_getElem? (List.mk_mem_zipIdx_iff_getElem?.1 hr))

end Program

end PriorityLexer
