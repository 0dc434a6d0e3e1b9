import PriorityLexer.Proofs.Relocation
import PriorityLexer.Regex.Machine

/-!
# Exploration — following threads at one place

Two parts of programs that are alike but for the names of addresses lead the same threads to the
same frontiers, and a part that threads cannot leave is all that they visit.

* `Program.Closed` — a set of addresses that no instruction leaves;
* `Program.Carries` — a closed part of one program lies in another one, under other addresses;
* `Frontier.Mirrors` — a frontier is the image of another one, in front of what waited before;
* `Program.explore_append` — threads are followed one after the other;
* `Program.Carries.explore` — exploring keeps frontiers alike.
-/

namespace PriorityLexer

theorem Inst.mem_nexts_of_mem_targets {inst : Inst} {place : Place} {j : Nat}
    (h : j ∈ inst.targets place) : j ∈ inst.nexts := by
  cases inst with
  | chars | bytes | accept => simp [targets] at h
  | jump | split => exact h
  | look l next =>
      simp only [targets] at h
      split at h
      · exact h
      · simp at h

theorem Inst.targets_relocate (inst : Inst) (place : Place) (e ρ : Nat → Nat) :
    (inst.relocate e ρ).targets place = (inst.targets place).map e := by
  cases inst with
  | look l next =>
      simp only [relocate, targets]
      split <;> rfl
  | _ => rfl

namespace Program

variable {p q : Program} {place : Place}

/-! ## One thread after the other -/

theorem explore_nil (p : Program) (place : Place) (f : Frontier) : p.explore place [] f = f := by
  rw [explore]

theorem explore_of_stops {i : Nat} {rest : List Nat} {f : Frontier} (h : f.stops i = true) :
    p.explore place (i :: rest) f = p.explore place rest f := by
  rw [explore, if_pos h]

theorem explore_of_none {i : Nat} {rest : List Nat} {f : Frontier} (hi : p.insts[i]? = none) :
    p.explore place (i :: rest) f = p.explore place rest f := by
  rw [explore]
  split
  · rfl
  · rw [hi]

theorem explore_of_some {i : Nat} {inst : Inst} {rest : List Nat} {f : Frontier}
    (h : f.stops i = false) (hi : p.insts[i]? = some inst) :
    p.explore place (i :: rest) f =
      p.explore place (inst.targets place ++ rest) (f.visit i inst) := by
  rw [explore, if_neg (by simp [h]), hi]

theorem explore_append (p : Program) (place : Place) (xs ys : List Nat) (f : Frontier) :
    p.explore place (xs ++ ys) f = p.explore place ys (p.explore place xs f) := by
  fun_induction p.explore place xs f with
  | case1 => rfl
  | case2 f i rest hs ih => rw [List.cons_append, explore_of_stops hs, ih]
  | case3 f i rest hs hi ih => rw [List.cons_append, explore_of_none hi, ih]
  | case4 f i rest hs inst hi ih =>
      rw [List.cons_append, explore_of_some (by simpa using hs) hi, ← List.append_assoc, ih]

/-- A thread that accepts ends those behind it. -/
theorem explore_of_accepted {f : Frontier} (h : f.accepted.isSome) (threads : List Nat) :
    p.explore place threads f = f := by
  induction threads with
  | nil => exact explore_nil ..
  | cons i rest ih => rw [explore_of_stops (by simp [Frontier.stops, h]), ih]

@[simp] theorem size_marks_explore (p : Program) (place : Place) (threads : List Nat)
    (f : Frontier) : (p.explore place threads f).marks.size = f.marks.size := by
  fun_induction p.explore place threads f with
  | case1 => rfl
  | case2 f i rest hs ih => exact ih
  | case3 f i rest hs hi ih => exact ih
  | case4 f i rest hs inst hi ih => simpa using ih

/-! ## Closed parts -/

/-- No instruction of `D` names an address outside. -/
def Closed (p : Program) (D : Nat → Prop) : Prop :=
  ∀ i, D i → ∀ inst, p.insts[i]? = some inst → ∀ j ∈ inst.nexts, D j

theorem Closed.targets {D : Nat → Prop} (h : p.Closed D) {i : Nat} {inst : Inst} (hi : D i)
    (hinst : p.insts[i]? = some inst) : ∀ j ∈ inst.targets place, D j :=
  fun j hj => h i hi inst hinst j (Inst.mem_nexts_of_mem_targets hj)

/-- Threads that start in a closed part visit nothing else. -/
theorem Closed.contains_explore {D : Nat → Prop} (h : p.Closed D) {threads : List Nat}
    {f : Frontier} (ht : ∀ i ∈ threads, D i) {j : Nat} (hj : ¬ D j) :
    (p.explore place threads f).marks.contains j = f.marks.contains j := by
  fun_induction p.explore place threads f with
  | case1 => rfl
  | case2 f i rest hs ih => exact ih fun k hk => ht k (List.mem_cons_of_mem _ hk)
  | case3 f i rest hs hi ih => exact ih fun k hk => ht k (List.mem_cons_of_mem _ hk)
  | case4 f i rest hs inst hi ih =>
      have hDi : D i := ht i List.mem_cons_self
      -- What is visited lies inside, so `j` is not what is inserted.
      have hne : j ≠ i := fun hji => hj (hji ▸ hDi)
      rw [ih ?_, Frontier.marks_visit, Marks.contains_insert]
      · simp [hne]
      · intro k hk
        rcases List.mem_append.1 hk with hk | hk
        · exact h.targets hDi hi k hk
        · exact ht k (List.mem_cons_of_mem _ hk)

end Program

/-! ## Parts that are alike -/

/-- The part `D` of `p` lies in `q`: its addresses are renamed by `e` and its expressions by `ρ`. -/
structure Program.Carries (D : Nat → Prop) (e ρ : Nat → Nat) (p q : Program) : Prop where
  closed : p.Closed D
  injective : ∀ i j, D i → D j → e i = e j → i = j
  insts : ∀ i, D i → q.insts[e i]? = (p.insts[i]?).map (.relocate e ρ)

/-- A closed part lies in its own program. -/
theorem Program.Closed.carries {p : Program} {D : Nat → Prop} (h : p.Closed D) :
    p.Carries D id id p where
  closed := h
  injective _ _ _ _ hij := hij
  insts i _ := by simp [funext Inst.relocate_id]

/-- What `g` found is what `f` found, renamed, in front of what waited at `behind`; both have
visited the same of `D`. -/
structure Frontier.Mirrors (D : Nat → Prop) (e ρ : Nat → Nat) (behind : List Nat)
    (f g : Frontier) : Prop where
  inside : ∀ i ∈ f.waiting, D i
  waiting : g.waiting = f.waiting.map e ++ behind
  accepted : g.accepted = f.accepted.map ρ
  marks : ∀ i, D i → g.marks.contains (e i) = f.marks.contains i

namespace Frontier.Mirrors

variable {D : Nat → Prop} {e ρ : Nat → Nat} {behind : List Nat} {f g : Frontier}

theorem stops (h : f.Mirrors D e ρ behind g) {i : Nat} (hi : D i) : g.stops (e i) = f.stops i := by
  simp [Frontier.stops, h.accepted, h.marks i hi]

theorem visit (h : f.Mirrors D e ρ behind g) (hinj : ∀ i j, D i → D j → e i = e j → i = j) {i : Nat}
    (hi : D i) (inst : Inst) :
    (f.visit i inst).Mirrors D e ρ behind (g.visit (e i) (inst.relocate e ρ)) := by
  have hmarks (j : Nat) (hj : D j) :
      (g.marks.insert (e i)).contains (e j) = (f.marks.insert i).contains j := by
    have hij : e j = e i ↔ j = i := ⟨hinj j i hj hi, congrArg e⟩
    simp [Marks.contains_insert, hij, h.marks j hj]
  cases inst with
  | chars s next | bytes s next =>
      refine ⟨?_, ?_, h.accepted, hmarks⟩
      · intro j hj
        rcases List.mem_cons.1 hj with rfl | hj
        · exact hi
        · exact h.inside j hj
      · simp [Frontier.visit, Inst.relocate, h.waiting]
  | accept pattern => exact ⟨h.inside, h.waiting, rfl, hmarks⟩
  | look | jump | split => exact ⟨h.inside, h.waiting, h.accepted, hmarks⟩

end Frontier.Mirrors

namespace Program.Carries

variable {p q : Program} {D : Nat → Prop} {e ρ : Nat → Nat}

/-- Threads of a part and their images lead to frontiers that are alike. -/
theorem explore (h : p.Carries D e ρ q) (place : Place) {threads behind : List Nat}
    {f g : Frontier} (ht : ∀ i ∈ threads, D i) (hfg : f.Mirrors D e ρ behind g) :
    (p.explore place threads f).Mirrors D e ρ behind (q.explore place (threads.map e) g) := by
  fun_induction p.explore place threads f generalizing g with
  | case1 => simpa [explore_nil] using hfg
  | case2 f i rest hs ih =>
      have hi : D i := ht i List.mem_cons_self
      have hrest : ∀ j ∈ rest, D j := fun j hj => ht j (List.mem_cons_of_mem _ hj)
      rw [List.map_cons, explore_of_stops (by rw [hfg.stops hi, hs])]
      exact ih hrest hfg
  | case3 f i rest hs hi ih =>
      have hDi : D i := ht i List.mem_cons_self
      have hrest : ∀ j ∈ rest, D j := fun j hj => ht j (List.mem_cons_of_mem _ hj)
      rw [List.map_cons, explore_of_none (by rw [h.insts i hDi, hi]; rfl)]
      exact ih hrest hfg
  | case4 f i rest hs inst hi ih =>
      have hDi : D i := ht i List.mem_cons_self
      -- Both visit the instruction, and its targets are images of one another again.
      have hstops : g.stops (e i) = false := by rw [hfg.stops hDi]; simpa using hs
      have hinst : q.insts[e i]? = some (inst.relocate e ρ) := by rw [h.insts i hDi, hi]; rfl
      rw [List.map_cons, explore_of_some hstops hinst, Inst.targets_relocate, ← List.map_append]
      refine ih ?_ (hfg.visit h.injective hDi inst)
      intro j hj
      rcases List.mem_append.1 hj with hj | hj
      · exact h.closed.targets hDi hi j hj
      · exact ht j (List.mem_cons_of_mem _ hj)

/-- Frontiers at which nothing has been visited are alike. -/
theorem begin (h : p.Carries D e ρ q) {m m' : Marks} (hm : m.size = p.size)
    (hm' : m'.size = q.size) : (Frontier.begin m).Mirrors D e ρ [] (.begin m') where
  inside := by simp [Frontier.begin]
  waiting := rfl
  accepted := rfl
  marks i hi := by
    have hnone : q.insts[e i]? = none ↔ p.insts[i]? = none := by simp [h.insts i hi]
    have hsize : q.size ≤ e i ↔ p.size ≤ i := by simpa [Program.size] using hnone
    simp [Frontier.begin, Marks.contains_clear, hm, hm', hsize]

end Program.Carries

end PriorityLexer
