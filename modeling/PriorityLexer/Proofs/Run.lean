import Mathlib.Data.List.Basic
import PriorityLexer.Proofs.Exploration

/-!
# Run — the preferred match of threads over a text

The machine carries marks and the best match along.  What it finds does not depend on them: it is
given by a plain recursion on the text, which later proofs use in place of the machine.

* `Program.run` — the preferred match of threads, by recursion on the text;
* `Program.runFrom_eq` — the machine finds it;
* `Program.run_append` — of threads in parts that do not meet, the first ones decide if they match;
* `Program.Carries.run` — a part of a program finds the same wherever it lies.
-/

namespace PriorityLexer

namespace Program

/-- The match after `n` more characters. -/
def Found.behind (n : Nat) (found : Found) : Found := ⟨found.pattern, n + found.length⟩

theorem Found.behind_zero : Found.behind 0 = id := by
  funext found
  simp [behind]

theorem Found.behind_comp (m n : Nat) : Found.behind m ∘ Found.behind n = Found.behind (m + n) := by
  funext found
  simp [behind, Nat.add_assoc]

theorem Found.behind_mk (m n pattern : Nat) :
    Found.behind m ⟨pattern, n⟩ = ⟨pattern, m + n⟩ := rfl

@[simp] theorem size_ofSize (n : Nat) : (Marks.ofSize n).size = n := by
  simp [Marks.ofSize, Marks.size]

/-- What threads lead to at a place where nothing has been visited. -/
def frontier (p : Program) (place : Place) (threads : List Nat) : Frontier :=
  p.explore place threads (.begin (.ofSize p.size))

/-- The preferred match of threads: what goes on behind the next character is preferred to what
accepts here. -/
def run (p : Program) (threads : List Nat) (before : Option Char) : List Char → Option Found
  | [] => (p.frontier ⟨before, []⟩ threads).accepted.map (⟨·, 0⟩)
  | c :: rest =>
    let f := p.frontier ⟨before, c :: rest⟩ threads
    ((p.run (p.advance c f) (some c) rest).map (.behind 1)).or (f.accepted.map (⟨·, 0⟩))

variable {p q : Program} {place : Place}

/-! ## The machine -/

theorem closed_true (p : Program) : p.Closed fun _ => True :=
  fun _ _ _ _ _ _ => trivial

/-- Marks that are used again make no difference. -/
theorem explore_begin (place : Place) {m : Marks} (hm : m.size = p.size) (threads : List Nat) :
    (p.explore place threads (.begin m)).waiting = (p.frontier place threads).waiting ∧
      (p.explore place threads (.begin m)).accepted = (p.frontier place threads).accepted := by
  have hbegin := p.closed_true.carries.begin (size_ofSize p.size) hm
  have hmirrors : (p.frontier place threads).Mirrors (fun _ => True) id id []
      (p.explore place (threads.map id) (.begin m)) :=
    p.closed_true.carries.explore place (fun _ _ => trivial) hbegin
  rw [List.map_id] at hmirrors
  exact ⟨by simpa using hmirrors.waiting, by simpa using hmirrors.accepted⟩

@[simp] theorem frontier_nil (p : Program) (place : Place) :
    p.frontier place [] = .begin (.ofSize p.size) :=
  explore_nil ..

@[simp] theorem advance_begin (p : Program) (c : Char) (m : Marks) :
    p.advance c (.begin m) = [] := rfl

@[simp] theorem run_nil (p : Program) (before : Option Char) (text : List Char) :
    p.run [] before text = none := by
  induction text generalizing before with
  | nil => simp only [run, frontier_nil, Frontier.begin, Option.map_none]
  | cons c rest ih =>
      simp only [run, frontier_nil, advance_begin, ih]
      rfl

theorem runFrom_eq {m : Marks} (hm : m.size = p.size) (before : Option Char) (threads : List Nat)
    (taken : Nat) (best : Option Found) (text : List Char) :
    p.runFrom before threads m taken best text =
      ((p.run threads before text).map (.behind taken)).or best := by
  induction text generalizing before threads m taken best with
  | nil =>
      have ⟨_, haccepted⟩ := explore_begin ⟨before, []⟩ hm threads
      simp [runFrom, run, haccepted, Found.behind_mk, Function.comp_def]
  | cons c rest ih =>
      have ⟨hwaiting, haccepted⟩ := explore_begin ⟨before, c :: rest⟩ hm threads
      have hadvance : p.advance c (p.explore ⟨before, c :: rest⟩ threads (.begin m)) =
          p.advance c (p.frontier ⟨before, c :: rest⟩ threads) := by
        simp [advance, hwaiting]
      simp only [runFrom, run, haccepted, hadvance]
      -- Without a thread that goes on, nothing is found further behind.
      split
      · next hnone => simp [hnone, Found.behind_mk, Function.comp_def]
      · rw [ih (by simpa [Frontier.begin] using hm), ← Option.or_assoc, Option.map_or,
          Option.map_map, Option.map_map, Found.behind_comp]
        rfl

theorem search?_eq (p : Program) (place : Place) :
    p.search? place = p.run p.starts place.before place.after := by
  rw [search?, runFrom_eq (size_ofSize _), Found.behind_zero]
  simp

/-! ## Parts that are alike -/

theorem Closed.take? {D : Nat → Prop} (h : p.Closed D) {c : Char} {i j : Nat} (hi : D i)
    (hj : p.take? c i = some j) : D j := by
  have hnext (s : CharSet) {next : Nat} (h : (if s.contains c then some next else none) = some j) :
      j = next := by
    split at h
    · exact (Option.some.inj h).symm
    · cases h
  unfold Program.take? at hj
  split at hj
  · next s next hinst =>
      cases hnext s hj
      exact h i hi _ hinst _ (by simp [Inst.nexts])
  · next s next hinst =>
      cases hnext s hj
      exact h i hi _ hinst _ (by simp [Inst.nexts])
  · cases hj

theorem Closed.advance {D : Nat → Prop} (h : p.Closed D) {c : Char} {f : Frontier}
    (hf : ∀ i ∈ f.waiting, D i) : ∀ j ∈ p.advance c f, D j := by
  intro j hj
  rcases List.mem_filterMap.1 hj with ⟨i, hi, htake⟩
  exact h.take? (hf i (List.mem_reverse.1 hi)) htake

theorem Closed.frontier {D : Nat → Prop} (h : p.Closed D) (place : Place) {threads : List Nat}
    (ht : ∀ i ∈ threads, D i) : ∀ i ∈ (p.frontier place threads).waiting, D i :=
  (h.carries.explore place ht (h.carries.begin (size_ofSize _) (size_ofSize _))).inside

/-- The match of an expression under another number. -/
def Found.rename (ρ : Nat → Nat) (found : Found) : Found := ⟨ρ found.pattern, found.length⟩

namespace Carries

variable {D : Nat → Prop} {e ρ : Nat → Nat}

theorem take? (h : p.Carries D e ρ q) (c : Char) {i : Nat} (hi : D i) :
    q.take? c (e i) = (p.take? c i).map e := by
  unfold Program.take?
  rw [h.insts i hi]
  cases p.insts[i]? with
  | none => rfl
  | some inst =>
      cases inst with
      | chars s next | bytes s next =>
          simp only [Option.map_some, Inst.relocate]
          split <;> rfl
      | _ => rfl

theorem advance (h : p.Carries D e ρ q) (c : Char) {f g : Frontier} {behind : List Nat}
    (hfg : f.Mirrors D e ρ behind g) :
    q.advance c g = behind.reverse.filterMap (q.take? c) ++ (p.advance c f).map e := by
  have htake : ∀ i ∈ f.waiting.reverse, (q.take? c ∘ e) i = (p.take? c i).map e :=
    fun i hi => h.take? c (hfg.inside i (List.mem_reverse.1 hi))
  simp only [Program.advance, hfg.waiting, List.reverse_append, List.filterMap_append,
    ← List.map_reverse, List.filterMap_map, List.map_filterMap]
  rw [List.filterMap_congr htake]

theorem frontier (h : p.Carries D e ρ q) (place : Place) {threads : List Nat}
    (ht : ∀ i ∈ threads, D i) :
    (p.frontier place threads).Mirrors D e ρ [] (q.frontier place (threads.map e)) :=
  h.explore place ht (h.begin (size_ofSize _) (size_ofSize _))

/-- A part finds the same matches in both programs, up to the numbers of expressions. -/
theorem run (h : p.Carries D e ρ q) {threads : List Nat} (ht : ∀ i ∈ threads, D i)
    (before : Option Char) (text : List Char) :
    q.run (threads.map e) before text = (p.run threads before text).map (.rename ρ) := by
  induction text generalizing threads before with
  | nil =>
      have hmirrors := h.frontier ⟨before, []⟩ ht
      simp [Program.run, hmirrors.accepted, Found.rename, Function.comp_def]
  | cons c rest ih =>
      have hmirrors := h.frontier ⟨before, c :: rest⟩ ht
      have hadvance := h.advance c hmirrors
      rw [List.reverse_nil, List.filterMap_nil, List.nil_append] at hadvance
      simp only [Program.run, hadvance, ih (h.closed.advance hmirrors.inside), hmirrors.accepted,
        Option.map_or, Option.map_map]
      rfl

end Carries

/-! ## Parts that do not meet -/

theorem frontier_append_of_accepted {xs : List Nat} (h : (p.frontier place xs).accepted.isSome)
    (ys : List Nat) : p.frontier place (xs ++ ys) = p.frontier place xs := by
  rw [frontier, explore_append]
  exact explore_of_accepted h ys

section Disjoint

variable {A B : Nat → Prop} {xs ys : List Nat}

/-- Threads behind others that do not accept, in a part that the others cannot reach. -/
theorem frontier_append (hA : p.Closed A) (hB : p.Closed B) (hAB : ∀ i, A i → ¬ B i)
    (hxs : ∀ i ∈ xs, A i) (hys : ∀ i ∈ ys, B i)
    (hnone : (p.frontier place xs).accepted = none) :
    (p.frontier place ys).Mirrors B id id (p.frontier place xs).waiting
      (p.frontier place (xs ++ ys)) := by
  have hbegin : (Frontier.begin (.ofSize p.size)).Mirrors B id id (p.frontier place xs).waiting
      (p.frontier place xs) :=
    { inside := by simp [Frontier.begin]
      waiting := rfl
      accepted := hnone
      marks := fun i hi => hA.contains_explore hxs fun hAi => hAB i hAi hi }
  have hmirrors := hB.carries.explore place hys hbegin
  rw [List.map_id] at hmirrors
  rw [frontier.eq_1 p place (xs ++ ys), explore_append]
  exact hmirrors

/-- The first threads decide if they match at all, however long the match of the others. -/
theorem run_append (hA : p.Closed A) (hB : p.Closed B) (hAB : ∀ i, A i → ¬ B i)
    (hxs : ∀ i ∈ xs, A i) (hys : ∀ i ∈ ys, B i) (before : Option Char) (text : List Char) :
    p.run (xs ++ ys) before text = (p.run xs before text).or (p.run ys before text) := by
  induction text generalizing xs ys before with
  | nil =>
      cases hx : (p.frontier ⟨before, []⟩ xs).accepted with
      | some pattern =>
          have hstop := frontier_append_of_accepted (Option.isSome_iff_exists.2 ⟨_, hx⟩) ys
          simp [run, hstop, hx]
      | none =>
          have hmirrors := frontier_append hA hB hAB hxs hys hx
          simp [run, hx, hmirrors.accepted]
  | cons c rest ih =>
      cases hx : (p.frontier ⟨before, c :: rest⟩ xs).accepted with
      | some pattern =>
          have hstop := frontier_append_of_accepted (Option.isSome_iff_exists.2 ⟨_, hx⟩) ys
          rw [Option.or_of_isSome (by simp [run, hx])]
          simp only [run, hstop]
      | none =>
          -- The threads of both parts go on side by side, those of the first part in front.
          have hmirrors := frontier_append hA hB hAB hxs hys hx
          have hadvance : p.advance c (p.frontier ⟨before, c :: rest⟩ (xs ++ ys)) =
              p.advance c (p.frontier ⟨before, c :: rest⟩ xs) ++
                p.advance c (p.frontier ⟨before, c :: rest⟩ ys) := by
            simpa [advance] using hB.carries.advance c hmirrors
          have ihrest := ih (hA.advance (c := c) (hA.frontier ⟨before, c :: rest⟩ hxs))
            (hB.advance (c := c) hmirrors.inside) (some c)
          simp [run, hx, hadvance, ihrest, hmirrors.accepted, Option.map_or, Option.or_assoc]

end Disjoint

end Program

end PriorityLexer
