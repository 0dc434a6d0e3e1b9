/-!
# Marks — sets of addresses that are cleared at once

A set keeps for each address the round in which it was inserted last.  Clearing starts a new round,
so it takes no time that grows with the set.

* `Marks.ofSize` — no address of those below a size;
* `Marks.contains`, `insert`, `clear` — the operations; an address past the size counts as
  contained;
* `Marks.missing` — the number of addresses that are not contained.
-/

namespace PriorityLexer

structure Marks where
  rounds : Array Nat
  now : Nat
  rounds_le : ∀ n ∈ rounds, n ≤ now

namespace Marks

def ofSize (size : Nat) : Marks :=
  ⟨Array.replicate size 0, 1, fun n h => by simp at h; omega⟩

def contains (m : Marks) (i : Nat) : Bool :=
  m.rounds.getD i m.now == m.now

def insert (m : Marks) (i : Nat) : Marks :=
  ⟨m.rounds.setIfInBounds i m.now, m.now, fun n h => by
    rcases Array.mem_or_eq_of_mem_setIfInBounds h with h | h
    · exact m.rounds_le n h
    · omega⟩

def clear (m : Marks) : Marks :=
  ⟨m.rounds, m.now + 1, fun n h => Nat.le_succ_of_le (m.rounds_le n h)⟩

def size (m : Marks) : Nat := m.rounds.size

def missing (m : Marks) : Nat := m.rounds.countP (· != m.now)

@[simp] theorem size_insert (m : Marks) (i : Nat) : (m.insert i).size = m.size := by
  simp [size, insert]

@[simp] theorem size_clear (m : Marks) : m.clear.size = m.size := rfl

/-- Nothing is contained but what lies past the size. -/
theorem contains_clear (m : Marks) (i : Nat) : m.clear.contains i = decide (m.size ≤ i) := by
  by_cases hi : i < m.rounds.size
  · have hle := m.rounds_le m.rounds[i] (Array.getElem_mem hi)
    have hne : ¬ m.rounds[i] = m.now + 1 := by omega
    have hsize : ¬ m.rounds.size ≤ i := by omega
    simpa [contains, clear, size, Array.getD, hi, hsize] using hne
  · have hsize : m.rounds.size ≤ i := by omega
    simp [contains, clear, size, Array.getD, hi, hsize]

theorem contains_insert {m : Marks} {i j : Nat} :
    (m.insert i).contains j = (decide (j = i) || m.contains j) := by
  by_cases hj : j < m.rounds.size
  · by_cases hij : i = j
    · subst hij
      simp [contains, insert, Array.getD, hj]
    · have : ¬ j = i := fun h => hij h.symm
      simp [contains, insert, Array.getD, hj, hij, this]
  · simp [contains, insert, Array.getD, hj]

theorem lt_size_of_contains {m : Marks} {i : Nat} (h : m.contains i = false) : i < m.size := by
  by_cases hi : i < m.rounds.size
  · exact hi
  · simp [contains, Array.getD, hi] at h

theorem missing_insert {m : Marks} {i : Nat} (h : m.contains i = false) :
    (m.insert i).missing + 1 = m.missing := by
  have hsize : i < m.rounds.size := lt_size_of_contains h
  have hi : i < m.rounds.toList.length := by simpa using hsize
  have hne : (m.rounds.toList[i] != m.now) = true := by
    simpa [contains, Array.getD, hsize, bne] using h
  have hpos : 0 < m.rounds.toList.countP (· != m.now) :=
    List.countP_pos_iff.2 ⟨_, List.getElem_mem hi, hne⟩
  simp only [missing, insert, ← Array.countP_toList, Array.toList_setIfInBounds,
    List.countP_set hi, hne, bne_self_eq_false]
  simp only [if_true, Bool.false_eq_true, if_false]
  omega

end Marks

end PriorityLexer
