import PriorityLexer.Text.Hex

/-!
# CharSet — sets of characters as ascending ranges of code points

A set is kept as a list of ranges that ascend, do not touch and are not empty, so that looking a
character up stops at the first range that lies above it.

* `CharSet.contains` — membership of a character;
* `CharSet.insert`, `union`, `complement`, `inter`, `diff`, `symmDiff` — the usual operations;
* `CharSet.ofText` — a set read from a table written in hexadecimal, such as `41-5A 61-7A AA`.
-/

namespace PriorityLexer

/-- The code points from `lo` to `hi`, both included. -/
structure CodeRange where
  lo : Nat
  hi : Nat
deriving DecidableEq, Repr

/-- The ranges start at `bound` or later, are not empty, and leave a gap between neighbours. -/
def AscendingFrom : Nat → List CodeRange → Prop
  | _, [] => True
  | bound, r :: rest => bound ≤ r.lo ∧ r.lo ≤ r.hi ∧ AscendingFrom (r.hi + 2) rest

theorem AscendingFrom.weaken {a b : Nat} (h : a ≤ b) :
    ∀ {rs : List CodeRange}, AscendingFrom b rs → AscendingFrom a rs
  | [], _ => trivial
  | _ :: _, ⟨hlo, hr, hrest⟩ => ⟨Nat.le_trans h hlo, hr, hrest⟩

/-! ## Lists of ranges -/

namespace CodeRange

/-- Looks `n` up in ascending ranges. -/
def listContains (n : Nat) : List CodeRange → Bool
  | [] => false
  | r :: rest => if n < r.lo then false else n ≤ r.hi || listContains n rest

/-- Adds `lo` to `hi` and joins it with the ranges that it meets or touches. -/
def insertInto (lo hi : Nat) : List CodeRange → List CodeRange
  | [] => [⟨lo, hi⟩]
  | r :: rest =>
    if hi + 1 < r.lo then ⟨lo, hi⟩ :: r :: rest
    else if r.hi + 1 < lo then r :: insertInto lo hi rest
    -- They meet or touch; what grew out of them may reach the next one.
    else insertInto (min lo r.lo) (max hi r.hi) rest

/-- What the ranges leave out between `start` and `top`. -/
def gaps (top : Nat) : Nat → List CodeRange → List CodeRange
  | start, [] => if start ≤ top then [⟨start, top⟩] else []
  | start, r :: rest =>
    if start < r.lo ∧ start ≤ top then ⟨start, min (r.lo - 1) top⟩ :: gaps top (r.hi + 1) rest
    else gaps top (r.hi + 1) rest

theorem listContains_cons {n : Nat} {r : CodeRange} {rest : List CodeRange} :
    listContains n (r :: rest) ↔ r.lo ≤ n ∧ (n ≤ r.hi ∨ listContains n rest) := by
  rw [listContains]
  split
  · next hlt => simp [Nat.not_le.2 hlt]
  · next hle => simp [Nat.not_lt.1 hle]

theorem ascendingFrom_insertInto {b lo hi : Nat} (hb : b ≤ lo) (h : lo ≤ hi) :
    ∀ {rs : List CodeRange}, AscendingFrom b rs → AscendingFrom b (insertInto lo hi rs) := by
  intro rs
  induction rs generalizing b lo hi with
  | nil => exact fun _ => ⟨hb, h, trivial⟩
  | cons r rest ih =>
      rintro ⟨hlo, hr, hrest⟩
      unfold insertInto
      split
      · exact ⟨hb, h, by simp only; omega, hr, hrest⟩
      · split
        · exact ⟨hlo, hr, ih (by omega) h hrest⟩
        · exact ih (by omega) (by omega) (hrest.weaken (by omega))

theorem le_of_listContains {b n : Nat} {rs : List CodeRange} (h : AscendingFrom b rs)
    (hn : listContains n rs = true) : b ≤ n := by
  induction rs generalizing b with
  | nil => simp [listContains] at hn
  | cons r rest ih =>
      obtain ⟨hlo, hr, hrest⟩ := h
      have := ih hrest
      grind [listContains]

theorem listContains_insertInto {b lo hi n : Nat} (h : lo ≤ hi) :
    ∀ {rs : List CodeRange}, AscendingFrom b rs →
      (listContains n (insertInto lo hi rs) ↔ (lo ≤ n ∧ n ≤ hi) ∨ listContains n rs) := by
  intro rs
  induction rs generalizing b lo hi with
  | nil => intro _; grind [insertInto, listContains]
  | cons r rest ih =>
      rintro ⟨hlo, hr, hrest⟩
      have hle := le_of_listContains (n := n) hrest
      unfold insertInto
      split
      · grind [listContains]
      · split
        · have := @ih (r.hi + 2) lo hi h hrest
          grind [listContains]
        · have := @ih (r.hi + 2) (min lo r.lo) (max hi r.hi) (by omega) hrest
          grind [listContains]

theorem listContains_gaps {top start n : Nat} :
    ∀ {rs : List CodeRange}, AscendingFrom start rs →
      (listContains n (gaps top start rs) ↔ start ≤ n ∧ n ≤ top ∧ ¬ listContains n rs) := by
  intro rs
  induction rs generalizing start with
  | nil => intro _; grind [gaps, listContains]
  | cons r rest ih =>
      rintro ⟨hlo, hr, hrest⟩
      have hgaps := @ih (r.hi + 1) (hrest.weaken (by omega))
      have hle := le_of_listContains (n := n) hrest
      unfold gaps
      split
      · rw [listContains_cons, listContains_cons, hgaps]
        grind
      · rw [listContains_cons, hgaps]
        grind

theorem ascendingFrom_gaps {top b start : Nat} (hb : b ≤ start) :
    ∀ {rs : List CodeRange}, AscendingFrom start rs → AscendingFrom b (gaps top start rs) := by
  intro rs
  induction rs generalizing b start with
  | nil => intro _; unfold gaps; split <;> simp_all [AscendingFrom]
  | cons r rest ih =>
      rintro ⟨hlo, hr, hrest⟩
      unfold gaps
      split
      · exact ⟨hb, by simp only; omega, ih (by simp only; omega) (hrest.weaken (by omega))⟩
      · exact ih (by omega) (hrest.weaken (by omega))

theorem listContains_iff_exists {b n : Nat} {rs : List CodeRange} (h : AscendingFrom b rs) :
    listContains n rs ↔ ∃ r ∈ rs, r.lo ≤ n ∧ n ≤ r.hi := by
  induction rs generalizing b with
  | nil => simp [listContains]
  | cons r rest ih =>
      obtain ⟨hlo, hr, hrest⟩ := h
      have hle := le_of_listContains (n := n) hrest
      have := ih hrest
      simp only [List.mem_cons, exists_eq_or_imp, ← this]
      grind [listContains]

end CodeRange

/-! ## Sets -/

structure CharSet where
  ranges : List CodeRange
  ascending : AscendingFrom 0 ranges

instance : DecidableEq CharSet := fun a b =>
  decidable_of_iff (a.ranges = b.ranges) (by cases a; cases b; simp)

namespace CharSet

/-- The greatest code point. -/
def lastCodePoint : Nat := 0x10FFFF

def empty : CharSet := ⟨[], trivial⟩

instance : Inhabited CharSet := ⟨empty⟩

def contains (s : CharSet) (c : Char) : Bool :=
  CodeRange.listContains c.toNat s.ranges

instance : Membership Char CharSet := ⟨fun s c => s.contains c = true⟩

instance (c : Char) (s : CharSet) : Decidable (c ∈ s) :=
  inferInstanceAs (Decidable (s.contains c = true))

/-- Adds the code points from `r.lo` to `r.hi`; a range that ends before it starts adds none. -/
def insert (r : CodeRange) (s : CharSet) : CharSet :=
  if h : r.lo ≤ r.hi then
    ⟨CodeRange.insertInto r.lo r.hi s.ranges,
      CodeRange.ascendingFrom_insertInto (Nat.zero_le _) h s.ascending⟩
  else s

def ofRanges (rs : List CodeRange) : CharSet :=
  rs.foldr insert empty

def singleton (c : Char) : CharSet :=
  ⟨[⟨c.toNat, c.toNat⟩], Nat.zero_le _, Nat.le_refl _, trivial⟩

def range (lo hi : Char) : CharSet :=
  ofRanges [⟨lo.toNat, hi.toNat⟩]

def union (s t : CharSet) : CharSet :=
  t.ranges.foldr insert s

/-- The code points up to `top` that are not in the set. -/
def complementUpTo (top : Nat) (s : CharSet) : CharSet :=
  ⟨CodeRange.gaps top 0 s.ranges, CodeRange.ascendingFrom_gaps (Nat.le_refl _) s.ascending⟩

def complement (s : CharSet) : CharSet :=
  s.complementUpTo lastCodePoint

def inter (s t : CharSet) : CharSet :=
  (s.complement.union t.complement).complement

def diff (s t : CharSet) : CharSet :=
  (s.complement.union t).complement

def symmDiff (s t : CharSet) : CharSet :=
  (s.union t).diff (s.inter t)

/-- Whether all members are ASCII. -/
def isAscii (s : CharSet) : Bool :=
  s.ranges.all (·.hi ≤ 0x7F)

/-! ## Membership -/

theorem mem_def {s : CharSet} {c : Char} : c ∈ s ↔ CodeRange.listContains c.toNat s.ranges :=
  Iff.rfl

@[simp] theorem not_mem_empty (c : Char) : ¬ c ∈ empty := by
  simp [mem_def, empty, CodeRange.listContains]

@[simp] theorem mem_singleton {a c : Char} : c ∈ singleton a ↔ c = a := by
  have : c.toNat = a.toNat ↔ c = a := Char.toNat_inj
  grind [mem_def, singleton, CodeRange.listContains]

/-- Code points that are no characters may lie in a set, too. -/
theorem listContains_insert {r : CodeRange} {s : CharSet} {n : Nat} :
    CodeRange.listContains n (s.insert r).ranges ↔
      (r.lo ≤ n ∧ n ≤ r.hi) ∨ CodeRange.listContains n s.ranges := by
  unfold insert
  split
  · next h => exact CodeRange.listContains_insertInto h s.ascending
  · grind

@[simp] theorem mem_insert {r : CodeRange} {s : CharSet} {c : Char} :
    c ∈ s.insert r ↔ (r.lo ≤ c.toNat ∧ c.toNat ≤ r.hi) ∨ c ∈ s :=
  listContains_insert

theorem listContains_foldr_insert {rs : List CodeRange} {s : CharSet} {n : Nat} :
    CodeRange.listContains n (rs.foldr insert s).ranges ↔
      (∃ r ∈ rs, r.lo ≤ n ∧ n ≤ r.hi) ∨ CodeRange.listContains n s.ranges := by
  induction rs with
  | nil => simp
  | cons r rest ih => simp [listContains_insert, ih, or_assoc]

theorem listContains_ofRanges {rs : List CodeRange} {n : Nat} :
    CodeRange.listContains n (ofRanges rs).ranges ↔ ∃ r ∈ rs, r.lo ≤ n ∧ n ≤ r.hi := by
  rw [ofRanges, listContains_foldr_insert]
  simp [empty, CodeRange.listContains]

theorem listContains_union {s t : CharSet} {n : Nat} :
    CodeRange.listContains n (s.union t).ranges ↔
      CodeRange.listContains n s.ranges ∨ CodeRange.listContains n t.ranges := by
  rw [union, listContains_foldr_insert, ← CodeRange.listContains_iff_exists t.ascending, or_comm]

@[simp] theorem mem_ofRanges {rs : List CodeRange} {c : Char} :
    c ∈ ofRanges rs ↔ ∃ r ∈ rs, r.lo ≤ c.toNat ∧ c.toNat ≤ r.hi :=
  listContains_ofRanges

@[simp] theorem mem_union {s t : CharSet} {c : Char} : c ∈ s.union t ↔ c ∈ s ∨ c ∈ t :=
  listContains_union

@[simp] theorem mem_complement {s : CharSet} {c : Char} : c ∈ s.complement ↔ ¬ c ∈ s := by
  have hc : c.toNat ≤ lastCodePoint := by
    have := c.valid
    simp only [lastCodePoint, Char.toNat, UInt32.isValidChar, Nat.isValidChar] at *
    omega
  rw [mem_def, mem_def, complement, complementUpTo, CodeRange.listContains_gaps s.ascending]
  simp [hc]

@[simp] theorem mem_inter {s t : CharSet} {c : Char} : c ∈ s.inter t ↔ c ∈ s ∧ c ∈ t := by
  simp [inter]

@[simp] theorem mem_diff {s t : CharSet} {c : Char} : c ∈ s.diff t ↔ c ∈ s ∧ ¬ c ∈ t := by
  simp [diff]

/-! ## Tables -/

/-- The range that ends with the number read last, which is `n` if there is one; `lo` is the number
before a hyphen. -/
def rangeRead (lo n : Option Nat) : List CodeRange :=
  match n with
  | some n => [⟨lo.getD n, n⟩]
  | none => []

/-- Reads ranges from hexadecimal text, in which any blanks stand between them. -/
def readRanges (lo n : Option Nat) : List Char → List CodeRange
  | [] => rangeRead lo n
  | c :: rest =>
    match hexDigit? c with
    | some d => readRanges lo (some (16 * n.getD 0 + d)) rest
    | none =>
      if c = '-' then readRanges n none rest
      else rangeRead lo n ++ readRanges none none rest

def ofText (text : String) : CharSet :=
  ofRanges (readRanges none none text.toList)

end CharSet

end PriorityLexer
