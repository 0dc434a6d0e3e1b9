import Mathlib.Logic.Basic
import PriorityLexer.Regex.Utf8

/-!
# Utf8 — the sequences of bytes that write the members of a set

* `ByteRange.followAll` — what is left of sequences behind some bytes;
* `ByteRange.followAll_sequences` — code points between two others are told by their digits;
* `exists_charBytes_eq_cons` — a character is told from the bytes that go on with one;
* `CharSet.followAll_sequences` — of the sequences for a set, a member of it goes all the way
  through exactly one, and other characters go through none;
* `CharSet.length_of_mem_follow` — behind the first byte of a character, what is left of a sequence
  is as long as what is left of the character.
-/

namespace PriorityLexer

namespace ByteRange

theorem contains_iff {r : ByteRange} {b : Nat} : r.contains b = true ↔ r.lo ≤ b ∧ b ≤ r.hi := by
  simp [contains]

/-! ## Following sequences -/

/-- What is left of a sequence behind some bytes. -/
def followAll? : List Nat → List ByteRange → Option (List ByteRange)
  | [], seq => some seq
  | b :: bytes, seq => (follow? b seq).bind (followAll? bytes)

/-- What is left of sequences behind some bytes. -/
def followAll (bytes : List Nat) (seqs : List (List ByteRange)) : List (List ByteRange) :=
  seqs.filterMap (followAll? bytes)

@[simp] theorem followAll_nil (bytes : List Nat) : followAll bytes [] = [] := rfl

theorem followAll_cons (b : Nat) (bytes : List Nat) (seqs : List (List ByteRange)) :
    followAll (b :: bytes) seqs = followAll bytes (seqs.filterMap (follow? b)) :=
  List.filterMap_filterMap.symm

theorem followAll_append (bytes : List Nat) (xs ys : List (List ByteRange)) :
    followAll bytes (xs ++ ys) = followAll bytes xs ++ followAll bytes ys :=
  List.filterMap_append

theorem followAll_flatMap {α : Type} (bytes : List Nat) (f : α → List (List ByteRange))
    (as : List α) : followAll bytes (as.flatMap f) = as.flatMap fun a => followAll bytes (f a) :=
  List.filterMap_flatMap

/-- A range in front of sequences lets its bytes pass. -/
theorem followAll_map_cons (b : Nat) (bytes : List Nat) (r : ByteRange)
    (seqs : List (List ByteRange)) :
    followAll (b :: bytes) (seqs.map (r :: ·)) =
      if r.contains b then followAll bytes seqs else [] := by
  rw [followAll_cons, List.filterMap_map]
  by_cases hb : r.contains b = true
  · rw [if_pos hb]
    congr 1
    simp [Function.comp_def, follow?, hb]
  · rw [if_neg hb]
    have hnone : seqs.filterMap (follow? b ∘ fun seq => r :: seq) = [] := by
      simp [Function.comp_def, follow?, hb]
    rw [hnone, followAll_nil]

/-! ## Digits -/

theorem unit_pos (k : Nat) : 0 < unit k := by
  induction k with
  | zero => exact Nat.one_pos
  | succ k ih => exact Nat.mul_pos (by decide) ih

theorem length_digits (lead k n : Nat) : (digits lead k n).length = k + 1 := by
  induction k generalizing lead n with
  | zero => rfl
  | succ k ih => rw [digits, List.length_cons, ih]

theorem head?_digits (lead k n : Nat) : (digits lead k n).head? = some (lead + n / unit k) := by
  cases k with
  | zero => simp [digits, unit]
  | succ k => rfl

/-- Numbers are compared by their digits, the first one counting first. -/
theorem le_iff_digits {u : Nat} (hu : 0 < u) (m n : Nat) :
    m ≤ n ↔ m / u < n / u ∨ (m / u = n / u ∧ m % u ≤ n % u) := by
  have hm := Nat.div_add_mod m u
  have hn := Nat.div_add_mod n u
  have hmod := Nat.mod_lt m hu
  constructor
  · intro hle
    rcases Nat.lt_or_eq_of_le (Nat.div_le_div_right (c := u) hle) with hlt | heq
    · exact .inl hlt
    · rw [heq] at hm
      exact .inr ⟨heq, by omega⟩
  · intro h
    rcases h with hlt | ⟨heq, hle⟩
    · have hstep : u * (m / u) + u ≤ u * (n / u) := by
        rw [← Nat.mul_succ]
        exact Nat.mul_le_mul_left u hlt
      omega
    · rw [heq] at hm
      omega

/-- All but the first byte go on with a character. -/
theorem contains_further_of_mem_digits {k n b : Nat} (h : n < unit (k + 1))
    (hb : b ∈ digits 0x80 k n) : further.contains b = true := by
  have hcontains {digit : Nat} (hdigit : digit < 64) : further.contains (0x80 + digit) = true := by
    simp only [contains_iff, further]
    omega
  induction k generalizing n with
  | zero =>
      rw [List.mem_singleton.1 hb]
      exact hcontains h
  | succ k ih =>
      have hpos := unit_pos (k + 1)
      rcases List.mem_cons.1 hb with rfl | hb
      · exact hcontains ((Nat.div_lt_iff_lt_mul hpos).2 h)
      · exact ih (Nat.mod_lt n hpos) hb

theorem followAll_replicate_further {bytes : List Nat}
    (h : ∀ b ∈ bytes, further.contains b = true) :
    followAll bytes [List.replicate bytes.length further] = [[]] := by
  induction bytes with
  | nil => rfl
  | cons b bytes ih =>
      rw [List.forall_mem_cons] at h
      have hblock := followAll_map_cons b bytes further [List.replicate bytes.length further]
      rw [if_pos h.1, ih h.2] at hblock
      exact hblock

/-- All digits may follow where all bytes may. -/
theorem followAll_further {k n : Nat} (h : n < unit (k + 1)) :
    followAll (digits 0x80 k n) [List.replicate (k + 1) further] = [[]] := by
  rw [← length_digits 0x80 k n]
  exact followAll_replicate_further fun b hb => contains_further_of_mem_digits h hb

theorem ite_append_ite {α : Type} {P Q : Prop} [Decidable P] [Decidable Q] (h : ¬ (P ∧ Q))
    {as : List α} :
    (if P then as else []) ++ (if Q then as else []) = if P ∨ Q then as else [] := by
  by_cases hP : P
  · have hQ : ¬ Q := fun hQ => h ⟨hP, hQ⟩
    simp [hP, hQ]
  · simp [hP]

/-- A range in front of sequences adds a condition on the first byte. -/
theorem followAll_block {b first last : Nat} {bytes : List Nat}
    {seqs : List (List ByteRange)} {P Q : Prop} [Decidable P] [Decidable Q]
    (hseqs : followAll bytes seqs = if Q then [[]] else [])
    (hP : P ↔ (first ≤ b ∧ b ≤ last) ∧ Q) :
    followAll (b :: bytes) (seqs.map (⟨first, last⟩ :: ·)) = if P then [[]] else [] := by
  rw [followAll_map_cons, hseqs]
  by_cases hb : first ≤ b ∧ b ≤ last
  · have hPQ : Q ↔ P := by rw [hP, and_iff_right hb]
    rw [if_pos (contains_iff.2 hb)]
    exact if_congr hPQ rfl rfl
  · have hnot : ¬ P := fun h => hb (hP.1 h).1
    rw [if_neg (contains_iff.not.2 hb), if_neg hnot]

/-- The bytes of a code point follow one of the sequences if it lies between both ends, and none
otherwise. -/
theorem followAll_sequences {lead k lo hi : Nat} (h : lo ≤ hi) (n : Nat) :
    followAll (digits lead k n) (sequences lead k lo hi) =
      if lo ≤ n ∧ n ≤ hi then [[]] else [] := by
  induction k generalizing lead lo hi n with
  | zero =>
      have hnil : followAll [] [[]] = if True then [[]] else [] := rfl
      exact followAll_block hnil (by simp)
  | succ k ih =>
      have hu := unit_pos (k + 1)
      have hlo := le_iff_digits hu lo n
      have hhi := le_iff_digits hu n hi
      have hlohi := (le_iff_digits hu lo hi).1 h
      have hmod := Nat.mod_lt n hu
      have hmodlo := Nat.mod_lt lo hu
      have hmodhi := Nat.mod_lt hi hu
      -- The bytes behind the first one, where the first block, the last one or no block is cut.
      have hfurther : followAll (digits 0x80 k (n % unit (k + 1)))
          [List.replicate (k + 1) further] = if True then [[]] else [] := followAll_further hmod
      have hrest (lo' hi' : Nat) (hle : lo' ≤ hi') :
          followAll (digits 0x80 k (n % unit (k + 1))) (sequences 0x80 k lo' hi') =
            if lo' ≤ n % unit (k + 1) ∧ n % unit (k + 1) ≤ hi' then [[]] else [] := ih hle _
      have hwithin := hrest (lo % unit (k + 1)) (hi % unit (k + 1))
      have habove := hrest (lo % unit (k + 1)) (unit (k + 1) - 1) (by omega)
      have hbelow := hrest 0 (hi % unit (k + 1)) (Nat.zero_le _)
      clear hrest
      rw [digits, sequences]
      generalize unit (k + 1) = u at *
      generalize n / u = q, lo / u = a, hi / u = b at *
      generalize n % u = x, lo % u = y, hi % u = z at *
      split
      · exact followAll_block hfurther (by rw [and_true]; omega)
      · split
        · exact followAll_block (hwithin (by omega)) (by omega)
        · next hsame =>
            have hab : a < b := by omega
            have hbetween : followAll ((lead + q) :: digits 0x80 k x)
                (if lead + a + 1 < lead + b then
                    [⟨lead + a + 1, lead + b - 1⟩ :: List.replicate (k + 1) further]
                  else []) = if a < q ∧ q < b then [[]] else [] := by
              split
              · exact followAll_block hfurther (by rw [and_true]; omega)
              · rw [followAll_nil, if_neg (by omega)]
            have hfirst : followAll ((lead + q) :: digits 0x80 k x)
                ((sequences 0x80 k y (u - 1)).map (⟨lead + a, lead + a⟩ :: ·)) =
                  if q = a ∧ y ≤ x then [[]] else [] := followAll_block habove (by omega)
            have hlast : followAll ((lead + q) :: digits 0x80 k x)
                ((sequences 0x80 k 0 z).map (⟨lead + b, lead + b⟩ :: ·)) =
                  if q = b ∧ x ≤ z then [[]] else [] := followAll_block hbelow (by omega)
            rw [followAll_append, followAll_append, hfirst, hbetween, hlast]
            -- The three parts have no code point in common.
            rw [ite_append_ite (by omega), ite_append_ite (by omega)]
            exact if_congr (by omega) rfl rfl

/-- Sequences are as long as what they write, with first bytes between those of both ends. -/
theorem exists_of_mem_sequences {lead k lo hi : Nat} (h : lo ≤ hi) {seq : List ByteRange}
    (hseq : seq ∈ sequences lead k lo hi) :
    ∃ r rest, seq = r :: rest ∧ rest.length = k ∧ lead + lo / unit k ≤ r.lo ∧
      r.hi ≤ lead + hi / unit k := by
  induction k generalizing lead lo hi seq with
  | zero =>
      cases List.mem_singleton.1 hseq
      exact ⟨_, [], rfl, rfl, by simp [unit], by simp [unit]⟩
  | succ k ih =>
      have hu := unit_pos (k + 1)
      have hmod := Nat.mod_lt lo hu
      have hdiv := Nat.div_le_div_right (c := unit (k + 1)) h
      have hrest {lo' hi' : Nat} (hle : lo' ≤ hi') {r : ByteRange}
          (hmem : seq ∈ (sequences 0x80 k lo' hi').map (r :: ·)) :
          ∃ rest, seq = r :: rest ∧ rest.length = k + 1 := by
        rcases List.mem_map.1 hmem with ⟨rest, hinner, rfl⟩
        rcases ih hle hinner with ⟨_, _, rfl, hlength, -⟩
        exact ⟨_, rfl, congrArg (· + 1) hlength⟩
      have hlohi := (le_iff_digits hu lo hi).1 h
      rw [sequences] at hseq
      generalize unit (k + 1) = u at *
      generalize lo / u = a, hi / u = b, lo % u = y, hi % u = z at *
      split at hseq
      · cases List.mem_singleton.1 hseq
        exact ⟨_, _, rfl, List.length_replicate, Nat.le_refl _, Nat.le_refl _⟩
      · split at hseq
        · rcases hrest (by omega) hseq with ⟨rest, rfl, hlength⟩
          exact ⟨_, rest, rfl, hlength, Nat.le_refl _, by dsimp only; omega⟩
        · rcases List.mem_append.1 hseq with hseq | hseq
          · rcases List.mem_append.1 hseq with hseq | hseq
            · rcases hrest (by omega) hseq with ⟨rest, rfl, hlength⟩
              exact ⟨_, rest, rfl, hlength, Nat.le_refl _, by dsimp only; omega⟩
            · split at hseq
              · cases List.mem_singleton.1 hseq
                exact ⟨_, _, rfl, List.length_replicate, by dsimp only; omega,
                  by dsimp only; omega⟩
              · cases hseq
          · rcases hrest (Nat.zero_le _) hseq with ⟨rest, rfl, hlength⟩
            exact ⟨_, rest, rfl, hlength, by dsimp only; omega, Nat.le_refl _⟩

end ByteRange

/-! ## Forms -/

namespace Utf8Form

/-- Forms with different numbers of bytes have neither code points nor first bytes in common. -/
theorem apart : ∀ f ∈ all, ∀ g ∈ all, (f.lead = g.lead ∧ f.more = g.more) ∨
    (f.last < g.first ∧
      f.lead + f.last / ByteRange.unit f.more < g.lead + g.first / ByteRange.unit g.more) ∨
    (g.last < f.first ∧
      g.lead + g.last / ByteRange.unit g.more < f.lead + f.first / ByteRange.unit f.more) := by
  unfold all
  decide

/-- The first bytes of a form start a character. -/
theorem starts : ∀ f ∈ all, f.lead + f.last / ByteRange.unit f.more < 0x80 ∨ 0xC0 ≤ f.lead := by
  unfold all
  decide

variable {f g : Utf8Form} {n : Nat} {r : CodeRange}

/-- A sequence that goes on behind the first byte of a code point is for its number of bytes. -/
theorem same_of_follow (hf : f ∈ all) (hg : g ∈ all) (hfirst : f.first ≤ n) (hlast : n ≤ f.last)
    {seq rest : List ByteRange} (hseq : seq ∈ g.sequences r)
    (hfollow : ByteRange.follow? (f.lead + n / ByteRange.unit f.more) seq = some rest) :
    (f.lead = g.lead ∧ f.more = g.more) ∧ rest.length = g.more := by
  rw [sequences] at hseq
  split at hseq
  case isFalse => cases hseq
  next hle =>
  rcases ByteRange.exists_of_mem_sequences hle hseq with ⟨range, rest', rfl, hmore, hlo, hhi⟩
  rw [ByteRange.follow?] at hfollow
  split at hfollow
  case isFalse => cases hfollow
  next hcontains =>
  cases hfollow
  rw [ByteRange.contains_iff] at hcontains
  refine ⟨?_, hmore⟩
  -- The bounds of both forms are kept by the first bytes.
  have hfirst' := Nat.div_le_div_right (c := ByteRange.unit f.more) hfirst
  have hlast' := Nat.div_le_div_right (c := ByteRange.unit f.more) hlast
  have hlo' := Nat.div_le_div_right (c := ByteRange.unit g.more) (Nat.le_max_right r.lo g.first)
  have hhi' := Nat.div_le_div_right (c := ByteRange.unit g.more) (Nat.min_le_right r.hi g.last)
  rcases apart f hf g hg with hsame | ⟨-, hlt⟩ | ⟨-, hlt⟩
  · exact hsame
  · omega
  · omega

theorem followAll_sequences (hf : f ∈ all) (hg : g ∈ all) (hfirst : f.first ≤ n)
    (hlast : n ≤ f.last) (r : CodeRange) :
    ByteRange.followAll (ByteRange.digits f.lead f.more n) (g.sequences r) =
      if (g.first ≤ n ∧ n ≤ g.last) ∧ r.lo ≤ n ∧ n ≤ r.hi then [[]] else [] := by
  by_cases hsame : f.lead = g.lead ∧ f.more = g.more
  · rw [hsame.1, hsame.2, sequences]
    split
    · next hle =>
        rw [ByteRange.followAll_sequences hle]
        exact if_congr (by omega) rfl rfl
    · rw [ByteRange.followAll_nil, if_neg (by omega)]
  · obtain ⟨rest, hdigits⟩ := List.head?_eq_some_iff.1 (ByteRange.head?_digits f.lead f.more n)
    have hnone : (g.sequences r).filterMap
        (ByteRange.follow? (f.lead + n / ByteRange.unit f.more)) = [] := by
      refine List.filterMap_eq_nil_iff.2 fun seq hseq => ?_
      refine Option.eq_none_iff_forall_ne_some.2 fun rest hrest => ?_
      exact hsame (same_of_follow hf hg hfirst hlast hseq hrest).1
    have hout : ¬ (g.first ≤ n ∧ n ≤ g.last) := by
      rcases apart f hf g hg with h | ⟨h, -⟩ | ⟨h, -⟩
      · exact absurd h hsame
      · omega
      · omega
    rw [hdigits, ByteRange.followAll_cons, hnone, ByteRange.followAll_nil,
      if_neg fun h => hout h.1]

end Utf8Form

/-! ## Characters -/

/-- Each character has a form. -/
theorem exists_charBytes_eq (c : Char) :
    ∃ f ∈ Utf8Form.all, f.first ≤ c.toNat ∧ c.toNat ≤ f.last ∧
      charBytes c = ByteRange.digits f.lead f.more c.toNat := by
  have hvalid : c.toNat < 0xD800 ∨ 0xDFFF < c.toNat ∧ c.toNat < 0x110000 := c.valid
  have hencode : String.utf8EncodeChar c =
      if c.toNat ≤ 0x7F then [UInt8.ofNat c.toNat]
      else if c.toNat ≤ 0x7FF then
        [UInt8.ofNat (c.toNat / 64 % 32 + 0xC0), UInt8.ofNat (c.toNat % 64 + 0x80)]
      else if c.toNat ≤ 0xFFFF then
        [UInt8.ofNat (c.toNat / 4096 % 16 + 0xE0), UInt8.ofNat (c.toNat / 64 % 64 + 0x80),
          UInt8.ofNat (c.toNat % 64 + 0x80)]
      else
        [UInt8.ofNat (c.toNat / 262144 % 8 + 0xF0), UInt8.ofNat (c.toNat / 4096 % 64 + 0x80),
          UInt8.ofNat (c.toNat / 64 % 64 + 0x80), UInt8.ofNat (c.toNat % 64 + 0x80)] := rfl
  rw [charBytes, hencode]
  generalize c.toNat = n at hvalid
  split
  · refine ⟨⟨0, 0x7F, 0, 0⟩, by simp [Utf8Form.all], Nat.zero_le n, ‹_›, ?_⟩
    simp only [List.map_cons, List.map_nil, UInt8.toNat_ofNat', ByteRange.digits, List.cons.injEq,
      and_true]
    omega
  · split
    · refine ⟨⟨0x80, 0x7FF, 0xC0, 1⟩, by simp [Utf8Form.all], by dsimp only; omega, ‹_›, ?_⟩
      simp only [List.map_cons, List.map_nil, UInt8.toNat_ofNat', ByteRange.digits,
        ByteRange.unit, List.cons.injEq, and_true]
      omega
    · split
      · have hdigits : List.map UInt8.toNat [UInt8.ofNat (n / 4096 % 16 + 0xE0),
            UInt8.ofNat (n / 64 % 64 + 0x80), UInt8.ofNat (n % 64 + 0x80)] =
              ByteRange.digits 0xE0 2 n := by
          simp only [List.map_cons, List.map_nil, UInt8.toNat_ofNat', ByteRange.digits,
            ByteRange.unit, List.cons.injEq, and_true]
          omega
        -- The code points between the two forms are no characters.
        rcases hvalid with hvalid | hvalid
        · exact ⟨⟨0x800, 0xD7FF, 0xE0, 2⟩, by simp [Utf8Form.all], by dsimp only; omega,
            by dsimp only; omega, hdigits⟩
        · exact ⟨⟨0xE000, 0xFFFF, 0xE0, 2⟩, by simp [Utf8Form.all], by dsimp only; omega,
            by dsimp only; omega, hdigits⟩
      · refine ⟨⟨0x10000, 0x10FFFF, 0xF0, 3⟩, by simp [Utf8Form.all], by dsimp only; omega,
          by dsimp only; omega, ?_⟩
        simp only [List.map_cons, List.map_nil, UInt8.toNat_ofNat', ByteRange.digits,
          ByteRange.unit, List.cons.injEq, and_true]
        omega

theorem length_charBytes (c : Char) : (charBytes c).length = c.utf8Size := by
  rw [charBytes, List.length_map, String.length_utf8EncodeChar]

/-- The first byte of a character starts one, and the others go on with it. -/
theorem exists_charBytes_eq_cons (c : Char) :
    ∃ b bytes, charBytes c = b :: bytes ∧ (b < 0x80 ∨ 0xC0 ≤ b) ∧
      ∀ b' ∈ bytes, ByteRange.further.contains b' = true := by
  rcases exists_charBytes_eq c with ⟨f, hf, -, hlast, hbytes⟩
  have hdiv := Nat.div_le_div_right (c := ByteRange.unit f.more) hlast
  have hstart : f.lead + c.toNat / ByteRange.unit f.more < 0x80 ∨
      0xC0 ≤ f.lead + c.toNat / ByteRange.unit f.more := by
    rcases Utf8Form.starts f hf with h | h
    · exact .inl (Nat.lt_of_le_of_lt (Nat.add_le_add_left hdiv f.lead) h)
    · exact .inr (Nat.le_add_right_of_le h)
  rw [hbytes]
  cases hmore : f.more with
  | zero =>
      rw [hmore] at hstart
      exact ⟨_, [], rfl, by simpa [ByteRange.unit] using hstart, by simp⟩
  | succ k =>
      rw [hmore] at hstart
      have hmod := Nat.mod_lt c.toNat (ByteRange.unit_pos (k + 1))
      exact ⟨_, _, rfl, hstart, fun b' hb' => ByteRange.contains_further_of_mem_digits hmod hb'⟩

/-! ## Ranges and sets -/

theorem CodeRange.followAll_sequences (r : CodeRange) (c : Char) :
    ByteRange.followAll (charBytes c) r.sequences =
      if r.lo ≤ c.toNat ∧ c.toNat ≤ r.hi then [[]] else [] := by
  have hvalid : c.toNat < 0xD800 ∨ 0xDFFF < c.toNat ∧ c.toNat < 0x110000 := c.valid
  obtain ⟨f, hf, hfirst, hlast, hbytes⟩ := exists_charBytes_eq c
  have hform (g : Utf8Form) (hg : g ∈ Utf8Form.all) :=
    Utf8Form.followAll_sequences hf hg hfirst hlast r
  rw [hbytes, sequences, ByteRange.followAll_flatMap, List.flatMap_def,
    List.map_congr_left hform]
  simp only [Utf8Form.all, List.map_cons, List.map_nil, List.flatten_cons, List.flatten_nil,
    List.append_nil]
  -- The code point has one form only.
  repeat rw [ByteRange.ite_append_ite (by omega)]
  exact if_congr (by omega) rfl rfl

theorem CodeRange.length_of_mem_follow {r : CodeRange} {c : Char} {b : Nat} {bytes : List Nat}
    (hbytes : charBytes c = b :: bytes) {rest : List ByteRange}
    (hrest : rest ∈ r.sequences.filterMap (ByteRange.follow? b)) :
    rest.length = bytes.length := by
  obtain ⟨f, hf, hfirst, hlast, hdigits⟩ := exists_charBytes_eq c
  rw [hbytes] at hdigits
  have hlength := ByteRange.length_digits f.lead f.more c.toNat
  have hb := ByteRange.head?_digits f.lead f.more c.toNat
  rw [← hdigits] at hlength hb
  cases hb
  rcases List.mem_filterMap.1 hrest with ⟨seq, hseq, hfollow⟩
  rcases List.mem_flatMap.1 hseq with ⟨g, hg, hseq⟩
  rcases Utf8Form.same_of_follow hf hg hfirst hlast hseq hfollow with ⟨⟨-, hmore⟩, hrest'⟩
  rw [hrest', ← hmore]
  exact (Nat.succ.inj hlength).symm

theorem AscendingFrom.lo_le_hi {bound : Nat} {ranges : List CodeRange}
    (h : AscendingFrom bound ranges) : ∀ r ∈ ranges, r.lo ≤ r.hi := by
  induction ranges generalizing bound with
  | nil => simp
  | cons r rest ih =>
      obtain ⟨-, hr, hrest⟩ := h
      exact List.forall_mem_cons.2 ⟨hr, ih hrest⟩

/-- At most one of ascending ranges holds a character. -/
theorem CodeRange.followAll_flatMap_sequences (c : Char) {bound : Nat} {ranges : List CodeRange}
    (h : AscendingFrom bound ranges) :
    ByteRange.followAll (charBytes c) (ranges.flatMap sequences) =
      if listContains c.toNat ranges then [[]] else [] := by
  induction ranges generalizing bound with
  | nil => exact ByteRange.followAll_nil _
  | cons r rest ih =>
      obtain ⟨-, hr, hrest⟩ := h
      -- Ranges that come later lie above this one.
      have habove := le_of_listContains (n := c.toNat) hrest
      have hapart : ¬ ((r.lo ≤ c.toNat ∧ c.toNat ≤ r.hi) ∧
          listContains c.toNat rest = true) := by
        rintro ⟨⟨-, hle⟩, hlater⟩
        have hlt := habove hlater
        omega
      rw [List.flatMap_cons, ByteRange.followAll_append, r.followAll_sequences, ih hrest,
        ByteRange.ite_append_ite hapart]
      refine if_congr ?_ rfl rfl
      rw [listContains_cons]
      constructor
      · rintro (⟨hlo, hhi⟩ | hlater)
        · exact ⟨hlo, .inl hhi⟩
        · exact ⟨by have hlt := habove hlater; omega, .inr hlater⟩
      · rintro ⟨hlo, hhi | hlater⟩
        · exact .inl ⟨hlo, hhi⟩
        · exact .inr hlater

namespace CharSet

variable {s : CharSet}

theorem followAll_sequences (s : CharSet) (c : Char) :
    ByteRange.followAll (charBytes c) s.sequences = if s.contains c then [[]] else [] :=
  CodeRange.followAll_flatMap_sequences c s.ascending

theorem length_of_mem_follow {c : Char} {b : Nat} {bytes : List Nat}
    (hbytes : charBytes c = b :: bytes) {rest : List ByteRange}
    (hrest : rest ∈ s.sequences.filterMap (ByteRange.follow? b)) :
    rest.length = bytes.length := by
  rcases List.mem_filterMap.1 hrest with ⟨seq, hseq, hfollow⟩
  rcases List.mem_flatMap.1 hseq with ⟨r, -, hseq⟩
  exact CodeRange.length_of_mem_follow hbytes (List.mem_filterMap.2 ⟨seq, hseq, hfollow⟩)

/-- A byte of ASCII is a character of its own. -/
theorem sequences_of_isAscii (h : s.isAscii = true) :
    s.sequences = s.ranges.map fun r => [⟨r.lo, r.hi⟩] := by
  rw [isAscii, List.all_eq_true] at h
  have hone (r : CodeRange) (hr : r ∈ s.ranges) : r.sequences = [[⟨r.lo, r.hi⟩]] := by
    have hle := s.ascending.lo_le_hi r hr
    have hascii : r.hi ≤ 0x7F := by simpa using h r hr
    -- Only the form with one byte has code points of the range.
    have hother (f : Utf8Form) (hf : 0x7F < f.first) : f.sequences r = [] :=
      if_neg (by omega)
    have hfirst : Utf8Form.sequences ⟨0, 0x7F, 0, 0⟩ r = [[⟨r.lo, r.hi⟩]] := by
      have hhi : min r.hi 0x7F = r.hi := by omega
      simp [Utf8Form.sequences, hhi, hle, ByteRange.sequences]
    simp [CodeRange.sequences, Utf8Form.all, hfirst, hother]
  rw [sequences, List.map_eq_flatMap, List.flatMap_def, List.flatMap_def,
    List.map_congr_left hone]

end CharSet

end PriorityLexer
