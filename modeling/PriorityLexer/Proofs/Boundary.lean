import PriorityLexer.Lexer
import PriorityLexer.Proofs.Run

/-!
# Boundary — offsets between characters and the texts between them

* `IsBoundary` — an offset that no character contains;
* `IsSlice` — the text between two offsets of an input;
* `place?_eq_some_iff` — the place at an offset divides the input there;
* `Program.length_le_of_search?` — a match stays within the text.
-/

namespace PriorityLexer

/-- The offset lies between two characters of the input, or at its start or end. -/
def IsBoundary (input : String) (offset : Nat) : Prop :=
  ∃ before after : String, input = before ++ after ∧ before.utf8ByteSize = offset

/-- The text of the input between two offsets. -/
def IsSlice (input : String) (start stop : Nat) (image : String) : Prop :=
  ∃ before after : String, input = before ++ image ++ after ∧ before.utf8ByteSize = start ∧
    (before ++ image).utf8ByteSize = stop

namespace IsSlice

variable {input image : String} {start stop : Nat}

theorem isBoundary_start (h : IsSlice input start stop image) : IsBoundary input start := by
  rcases h with ⟨before, after, hinput, hstart, -⟩
  exact ⟨before, image ++ after, by rw [hinput, String.append_assoc], hstart⟩

theorem isBoundary_stop (h : IsSlice input start stop image) : IsBoundary input stop := by
  rcases h with ⟨before, after, hinput, -, hstop⟩
  exact ⟨before ++ image, after, hinput, hstop⟩

theorem start_add_size (h : IsSlice input start stop image) :
    start + image.utf8ByteSize = stop := by
  rcases h with ⟨before, after, -, rfl, rfl⟩
  exact String.utf8ByteSize_append.symm

theorem start_le_stop (h : IsSlice input start stop image) : start ≤ stop :=
  h.start_add_size ▸ Nat.le_add_right _ _

theorem le_size (h : IsSlice input start stop image) : stop ≤ input.utf8ByteSize := by
  rcases h with ⟨before, after, rfl, -, rfl⟩
  simp only [String.utf8ByteSize_append]
  omega

theorem toByteArray_eq (h : IsSlice input start stop image) :
    image.toByteArray = input.toByteArray.extract start stop := by
  rcases h with ⟨before, after, rfl, rfl, rfl⟩
  -- What comes behind does not matter, and what comes before is as long as the start says.
  have hall : (before ++ image ++ after).toByteArray =
      (before ++ image).toByteArray ++ after.toByteArray := String.toByteArray_append
  rw [hall, ← String.size_toByteArray, ← String.size_toByteArray,
    ByteArray.extract_append_size_left, String.toByteArray_append, ByteArray.size_append]
  exact (ByteArray.extract_append_eq_right rfl rfl).symm

end IsSlice

/-! ## Places -/

theorem byteLength_eq_utf8ByteSize (cs : List Char) :
    byteLength cs = (String.ofList cs).utf8ByteSize := by
  rw [← byteLength_toList, String.toList_ofList]

theorem byteLength_eq_zero_iff {cs : List Char} : byteLength cs = 0 ↔ cs = [] := by
  cases cs with
  | nil => simp [byteLength]
  | cons c cs =>
      have := c.utf8Size_pos
      simp [byteLength]
      omega

namespace Place

theorem find?_eq_some_iff {before : Option Char} {offset : Nat} {text : List Char} {p : Place} :
    find? before offset text = some p ↔
      ∃ passed, text = passed ++ p.after ∧ byteLength passed = offset ∧
        p.before = passed.getLast?.or before := by
  constructor
  · intro h
    induction text generalizing before offset with
    | nil =>
        simp only [find?] at h
        split at h
        · next h0 =>
            cases h
            exact ⟨[], rfl, h0.symm, rfl⟩
        · cases h
    | cons c cs ih =>
        simp only [find?] at h
        split at h
        · next h0 =>
            cases h
            exact ⟨[], rfl, h0.symm, rfl⟩
        · split at h
          · next hle =>
              rcases ih h with ⟨passed, htext, hlength, hbefore⟩
              refine ⟨c :: passed, by rw [htext]; rfl, by simp only [byteLength]; omega, ?_⟩
              rw [hbefore, List.getLast?_cons]
              cases passed.getLast? <;> rfl
          · cases h
  · intro hpassed
    rcases hpassed with ⟨passed, rfl, rfl, hbefore⟩
    induction passed generalizing before with
    | nil =>
        rcases p with ⟨b, a⟩
        simp only [List.getLast?_nil, Option.none_or] at hbefore
        simp [byteLength, find?_zero, hbefore]
    | cons c passed ih =>
        have hc := c.utf8Size_pos
        have hlast : p.before = passed.getLast?.or (some c) := by
          rw [hbefore, List.getLast?_cons]
          cases passed.getLast? <;> rfl
        rw [List.cons_append, find?, if_neg (by simp only [byteLength]; omega),
          if_pos (by simp only [byteLength]; omega), byteLength, Nat.add_sub_cancel_left]
        exact ih hlast

end Place

theorem place?_eq_some_iff {text : List Char} {offset : Nat} {p : Place} :
    place? text offset = some p ↔
      ∃ passed, text = passed ++ p.after ∧ byteLength passed = offset ∧
        p.before = passed.getLast? := by
  simp [place?, Place.find?_eq_some_iff]

theorem isBoundary_iff {input : String} {offset : Nat} :
    IsBoundary input offset ↔ ∃ p, place? input.toList offset = some p := by
  constructor
  · intro h
    rcases h with ⟨before, after, rfl, rfl⟩
    refine ⟨⟨before.toList.getLast?, after.toList⟩, place?_eq_some_iff.2 ⟨before.toList, ?_⟩⟩
    simp [byteLength_toList]
  · intro h
    rcases h with ⟨p, hp⟩
    rcases place?_eq_some_iff.1 hp with ⟨passed, htext, hlength, -⟩
    refine ⟨.ofList passed, .ofList p.after, ?_, ?_⟩
    · rw [← String.ofList_append, ← htext, String.ofList_toList]
    · rw [← byteLength_eq_utf8ByteSize, hlength]

/-- The text that some characters from a place on take. -/
theorem isSlice_take {input : String} {offset : Nat} {p : Place}
    (hp : place? input.toList offset = some p) (n : Nat) :
    IsSlice input offset (offset + byteLength (p.after.take n)) (.ofList (p.after.take n)) := by
  rcases place?_eq_some_iff.1 hp with ⟨passed, htext, hlength, -⟩
  refine ⟨.ofList passed, .ofList (p.after.drop n), ?_, ?_, ?_⟩
  · rw [← String.ofList_append, ← String.ofList_append, List.append_assoc, List.take_append_drop,
      ← htext, String.ofList_toList]
  · rw [← byteLength_eq_utf8ByteSize, hlength]
  · rw [← String.ofList_append, ← byteLength_eq_utf8ByteSize, byteLength_append, hlength]

/-! ## Matches -/

theorem Program.length_le_of_run {p : Program} {threads : List Nat} {before : Option Char}
    {text : List Char} {found : Program.Found} (h : p.run threads before text = some found) :
    found.length ≤ text.length := by
  induction text generalizing threads before found with
  | nil =>
      simp only [run, Option.map_eq_some_iff] at h
      rcases h with ⟨pattern, -, rfl⟩
      exact Nat.le_refl _
  | cons c rest ih =>
      simp only [run, Option.or_eq_some_iff, Option.map_eq_some_iff] at h
      rcases h with ⟨inner, hinner, rfl⟩ | ⟨-, pattern, -, rfl⟩
      · have := ih hinner
        simp only [Found.behind, List.length_cons]
        omega
      · exact Nat.zero_le _

theorem Program.length_le_of_search? {p : Program} {place : Place} {found : Program.Found}
    (h : p.search? place = some found) : found.length ≤ place.after.length :=
  length_le_of_run (search?_eq p place ▸ h)

end PriorityLexer
