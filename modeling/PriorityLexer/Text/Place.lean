/-!
# Place — places in a text, counted in bytes

Offsets count the bytes of the UTF-8 form of a text.  A place between two characters is kept as the
character before it and the characters behind it: nothing else can decide what matches there.

* `byteLength` — the number of bytes of a text;
* `Place` — a place between characters;
* `Place.move` — the place some characters further on;
* `place?` — the place at an offset, if the offset lies between characters.
-/

namespace PriorityLexer

def byteLength : List Char → Nat
  | [] => 0
  | c :: cs => c.utf8Size + byteLength cs

structure Place where
  before : Option Char
  after : List Char
deriving DecidableEq, Repr

namespace Place

def start (text : List Char) : Place := ⟨none, text⟩

/-- The place `n` characters further on. -/
def move : Nat → Place → Place
  | 0, p => p
  | n + 1, p =>
    match p.after with
    | [] => p
    | c :: cs => move n ⟨some c, cs⟩

/-- The place `offset` bytes behind the start of the text `after`. -/
def find? (before : Option Char) (offset : Nat) : List Char → Option Place
  | [] => if offset = 0 then some ⟨before, []⟩ else none
  | c :: cs =>
    if offset = 0 then some ⟨before, c :: cs⟩
    else if c.utf8Size ≤ offset then find? (some c) (offset - c.utf8Size) cs
    else none

end Place

/-- The place at an offset; there is none inside a character or past the end. -/
def place? (text : List Char) (offset : Nat) : Option Place :=
  Place.find? none offset text

/-! ## Lemmas -/

@[simp] theorem byteLength_append (a b : List Char) :
    byteLength (a ++ b) = byteLength a + byteLength b := by
  induction a with
  | nil => simp [byteLength]
  | cons c cs ih => simp [byteLength, ih, Nat.add_assoc]

/-- The bytes of a string. -/
theorem byteLength_toList (s : String) : byteLength s.toList = s.utf8ByteSize := by
  have h (l : List Char) : (String.ofList l).utf8ByteSize = byteLength l := by
    induction l with
    | nil => simp [byteLength]
    | cons c cs ih => simp [byteLength, ← ih, String.ofList_cons]
  simpa using (h s.toList).symm

namespace Place

theorem find?_zero (before : Option Char) (text : List Char) :
    find? before 0 text = some ⟨before, text⟩ := by
  cases text <;> simp [find?]

/-- A place found from another one. -/
theorem find?_add {before : Option Char} {offset : Nat} {text : List Char} {p : Place}
    (h : find? before offset text = some p) (n : Nat) :
    find? before (offset + n) text = find? p.before n p.after := by
  induction text generalizing before offset with
  | nil =>
      by_cases h0 : offset = 0
      · simp only [find?, h0, if_true, Option.some.injEq] at h
        subst h
        simp [h0]
      · simp [find?, h0] at h
  | cons c cs ih =>
      have hc := c.utf8Size_pos
      by_cases h0 : offset = 0
      · simp only [find?, h0, if_true, Option.some.injEq] at h
        subst h
        simp [h0]
      · simp only [find?, h0, if_false] at h
        split at h
        · next hle =>
            have := ih h
            rw [find?, if_neg (by omega), if_pos (by omega), ← this]
            congr 1
            omega
        · cases h

/-- Moving over characters adds their bytes to the offset. -/
theorem find?_byteLength_take (n : Nat) (p : Place) :
    find? p.before (byteLength (p.after.take n)) p.after = some (p.move n) := by
  induction n generalizing p with
  | zero => simp [byteLength, find?_zero, move]
  | succ n ih =>
      obtain ⟨before, after⟩ := p
      cases after with
      | nil => simp [byteLength, find?, move]
      | cons c cs =>
          have hc := c.utf8Size_pos
          have := ih ⟨some c, cs⟩
          simp only [List.take_succ_cons, byteLength, move] at this ⊢
          rw [find?, if_neg (by omega), if_pos (by omega), ← this]
          congr 1
          omega

end Place

theorem place?_add_byteLength_take {text : List Char} {offset : Nat} {p : Place}
    (h : place? text offset = some p) (n : Nat) :
    place? text (offset + byteLength (p.after.take n)) = some (p.move n) := by
  rw [place?, Place.find?_add h, Place.find?_byteLength_take]

end PriorityLexer
