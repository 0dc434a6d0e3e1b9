import PriorityLexer.CharSet

/-!
# Utf8 — characters and sets of characters as bytes

A character is written as one to four bytes.  The first one tells how many there are and holds the
highest digits of the code point; each of the others holds one digit of base 64.  A range of code
points is written by sequences of byte ranges, of which a text has to follow exactly one.

* `charBytes`, `textBytes` — the bytes of characters and texts;
* `isBoundaryAt` — whether a character starts at an offset, told by the byte that stands there;
* `ByteRange.sequences` — the sequences for code points that are written with the same first bits;
* `CodeRange.sequences`, `CharSet.sequences` — the sequences for any code points.
-/

namespace PriorityLexer

/-! ## Bytes -/

/-- The bytes of a character as numbers. -/
def charBytes (c : Char) : List Nat := (String.utf8EncodeChar c).map UInt8.toNat

def textBytes (text : List Char) : List Nat := text.flatMap charBytes

/-- Whether an offset lies between two characters or at the end.  Bytes from 80 to BF hex go on with
a character. -/
def isBoundaryAt (bytes : List Nat) (offset : Nat) : Bool :=
  match bytes[offset]? with
  | none => offset = bytes.length
  | some b => b < 0x80 || 0xC0 ≤ b

/-! ## Sequences -/

/-- The bytes from `lo` to `hi`, both included. -/
structure ByteRange where
  lo : Nat
  hi : Nat
deriving DecidableEq, Repr

namespace ByteRange

def contains (r : ByteRange) (b : Nat) : Bool := r.lo ≤ b && b ≤ r.hi

/-- What has to follow behind a byte, if a sequence goes on with it. -/
def follow? (b : Nat) : List ByteRange → Option (List ByteRange)
  | [] => none
  | r :: rest => if r.contains b then some rest else none

/-- All bytes that go on with a character. -/
def further : ByteRange := ⟨0x80, 0xBF⟩

/-- The number of code points that are written with the same bytes up to the last `k`. -/
def unit : Nat → Nat
  | 0 => 1
  | k + 1 => 64 * unit k

/-- The bytes of a code point, of which `k` follow the first one; `lead` is where the values of the
first one start. -/
def digits (lead : Nat) : Nat → Nat → List Nat
  | 0, n => [lead + n]
  | k + 1, n => (lead + n / unit (k + 1)) :: digits 0x80 k (n % unit (k + 1))

/-- The sequences that write the code points from `lo` to `hi`. -/
def sequences (lead : Nat) : Nat → Nat → Nat → List (List ByteRange)
  | 0, lo, hi => [[⟨lead + lo, lead + hi⟩]]
  | k + 1, lo, hi =>
    let u := unit (k + 1)
    let first := lead + lo / u
    let last := lead + hi / u
    -- Whole blocks of code points differ in the first byte alone.
    if lo % u = 0 ∧ hi % u + 1 = u then [⟨first, last⟩ :: List.replicate (k + 1) further]
    else if first = last then (sequences 0x80 k (lo % u) (hi % u)).map (⟨first, first⟩ :: ·)
    else
      -- Parts of the first and of the last block, and the whole blocks between them.
      (sequences 0x80 k (lo % u) (u - 1)).map (⟨first, first⟩ :: ·) ++
        (if first + 1 < last then [⟨first + 1, last - 1⟩ :: List.replicate (k + 1) further]
          else []) ++
        (sequences 0x80 k 0 (hi % u)).map (⟨last, last⟩ :: ·)

end ByteRange

/-- Code points that are written with the same number of bytes. -/
structure Utf8Form where
  first : Nat
  last : Nat
  /-- Where the values of the first byte start. -/
  lead : Nat
  /-- The number of the other bytes. -/
  more : Nat

/-- The code points from D800 to DFFF hex are no characters. -/
def Utf8Form.all : List Utf8Form :=
  [⟨0, 0x7F, 0, 0⟩, ⟨0x80, 0x7FF, 0xC0, 1⟩, ⟨0x800, 0xD7FF, 0xE0, 2⟩, ⟨0xE000, 0xFFFF, 0xE0, 2⟩,
    ⟨0x10000, 0x10FFFF, 0xF0, 3⟩]

/-- The sequences for the code points of a range that are written in this form. -/
def Utf8Form.sequences (form : Utf8Form) (r : CodeRange) : List (List ByteRange) :=
  let lo := max r.lo form.first
  let hi := min r.hi form.last
  if lo ≤ hi then ByteRange.sequences form.lead form.more lo hi else []

def CodeRange.sequences (r : CodeRange) : List (List ByteRange) :=
  Utf8Form.all.flatMap (·.sequences r)

/-- The well-formed sequences of bytes. -/
example : (CodeRange.mk 0 0x10FFFF).sequences =
    [[⟨0x00, 0x7F⟩],
      [⟨0xC2, 0xDF⟩, ⟨0x80, 0xBF⟩],
      [⟨0xE0, 0xE0⟩, ⟨0xA0, 0xBF⟩, ⟨0x80, 0xBF⟩],
      [⟨0xE1, 0xEC⟩, ⟨0x80, 0xBF⟩, ⟨0x80, 0xBF⟩],
      [⟨0xED, 0xED⟩, ⟨0x80, 0x9F⟩, ⟨0x80, 0xBF⟩],
      [⟨0xEE, 0xEF⟩, ⟨0x80, 0xBF⟩, ⟨0x80, 0xBF⟩],
      [⟨0xF0, 0xF0⟩, ⟨0x90, 0xBF⟩, ⟨0x80, 0xBF⟩, ⟨0x80, 0xBF⟩],
      [⟨0xF1, 0xF3⟩, ⟨0x80, 0xBF⟩, ⟨0x80, 0xBF⟩, ⟨0x80, 0xBF⟩],
      [⟨0xF4, 0xF4⟩, ⟨0x80, 0x8F⟩, ⟨0x80, 0xBF⟩, ⟨0x80, 0xBF⟩]] := by
  decide

def CharSet.sequences (s : CharSet) : List (List ByteRange) :=
  s.ranges.flatMap CodeRange.sequences

end PriorityLexer
