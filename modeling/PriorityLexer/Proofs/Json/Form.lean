import PriorityLexer.Json.Node

/-!
# Form — JSON texts as they are written

A form says everything about a text: its white space, how each character of a string is escaped, the
parts of its numbers, the order of its keys.  Only well-formed texts have a form.

* `Space` — white space;
* `Piece`, `StringForm` — the characters of a string, each written in one of several ways;
* `NumberForm` — the parts of a number;
* `Form` — texts, with `Form.text` and `Form.value?`;
* `Form.node` — the tree that a form is read into;
* `Form.depth` — how deep containers are nested.
-/

namespace PriorityLexer.Json

/-- White space. -/
abbrev Space := { cs : List Char // ∀ c ∈ cs, isSpace c = true }

/-! ## Strings -/

/-- Four hexadecimal digits with their number. -/
structure Quad where
  (a b c d : Char)
  number : Nat
  reads : hexNumber? a b c d = some number

/-- The escape with these digits. -/
def Quad.text (q : Quad) : List Char := ['\\', 'u', q.a, q.b, q.c, q.d]

/-- The characters that stand for themselves. -/
def isPlain (c : Char) : Bool := c ≠ '"' && c ≠ '\\' && 0x20 ≤ c.toNat

/-- One character of a string. -/
inductive Piece where
  | plain (c : Char) (h : isPlain c = true)
  | short (letter c : Char) (h : escaped? letter = some c)
  | code (q : Quad) (h : isLead q.number = false ∧ isTrail q.number = false)
  | pair (lead trail : Quad) (h : isLead lead.number = true ∧ isTrail trail.number = true)

namespace Piece

def text : Piece → List Char
  | plain c _ => [c]
  | short letter _ _ => ['\\', letter]
  | code q _ => q.text
  | pair lead trail _ => lead.text ++ trail.text

def char : Piece → Char
  | plain c _ => c
  | short _ c _ => c
  | code q _ => .ofNat q.number
  | pair lead trail _ => .ofNat (0x10000 + (lead.number - 0xD800) * 0x400 + (trail.number - 0xDC00))

def units : Piece → List CodeUnit
  | plain c _ => [.char c]
  | short _ c _ => [.char c]
  | code q _ => [.code q.number]
  | pair lead trail _ => [.code lead.number, .code trail.number]

end Piece

structure StringForm where
  pieces : List Piece

namespace StringForm

/-- What stands between the quotation marks. -/
def inner (s : StringForm) : List Char := s.pieces.flatMap Piece.text

def text (s : StringForm) : List Char := '"' :: s.inner ++ ['"']

def value (s : StringForm) : String := .ofList (s.pieces.map Piece.char)

end StringForm

/-! ## Numbers -/

inductive PowerSign where
  | absent | plus | minus
deriving DecidableEq, Repr

def PowerSign.text : PowerSign → List Char
  | .absent => []
  | .plus => ['+']
  | .minus => ['-']

/-- The power of ten behind a number. -/
structure PowerForm where
  letter : Char
  sign : PowerSign
  digits : List Char
  letter_eq : letter = 'e' ∨ letter = 'E'
  digits_ne : digits ≠ []
  isDigit_digits : ∀ c ∈ digits, isDigit c = true

namespace PowerForm

def text (p : PowerForm) : List Char := p.letter :: p.sign.text ++ p.digits

def power (p : PowerForm) : Power := ⟨p.sign = .minus, p.digits⟩

end PowerForm

/-- The parts of a number; it has no fraction if there are no digits behind the point. -/
structure NumberForm where
  negative : Bool
  whole : List Char
  fraction : List Char
  power : Option PowerForm
  whole_ne : whole ≠ []
  isDigit_whole : ∀ c ∈ whole, isDigit c = true
  /-- A zero is not followed by another digit. -/
  eq_of_zero : whole.head? = some '0' → whole = ['0']
  isDigit_fraction : ∀ c ∈ fraction, isDigit c = true

namespace NumberForm

def fractionText (n : NumberForm) : List Char :=
  if n.fraction = [] then [] else '.' :: n.fraction

def powerText (n : NumberForm) : List Char :=
  (n.power.map PowerForm.text).getD []

def text (n : NumberForm) : List Char :=
  (if n.negative then ['-'] else []) ++ n.whole ++ n.fractionText ++ n.powerText

def numeral (n : NumberForm) : Numeral :=
  ⟨n.negative, n.whole, n.fraction, n.power.map PowerForm.power⟩

end NumberForm

/-! ## Values -/

mutual

/-- A value as it is written; `inner` is the white space behind an opening bracket. -/
inductive Form where
  | null
  | bool (b : Bool)
  | number (n : NumberForm)
  | string (s : StringForm)
  | array (inner : Space) (items : Items)
  | object (inner : Space) (entries : Entries)

/-- The items of an array, with the white space around each. -/
inductive Items where
  | nil
  | cons (before : Space) (item : Form) (after : Space) (rest : Items)

/-- The entries of an object; white space may stand before and behind the colon as well. -/
inductive Entries where
  | nil
  | cons (before : Space) (key : StringForm) (middle gap : Space) (value : Form) (after : Space)
      (rest : Entries)

end

/-- A comma, except at the start. -/
def comma (started : Bool) : List Char := if started then [','] else []

mutual

def Form.text : Form → List Char
  | .null => "null".toList
  | .bool true => "true".toList
  | .bool false => "false".toList
  | .number n => n.text
  | .string s => s.text
  | .array inner items => '[' :: inner ++ (items.text false ++ [']'])
  | .object inner entries => '\x7b' :: inner ++ (entries.text false ++ ['\x7d'])

/-- The text of items, where `started` tells whether there are others before. -/
def Items.text (started : Bool) : Items → List Char
  | .nil => []
  | .cons before item after rest =>
    comma started ++ (before ++ (item.text ++ (after ++ rest.text true)))

def Entries.text (started : Bool) : Entries → List Char
  | .nil => []
  | .cons before key middle gap value after rest =>
    comma started ++ (before ++ (key.text ++ (middle ++ ':' ::
      (gap ++ (value.text ++ (after ++ rest.text true))))))

end

mutual

/-- The value of a form, unless it holds a number that is too large. -/
def Form.value? : Form → Option Value
  | .null => some .null
  | .bool b => some (.bool b)
  | .number n => n.numeral.value?.map .number
  | .string s => some (.string s.value)
  | .array _ items => items.values?.map .array
  | .object _ entries => entries.values?.map .object

def Items.values? : Items → Option (List Value)
  | .nil => some []
  | .cons _ item _ rest => do
    let v ← item.value?
    let vs ← rest.values?
    some (v :: vs)

def Entries.values? : Entries → Option (List (String × Value))
  | .nil => some []
  | .cons _ key _ _ value _ rest => do
    let v ← value.value?
    let vs ← rest.values?
    some ((key.value, v) :: vs)

end

theorem Form.value?_eq_string {f : Form} {s : String} (h : f.value? = some (.string s)) :
    ∃ form : StringForm, f = .string form ∧ form.value = s := by
  cases f <;> simp [Form.value?] at h
  case string form => exact ⟨form, rfl, h⟩

theorem Form.value?_eq_number {f : Form} {v : Number} (h : f.value? = some (.number v)) :
    ∃ n : NumberForm, f = .number n ∧ n.numeral.value? = some v := by
  cases f <;> simp [Form.value?] at h
  case number n => exact ⟨n, rfl, h⟩

theorem Form.value?_eq_object {f : Form} {es : List (String × Value)}
    (h : f.value? = some (.object es)) :
    ∃ inner entries, f = .object inner entries ∧ entries.values? = some es := by
  cases f <;> simp [Form.value?] at h
  case object inner entries => exact ⟨inner, entries, rfl, h⟩

mutual

def Form.depth : Form → Nat
  | .null | .bool _ | .number _ | .string _ => 0
  | .array _ items => items.depth + 1
  | .object _ entries => entries.depth + 1

def Items.depth : Items → Nat
  | .nil => 0
  | .cons _ item _ rest => max item.depth rest.depth

def Entries.depth : Entries → Nat
  | .nil => 0
  | .cons _ _ _ _ value _ rest => max value.depth rest.depth

end

def Items.toList : Items → List Form
  | .nil => []
  | .cons _ item _ rest => item :: rest.toList

def Entries.toList : Entries → List (StringForm × Form)
  | .nil => []
  | .cons _ key _ _ value _ rest => (key, value) :: rest.toList

/-- The value of an object has the keys of its entries. -/
theorem Entries.map_key_toList {entries : Entries} {es : List (String × Value)}
    (h : entries.values? = some es) :
    entries.toList.map (fun e => e.1.value) = es.map (·.1) := by
  fun_induction Entries.toList entries generalizing es with
  | case1 =>
      cases h
      rfl
  | case2 before key middle gap value after more ih =>
      rcases Option.bind_eq_some_iff.1 h with ⟨v, hv, h⟩
      rcases Option.bind_eq_some_iff.1 h with ⟨vs, hvs, ⟨⟩⟩
      rw [List.map_cons, List.map_cons, ih hvs]

/-- The values under keys of these names, in their order. -/
def Entries.under (names : List String) (entries : Entries) : List Form :=
  (entries.toList.filter fun e => names.contains e.1.value).map (·.2)

theorem Items.exists_of_toList_cons {items : Items} {f : Form} {fs : List Form}
    (h : items.toList = f :: fs) :
    ∃ before after more, items = .cons before f after more ∧ more.toList = fs := by
  cases items with
  | nil => cases h
  | cons before item after more =>
      cases h
      exact ⟨before, after, more, rfl, rfl⟩

theorem Items.eq_nil_of_toList {items : Items} (h : items.toList = []) : items = .nil := by
  cases items with
  | nil => rfl
  | cons before item after more => cases h

theorem Entries.exists_of_toList_cons {entries : Entries} {key : StringForm} {f : Form}
    {es : List (StringForm × Form)} (h : entries.toList = (key, f) :: es) :
    ∃ before middle gap after more,
      entries = .cons before key middle gap f after more ∧ more.toList = es := by
  cases entries with
  | nil => cases h
  | cons before key middle gap value after more =>
      cases h
      exact ⟨before, middle, gap, after, more, rfl, rfl⟩

theorem Entries.eq_nil_of_toList {entries : Entries} (h : entries.toList = []) :
    entries = .nil := by
  cases entries with
  | nil => rfl
  | cons before key middle gap value after more => cases h

theorem Entries.exists_of_toList_singleton {entries : Entries} {key : StringForm} {f : Form}
    (h : entries.toList = [(key, f)]) :
    ∃ before middle gap after, entries = .cons before key middle gap f after .nil := by
  obtain ⟨before, middle, gap, after, more, rfl, hmore⟩ := exists_of_toList_cons h
  cases eq_nil_of_toList hmore
  exact ⟨before, middle, gap, after, rfl⟩

section

variable {names : List String} {before middle gap after : Space} {key : StringForm} {value : Form}
  {more : Entries}

theorem Entries.under_cons_of_mem (h : key.value ∈ names) :
    (Entries.cons before key middle gap value after more).under names =
      value :: more.under names := by
  simp [Entries.under, Entries.toList, h]

theorem Entries.under_cons_of_not_mem (h : key.value ∉ names) :
    (Entries.cons before key middle gap value after more).under names = more.under names := by
  simp [Entries.under, Entries.toList, h]

end

/-! ## Trees -/

def NumberForm.node (n : NumberForm) : Node :=
  match n.numeral.value? with
  | some v => .number v
  | none => .valueless

/-- The text of entries behind the quotation mark of the first key, and what follows. -/
def Entries.unquoted (rest : List Char) : Entries → List Char
  | .nil => rest
  | .cons _ key middle gap value after more =>
    key.inner ++ '"' :: (middle ++ ':' :: (gap ++ (value.text ++ (after ++
      (more.text true ++ rest)))))

/-- The text of entries starts with the quotation mark of the first key. -/
theorem Entries.text_cons (behind : Bool) (before : Space) (key : StringForm) (middle gap : Space)
    (value : Form) (after : Space) (more : Entries) (rest : List Char) :
    (Entries.cons before key middle gap value after more).text behind ++ rest =
      comma behind ++ (before ++ '"' ::
        (Entries.cons before key middle gap value after more).unquoted rest) := by
  simp [Entries.text, StringForm.text, Entries.unquoted]

mutual

/-- The tree of a form that is followed by `rest`. -/
def Form.node (rest : List Char) : Form → Node
  | .null => .null
  | .bool b => .bool b
  | .number n => n.node
  | .string s => .string s.value
  | .array _ items => .array (items.nodes (']' :: rest)) none
  | .object _ entries => .object (entries.nodes ('\x7d' :: rest)) none

def Items.nodes (rest : List Char) : Items → List Node
  | .nil => []
  | .cons _ item after more => item.node (after ++ (more.text true ++ rest)) :: more.nodes rest

def Entries.nodes (rest : List Char) : Entries → List (Key × Node)
  | .nil => []
  | .cons before key middle gap value after more =>
    (⟨(Entries.cons before key middle gap value after more).unquoted rest, .text key.value⟩,
      value.node (after ++ (more.text true ++ rest))) :: more.nodes rest

end

end PriorityLexer.Json
