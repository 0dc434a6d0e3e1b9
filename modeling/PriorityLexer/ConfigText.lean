import PriorityLexer.Kind
import PriorityLexer.Options

/-!
# ConfigText — patterns, definitions, options and configurations in JSON

* a pattern is a string, which is meant as it stands, or an object with one entry `literal` or
  `regex`;
* a definition is an object with `kind`, also called `type`, and `pattern`, or an array of the two;
* definitions are an array of definitions, or an object of kinds with their patterns;
* options are an object with `ignoreCase`, also called `ignore_case`, or an array of that value;
* a configuration is an object with `tokens` and the keys of options beside it.

The parts are read from left to right up to the first error.  `room` is how deep containers may be
nested in the part at hand.
-/

namespace PriorityLexer

open Json

def mismatch {α : Type} (m : Mismatch) : Except ReadError α :=
  .error (.mismatch m)

/-! ## Patterns -/

def Pattern.noVariant : Mismatch :=
  .noVariant "untagged enum PatternRepr"

def Pattern.ofValue : Value → Except ReadError Pattern
  | .string s => .ok (.literal s)
  | .object [(key, .string s)] =>
    if key = "literal" then .ok (.literal s)
    else if key = "regex" then .ok (.regex s)
    else mismatch noVariant
  | _ => mismatch noVariant

/-- The whole value is taken in before its form is looked at. -/
def Pattern.ofNode (room : Nat) (n : Node) : Except ReadError Pattern := do
  let v ← orFlaw (n.read room)
  Pattern.ofValue v

/-! ## Definitions -/

namespace Definition

variable {κ : Type} [KindFormat κ]

def expected : String := "struct TokenDefinition"

/-- The fields read so far. -/
structure Fields (κ : Type) where
  kind : Option κ
  pattern : Option Pattern

def Fields.finish (f : Fields κ) : Except ReadError (Definition κ) :=
  match f.kind, f.pattern with
  | some kind, some pattern => .ok ⟨kind, pattern⟩
  | none, _ => mismatch (.missingField "kind")
  | some _, none => mismatch (.missingField "pattern")

/-- Reads one entry; a field that has been read is refused before its value is looked at. -/
def Fields.add (room : Nat) (f : Fields κ) (name : String) (n : Node) :
    Except ReadError (Fields κ) :=
  if name = "kind" ∨ name = "type" then
    match f.kind with
    | some _ => mismatch (.duplicateField "kind")
    | none => do
      let kind ← KindFormat.ofNode n
      .ok { f with kind := some kind }
  else if name = "pattern" then
    match f.pattern with
    | some _ => mismatch (.duplicateField "pattern")
    | none => do
      let pattern ← Pattern.ofNode room n
      .ok { f with pattern := some pattern }
  else do
    orFlaw n.skip
    .ok f

def ofEntries (room : Nat) (f : Fields κ) : List (Key × Node) → Except ReadError (Fields κ)
  | [] => .ok f
  | (key, n) :: entries => do
    let name ← key.readString
    let f ← f.add room name n
    ofEntries room f entries

/-- Reads the two elements of an array, and refuses any other number of them. -/
def ofItems (room : Nat) (items : List Node) (stop : Option Flaw) :
    Except ReadError (Definition κ) :=
  let short (n : Nat) : Except ReadError (Definition κ) := do
    orFlaw (readStop stop)
    mismatch (.invalidLength n (expected ++ " with 2 elements"))
  match items with
  | [] => short 0
  | k :: items => do
    let kind ← KindFormat.ofNode k
    match items with
    | [] => short 1
    | p :: items => do
      let pattern ← Pattern.ofNode room p
      match items with
      | [] => do
        orFlaw (readStop stop)
        .ok ⟨kind, pattern⟩
      -- The array should have ended at the comma.
      | _ :: _ => .error (.flaw .malformed)

def ofNode (room : Nat) (n : Node) : Except ReadError (Definition κ) :=
  match n with
  | .object entries stop => do
    let f ← ofEntries (room - 1) ⟨none, none⟩ entries
    orFlaw (readStop stop)
    f.finish
  | .array items stop => ofItems (room - 1) items stop
  | n => .error (n.unexpected expected)

end Definition

namespace Definitions

variable {κ : Type} [KindFormat κ]

def expected : String :=
  "a list of token definitions or a map of token names to patterns"

def ofItems (room : Nat) : List Node → Except ReadError (List (Definition κ))
  | [] => .ok []
  | n :: ns => do
    let d ← Definition.ofNode room n
    let ds ← ofItems room ns
    .ok (d :: ds)

def ofEntries (room : Nat) : List (Key × Node) → Except ReadError (List (Definition κ))
  | [] => .ok []
  | (key, n) :: entries => do
    let kind ← KindFormat.ofKey key
    let pattern ← Pattern.ofNode room n
    let ds ← ofEntries room entries
    .ok (⟨kind, pattern⟩ :: ds)

def ofNode (room : Nat) (n : Node) : Except ReadError (Definitions κ) :=
  match n with
  | .array items stop => do
    let ds ← ofItems (room - 1) items
    orFlaw (readStop stop)
    .ok (.ofList ds)
  | .object entries stop => do
    let ds ← ofEntries (room - 1) entries
    orFlaw (readStop stop)
    .ok (.ofList ds)
  | n => .error (n.unexpected expected)

end Definitions

/-! ## Options -/

namespace Options

def expected : String := "struct LexerOptions"

def isName (name : String) : Bool :=
  name = "ignoreCase" || name = "ignore_case"

/-- Takes the value of the only option, unless it has been read; `value` is read only then. -/
def add (seen : Option Bool) (value : Except ReadError Bool) : Except ReadError (Option Bool) :=
  match seen with
  | some _ => mismatch (.duplicateField "ignore_case")
  | none => do
    let b ← value
    .ok (some b)

def ofSeen (seen : Option Bool) : Options :=
  ⟨seen.getD Options.default.ignoreCase⟩

def ofEntries (seen : Option Bool) : List (Key × Node) → Except ReadError (Option Bool)
  | [] => .ok seen
  | (key, n) :: entries => do
    let name ← key.readString
    if isName name then
      let seen ← add seen n.readBool
      ofEntries seen entries
    else
      orFlaw n.skip
      ofEntries seen entries

def ofItems (items : List Node) (stop : Option Flaw) : Except ReadError Options :=
  match items with
  | [] => do
    orFlaw (readStop stop)
    .ok .default
  | n :: items => do
    let b ← n.readBool
    match items with
    | [] => do
      orFlaw (readStop stop)
      .ok ⟨b⟩
    | _ :: _ => .error (.flaw .malformed)

def ofNode (n : Node) : Except ReadError Options :=
  match n with
  | .object entries stop => do
    let seen ← ofEntries none entries
    orFlaw (readStop stop)
    .ok (ofSeen seen)
  | .array items stop => ofItems items stop
  | n => .error (n.unexpected expected)

/-- A boolean among values that have been taken in. -/
def boolOf : Value → Except ReadError Bool
  | .bool b => .ok b
  | v => mismatch (.invalidType v.shape "a boolean")

/-- Reads options from entries that have been taken in. -/
def ofValues (seen : Option Bool) : List (String × Value) → Except ReadError (Option Bool)
  | [] => .ok seen
  | (name, v) :: entries => do
    if isName name then
      let seen ← add seen (boolOf v)
      ofValues seen entries
    else ofValues seen entries

end Options

/-! ## Configurations -/

namespace Config

variable {κ : Type} [KindFormat κ]

def expected : String := "struct LexerConfig"

/-- The definitions, and the other entries in their order. -/
structure Fields (κ : Type) where
  tokens : Option (Definitions κ)
  others : List (String × Value)

/-- Reads the entries: definitions at once, and other values only as such. -/
def ofEntries (room : Nat) (tokens : Option (Definitions κ)) :
    List (Key × Node) → Except ReadError (Fields κ)
  | [] => .ok ⟨tokens, []⟩
  | (key, n) :: entries => do
    let name ← key.readString
    if name = "tokens" then
      match tokens with
      | some _ => mismatch (.duplicateField "tokens")
      | none => do
        let ds ← Definitions.ofNode room n
        ofEntries room (some ds) entries
    else
      -- What a key means is looked at when all entries have been read.
      let v ← orFlaw (n.read room)
      let fields ← ofEntries room tokens entries
      .ok { fields with others := (name, v) :: fields.others }

/-- Options come after the definitions. -/
def Fields.finish (f : Fields κ) : Except ReadError (Config κ) :=
  match f.tokens with
  | none => mismatch (.missingField "tokens")
  | some tokens => do
    let seen ← Options.ofValues none f.others
    .ok ⟨tokens, .ofSeen seen⟩

def ofNode (room : Nat) (n : Node) : Except ReadError (Config κ) :=
  match n with
  | .object entries stop => do
    let fields ← ofEntries (room - 1) none entries
    orFlaw (readStop stop)
    fields.finish
  | n => .error (n.unexpected expected)

end Config

/-! ## Texts -/

/-- Reads a text with a reader of nodes; nothing but white space may follow. -/
def readText {α : Type} (reader : Node → Except ReadError α) (text : String) :
    Except ReadError α := do
  let d := Document.ofText text.toList
  let a ← reader d.root
  orFlaw d.finish
  .ok a

def Pattern.ofText (text : String) : Except ReadError Pattern :=
  readText (Pattern.ofNode Json.nestLimit) text

def Options.ofText (text : String) : Except ReadError Options :=
  readText Options.ofNode text

section

variable {κ : Type} [KindFormat κ]

def Definition.ofText (text : String) : Except ReadError (Definition κ) :=
  readText (Definition.ofNode Json.nestLimit) text

def Definitions.ofText (text : String) : Except ReadError (Definitions κ) :=
  readText (Definitions.ofNode Json.nestLimit) text

def Config.ofText (text : String) : Except ReadError (Config κ) :=
  readText (Config.ofNode Json.nestLimit) text

end

end PriorityLexer
