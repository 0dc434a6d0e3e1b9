import PriorityLexer.Unicode.Age
import PriorityLexer.Unicode.SentenceBreak

/-!
# Query — a set of characters named by a property

A query names a property, or a property and a value.  Names are compared in loose form: case,
spaces, `_`, `-` and a leading `is` do not count.

* `Query.looseName` — the loose form of a name;
* `Query.resolve` — the set that a query names, or which of the two names is unknown.
-/

namespace PriorityLexer.Unicode

inductive Query where
  /-- A category, a script or a yes-or-no property. -/
  | named (name : String)
  | valued (property value : String)
deriving DecidableEq, Repr

inductive QueryError where
  | unknownProperty
  | unknownValue
deriving DecidableEq, Repr

namespace Query

/-- `isc` is a name of its own and not the name `c`. -/
def looseName (name : String) : String :=
  let significant (cs : List Char) :=
    (cs.filter fun c => c.toNat < 0x80 && c != ' ' && c != '_' && c != '-').map Char.toLower
  match name.toList with
  | [] => ""
  | [a] => .ofList (significant [a])
  | a :: b :: rest =>
    if a.toLower = 'i' ∧ b.toLower = 's' then
      let tail := significant rest
      if tail = ['c'] then "isc" else .ofList tail
    else .ofList (significant (a :: b :: rest))

/-- Three short names are those of a category although a property has them as well. -/
def categoryFirst : List String :=
  ["cf", "sc", "lc"]

/-- The set that was looked up under the name of a value, if there is one of that name. -/
def valueFound : Option CharSet → Except QueryError CharSet
  | some s => .ok s
  | none => .error .unknownValue

/-- A bare name is that of a property, else of a category, else of a script. -/
def resolveName (name : String) : Except QueryError CharSet :=
  -- A property may have a name and no set.
  if !categoryFirst.contains name && Property.isNamed name then
    match Property.find? name with
    | some s => .ok s
    | none => .error .unknownProperty
  else if GeneralCategory.isNamed name then valueFound (GeneralCategory.find? name)
  else if Script.isNamed name then valueFound (Script.find? name)
  else .error .unknownProperty

/-- The properties whose values have sets: their names, and how a value is looked up. -/
def withValues : List (List String × (String → Option CharSet)) :=
  [(["gc", "generalcategory"], GeneralCategory.find?),
   (["sc", "script"], Script.find?),
   (["scx", "scriptextensions"], Script.findExtended?),
   (["age"], Age.find?),
   (["gcb", "graphemeclusterbreak"], GraphemeBreak.find?),
   (["wb", "wordbreak"], WordBreak.find?),
   (["sb", "sentencebreak"], SentenceBreak.find?)]

def resolveValue (property value : String) : Except QueryError CharSet :=
  match withValues.find? (·.1.contains property) with
  | some (_, find?) => valueFound (find? value)
  | none => .error (if Property.isNamed property then .unknownValue else .unknownProperty)

def resolve : Query → Except QueryError CharSet
  | .named name => resolveName (looseName name)
  | .valued property value => resolveValue (looseName property) (looseName value)

end Query

end PriorityLexer.Unicode
