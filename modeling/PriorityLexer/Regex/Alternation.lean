import PriorityLexer.Regex.Basic

/-!
# Alternation — branches and what they have in common

Branches that start alike share what they start with.  This can matter for the match: on `a1x` the
expression `\w+\d|\w+x` would prefer `a1`, with which its first branch ends; but `\w+` is shared,
and the longest run of it that any branch goes on from is `a1`, so the match is `a1x`.

* `Regex.parts`, `Regex.branches` — what a sequence and an alternation consist of;
* `Regex.flat` — an expression without sequences inside sequences;
* `Regex.pieces` — the parts of a sequence, with characters in a row as one piece;
* `Regex.lead?` — what all branches start with, and what is left of each;
* `Regex.altOf` — the alternation of branches.
-/

namespace PriorityLexer

/-- Whether there is exactly one member. -/
def CharSet.isSingleton (s : CharSet) : Bool :=
  match s.ranges with
  | [r] => r.lo = r.hi
  | _ => false

namespace Regex

/-! ## Sequences -/

def parts : Regex → List Regex
  | .empty => []
  | .cat a b => a.parts ++ b.parts
  | r => [r]

/-- The same expression, in which no part of a sequence is empty or a sequence. -/
def flat : Regex → Regex
  | .cat a b => catOf (a.flat.parts ++ b.flat.parts)
  | .alt a b => .alt a.flat b.flat
  | .repetition min max greedy r => .repetition min max greedy r.flat
  | .capture r => .capture r.flat
  | r => r

/-- Whether one given character is taken and nothing else. -/
def isLiteral : Regex → Bool
  | .chars s | .bytes s => s.isSingleton
  | _ => false

/-- The parts of a sequence, where characters in a row are one piece. -/
def pieces (r : Regex) : List (List Regex) :=
  r.parts.splitBy fun a b => a.isLiteral && b.isLiteral

/-! ## What branches have in common -/

def hasCapture : Regex → Bool
  | .capture _ => true
  | .cat a b | .alt a b => a.hasCapture || b.hasCapture
  | .repetition _ _ _ r => r.hasCapture
  | _ => false

/-- The pieces with which both sequences start.  No group is the same as another one. -/
def sharedPieces : List (List Regex) → List (List Regex) → List (List Regex)
  | p :: ps, q :: qs =>
    if p = q ∧ p.all (!·.hasCapture) then p :: sharedPieces ps qs else []
  | _, _ => []

/-- What all branches start with, and what is left of each.  Where a branch is one piece, nothing is
shared by any. -/
def lead? (branches : List Regex) : Option (List Regex × List Regex) :=
  match branches.map pieces with
  | first :: second :: others =>
    let all := first :: second :: others
    let shared := (second :: others).foldl sharedPieces first
    if shared.isEmpty || all.any (·.length < 2) then none
    else some (shared.flatten, all.map fun ps => catOf (ps.drop shared.length).flatten)
  | _ => none

/-! ## Alternations -/

def branches : Regex → List Regex
  | .alt a b => a.branches ++ b.branches
  | r => [r]

/-- The characters of an expression that takes exactly one. -/
def set? : Regex → Option CharSet
  | .chars s => some s
  | .bytes s => if s.isAscii then some s else none
  | _ => none

/-- The branches one after the other.  No branch at all never matches. -/
def nest : List Regex → Regex
  | [] => .chars .empty
  | [r] => r
  | r :: rs => .alt r (nest rs)

/-- The alternation of branches that share nothing; sets are one set together. -/
def anyOf (branches : List Regex) : Regex :=
  match branches.mapM set? with
  | some sets => .chars (sets.foldr .union .empty)
  | none => nest branches

/-- The alternation of two or more expressions. -/
def altOf (rs : List Regex) : Regex :=
  let all := rs.flatMap fun r => r.flat.branches
  match lead? all with
  -- What is left of the branches starts differently, so nothing more is shared.
  | some (lead, rests) => catOf (lead ++ [anyOf (rests.flatMap branches)])
  | none => anyOf all

end Regex

end PriorityLexer
