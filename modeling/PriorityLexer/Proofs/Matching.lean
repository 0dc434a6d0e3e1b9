import PriorityLexer.Proofs.Boundary
import PriorityLexer.Proofs.Compilation
import PriorityLexer.Proofs.Priority

/-!
# Matching — lexers and the tokens at offsets

* `Lexer.build_eq_ok_iff`, `Lexer.build_eq_error_iff` — the outcomes of building;
* `Lexer.exists_expressions` — the program of a lexer is that of the expressions of its definitions;
* `Lexer.matchPlace?_eq` — the first definition that matches by itself decides;
* `Lexer.matchAt_eq_some_iff` — a token is the slice that the preferred match takes.
-/

namespace PriorityLexer

namespace Lexer

variable {κ : Type} {ds : Definitions κ} {options : Options} {l : Lexer κ}

/-! ## Building -/

theorem build_eq_ok_iff : build ds options = .ok l ↔ l.definitions = ds ∧ l.options = options := by
  constructor
  · intro h
    unfold build at h
    split at h
    · cases h
    · cases h
      exact ⟨rfl, rfl⟩
  · intro hsame
    rcases hsame with ⟨rfl, rfl⟩
    unfold build
    split
    · next e he => cases he.symm.trans l.compiled
    · next matcher hm =>
        cases hm.symm.trans l.compiled
        rfl

theorem build_eq_error_iff {e : InvalidPattern} :
    build ds options = .error e ↔ compile options (ds.toList.map (·.pattern)) = .error e := by
  unfold build
  split
  · next e' he => simp [he]
  · next matcher hm => simp [hm]

theorem exists_expressions (l : Lexer κ) :
    ∃ rs, Expressions l.options.ignoreCase (l.definitions.toList.map (·.pattern)) rs ∧
      Regex.totalWeight rs ≤ sizeLimit ∧ l.matcher = .ofRegexes rs :=
  compile_eq_ok_iff.1 l.compiled

theorem matcher_eq_ofRegexes {rs : List Regex} (h : build ds options = .ok l)
    (hrs : Expressions options.ignoreCase (ds.toList.map (·.pattern)) rs) :
    l.matcher = .ofRegexes rs := by
  rcases build_eq_ok_iff.1 h with ⟨rfl, rfl⟩
  rcases l.exists_expressions with ⟨rs', hrs', -, hmatcher⟩
  rw [hmatcher, hrs.unique hrs']

/-- A lexer is built from definitions whose expressions are small enough together. -/
theorem exists_build_eq_ok (ds : Definitions κ) (options : Options) {rs : List Regex}
    (h : Expressions options.ignoreCase (ds.toList.map (·.pattern)) rs)
    (hsize : Regex.totalWeight rs ≤ sizeLimit) :
    ∃ l, build ds options = .ok l ∧ l.matcher = .ofRegexes rs :=
  ⟨⟨ds, .ofRegexes rs, options, compile_eq_ok_iff.2 ⟨rs, h, hsize, rfl⟩⟩,
    build_eq_ok_iff.2 ⟨rfl, rfl⟩, rfl⟩

theorem exists_build_of_isOk (ds : Definitions κ) (options : Options)
    (h : (compile options (ds.toList.map (·.pattern))).isOk) :
    ∃ l, build ds options = .ok l := by
  cases hb : build ds options with
  | ok l => exact ⟨l, rfl⟩
  | error e => simp [build_eq_error_iff.1 hb, Except.isOk, Except.toBool] at h

/-! ## Tokens -/

/-- The definition of a match is always there. -/
theorem exists_get?_of_search? {place : Place} {found : Program.Found}
    (h : l.matcher.search? place = some found) :
    ∃ d, l.definitions.get? found.pattern = some d := by
  rcases l.exists_expressions with ⟨rs, hrs, -, hmatcher⟩
  rw [hmatcher] at h
  rcases Program.search?_eq_some_iff.1 h with ⟨r, -, hr, -⟩
  have hlt : found.pattern < l.definitions.toList.length := by
    have hlength := hrs.length_eq
    rw [List.length_map] at hlength
    exact hlength ▸ (List.getElem?_eq_some_iff.1 hr).1
  exact ⟨_, List.getElem?_eq_getElem hlt⟩

/-- The kind that a match stands for and the number of its characters, if it has any. -/
def entry? (l : Lexer κ) (found : Program.Found) : Option (κ × Nat) :=
  if found.length = 0 then none
  else (l.definitions.get? found.pattern).map fun d => (d.kind, found.length)

theorem matchPlace?_eq_bind (l : Lexer κ) (p : Place) :
    l.matchPlace? p = (l.matcher.search? p).bind l.entry? := by
  unfold matchPlace?
  cases l.matcher.search? p with
  | none => rfl
  | some found =>
      simp only [Option.bind_some, entry?]
      cases l.definitions.get? found.pattern <;> rfl

theorem findSome?_zipIdx_bind_entry? {rs : List Regex} {ds : List (Definition κ)} {n : Nat}
    (hds : ∀ i, l.definitions.get? (n + i) = ds[i]?) (hlength : rs.length = ds.length)
    (p : Place) :
    ((rs.zipIdx n).findSome? fun (r, i) =>
        (Program.searchAlone? p r).map (.rename fun _ => i)).bind l.entry? =
      ((ds.zip rs).findSome? fun (d, r) =>
        (Program.searchAlone? p r).map fun found => (d.kind, found.length)).filter (·.2 != 0) := by
  induction rs generalizing n ds with
  | nil => simp
  | cons r rs ih =>
      rcases ds with _ | ⟨d, ds⟩
      · cases hlength
      have hd : l.definitions.get? n = some d := hds 0
      have hds' (i : Nat) : l.definitions.get? (n + 1 + i) = ds[i]? := by
        rw [Nat.add_right_comm]
        exact hds (i + 1)
      have hrest := ih hds' (Nat.succ.inj hlength)
      rw [List.zipIdx_cons, List.findSome?_cons, List.zip_cons_cons, List.findSome?_cons]
      cases hr : Program.searchAlone? p r with
      | none => simpa only [hr, Option.map_none] using hrest
      | some found =>
          by_cases h0 : found.length = 0 <;>
            simp [hr, Program.Found.rename, entry?, hd, h0, Option.filter_some]

/-- The first definition whose expression matches decides, with the number of characters that its
expression takes alone. -/
theorem matchPlace?_eq {rs : List Regex} (hmatcher : l.matcher = .ofRegexes rs)
    (hlength : rs.length = l.definitions.toList.length) (p : Place) :
    l.matchPlace? p =
      ((l.definitions.toList.zip rs).findSome? fun (d, r) =>
        (Program.searchAlone? p r).map fun found => (d.kind, found.length)).filter (·.2 != 0) := by
  rw [matchPlace?_eq_bind, hmatcher, Program.search?_ofRegexes]
  exact findSome?_zipIdx_bind_entry? (fun i => by rw [Nat.zero_add]; rfl) hlength p

theorem matchAt_eq_bind (l : Lexer κ) (input : String) (offset : Nat) :
    l.matchAt input offset =
      (place? input.toList offset).bind fun p =>
        (l.matchPlace? p).map fun (kind, n) => tokenAt kind n p offset := by
  unfold matchAt
  cases place? input.toList offset with
  | none => rfl
  | some p =>
      simp only [Option.bind_some]
      cases l.matchPlace? p <;> rfl

theorem matchAt_eq_some_iff {input : String} {offset : Nat} {t : Token κ} :
    l.matchAt input offset = some t ↔
      ∃ p found d, place? input.toList offset = some p ∧ l.matcher.search? p = some found ∧
        found.length ≠ 0 ∧ l.definitions.get? found.pattern = some d ∧
        t = tokenAt d.kind found.length p offset := by
  unfold matchAt matchPlace?
  constructor
  · intro h
    split at h
    · cases h
    · next p hp =>
        cases hs : l.matcher.search? p with
        | none => simp [hs] at h
        | some found =>
            rcases exists_get?_of_search? hs with ⟨d, hd⟩
            by_cases h0 : found.length = 0
            · simp [hs, h0] at h
            · simp only [hs, h0, if_false, hd, Option.some.injEq] at h
              exact ⟨p, found, d, hp, hs, h0, hd, h.symm⟩
  · intro hmatch
    rcases hmatch with ⟨p, found, d, hp, hs, h0, hd, rfl⟩
    simp [hp, hs, h0, hd]

theorem isBoundary_of_matchAt {input : String} {offset : Nat} {t : Token κ}
    (h : l.matchAt input offset = some t) : IsBoundary input offset := by
  rcases matchAt_eq_some_iff.1 h with ⟨p, -, -, hp, -⟩
  exact isBoundary_iff.2 ⟨p, hp⟩

/-- A token starts where it was looked for and is the slice up to its end. -/
theorem isSlice_of_matchAt {input : String} {offset : Nat} {t : Token κ}
    (h : l.matchAt input offset = some t) :
    t.startOffset = offset ∧ IsSlice input t.startOffset t.nextOffset t.image := by
  rcases matchAt_eq_some_iff.1 h with ⟨p, found, d, hp, -, -, -, rfl⟩
  exact ⟨rfl, isSlice_take hp found.length⟩

/-- A token takes at least one byte. -/
theorem lt_nextOffset_of_matchAt {input : String} {offset : Nat} {t : Token κ}
    (h : l.matchAt input offset = some t) : offset < t.nextOffset := by
  rcases matchAt_eq_some_iff.1 h with ⟨p, found, d, -, hs, h0, -, rfl⟩
  have hle := Program.length_le_of_search? hs
  -- The match is not empty and there are enough characters for it.
  have hpos : byteLength (p.after.take found.length) ≠ 0 := by
    intro hzero
    have hlength := congrArg List.length (byteLength_eq_zero_iff.1 hzero)
    simp only [List.length_take, List.length_nil] at hlength
    omega
  simp only [tokenAt]
  omega

end Lexer

end PriorityLexer
