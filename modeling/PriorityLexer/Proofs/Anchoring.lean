import Mathlib.Data.List.Forall2
import PriorityLexer.Proofs.Literals

/-!
# Anchoring — texts from the start of the input to its end

An escaped text between assertions at both ends takes all of the input or nothing.  The group around
the text keeps it together, and nothing in the text reaches out of the group.

* `Program.run_textEnd` — what is found at the assertion at the end;
* `Program.searchAlone?_anchored` — a sequence of sets between the assertions;
* `Source.parse_anchored` — the tree of the source;
* `Pattern.expression_wholeOf` — its expression;
* `Lexer.matchAt_wholeOf` — the only inputs with a token at the start.
-/

namespace PriorityLexer

/-! ## Whole texts -/

/-- All of a text consists of members of the sets. -/
theorem forall₂_iff_startsWithin {sets : List CharSet} {text : List Char} :
    List.Forall₂ (fun s c => s.contains c = true) sets text ↔
      startsWithin sets text = true ∧ text.length = sets.length := by
  induction sets generalizing text with
  | nil => simp [startsWithin]
  | cons s ss ih =>
      cases text with
      | nil => simp
      | cons c cs => simp [startsWithin, ih, and_assoc]

theorem forall₂_variants_false {cs text : List Char} :
    List.Forall₂ (fun s c => s.contains c = true) (Source.variants false cs) text ↔ text = cs := by
  have hmem (c a : Char) : ((Source.Mode.initial false).fold (.singleton c)).contains a = true ↔
      c = a := CharSet.mem_singleton.trans eq_comm
  simp only [Source.variants, List.forall₂_map_left_iff, hmem, List.forall₂_eq_eq_eq]
  exact eq_comm

theorem forall₂_variants_true {cs text : List Char} :
    List.Forall₂ (fun s c => s.contains c = true) (Source.variants true cs) text ↔
      List.Forall₂ simpleFolding.Equivalent cs text := by
  have hmem (c a : Char) : ((Source.Mode.initial true).fold (.singleton c)).contains a = true ↔
      simpleFolding.Equivalent c a := Folding.mem_close_singleton simpleFolding_proper
  simp only [Source.variants, List.forall₂_map_left_iff, hmem]

/-! ## Programs -/

theorem length_le_of_startsWithin {sets : List CharSet} {text : List Char}
    (h : startsWithin sets text = true) : sets.length ≤ text.length := by
  induction sets generalizing text with
  | nil => exact Nat.zero_le _
  | cons s ss ih =>
      cases text with
      | nil => cases h
      | cons c cs =>
          rw [startsWithin, Bool.and_eq_true] at h
          exact Nat.succ_le_succ (ih h.2)

namespace Program

variable {p : Program}

/-- The assertion at the end lets only the end of the text pass. -/
theorem run_textEnd {e : Nat} (h : p.Hosts e [.look .textEnd (e + 1), .accept 0])
    (before : Option Char) (text : List Char) :
    p.run [e] before text = if text = [] then some ⟨0, 0⟩ else none := by
  have hlook : p.insts[e]? = some (.look .textEnd (e + 1)) := by simpa using h 0
  have haccept : p.insts[e + 1]? = some (.accept 0) := by simpa [Nat.add_comm] using h 1
  rw [run_look (closed_accept haccept) (by omega) hlook rfl, run_accept haccept]
  cases text <;> simp [Look.holds, Look.holdsBetween]

/-- Between the assertions at both ends, a sequence of sets has to take all of a text. -/
theorem searchAlone?_anchored (text : List Char) (sets : List CharSet) :
    searchAlone? (.start text)
        (.catOf [.look .textStart, .catOf (sets.map .chars), .look .textEnd]) =
      if startsWithin sets text ∧ text.length = sets.length then some ⟨0, sets.length⟩
      else none := by
  let body := Regex.catOf (sets.map .chars)
  let r := Regex.catOf [.look .textStart, body, .look .textEnd]
  have hhosts : (ofRegexes [r]).Hosts 0 ([.look .textStart 1] ++ (body.code 1 (1 + body.size) ++
      [.look .textEnd (1 + body.size + 1), .accept 0])) := by
    simpa [r, Regex.catOf, Regex.code, Regex.size, ← Nat.add_assoc]
      using hosts_ofRegexes_singleton r
  have hend := hhosts.right.right
  rw [Regex.length_code] at hend
  have hlook : (ofRegexes [r]).insts[0]? = some (.look .textStart 1) := by simpa using hhosts 0
  -- No thread comes back to the first assertion, and none from behind the sets to one of them.
  have hclosed := hhosts.right.closed_code Nat.two_pos (by simp [Inst.nexts])
  have hstart : (ofRegexes [r]).run [0] none text = (ofRegexes [r]).run [1] none text :=
    (run_look hclosed (by simp) hlook (by simp)).trans (if_pos rfl)
  have hbody : (ofRegexes [r]).run [1] none text =
      if startsWithin sets text then
        (if text.drop sets.length = [] then some ⟨0, 0⟩ else none).map (.behind sets.length)
      else none :=
    run_catOf_chars _ hhosts.right.left (run_textEnd hend) (hend.closed (by simp [Inst.nexts]))
      (by simp) (fun j hj => hj.1)
  rw [searchAlone?, search?_eq]
  refine (hstart.trans hbody).trans ?_
  by_cases hsets : startsWithin sets text = true
  · have hle := length_le_of_startsWithin hsets
    have hall : text.drop sets.length = [] ↔ text.length = sets.length := by
      rw [List.drop_eq_nil_iff]
      omega
    by_cases hlength : text.length = sets.length
    · simp [hsets, hall, hlength, Found.behind]
    · simp [hsets, hall, hlength]
  · simp [hsets]

end Program

/-! ## Sources -/

namespace Source

/-- An escaped text between the assertions. -/
def anchored (cs : List Char) : List Char :=
  '^' :: '(' :: '?' :: ':' :: (escapeChars cs ++ [')', '$'])

/-- The tree of an escaped text in its group between the assertions. -/
def anchoredTree (cs : List Char) : Tree :=
  let close := 4 + (escapeChars cs).length
  .concat ⟨0, close + 2⟩
    [.atom (.assertion (.char 0) .lineStart),
      .group ⟨1, close + 1⟩ (.plain [])
        (Branches.lastBranch ⟨4, [], 4, (escapedParts 4 cs).reverse⟩ close),
      .atom (.assertion (.char (close + 1)) .lineEnd)]

theorem tooDeep?_anchoredTree (cs : List Char) : (anchoredTree cs).tooDeep? 0 = none := by
  have hinner : (Branches.lastBranch ⟨4, [], 4, (escapedParts 4 cs).reverse⟩
      (4 + (escapeChars cs).length)).tooDeep? 2 = none :=
    tooDeep?_lastBranch (by decide) fun depth => by
      rw [List.reverse_reverse, anyTooDeep?_escapedParts]
  simp [anchoredTree, Tree.tooDeep?, Tree.anyTooDeep?, hinner, nestLimit]

/-- Nothing in the text closes the group or asks for a repetition. -/
theorem parse_anchored (cs : List Char) : parse (anchored cs) = .ok (anchoredTree cs) := by
  have hlength := length_le_length_escapeChars cs
  have hfuel : (anchored cs).length + 1 =
      (((escapeChars cs).length - cs.length + 2) + 3) + cs.length + 2 := by
    simp only [anchored, List.length_cons, List.length_append, List.length_nil]
    omega
  -- The group is open while the text is read, with the first assertion around it.
  let enclosure : Enclosure :=
    ⟨1, .plain [], ⟨0, [], 0, [.atom (.assertion (.char 0) .lineStart)]⟩, false⟩
  have hopen (fuel : Nat) : parseFrom (fuel + 2) .initial (.ofSource (anchored cs)) =
      parseFrom fuel ⟨[enclosure], .begin 4, false, []⟩ ⟨4, escapeChars cs ++ [')', '$']⟩ := rfl
  have hparts : State.addParts ⟨[enclosure], .begin 4, false, []⟩ (escapedParts 4 cs) =
      ⟨[enclosure], ⟨4, [], 4, (escapedParts 4 cs).reverse⟩, false, []⟩ := by
    simp [State.addParts, Branches.begin]
  have hclose (fuel : Nat) :
      parseFrom (fuel + 3)
        ⟨[enclosure], ⟨4, [], 4, (escapedParts 4 cs).reverse⟩, false, []⟩
        ⟨4 + (escapeChars cs).length, [')', '$']⟩ = .ok (anchoredTree cs) := rfl
  rw [parse, hfuel, hopen, parseFrom_escapeChars _ rfl, hparts, hclose]
  simp only [tooDeep?_anchoredTree]

/-- The group around the text has no flags of its own. -/
theorem regex_anchoredTree (ignoreCase : Bool) (cs : List Char) :
    (anchoredTree cs).regex ignoreCase =
      .ok (.catOf [.look .textStart, spelled ignoreCase cs, .look .textEnd]) := by
  have hassertion (span : Span) (kind : Assertion) :
      (Tree.atom (.assertion span kind)).meaning (.initial ignoreCase) =
        .ok (.look (kind.look (.initial ignoreCase)), .initial ignoreCase) := rfl
  have hinner (close : Nat) :
      (Branches.lastBranch ⟨4, [], 4, (escapedParts 4 cs).reverse⟩ close).meaning
        (.initial ignoreCase) = .ok (spelled ignoreCase cs, .initial ignoreCase) := by
    rw [meaning_lastBranch, List.reverse_reverse, meanings_escapedParts, spelled, variants,
      List.map_map]
    rfl
  have hgroup (span : Span) (close : Nat) :
      (Tree.group span (.plain [])
        (Branches.lastBranch ⟨4, [], 4, (escapedParts 4 cs).reverse⟩ close)).meaning
          (.initial ignoreCase) = .ok (spelled ignoreCase cs, .initial ignoreCase) := by
    have hmode : (GroupKind.plain []).mode (.initial ignoreCase) = .initial ignoreCase := rfl
    rw [Tree.meaning, hmode, hinner]
    rfl
  simp only [anchoredTree, Tree.regex]
  rw [Tree.meaning]
  simp only [Tree.meanings, hassertion, hgroup, bind, Except.bind]
  rw [Regex.ungrouped_catOf]
  simp only [List.map_cons, ungrouped_spelled]
  rfl

end Source

/-! ## Lexers -/

theorem Pattern.source_wholeOf (text : String) :
    (Pattern.wholeOf text).source = Source.anchored text.toList := by
  simp [Pattern.wholeOf, Pattern.source, Pattern.fragment, toList_escape, Source.anchored]

theorem Pattern.expression_wholeOf (ignoreCase : Bool) (text : String) :
    (Pattern.wholeOf text).expression ignoreCase =
      .ok (.catOf [.look .textStart, Source.spelled ignoreCase text.toList, .look .textEnd]) := by
  rw [Pattern.expression, source_wholeOf, Source.parse_anchored]
  exact Source.regex_anchoredTree ignoreCase text.toList

namespace Lexer

variable {κ : Type} {kind : κ} {text : String} {options : Options} {l : Lexer κ}

theorem expressions_wholeOf (ignoreCase : Bool) (kind : κ) (text : String) :
    Expressions ignoreCase ((Definitions.ofList [⟨kind, .wholeOf text⟩]).toList.map (·.pattern))
      [.catOf [.look .textStart, Source.spelled ignoreCase text.toList, .look .textEnd]] := by
  intro k
  cases k with
  | zero => exact congrArg some (Pattern.expression_wholeOf ignoreCase text)
  | succ k => rfl

/-- Only the size of the text can keep a lexer from being built. -/
theorem eq_tooLarge_of_build_wholeOf {e : InvalidPattern}
    (h : build (.ofList [⟨kind, .wholeOf text⟩]) options = .error e) : e = tooLarge := by
  rcases compile_eq_error_iff.1 (build_eq_error_iff.1 h) with ⟨i, p, f, hp, hf, -⟩ | ⟨-, -, -, he⟩
  · have htranslates := (expressions_wholeOf options.ignoreCase kind text).translates p
      (List.mem_of_getElem? hp)
    exact absurd htranslates (Pattern.not_translates_of_fault hf)
  · exact he

/-- What is found at the start of an input. -/
theorem search?_wholeOf (h : build (.ofList [⟨kind, .wholeOf text⟩]) options = .ok l)
    {input : List Char} {found : Program.Found} :
    l.matcher.search? (.start input) = some found ↔
      List.Forall₂ (fun s c => s.contains c = true)
          (Source.variants options.ignoreCase text.toList) input ∧
        found = ⟨0, text.length⟩ := by
  have hlength : (Source.variants options.ignoreCase text.toList).length = text.length := by
    rw [Source.variants, List.length_map, String.length_toList]
  have halone := Program.searchAlone?_anchored input
    (Source.variants options.ignoreCase text.toList)
  rw [Program.searchAlone?, ← Source.spelled] at halone
  rw [matcher_eq_ofRegexes h (expressions_wholeOf options.ignoreCase kind text), halone,
    forall₂_iff_startsWithin, hlength]
  split
  · next hwhole => simp [hwhole, eq_comm]
  · next hwhole => simp [hwhole]

/-- A token at the start of an input is all of it. -/
theorem matchAt_zero_wholeOf (h : build (.ofList [⟨kind, .wholeOf text⟩]) options = .ok l)
    {input : String} {t : Token κ} :
    l.matchAt input 0 = some t ↔
      (text ≠ "" ∧ List.Forall₂ (fun s c => s.contains c = true)
          (Source.variants options.ignoreCase text.toList) input.toList) ∧
        t = ⟨kind, input, 0, input.utf8ByteSize⟩ := by
  have hplace : place? input.toList 0 = some (.start input.toList) := Place.find?_zero none _
  have hd : l.definitions.get? 0 = some ⟨kind, .wholeOf text⟩ := by
    rw [(build_eq_ok_iff.1 h).1]
    rfl
  -- The match takes as many characters as the input has.
  have htoken (hwhole : List.Forall₂ (fun s c => s.contains c = true)
      (Source.variants options.ignoreCase text.toList) input.toList) :
      tokenAt kind text.length (.start input.toList) 0 = ⟨kind, input, 0, input.utf8ByteSize⟩ := by
    have hlength := (forall₂_iff_startsWithin.1 hwhole).2
    rw [Source.variants, List.length_map] at hlength
    have htake : input.toList.take text.length = input.toList := by
      rw [← String.length_toList, ← hlength, List.take_length]
    simp [tokenAt, Place.start, htake, byteLength_toList]
  rw [matchAt_eq_some_iff]
  constructor
  · intro hmatch
    rcases hmatch with ⟨p, found, d, hp, hs, h0, hd', rfl⟩
    cases hplace.symm.trans hp
    rcases (search?_wholeOf h).1 hs with ⟨hwhole, rfl⟩
    cases hd.symm.trans hd'
    exact ⟨⟨fun hempty => h0 (by simp [hempty]), hwhole⟩, htoken hwhole⟩
  · intro hwhole
    rcases hwhole with ⟨⟨hne, hwhole⟩, rfl⟩
    exact ⟨_, _, _, hplace, (search?_wholeOf h).2 ⟨hwhole, rfl⟩,
      fun h0 => hne (String.length_eq_zero_iff.1 h0), hd, (htoken hwhole).symm⟩

/-- An escaped text in a source stands for itself and nothing else, whatever it holds. -/
theorem matchAt_wholeOf (kind : κ) (literal : String) (options : Options) :
    (∃ t, Source.parse (Pattern.wholeOf literal).source = .ok t) ∧
    (∀ e, build (.ofList [⟨kind, .wholeOf literal⟩]) options = .error e → e = tooLarge) ∧
    ∀ l, build (.ofList [⟨kind, .wholeOf literal⟩]) options = .ok l → ∀ other : String,
      (options.ignoreCase = false →
        ((l.matchAt other 0).isSome ↔ other = literal ∧ literal ≠ "")) ∧
      (options.ignoreCase = true →
        ((l.matchAt other 0).isSome ↔
          literal ≠ "" ∧ List.Forall₂ simpleFolding.Equivalent literal.toList other.toList)) ∧
      ∀ t, l.matchAt other 0 = some t → t = ⟨kind, other, 0, other.utf8ByteSize⟩ := by
  refine ⟨?_, fun e he => eq_tooLarge_of_build_wholeOf he, fun l hl other => ?_⟩
  · rw [Pattern.source_wholeOf]
    exact ⟨_, Source.parse_anchored literal.toList⟩
  have hsome : (l.matchAt other 0).isSome ↔
      literal ≠ "" ∧ List.Forall₂ (fun s c => s.contains c = true)
        (Source.variants options.ignoreCase literal.toList) other.toList := by
    simp [Option.isSome_iff_exists, matchAt_zero_wholeOf hl]
  refine ⟨fun hcase => ?_, fun hcase => ?_, fun t ht => ((matchAt_zero_wholeOf hl).1 ht).2⟩
  · rw [hsome, hcase, forall₂_variants_false, String.toList_inj, and_comm]
  · rw [hsome, hcase, forall₂_variants_true]

/-- Signs that could close the group or the text, and a letter with a variant of three bytes. -/
theorem matchAt_wholeOf_signs :
    (∃ l : Lexer String, build (.ofList [⟨"signs", .wholeOf "a|b)$"⟩]) ⟨false⟩ = .ok l ∧
      (l.matchAt "a|b)$" 0).isSome ∧ ¬ (l.matchAt "a|b)$\n" 0).isSome) ∧
    ∃ l : Lexer String, build (.ofList [⟨"k", .wholeOf "k"⟩]) ⟨true⟩ = .ok l ∧
      (l.matchAt "\u212a" 0).isSome := by
  constructor
  · obtain ⟨l, hl, -⟩ := exists_build_eq_ok _ ⟨false⟩
      (expressions_wholeOf false "signs" "a|b)$") (by decide)
    have hmatch := (matchAt_wholeOf "signs" "a|b)$" ⟨false⟩).2.2 l hl
    refine ⟨l, hl, ((hmatch _).1 rfl).2 (by decide), fun h => ?_⟩
    exact absurd (((hmatch _).1 rfl).1 h).1 (by decide)
  · obtain ⟨l, hl, -⟩ := exists_build_eq_ok _ ⟨true⟩
      (expressions_wholeOf true "k" "k") (by decide +kernel)
    have hmatch := (matchAt_wholeOf "k" "k" ⟨true⟩).2.2 l hl
    exact ⟨l, hl, ((hmatch _).2.1 rfl).2 ⟨by decide, .cons (by decide +kernel) .nil⟩⟩

end Lexer

end PriorityLexer
