import PriorityLexer.Proofs.Priority

/-!
# Sequence — expressions that take given characters one by one

A single thread follows one instruction after the other.  A sequence of sets of characters matches
where the text starts with members of them, and takes exactly those.

* `Program.run_accept`, `Program.run_chars`, `Program.run_look`, `Program.run_of_targets` — one
  thread at one instruction;
* `startsWithin` — a text starts with members of given sets;
* `Program.run_catOf_chars` — a sequence of sets with anything behind it;
* `Program.searchAlone?_catOf_chars` — where a sequence of sets matches.
-/

namespace PriorityLexer

/-- Whether the text starts with a member of each of the sets in turn. -/
def startsWithin : List CharSet → List Char → Bool
  | [], _ => true
  | _ :: _, [] => false
  | s :: ss, c :: cs => s.contains c && startsWithin ss cs

namespace Program

variable {p : Program} {place : Place} {i : Nat} {before : Option Char} {text : List Char}

/-! ## One thread -/

theorem frontier_singleton {inst : Inst} (hi : p.insts[i]? = some inst) :
    p.frontier place [i] =
      p.explore place (inst.targets place) ((Frontier.begin (.ofSize p.size)).visit i inst) := by
  have hlt : ¬ p.size ≤ i := Nat.not_le.2 (Array.getElem?_eq_some_iff.1 hi).1
  have hstops : (Frontier.begin (.ofSize p.size)).stops i = false := by
    simp [Frontier.stops, Frontier.begin, Marks.contains_clear, hlt]
  rw [frontier, explore_of_some hstops hi, List.append_nil]

theorem run_accept {pattern : Nat} (hi : p.insts[i]? = some (.accept pattern)) :
    p.run [i] before text = some ⟨pattern, 0⟩ := by
  have hfrontier (place : Place) : (p.frontier place [i]).waiting = [] ∧
      (p.frontier place [i]).accepted = some pattern := by
    rw [frontier_singleton hi, Inst.targets, explore_nil]
    exact ⟨rfl, rfl⟩
  cases text with
  | nil => simp [run, hfrontier]
  | cons c rest => simp [run, advance, hfrontier]

theorem run_chars {s : CharSet} {next : Nat} (hi : p.insts[i]? = some (.chars s next))
    (before : Option Char) :
    p.run [i] before [] = none ∧
      ∀ c rest, p.run [i] before (c :: rest) =
        if s.contains c then (p.run [next] (some c) rest).map (.behind 1) else none := by
  have hfrontier (place : Place) : (p.frontier place [i]).waiting = [i] ∧
      (p.frontier place [i]).accepted = none := by
    rw [frontier_singleton hi, Inst.targets, explore_nil]
    exact ⟨rfl, rfl⟩
  refine ⟨by simp [run, hfrontier], fun c rest => ?_⟩
  by_cases hc : s.contains c = true
  · simp [run, advance, hfrontier, take?, hi, hc]
  · simp [run, advance, hfrontier, take?, hi, hc]

/-- What is found depends on where threads wait and what they accept. -/
theorem run_congr {xs ys : List Nat}
    (hwaiting : (p.frontier ⟨before, text⟩ xs).waiting = (p.frontier ⟨before, text⟩ ys).waiting)
    (haccepted : (p.frontier ⟨before, text⟩ xs).accepted =
      (p.frontier ⟨before, text⟩ ys).accepted) :
    p.run xs before text = p.run ys before text := by
  cases text with
  | nil => simp [run, haccepted]
  | cons c rest => simp [run, advance, hwaiting, haccepted]

/-- An instruction that takes no character is passed by if nothing leads back to it. -/
theorem run_of_targets {D : Nat → Prop} (hD : p.Closed D) (hout : ¬ D i) {inst : Inst}
    (hi : p.insts[i]? = some inst) (hpass : ∀ f, Frontier.visit f i inst =
      ⟨f.waiting, f.accepted, f.marks.insert i⟩)
    (htargets : ∀ j ∈ inst.targets ⟨before, text⟩, D j) :
    p.run [i] before text = p.run (inst.targets ⟨before, text⟩) before text := by
  -- Having visited `i` makes no difference to threads that never come back to it.
  have hvisit : (Frontier.begin (.ofSize p.size)).Mirrors D id id []
      ((Frontier.begin (.ofSize p.size)).visit i inst) := by
    rw [hpass]
    refine ⟨by simp [Frontier.begin], rfl, rfl, fun j hj => ?_⟩
    have hne : j ≠ i := fun hji => hout (hji ▸ hj)
    simp [Marks.contains_insert, hne]
  have hmirrors := hD.carries.explore ⟨before, text⟩ htargets hvisit
  rw [List.map_id, ← frontier_singleton hi] at hmirrors
  exact run_congr (by simpa [frontier] using hmirrors.waiting)
    (by simpa [frontier] using hmirrors.accepted)

/-- An assertion is passed where it holds. -/
theorem run_look {D : Nat → Prop} (hD : p.Closed D) (hout : ¬ D i) {l : Look} {next : Nat}
    (hi : p.insts[i]? = some (.look l next)) (hnext : D next) :
    p.run [i] before text =
      if l.holds ⟨before, text⟩ then p.run [next] before text else none := by
  have htargets : ∀ j ∈ Inst.targets ⟨before, text⟩ (.look l next), D j := by
    intro j hj
    rw [Inst.targets] at hj
    split at hj
    · exact List.mem_singleton.1 hj ▸ hnext
    · exact absurd hj List.not_mem_nil
  rw [run_of_targets hD hout hi (fun _ => rfl) htargets, Inst.targets]
  split
  · rfl
  · exact run_nil ..

/-- Nothing leads away from where a match is accepted. -/
theorem closed_accept {pattern : Nat} (hi : p.insts[i]? = some (.accept pattern)) :
    p.Closed (· = i) := by
  rintro j rfl inst hinst k hk
  cases hi.symm.trans hinst
  cases hk

/-- An expression and the instructions behind it that it leaves for are a closed part. -/
theorem Hosts.closed_code {base : Nat} {r : Regex} {behind : List Inst}
    (h : p.Hosts base (r.code base (base + r.size) ++ behind)) (hbehind : 0 < behind.length)
    (hleads : ∀ inst ∈ behind, ∀ j ∈ inst.nexts,
      base + r.size ≤ j ∧ j < base + r.size + behind.length) :
    p.Closed fun i => base ≤ i ∧ i < base + (r.size + behind.length) := by
  have hclosed := h.closed (by
    intro inst hinst j hj
    rw [List.length_append, Regex.length_code]
    rcases List.mem_append.1 hinst with hcode | hrest
    · rcases r.leadsWithin_code base (base + r.size) inst hcode j hj with hj | hj <;> omega
    · have hnext := hleads inst hrest j hj
      omega)
  simpa [Regex.length_code] using hclosed

/-! ## Sequences -/

/-- What is found behind a character decides what is found before it. -/
theorem run_chars_of_run {s : CharSet} {ss : List CharSet} {next : Nat}
    {behind : List Char → Option Found} (hi : p.insts[i]? = some (.chars s next))
    (hnext : ∀ before text, p.run [next] before text =
      if startsWithin ss text then (behind (text.drop ss.length)).map (.behind ss.length)
      else none) :
    p.run [i] before text =
      if startsWithin (s :: ss) text then
        (behind (text.drop (ss.length + 1))).map (.behind (ss.length + 1))
      else none := by
  rcases run_chars hi before with ⟨hnil, hcons⟩
  cases text with
  | nil => rw [hnil, startsWithin, if_neg Bool.false_ne_true]
  | cons c rest =>
      rw [hcons, hnext, startsWithin, List.drop_succ_cons]
      by_cases hc : s.contains c = true
      · by_cases hrest : startsWithin ss rest = true
        · simp [hc, hrest, Option.map_map, Found.behind_comp, Nat.add_comm]
        · simp [hc, hrest]
      · simp [hc]

/-- Members of the sets are taken one by one, and what is found at the exit decides; nothing leads
back from there. -/
theorem run_catOf_chars (behind : List Char → Option Found) {base exit : Nat} {sets : List CharSet}
    (h : p.Hosts base ((Regex.catOf (sets.map .chars)).code base exit))
    (hexit : ∀ before text, p.run [exit] before text = behind text) {D : Nat → Prop}
    (hD : p.Closed D) (hDexit : D exit)
    (hlo : ∀ j, D j → base + (Regex.catOf (sets.map .chars)).size ≤ j) :
    p.run [base] before text =
      if startsWithin sets text then (behind (text.drop sets.length)).map (.behind sets.length)
      else none := by
  induction sets generalizing base before text with
  | nil =>
      have hjump : p.insts[base]? = some (.jump exit) := by
        simpa [Regex.catOf, Regex.code] using h 0
      have hbase : ¬ D base := by
        intro hbase
        exact Nat.lt_irrefl base (hlo base hbase)
      -- The empty sequence is one jump to the exit.
      rw [run_of_targets hD hbase hjump (fun _ => rfl) (by simpa [Inst.targets] using hDexit),
        Inst.targets, hexit]
      simp [startsWithin, Found.behind_zero]
  | cons s ss ih =>
      have hcode : ∃ next, p.insts[base]? = some (.chars s next) ∧
          ∀ before text, p.run [next] before text =
            if startsWithin ss text then (behind (text.drop ss.length)).map (.behind ss.length)
            else none := by
        cases ss with
        | nil =>
            refine ⟨exit, by simpa [Regex.catOf, Regex.code] using h 0, fun before text => ?_⟩
            simp [hexit, startsWithin, Found.behind_zero]
        | cons s' ss =>
            -- The rest of the sequence starts right behind the first instruction.
            refine ⟨base + 1, by simpa [Regex.catOf, Regex.code, Regex.size] using h 0, ?_⟩
            intro before text
            have hcat : Regex.catOf ((s :: s' :: ss).map .chars) =
                .cat (.chars s) (.catOf ((s' :: ss).map .chars)) := rfl
            rw [hcat, Regex.code, Regex.size] at h
            refine ih h.right fun j hj => ?_
            have hle := hlo j hj
            rwa [hcat, Regex.size, Regex.size, ← Nat.add_assoc] at hle
      rcases hcode with ⟨next, hchars, hnext⟩
      exact run_chars_of_run hchars hnext

/-- The code of an expression that is the only one of a program. -/
theorem hosts_ofRegexes_singleton (r : Regex) :
    (ofRegexes [r]).Hosts 0 (r.code 0 r.size ++ [.accept 0]) := by
  intro k _
  simp [ofRegexes, codeFrom]

/-- A sequence of sets matches where the text starts with members of them. -/
theorem searchAlone?_catOf_chars (place : Place) (sets : List CharSet) :
    searchAlone? place (.catOf (sets.map .chars)) =
      if startsWithin sets place.after then some ⟨0, sets.length⟩ else none := by
  have hhosts := hosts_ofRegexes_singleton (.catOf (sets.map .chars))
  have haccept : (ofRegexes [.catOf (sets.map .chars)]).insts[
      (Regex.catOf (sets.map .chars)).size]? = some (.accept 0) := by
    simpa using hhosts.right 0
  rw [searchAlone?, search?_eq]
  exact run_catOf_chars (fun _ => some ⟨0, 0⟩) hhosts.left
    (fun _ _ => run_accept haccept) (closed_accept haccept) rfl (by simp)

end Program

end PriorityLexer
