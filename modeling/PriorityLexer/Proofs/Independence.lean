import PriorityLexer.Proofs.Matching
import PriorityLexer.Session

/-!
# Independence — streams that share a lexer

Commands for several streams may come in any order, with questions to the lexer between them.  Each
stream is answered as if it were the only one, and the lexer as if it had never been used.

* `Stream.stepAll` — several steps on one stream, with what is seen after each;
* `stepsOn`, `openings` — the steps on one stream among commands, and the number of streams opened;
* `Session.seenBy` — the answers to the steps on one stream;
* `Session.run_own`, `Session.run_other` — what a command does to a stream, its own or another one;
* `Session.seenBy_runAll` — a stream among others goes through its own steps only;
* `Session.runAll_apart` — whole sessions.
-/

namespace PriorityLexer

variable {κ : Type}

/-! ## The part of one stream -/

/-- What is seen after each of several steps, and the state after the last one. -/
def Stream.stepAll (s : Stream κ) : List Step → List (Report κ) × Stream κ
  | [] => ([], s)
  | step :: steps =>
    let (report, s) := s.step step
    let (reports, s) := stepAll s steps
    (report :: reports, s)

namespace Command

/-- The step that a command is, if it is one on the stream of that number. -/
def stepOn? (k : Nat) : Command → Option Step
  | .step j made => if j = k then some made else none
  | _ => none

def isOpen : Command → Bool
  | .open _ _ => true
  | _ => false

theorem stepOn?_eq_some_iff {k : Nat} {c : Command} {made : Step} :
    c.stepOn? k = some made ↔ c = .step k made := by
  cases c with
  | step j other =>
      by_cases hj : j = k
      · simp [stepOn?, hj]
      · simp [stepOn?, hj]
  | _ => simp [stepOn?]

end Command

/-- The steps on the stream of that number, in their order. -/
def stepsOn (k : Nat) (cs : List Command) : List Step :=
  cs.filterMap (Command.stepOn? k)

/-- The number of streams that are opened. -/
def openings (cs : List Command) : Nat := cs.countP Command.isOpen

theorem openings_cons (c : Command) (cs : List Command) :
    openings (c :: cs) = openings [c] + openings cs := by
  rw [openings, ← List.singleton_append, List.countP_append]
  rfl

namespace Session

/-- The answers to the steps on the stream of that number. -/
def seenBy (k : Nat) (cs : List Command) (answers : List (Answer κ)) : List (Answer κ) :=
  (cs.zip answers).filterMap fun (c, answer) => (c.stepOn? k).map fun _ => answer

theorem seenBy_cons_own {k : Nat} {c : Command} {step : Step} (hc : c.stepOn? k = some step)
    (cs : List Command) (answer : Answer κ) (answers : List (Answer κ)) :
    seenBy k (c :: cs) (answer :: answers) = answer :: seenBy k cs answers := by
  simp [seenBy, hc]

theorem seenBy_cons_other {k : Nat} {c : Command} (hc : c.stepOn? k = none) (cs : List Command)
    (answer : Answer κ) (answers : List (Answer κ)) :
    seenBy k (c :: cs) (answer :: answers) = seenBy k cs answers := by
  simp [seenBy, hc]

theorem seenBy_append {k : Nat} {cs : List Command} {answers : List (Answer κ)}
    (h : answers.length = cs.length) (cs' : List Command) (answers' : List (Answer κ)) :
    seenBy k (cs ++ cs') (answers ++ answers') = seenBy k cs answers ++ seenBy k cs' answers' := by
  rw [seenBy, List.zip_append h.symm, List.filterMap_append]
  rfl

/-! ## One command -/

variable {s : Session κ} {k : Nat} {stream : Stream κ}

@[simp] theorem run_lexer (s : Session κ) (c : Command) : (s.run c).2.lexer = s.lexer := by
  cases c with
  | step j step =>
      rw [run]
      split <;> rfl
  | _ => rfl

/-- Streams are never closed, and opening one adds it behind the others. -/
theorem length_run (s : Session κ) (c : Command) :
    (s.run c).2.streams.length = s.streams.length + openings [c] := by
  cases c with
  | «open» input offset => simp [run, openings, Command.isOpen]
  | step j step =>
      rw [run]
      split
      · rfl
      · simp [openings, Command.isOpen]
  | _ => rfl

/-- A step is made on the stream that it names. -/
theorem run_own (hk : s.streams[k]? = some stream) (step : Step) :
    (s.run (.step k step)).1 = .report (stream.step step).1 ∧
      (s.run (.step k step)).2.streams[k]? = some (stream.step step).2 := by
  have hlt : k < s.streams.length := (List.getElem?_eq_some_iff.1 hk).1
  rw [run, hk]
  exact ⟨rfl, List.getElem?_set_self hlt⟩

/-- A command that does not name a stream leaves it as it is. -/
theorem run_other {c : Command} (hk : s.streams[k]? = some stream) (hc : c.stepOn? k = none) :
    (s.run c).2.streams[k]? = some stream := by
  cases c with
  | «open» input offset =>
      have hlt : k < s.streams.length := (List.getElem?_eq_some_iff.1 hk).1
      exact (List.getElem?_append_left hlt).trans hk
  | step j step =>
      have hne : j ≠ k := by
        rintro rfl
        simp [Command.stepOn?] at hc
      rw [run]
      split
      · exact hk
      · exact (List.getElem?_set_ne hne).trans hk
  | _ => exact hk

/-- A step on a stream that has not been opened is refused. -/
theorem run_missing (hk : s.streams.length ≤ k) (step : Step) :
    (s.run (.step k step)).1 = .noStream := by
  rw [run, List.getElem?_eq_none hk]

/-! ## Many commands -/

@[simp] theorem runAll_lexer (s : Session κ) (cs : List Command) :
    (s.runAll cs).2.lexer = s.lexer := by
  induction cs generalizing s with
  | nil => rfl
  | cons c cs ih => exact (ih (s.run c).2).trans (s.run_lexer c)

theorem length_answers (s : Session κ) (cs : List Command) :
    (s.runAll cs).1.length = cs.length := by
  induction cs generalizing s with
  | nil => rfl
  | cons c cs ih => exact congrArg (· + 1) (ih (s.run c).2)

theorem length_runAll (s : Session κ) (cs : List Command) :
    (s.runAll cs).2.streams.length = s.streams.length + openings cs := by
  induction cs generalizing s with
  | nil => rfl
  | cons c cs ih =>
      have hmore : (s.runAll (c :: cs)).2.streams.length =
          (s.run c).2.streams.length + openings cs := ih (s.run c).2
      rw [hmore, length_run, openings_cons c cs, Nat.add_assoc]

theorem runAll_append (s : Session κ) (cs ds : List Command) :
    s.runAll (cs ++ ds) =
      ((s.runAll cs).1 ++ ((s.runAll cs).2.runAll ds).1, ((s.runAll cs).2.runAll ds).2) := by
  induction cs generalizing s with
  | nil => rfl
  | cons c cs ih =>
      have hmore := ih (s.run c).2
      simp only [List.cons_append, runAll, hmore]

/-- The answer to a command depends on the commands before it only. -/
theorem getElem?_runAll (s : Session κ) (before : List Command) (c : Command)
    (after : List Command) :
    (s.runAll (before ++ c :: after)).1[before.length]? =
      some ((s.runAll before).2.run c).1 := by
  have hlength := s.length_answers before
  rw [runAll_append, List.getElem?_append_right (Nat.le_of_eq hlength), hlength, Nat.sub_self]
  rfl

/-- A stream among others goes through its own steps, and nothing else happens to it. -/
theorem seenBy_runAll (hk : s.streams[k]? = some stream) (cs : List Command) :
    seenBy k cs (s.runAll cs).1 = (stream.stepAll (stepsOn k cs)).1.map .report ∧
      (s.runAll cs).2.streams[k]? = some (stream.stepAll (stepsOn k cs)).2 := by
  induction cs generalizing s stream with
  | nil => exact ⟨rfl, hk⟩
  | cons c cs ih =>
      rw [runAll]
      cases hc : c.stepOn? k with
      | some step =>
          have hsteps : stepsOn k (c :: cs) = step :: stepsOn k cs := List.filterMap_cons_some hc
          cases Command.stepOn?_eq_some_iff.1 hc
          rcases run_own hk step with ⟨hanswer, hstream⟩
          rcases ih hstream with ⟨hseen, hlast⟩
          rw [hsteps, Stream.stepAll, seenBy_cons_own hc, hanswer, hseen]
          exact ⟨rfl, hlast⟩
      | none =>
          have hsteps : stepsOn k (c :: cs) = stepsOn k cs := List.filterMap_cons_none hc
          rw [hsteps, seenBy_cons_other hc]
          exact ih (run_other hk hc)

/-- As long as a stream has not been opened, its steps are refused. -/
theorem seenBy_runAll_missing (cs : List Command) (h : s.streams.length + openings cs ≤ k) :
    seenBy k cs (s.runAll cs).1 = List.replicate (stepsOn k cs).length .noStream := by
  induction cs generalizing s with
  | nil => rfl
  | cons c cs ih =>
      rw [openings_cons] at h
      have hmore := ih (s := (s.run c).2) (by rw [length_run]; omega)
      rw [runAll]
      cases hc : c.stepOn? k with
      | some step =>
          have hsteps : stepsOn k (c :: cs) = step :: stepsOn k cs := List.filterMap_cons_some hc
          cases Command.stepOn?_eq_some_iff.1 hc
          rw [hsteps, seenBy_cons_own hc, hmore, run_missing (by omega), List.length_cons,
            List.replicate_succ]
      | none =>
          have hsteps : stepsOn k (c :: cs) = stepsOn k cs := List.filterMap_cons_none hc
          rw [hsteps, seenBy_cons_other hc, hmore]

/-! ## Sessions -/

/-- In a session with any number of streams and any order of commands, a stream is answered as it is
without the others, by a lexer that is built anew from the same definitions; and so is every
question to the lexer itself. -/
theorem runAll_apart (l : Lexer κ) :
    ∃ fresh, Lexer.build l.definitions l.options = .ok fresh ∧
      (∀ before input offset after,
        let cs := before ++ .open input offset :: after
        let k := openings before
        let alone := (fresh.tokenizeFrom input offset).stepAll (stepsOn k after)
        ((start l).runAll cs).1[before.length]? = some (.opened k) ∧
        seenBy k cs ((start l).runAll cs).1 =
          List.replicate (stepsOn k before).length .noStream ++ alone.1.map .report ∧
        ((start l).runAll cs).2.streams[k]? = some alone.2) ∧
      (∀ before input offset after,
        ((start l).runAll (before ++ .matchAt input offset :: after)).1[before.length]? =
          some (.token (fresh.matchAt input offset))) ∧
      ∀ before input after,
        ((start l).runAll (before ++ .tokenizeAll input :: after)).1[before.length]? =
          some (.tokens (fresh.tokenizeAll input)) := by
  refine ⟨l, Lexer.build_eq_ok_iff.2 ⟨rfl, rfl⟩, ?_, ?_, ?_⟩
  · intro before input offset after cs k alone
    -- The number of a stream is that of the streams opened before.
    have hlexer : ((start l).runAll before).2.lexer = l := runAll_lexer _ before
    have hlength : ((start l).runAll before).2.streams.length = k := by
      rw [length_runAll]
      exact Nat.zero_add k
    have hanswer : (((start l).runAll before).2.run (.open input offset)).1 = .opened k :=
      congrArg Answer.opened hlength
    have hopened : (((start l).runAll before).2.run (.open input offset)).2.streams[k]? =
        some (l.tokenizeFrom input offset) := by
      rw [run, hlexer, ← hlength]
      exact List.getElem?_concat_length
    have hbefore := seenBy_runAll_missing (s := start l) (k := k) before
      (Nat.le_of_eq (Nat.zero_add k))
    rcases seenBy_runAll hopened after with ⟨hafter, hlast⟩
    refine ⟨?_, ?_, ?_⟩
    · rw [getElem?_runAll, hanswer]
    · rw [runAll_append, seenBy_append (length_answers _ before), hbefore, runAll,
        seenBy_cons_other rfl, hafter]
    · rw [runAll_append, runAll]
      exact hlast
  · intro before input offset after
    rw [getElem?_runAll, run, runAll_lexer]
    rfl
  · intro before input after
    rw [getElem?_runAll, run, runAll_lexer]
    rfl

end Session

end PriorityLexer
