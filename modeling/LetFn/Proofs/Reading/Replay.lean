import LetFn.Proofs.Reading.Sessions

/-!
# Every reading comes to its end

A descent that is called without budget marks the window as exhausted. Four units for each token
that is left and eight more are enough for whatever is read with a parser, from whatever place, also
at the end of the text and past it: nothing is exhausted, and with a larger budget the same is read
(`reading_ends`).

That the same is read means that the parsers after it are equal, with their scanners and records. A
reading does nothing to a parser but the steps that it tells (`Parser.replay`), so parsers that
take the same steps from the same place are equal. `Parser.Retraces` is the simulation that says so.
-/

namespace LetFn

namespace Parser

/-- The parser after a step. -/
def take (p : Parser) : Event → Parser
  | .moved _ _ => p.advance
  | .statement _ => p.enter
  | .failed _ error => p.fail error

/-- The parser after the steps. -/
def replay (p : Parser) (events : List Event) : Parser := events.foldl take p

@[simp] theorem replay_nil (p : Parser) : p.replay [] = p := rfl

@[simp] theorem replay_append (p : Parser) (es fs : List Event) :
    p.replay (es ++ fs) = (p.replay es).replay fs := List.foldl_append

@[simp] theorem exhausted_take (p : Parser) (e : Event) : (p.take e).exhausted = p.exhausted := by
  cases e <;> rfl

@[simp] theorem exhausted_replay (p : Parser) (events : List Event) :
    (p.replay events).exhausted = p.exhausted := by
  induction events generalizing p with
  | nil => rfl
  | cons e es ih => exact (ih (p.take e)).trans (exhausted_take p e)

/-- The parser mirrors the reader, and has taken the steps that the reader has taken since the two
were at the place of `p` and `r`. -/
structure Retraces (p : Parser) (r : Reader) (p' : Parser) (r' : Reader) : Prop where
  mirrors : p'.Mirrors r'
  replayed : ∃ events, r'.log = events.reverse ++ r.log ∧
    p' = { p.replay events with exhausted := r'.exhausted }

namespace Retraces

variable {p p' : Parser} {r r' : Reader}

theorem refl (h : p.Mirrors r) : Retraces p r p r :=
  ⟨h, [], rfl, by rw [replay_nil, ← h.exhausted]⟩

/-- One more step on both sides. -/
theorem step (h : Retraces p r p' r') {q : Parser} {s : Reader} (mirrors : q.Mirrors s) (e : Event)
    (log : s.log = e :: r'.log) (taken : q = p'.take e) (exhausted : s.exhausted = r'.exhausted) :
    Retraces p r q s := by
  obtain ⟨-, events, log', rfl⟩ := h
  refine ⟨mirrors, events ++ [e], by simp [log, log'], ?_⟩
  rw [taken, replay_append, exhausted]
  cases e <;> rfl

theorem exhaust (h : Retraces p r p' r') : Retraces p r p'.exhaust r'.exhaust := by
  obtain ⟨mirrors, events, log, rfl⟩ := h
  exact ⟨mirrors.exhaust, events, log, rfl⟩

end Retraces

theorem retraces_simulation (p : Parser) (r : Reader) : Window.Simulation (Retraces p r) where
  current h := h.mirrors.current
  peek h := h.mirrors.peek
  advance {_ r'} h :=
    h.step h.mirrors.advance (.moved r'.advance.current r'.advance.peek) rfl rfl rfl
  enter {_ r'} h := h.step h.mirrors.enter (.statement r'.current) rfl rfl rfl
  fail {_ r'} error h := h.step (h.mirrors.fail error) (.failed r'.current error) rfl rfl rfl
  exhaust := Retraces.exhaust

namespace Mirrors

variable {p : Parser} {r : Reader} {step : Step} {v : step.task.Result} {rest : List Token}
  {events : List Event}

/-- With enough budget a parser reads at a step what `Reads` says, and takes its steps. -/
theorem run_eq (h : p.Mirrors r) (reads : Reads step.task r.pending v rest events) {budget : Nat}
    (enough : r.budget ≤ budget) : step.run budget p = ⟨step.answer v, p.replay events⟩ := by
  have found := step.run_alike (retraces_simulation p r) budget (.refl h)
  rw [Step.run_reader reads enough] at found
  obtain ⟨value, -, events', log, after⟩ := found
  have same : events' = events := by simpa [Reader.resume] using log.symm
  cases run : step.run budget p with
  | mk value' after' =>
    rw [run] at value after
    subst same
    have kept : p.exhausted = (r.resume rest events').exhausted := h.exhausted
    rw [show value' = step.answer v from value, show after' = _ from after, ← kept,
      ← exhausted_replay p events']

theorem perform_eq (h : p.Mirrors r) (reads : Reads step.task r.pending v rest events) :
    p.perform step = ⟨step.answer v, p.replay events⟩ := by
  rw [perform_eq_run]
  exact h.run_eq reads h.budget_le

end Mirrors

namespace Follows

variable {p : Parser} {ts : List Token}

/-- A step is not cut short. -/
theorem exhausted_perform (h : p.Follows ts) (step : Step) :
    (p.perform step).after.exhausted = p.exhausted := by
  obtain ⟨r, mirrors, -⟩ := h
  obtain ⟨v, rest, events, reads⟩ := Reads.total step.task r.pending (step.ready _)
  rw [mirrors.perform_eq reads]
  exact exhausted_replay p events

theorem exhausted_performAll (h : p.Follows ts) (steps : List Step) :
    (p.performAll steps).exhausted = p.exhausted := by
  induction steps generalizing p with
  | nil => rfl
  | cons step steps ih => exact (ih (h.perform step).1).trans (h.exhausted_perform step)

end Follows

end Parser

/-- Whatever is read with a parser, from whatever place, is read to its end with four units of
budget for each token that is left and eight more. A larger budget changes nothing. -/
theorem reading_ends (source : String) (skipped : Nat) (steps : List Parser.Step)
    (step : Parser.Step) (more : Nat) :
    let p := (Parser.ofScanner (Scanner.skip skipped (.ofText source))).performAll steps
    let left := (tokens source).drop (skipped + p.place)
    let found := step.run (4 * left.length + 8 + more) p
    found.after.exhausted = false ∧ found = p.perform step ∧
      ∃ v rest events, Reads step.task left v rest events ∧
        found = ⟨step.answer v, p.replay events⟩ := by
  intro p left found
  have start := Parser.follows_ofScanner ((Scanner.gives_ofText source).skip skipped)
  have exhausted : p.exhausted = false := start.exhausted_performAll steps
  obtain ⟨r, mirrors, pending⟩ : p.Follows _ := start.performAll steps
  replace pending : r.pending = left := pending.trans List.drop_drop
  obtain ⟨v, rest, events, reads⟩ := Reads.total step.task r.pending (step.ready _)
  have enough : r.budget ≤ 4 * left.length + 8 + more := by
    rw [Reader.budget, pending]
    exact Nat.le_add_right _ _
  have run : found = ⟨step.answer v, p.replay events⟩ := mirrors.run_eq reads enough
  have performed : found = p.perform step := run.trans (mirrors.perform_eq reads).symm
  rw [pending] at reads
  refine ⟨?_, performed, v, rest, events, reads, run⟩
  rw [run, Parser.exhausted_replay, exhausted]

end LetFn
