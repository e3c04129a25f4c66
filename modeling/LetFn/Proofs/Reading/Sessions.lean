import LetFn.Parsing.Parser
import LetFn.Proofs.Reading.Total
import LetFn.Proofs.Reading.Simulation
import LetFn.Proofs.Scanning.Munch

/-!
# A parser moves along the tokens of its text

A parser gets its tokens from a scanner, one at each step. `Parser.Mirrors` says that it shows what
a reader of a list of tokens shows, that its scanner has the rest of the list left to give, and that
both have met the same errors, taken the same steps and been cut short or not. This is a simulation
(`Parser.simulation`), so whatever is read with a parser, from whatever place, is what a reader of
the tokens reads (`Mirrors.perform`, `program_alike_parse`).

Every budget that is large enough gives the same reading, and those of the parser and of the reader
are. So what `Reads` says of readers holds of parsers: they move forward only, one token at a time,
and errors are added at the end (`session_one_way`).
-/

namespace LetFn

/-! ## Steps of a session -/

/-- The step of a reader that a record tells of. -/
def Record.event? : Record → Option Event
  | scanned _ => none
  | event e => some e

namespace Parser

/-- The steps of the parser, newest first. -/
def events (p : Parser) : List Event := p.log.filterMap Record.event?

/-- The number of tokens that the parser has moved over. -/
def place (p : Parser) : Nat := movesOf p.events

/-- The task of a step. -/
def Step.task : Step → Task
  | program => .statements .program
  | statement => .statement
  | block => .block
  | expression floor => .expression floor

/-- What is read at a step is the result of its task. -/
def Step.answer : (step : Step) → step.task.Result → Answer
  | program, ss => .program ⟨ss⟩
  | statement, one => .statement one
  | block, b => .block b
  | expression _, e => .expression e

/-- What a descent with the budget reads at a step through a window. -/
def Step.run {ρ : Type} [Window ρ] (budget : Nat) (r : ρ) : Step → ParsedBy ρ Answer
  | program =>
    let body := Descent.statements budget .program [] r
    ⟨.program ⟨body.value⟩, body.after⟩
  | statement =>
    let one := Descent.statement budget r
    ⟨.statement one.value, one.after⟩
  | block =>
    let body := Descent.block budget r
    ⟨.block body.value, body.after⟩
  | expression floor =>
    let value := Descent.expression budget floor r
    ⟨.expression value.value, value.after⟩

theorem perform_eq_run (p : Parser) (step : Step) : p.perform step = step.run p.budget p := by
  cases step <;> rfl

theorem Step.ready (step : Step) (ts : List Token) : step.task.Ready ts := by
  cases step <;> trivial

/-- Two windows that are alike stay alike at a step. -/
theorem Step.run_alike {ρ σ : Type} [Window ρ] [Window σ] {R : ρ → σ → Prop}
    (sim : Window.Simulation R) (budget : Nat) (step : Step) {r : ρ} {s : σ} (h : R r s) :
    ParsedBy.Alike R (step.run budget r) (step.run budget s) := by
  have agree := Descent.agree sim budget
  cases step with
  | program =>
    have body := agree.statements .program [] h
    exact ⟨congrArg (fun ss => Answer.program ⟨ss⟩) body.value, body.after⟩
  | statement =>
    have one := agree.statement h
    exact ⟨congrArg Answer.statement one.value, one.after⟩
  | block =>
    have body := agree.block h
    exact ⟨congrArg Answer.block body.value, body.after⟩
  | expression floor =>
    have value := agree.expression floor h
    exact ⟨congrArg Answer.expression value.value, value.after⟩

/-- A reader with enough budget reads at a step what `Reads` says. -/
theorem Step.run_reader {step : Step} {r : Reader} {v : step.task.Result} {rest : List Token}
    {events : List Event} (h : Reads step.task r.pending v rest events) {budget : Nat}
    (enough : r.budget ≤ budget) : step.run budget r = ⟨step.answer v, r.resume rest events⟩ := by
  have cost : step.task.cost ≤ 8 := by cases step <;> simp [task, Task.cost]
  have performs := h.performs (step.ready _) budget r rfl (by rw [Reader.budget] at enough; omega)
  cases step with
  | program =>
    rw [run, performs []]
    rfl
  | statement | block | expression floor =>
    simp only [task, Task.Performs] at performs
    rw [run, performs]
    rfl

end Parser

/-- What a reader reads at each of the steps, and the errors met up to its end. -/
def Reader.session (r : Reader) : List Parser.Step → List (Parser.Answer × List ParseError)
  | [] => []
  | step :: steps =>
    ((step.run r.budget r).value, (step.run r.budget r).after.errorList) ::
      session (step.run r.budget r).after steps

/-! ## Parsers and readers -/

/-- The parser shows what the reader shows, has the rest of its tokens to come, has met the same
errors and taken the same steps, and was cut short if the reader was. -/
structure Parser.Mirrors (p : Parser) (r : Reader) : Prop where
  current : p.current = first r.pending
  peek : p.peek = first r.pending.tail
  scanner : p.scanner.Gives r.pending.tail.tail
  errors : p.errors = r.errors
  events : p.events = r.log
  exhausted : p.exhausted = r.exhausted

namespace Parser

variable {p : Parser} {r : Reader}

theorem events_advance (p : Parser) :
    p.advance.events = .moved p.peek p.scanner.next.1.token :: p.events := rfl

theorem events_enter (p : Parser) : p.enter.events = .statement p.current :: p.events := rfl

theorem events_fail (p : Parser) (error : ParseError) :
    (p.fail error).events = .failed p.current error :: p.events := rfl

namespace Mirrors

theorem advance (h : p.Mirrors r) : p.advance.Mirrors r.advance where
  current := h.peek
  peek := h.scanner.token
  scanner := h.scanner.next
  errors := h.errors
  events := by
    rw [events_advance, h.peek, h.scanner.token, h.events]
    rfl
  exhausted := h.exhausted

theorem enter (h : p.Mirrors r) : p.enter.Mirrors r.enter where
  current := h.current
  peek := h.peek
  scanner := h.scanner
  errors := h.errors
  events := by
    rw [events_enter, h.current, h.events]
    rfl
  exhausted := h.exhausted

theorem fail (h : p.Mirrors r) (error : ParseError) : (p.fail error).Mirrors (r.fail error) where
  current := h.current
  peek := h.peek
  scanner := h.scanner
  errors := congrArg (error :: ·) h.errors
  events := by
    rw [events_fail, h.current, h.events]
    rfl
  exhausted := h.exhausted

theorem exhaust (h : p.Mirrors r) : p.exhaust.Mirrors r.exhaust where
  current := h.current
  peek := h.peek
  scanner := h.scanner
  errors := h.errors
  events := h.events
  exhausted := rfl

end Mirrors

theorem simulation : Window.Simulation Mirrors where
  current := Mirrors.current
  peek := Mirrors.peek
  advance := Mirrors.advance
  enter := Mirrors.enter
  fail error h := h.fail error
  exhaust := Mirrors.exhaust

/-- A parser on the next token of a scanner mirrors a reader of the tokens that it has left. -/
theorem mirrors_ofScanner {s : Scanner} {ts : List Token} (h : s.Gives ts) :
    (ofScanner s).Mirrors (Reader.ofTokens ts) where
  current := h.token
  peek := h.next.token
  scanner := h.next.next
  errors := rfl
  events := rfl
  exhausted := rfl

namespace Mirrors

/-- The budget of the parser is enough for the tokens that are left. -/
theorem budget_le (h : p.Mirrors r) : r.budget ≤ p.budget := by
  have left := p.scanner.length_tokens_le
  rw [h.scanner.tokens_eq, List.length_tail, List.length_tail] at left
  rw [Reader.budget, Parser.budget]
  omega

/-- What is read with a parser at a step is what the reader reads. -/
theorem perform (h : p.Mirrors r) (step : Step) :
    ParsedBy.Alike Mirrors (p.perform step) (step.run r.budget r) := by
  obtain ⟨v, rest, events, run⟩ := Reads.total step.task r.pending (step.ready _)
  rw [perform_eq_run, Step.run_reader run (Nat.le_refl _), ← Step.run_reader run h.budget_le]
  exact step.run_alike simulation p.budget h

theorem session (h : p.Mirrors r) (steps : List Step) : p.session steps = r.session steps := by
  induction steps generalizing p r with
  | nil => rfl
  | cons step steps ih =>
    have found := h.perform step
    rw [Parser.session, Reader.session, found.value, ih found.after, errorList, found.after.errors]
    rfl

/-- What is read with a parser at a step is what `Reads` says of the tokens that are left. -/
theorem exists_reads (h : p.Mirrors r) (step : Step) :
    ∃ v rest events, Reads step.task r.pending v rest events ∧
      (p.perform step).value = step.answer v ∧
      (p.perform step).after.Mirrors (r.resume rest events) := by
  obtain ⟨v, rest, events, run⟩ := Reads.total step.task r.pending (step.ready _)
  have found := h.perform step
  rw [Step.run_reader run (Nat.le_refl _)] at found
  exact ⟨v, rest, events, run, found.value, found.after⟩

end Mirrors

/-- What a parser reads of a text is the tree of the text, with the same errors and steps. -/
theorem program_alike_parse (source : String) :
    ParsedBy.Alike Mirrors (ofText source).program (parse source) := by
  have mirrors := mirrors_ofScanner (Scanner.gives_ofText source)
  have found := mirrors.perform .program
  exact ⟨Answer.program.inj found.value, found.after⟩

/-! ## Places in the tokens -/

/-- The parser shows the token of this number and the next one of a stream of tokens, and its
scanner is about to give the tokens after them. -/
structure StandsAt (p : Parser) (stream : Nat → Token) (n : Nat) : Prop where
  current : p.current = stream n
  peek : p.peek = stream (n + 1)
  scanner (i : Nat) : (Scanner.skip i p.scanner).next.1.token = stream (n + 2 + i)

/-- The parser has moved along the tokens from the first of them on. -/
def Follows (p : Parser) (ts : List Token) : Prop :=
  ∃ r : Reader, p.Mirrors r ∧ r.pending = ts.drop p.place

theorem follows_ofScanner {s : Scanner} {ts : List Token} (h : s.Gives ts) :
    (ofScanner s).Follows ts :=
  ⟨Reader.ofTokens ts, mirrors_ofScanner h, rfl⟩

namespace Follows

variable {ts : List Token}

theorem standsAt (h : p.Follows ts) : p.StandsAt (fun n => ts.getD n Token.eof) p.place := by
  obtain ⟨r, mirrors, pending⟩ := h
  refine ⟨?_, ?_, fun i => ?_⟩
  · rw [mirrors.current, pending, first_drop]
  · rw [mirrors.peek, pending, List.tail_drop, first_drop]
  · rw [(mirrors.scanner.skip i).token, pending, List.tail_drop, List.tail_drop, List.drop_drop]
    exact first_drop ts _

/-- A step moves the parser forward and adds errors at the end. -/
theorem perform (h : p.Follows ts) (step : Step) :
    (p.perform step).after.Follows ts ∧ p.place ≤ (p.perform step).after.place ∧
      p.errorList <+: (p.perform step).after.errorList := by
  obtain ⟨r, mirrors, pending⟩ := h
  obtain ⟨v, rest, events, run, -, after⟩ := mirrors.exists_reads step
  have place : (p.perform step).after.place = p.place + movesOf events := by
    rw [Parser.place, Parser.place, after.events, mirrors.events, Reader.resume, movesOf_append,
      movesOf_reverse, Nat.add_comm]
  refine ⟨⟨_, after, ?_⟩, Nat.le.intro place.symm, errorsOf events, ?_⟩
  · rw [Reader.pending_resume, run.rest_eq_drop, pending, place, List.drop_drop]
  · rw [errorList, errorList, after.errors, mirrors.errors]
    simp [Reader.resume]

theorem performAll (h : p.Follows ts) (steps : List Step) : (p.performAll steps).Follows ts := by
  induction steps generalizing p with
  | nil => exact h
  | cons step steps ih => exact ih (h.perform step).1

/-- The statements of a program are read up to the end of the text. -/
theorem current_program (h : p.Follows ts) (eofless : ∀ t ∈ ts, t.kind ≠ .eof) :
    (p.perform .program).after.current = Token.eof := by
  obtain ⟨r, mirrors, pending⟩ := h
  obtain ⟨v, rest, events, run, -, after⟩ := mirrors.exists_reads .program
  have ends := Scope.endsAt_program.mp (run.endsAt rfl)
  have suffix : ∀ t ∈ rest, t.kind ≠ .eof := fun t ht => by
    rw [run.rest_eq_drop, pending, List.drop_drop] at ht
    exact eofless t (List.mem_of_mem_drop ht)
  rw [after.current, Reader.pending_resume]
  cases rest with
  | nil => rfl
  | cons t rest => exact absurd ends (suffix t List.mem_cons_self)

end Follows

end Parser

/-- Whatever is read with a parser, it shows a token of the text and the next one, its scanner gives
the tokens after them, and it has not moved back or dropped an error; after a program it shows the
end of the text. What is read depends on the tokens only. -/
theorem session_one_way (source : String) (skipped : Nat) (steps : List Parser.Step) :
    let stream := fun n => (tokens source).getD (skipped + n) Token.eof
    let start := Parser.ofScanner (Scanner.skip skipped (.ofText source))
    let p := start.performAll steps
    p.StandsAt stream p.place ∧
      (∀ step, p.place ≤ (p.perform step).after.place ∧
        p.errorList <+: (p.perform step).after.errorList) ∧
      (p.perform .program).after.current = Token.eof ∧
      start.session steps =
        (Reader.ofTokens ((tokens source).drop skipped)).session steps ∧
      ∀ source', tokens source' = tokens source →
        (Parser.ofScanner (Scanner.skip skipped (.ofText source'))).session steps =
          start.session steps := by
  intro stream start p
  have gives (text : String) : (Scanner.skip skipped (.ofText text)).Gives
      ((tokens text).drop skipped) := (Scanner.gives_ofText text).skip skipped
  have follows : p.Follows ((tokens source).drop skipped) :=
    (Parser.follows_ofScanner (gives source)).performAll steps
  have session (text : String) :
      (Parser.ofScanner (Scanner.skip skipped (.ofText text))).session steps =
        (Reader.ofTokens ((tokens text).drop skipped)).session steps :=
    (Parser.mirrors_ofScanner (gives text)).session steps
  refine ⟨?_, fun step => (follows.perform step).2, ?_, session source, fun source' same => ?_⟩
  · have shift : (fun n => ((tokens source).drop skipped).getD n Token.eof) = stream := by
      funext n
      simp [stream, List.getD_eq_getElem?_getD]
    exact shift ▸ follows.standsAt
  · refine follows.current_program fun t ht => ?_
    have ht := List.mem_of_mem_drop ht
    rw [tokens_eq_scan] at ht
    exact kind_ne_eof_of_mem_scan ht
  · rw [session source', same]
    exact (session source).symm

theorem session_one_way_blank : tokens " x" = tokens "x" ∧
    (Parser.ofScanner (Scanner.skip 0 (.ofText " x"))).session [.statement, .program] =
      (Parser.ofScanner (Scanner.skip 0 (.ofText "x"))).session [.statement, .program] := by
  have same : tokens " x" = tokens "x" := by
    rw [tokens_eq_scan, tokens_eq_scan]
    exact scan_blank rfl _
  obtain ⟨-, -, -, -, equal⟩ := session_one_way "x" 0 [.statement, .program]
  exact ⟨same, equal " x" same⟩

end LetFn
