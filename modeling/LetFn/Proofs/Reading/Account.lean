import LetFn.Parsing.Trace
import LetFn.Proofs.Reading.Order
import LetFn.Proofs.Reading.Replay

/-!
# The trace accounts for the parse

A record tells of a token that was scanned or of a step. A step over a token is told right after the
token that comes into the window with it was scanned, so the trace of a text is determined by its
tokens and by the steps of the parse (`trace_eq_recordsFrom`). A record of a step is told where the
steps before it have led to in the tokens (`exists_event`).

`Account` collects what a trace tells of the tokens and the errors of a parse, and `trace_accounts`
says that it is all true.
-/

namespace LetFn

open Text

/-! ## Tokens and their places -/

/-- The token of the given number of a text, with the byte offset after everything that is passed
over before it, which are the tokens of lower numbers and blanks. -/
def lexemeAt (source : String) (n : Nat) : Lexeme where
  token := (tokens source).getD n Token.eof
  start := byteLength
    (passed (blanksOf source.toList) (tokens source) n ++ blanksOf source.toList n)

/-- Past the last token there is the end of the text. -/
theorem lexemeAt_of_length_le {source : String} {n : Nat} (h : (tokens source).length ≤ n) :
    lexemeAt source n = ⟨Token.eof, source.utf8ByteSize⟩ := by
  have whole : passed (blanksOf source.toList) (tokens source) n ++ blanksOf source.toList n =
      source.toList := by
    rw [tokens_eq_scan] at h ⊢
    exact passed_append_blanksOf_of_le h
  rw [lexemeAt, whole, byteLength_toList, List.getD_eq_getElem?_getD, List.getElem?_eq_none h]
  rfl

/-- A scanner that gave some tokens gives the next one. -/
theorem lexeme_next_skip (source : String) (n : Nat) :
    (Scanner.skip n (.ofText source)).next.1 = lexemeAt source n := by
  obtain ⟨token, start, -⟩ := (Scanner.skip_at source n).next
  rw [← tokens_eq_scan] at start
  ext : 1
  · rw [token, firstToken_remaining, ← tokens_eq_scan]
    rfl
  · exact start

/-! ## What records tell -/

namespace Record

/-- The token that a record tells was scanned. -/
def lexeme? : Record → Option Lexeme
  | scanned lexeme => some lexeme
  | event _ => none

/-- The error that a record tells of. -/
def error? (r : Record) : Option ParseError := r.event?.bind Event.error?

end Record

/-- The number of records of steps over a token. -/
def windowsOf (records : List Record) : Nat := movesOf (records.filterMap Record.event?)

/-- The louder records are those of errors. -/
theorem filter_debug (records : List Record) :
    (records.filter fun r => r.level = .debug).map Record.error? =
      (errorsOf (records.filterMap Record.event?)).map some := by
  induction records with
  | nil => rfl
  | cons r records ih =>
    rcases r with lexeme | ⟨current, peek⟩ | current | ⟨current, error⟩
    · exact ih
    · exact ih
    · exact ih
    · exact congrArg (some error :: ·) ih

/-- What is scanned for a step at the token of the given number. -/
def Event.scans (lexeme : Nat → Lexeme) (n : Nat) : Event → List Lexeme
  | .moved _ _ => [lexeme (n + 2)]
  | _ => []

/-- The records of the steps from the token of the given number on. -/
def recordsFrom (lexeme : Nat → Lexeme) : Nat → List Event → List Record
  | _, [] => []
  | n, e :: es =>
    (e.scans lexeme n).map .scanned ++ .event e :: recordsFrom lexeme (n + e.width) es

section Records

variable {lexeme : Nat → Lexeme} {n : Nat} {e : Event} {events : List Event}

theorem filterMap_event_scanned (lexemes : List Lexeme) :
    (lexemes.map Record.scanned).filterMap Record.event? = [] := by
  rw [List.filterMap_map]
  exact List.filterMap_eq_nil_iff.mpr fun _ _ => rfl

theorem filterMap_lexeme_scanned (lexemes : List Lexeme) :
    (lexemes.map Record.scanned).filterMap Record.lexeme? = lexemes := by
  rw [List.filterMap_map]
  exact List.filterMap_some

theorem filterMap_event_recordsFrom (lexeme : Nat → Lexeme) (n : Nat) (events : List Event) :
    (recordsFrom lexeme n events).filterMap Record.event? = events := by
  induction events generalizing n with
  | nil => rfl
  | cons e es ih =>
    rw [recordsFrom, List.filterMap_append, filterMap_event_scanned, List.filterMap_cons, ih]
    rfl

theorem filterMap_lexeme_recordsFrom (lexeme : Nat → Lexeme) (n : Nat) (events : List Event) :
    (recordsFrom lexeme n events).filterMap Record.lexeme? =
      (List.range' (n + 2) (movesOf events)).map lexeme := by
  induction events generalizing n with
  | nil => rfl
  | cons e es ih =>
    rw [recordsFrom, List.filterMap_append, filterMap_lexeme_scanned, List.filterMap_cons, ih,
      movesOf_cons]
    cases e with
    | moved =>
      rw [Event.width, Nat.add_comm 1 (movesOf es), List.range'_succ, Nat.add_right_comm]
      rfl
    | statement | failed =>
      simp [Event.scans, Event.width, Record.lexeme?]

theorem windowsOf_append (before after : List Record) :
    windowsOf (before ++ after) = windowsOf before + windowsOf after := by
  rw [windowsOf, List.filterMap_append, movesOf_append]
  rfl

theorem windowsOf_scanned (lexemes : List Lexeme) : windowsOf (lexemes.map .scanned) = 0 := by
  rw [windowsOf, filterMap_event_scanned, movesOf_nil]

theorem windowsOf_recordsFrom (lexeme : Nat → Lexeme) (n : Nat) (events : List Event) :
    windowsOf (recordsFrom lexeme n events) = movesOf events := by
  rw [windowsOf, filterMap_event_recordsFrom]

/-- A record of a step stands after the tokens that were scanned first. -/
theorem exists_of_scanned_append {lexemes : List Lexeme} {records before after : List Record}
    (h : lexemes.map .scanned ++ records = before ++ .event e :: after) :
    ∃ mid, before = lexemes.map .scanned ++ mid ∧ records = mid ++ .event e :: after := by
  induction lexemes generalizing before with
  | nil => exact ⟨before, rfl, h⟩
  | cons lexeme lexemes ih =>
    cases before with
    | nil => cases h
    | cons r before =>
      obtain ⟨rfl, tail⟩ := List.cons.inj h
      obtain ⟨mid, rfl, rest⟩ := ih tail
      exact ⟨mid, rfl, rest⟩

/-- A record of a step is one of the steps, after the records of the steps before it. -/
theorem recordsFrom_eq_append_cons {before after : List Record}
    (h : recordsFrom lexeme n events = before ++ .event e :: after) :
    ∃ es fs, events = es ++ e :: fs ∧
      before = recordsFrom lexeme n es ++ (e.scans lexeme (n + movesOf es)).map .scanned ∧
      after = recordsFrom lexeme (n + movesOf es + e.width) fs := by
  induction events generalizing n before with
  | nil => simp [recordsFrom] at h
  | cons d ds ih =>
    obtain ⟨mid, rfl, steps⟩ := exists_of_scanned_append h
    cases mid with
    | nil =>
      obtain ⟨same, rfl⟩ := List.cons.inj steps
      obtain rfl := Record.event.inj same
      exact ⟨[], ds, rfl, by simp [recordsFrom], rfl⟩
    | cons r mid =>
      obtain ⟨rfl, later⟩ := List.cons.inj steps
      obtain ⟨es, fs, rfl, rfl, rfl⟩ := ih later
      refine ⟨d :: es, fs, rfl, ?_, ?_⟩
      · simp [recordsFrom, Nat.add_assoc]
      · simp [Nat.add_assoc]

end Records

/-! ## The trace of a parse -/

/-- What a parser writes down when it takes steps that are in step with the tokens. -/
theorem Parser.log_replay {source : String} {n : Nat} {events : List Event} {p : Parser}
    {r : Reader} {rest : List Token} (mirrors : p.Mirrors r)
    (scanner : p.scanner = Scanner.skip (n + 2) (.ofText source))
    (logged : Logged r.pending events rest) :
    (p.replay events).log = (recordsFrom (lexemeAt source) n events).reverse ++ p.log := by
  induction events generalizing n p r with
  | nil => rfl
  | cons e es ih =>
    obtain ⟨place, logged⟩ := logged
    cases e with
    | moved current peek =>
      obtain ⟨rfl, rfl⟩ := place
      have given : p.scanner.next.1 = lexemeAt source (n + 2) := by
        rw [scanner, lexeme_next_skip]
      have current : p.peek = first r.pending.tail := mirrors.peek
      have peek : p.scanner.next.1.token = first r.pending.tail.tail := mirrors.scanner.token
      have moved : p.advance.scanner = Scanner.skip (n + 1 + 2) (.ofText source) := by
        rw [Nat.add_right_comm, Scanner.skip_succ, ← scanner]
        rfl
      rw [Event.width, List.drop_one] at logged
      show (p.advance.replay es).log = _
      rw [ih mirrors.advance moved logged]
      simp [recordsFrom, Event.scans, Event.width, Parser.advance, current, peek, ← given]
    | statement current =>
      obtain rfl : current = first r.pending := place
      show (p.enter.replay es).log = _
      rw [ih mirrors.enter scanner logged]
      simp [recordsFrom, Event.scans, Event.width, Parser.enter, mirrors.current]
    | failed current error =>
      obtain ⟨rfl, -⟩ := place
      show ((p.fail error).replay es).log = _
      rw [ih (mirrors.fail error) scanner logged]
      simp [recordsFrom, Event.scans, Event.width, Parser.fail, mirrors.current]

/-- The trace of a text tells the steps in which its statements are read, and the tokens as they are
scanned for them. -/
theorem trace_eq_recordsFrom (source : String) :
    ∃ v rest events, Reads (.statements .program) (tokens source) v rest events ∧
      (Parser.ofText source).program.after.errorList = errorsOf events ∧
      trace source = [lexemeAt source 0, lexemeAt source 1].map .scanned ++
        recordsFrom (lexemeAt source) 0 events := by
  have mirrors := Parser.mirrors_ofScanner (Scanner.gives_ofText source)
  obtain ⟨v, rest, events, reads⟩ := Reads.total (.statements .program) (tokens source) trivial
  have performed : (Parser.ofText source).perform .program = _ := mirrors.perform_eq reads
  have after : (Parser.ofText source).program.after = (Parser.ofText source).replay events :=
    congrArg ParsedBy.after performed
  refine ⟨v, rest, events, reads, ?_, ?_⟩
  · rw [Parser.errorList, (Parser.program_alike_parse source).after.errors]
    exact reads.errors_parseTokens
  · have log : ((Parser.ofText source).replay events).log = _ :=
      Parser.log_replay (n := 0) mirrors rfl reads.logged
    have start : (Parser.ofText source).log =
        [.scanned (lexemeAt source 1), .scanned (lexemeAt source 0)] := by
      rw [← lexeme_next_skip, ← lexeme_next_skip]
      rfl
    rw [trace, Parser.recordList, after, log, start]
    simp

/-! ## What the trace says is true -/

/-- The step is in step with the tokens where it is taken. -/
theorem Logged.at {ts rest : List Token} {es fs : List Event} {e : Event}
    (h : Logged ts (es ++ e :: fs) rest) : e.At (ts.drop (movesOf es)) := by
  induction es generalizing ts with
  | nil => exact h.1
  | cons d ds ih =>
    rw [movesOf_cons, ← List.drop_drop]
    exact ih h.2

/-- After something began at a token, the next statement begins further on. -/
theorem InOrder.movesOf_pos {stage : Stage} {es fs : List Event} {t : Token}
    (h : InOrder stage (es ++ .statement t :: fs)) (begun : stage ≠ .fresh) : 0 < movesOf es := by
  induction es generalizing stage with
  | nil => exact absurd h.1 begun
  | cons e es ih =>
    cases e with
    | moved => exact Nat.lt_add_right _ Nat.one_pos
    | statement => exact absurd h.1 begun
    | failed => exact Nat.lt_of_lt_of_eq (ih h.2 (by decide)) (Nat.zero_add _).symm

/-- Two statements begin at different tokens. -/
theorem InOrder.movesOf_between {stage : Stage} {es fs gs : List Event} {t t' : Token}
    (h : InOrder stage (es ++ .statement t :: (fs ++ .statement t' :: gs))) : 0 < movesOf fs := by
  induction es generalizing stage with
  | nil => exact movesOf_pos h.2 (by decide)
  | cons e es ih =>
    cases e with
    | moved => exact @ih .fresh h
    | statement | failed => exact ih h.2

/-- What the error says of the window is true of one that shows these tokens. -/
def ParseError.TrueOf (current peek : Token) : ParseError → Prop
  | unexpected expected found => found = peek.kind ∧ found ≠ expected
  | noExpression found => found = current.kind ∧ found.start? = none
  | badInteger literal =>
    current.kind = .int ∧ literal = current.literal ∧ Numeral.value? literal = none

theorem ParseError.trueOf {ts : List Token} {current : Token} {error : ParseError}
    (place : (Event.failed current error).At ts)
    (warranted : (Event.failed current error).Warranted) :
    error.TrueOf (first ts) (first (ts.drop 1)) := by
  obtain ⟨rfl, blames⟩ := place
  cases error with
  | unexpected | noExpression => exact ⟨blames, warranted⟩
  | badInteger => exact ⟨warranted.1, blames, warranted.2⟩

/-- The records give an account of a parse that met the errors, of a text with these tokens at these
places. Tokens are numbered from the first one on. -/
structure Account (lexeme : Nat → Lexeme) (records : List Record) (errors : List ParseError) :
    Prop where
  /-- The tokens are scanned one after the other, two more than there are steps over one. -/
  scanned : records.filterMap Record.lexeme? = (List.range (windowsOf records + 2)).map lexeme
  /-- A step over a token shows the next two, of which the second was just scanned. -/
  moved {before after : List Record} {current peek : Token} :
    records = before ++ .event (.moved current peek) :: after →
      current = (lexeme (windowsOf before + 1)).token ∧
      peek = (lexeme (windowsOf before + 2)).token ∧
      before.getLast? = some (.scanned (lexeme (windowsOf before + 2)))
  /-- A statement begins at the token that the window is on, never at the end of the text. -/
  statement {before after : List Record} {current : Token} :
    records = before ++ .event (.statement current) :: after →
      current = (lexeme (windowsOf before)).token ∧ current.kind ≠ .eof
  /-- Of two statements, the second begins at a later token. -/
  increasing {before between after : List Record} {current current' : Token} :
    records = before ++ .event (.statement current) ::
        (between ++ .event (.statement current') :: after) →
      windowsOf before < windowsOf (before ++ .event (.statement current) :: between)
  /-- The errors are told in order, each once, and nothing else is told as loud. -/
  errors : (records.filter fun r => r.level = .debug).map Record.error? = errors.map some
  /-- An error is told at the token that the window is on, and is true of the window. -/
  failed {before after : List Record} {current : Token} {error : ParseError} :
    records = before ++ .event (.failed current error) :: after →
      current = (lexeme (windowsOf before)).token ∧
      error.TrueOf (lexeme (windowsOf before)).token (lexeme (windowsOf before + 1)).token

section Account

variable {lexeme : Nat → Lexeme} {ts rest : List Token} {events : List Event}

/-- The records of a parser that has taken the steps. -/
def recordsOf (lexeme : Nat → Lexeme) (events : List Event) : List Record :=
  [lexeme 0, lexeme 1].map .scanned ++ recordsFrom lexeme 0 events

/-- A record of a step is one of the steps, after as many steps over a token. -/
theorem exists_event {e : Event} {before after : List Record}
    (h : recordsOf lexeme events = before ++ .event e :: after) :
    ∃ es fs, events = es ++ e :: fs ∧ windowsOf before = movesOf es ∧
      after = recordsFrom lexeme (movesOf es + e.width) fs ∧
      ∀ lexeme' ∈ e.scans lexeme (movesOf es), before.getLast? = some (.scanned lexeme') := by
  obtain ⟨mid, rfl, steps⟩ := exists_of_scanned_append h
  obtain ⟨es, fs, rfl, rfl, rfl⟩ := recordsFrom_eq_append_cons steps
  rw [Nat.zero_add]
  refine ⟨es, fs, rfl, ?_, rfl, fun lexeme' scanned => ?_⟩
  · rw [windowsOf_append, windowsOf_append, windowsOf_scanned, windowsOf_scanned,
      windowsOf_recordsFrom, Nat.zero_add, Nat.add_zero]
  cases e with
  | moved =>
    obtain rfl := List.mem_singleton.mp scanned
    rw [← List.append_assoc]
    exact List.getLast?_concat
  | statement | failed => cases scanned

theorem account_of_logged (token : ∀ n, (lexeme n).token = ts.getD n Token.eof)
    (logged : Logged ts events rest) (inOrder : InOrder .fresh events)
    (warranted : Warranted events) :
    Account lexeme (recordsOf lexeme events) (errorsOf events) where
  scanned := by
    rw [recordsOf, windowsOf_append, windowsOf_scanned, windowsOf_recordsFrom, Nat.zero_add,
      List.filterMap_append, filterMap_lexeme_scanned, filterMap_lexeme_recordsFrom,
      List.range_eq_range', List.range'_succ, List.range'_succ]
    rfl
  moved h := by
    obtain ⟨es, fs, rfl, place, -, last⟩ := exists_event h
    obtain ⟨current, peek⟩ := logged.at
    rw [List.tail_drop, first_drop] at current
    rw [List.tail_drop, List.tail_drop, first_drop] at peek
    rw [place, token, token]
    exact ⟨current, peek, last _ (List.mem_singleton.mpr rfl)⟩
  statement h := by
    obtain ⟨es, fs, rfl, place, -, -⟩ := exists_event h
    have current := logged.at
    have named := warranted _ (List.mem_append_right _ List.mem_cons_self)
    rw [place, token, ← first_drop]
    exact ⟨current, named⟩
  increasing h := by
    obtain ⟨es, fs, rfl, place, later, -⟩ := exists_event h
    obtain ⟨gs, hs, rfl, rfl, -⟩ := recordsFrom_eq_append_cons later.symm
    have further : 0 < movesOf gs := inOrder.movesOf_between
    rw [windowsOf_append, ← List.singleton_append, windowsOf_append, windowsOf_append,
      windowsOf_recordsFrom]
    omega
  errors := by
    rw [filter_debug, recordsOf, List.filterMap_append, filterMap_event_scanned,
      filterMap_event_recordsFrom, List.nil_append]
  failed h := by
    obtain ⟨es, fs, rfl, place, -, -⟩ := exists_event h
    have said := logged.at
    have warranted := warranted _ (List.mem_append_right _ List.mem_cons_self)
    have true_of := ParseError.trueOf said warranted
    rw [List.drop_drop, first_drop, first_drop] at true_of
    rw [place, token, token]
    exact ⟨said.1.trans (first_drop _ _), true_of⟩

end Account

/-- The trace of a text gives an account of its parse: of the tokens that it scans, with the end of
the text over and over after the last one, of the steps, of the statements and of the errors. -/
theorem trace_accounts (source : String) :
    (∀ n, (tokens source).length ≤ n →
      lexemeAt source n = ⟨Token.eof, source.utf8ByteSize⟩) ∧
    Account (lexemeAt source) (trace source)
      (Parser.ofText source).program.after.errorList := by
  refine ⟨fun n h => lexemeAt_of_length_le h, ?_⟩
  obtain ⟨v, rest, events, reads, errors, told⟩ := trace_eq_recordsFrom source
  rw [errors, told]
  exact account_of_logged (fun _ => rfl) reads.logged reads.inOrder (reads.warranted trivial)

end LetFn
