import LetFn.Proofs.Grammar.Complete
import LetFn.Proofs.Recognizer.Simulation
import LetFn.Proofs.Scanning.Basic

/-!
# What was read up to the first error can be completed

From every configuration the machine can be brought to the end of a program: first comes what is
still missing of the construct that is due, then what closes the open constructs one after the
other (`Config.completion`). So the tokens before the offending token of the first error are the
beginning of a program without errors, and with the offending token they are not
(`first_error_at_offending`).
-/

namespace LetFn

/-- A name. -/
def nameX : Token := .word "x"

/-- A block without statements. -/
def closedBlock : List Token := [.symbol '{', .symbol '}']

/-- What closes an open construct after an expression or statement. -/
def Frame.completion : Frame → List Token
  | group | call => [.symbol ')']
  | condition => .symbol ')' :: closedBlock
  | block _ => [.symbol '}']

/-- What completes the operand or statement that is due. -/
def Place.completion : Place → List Token
  | operator | afterThen => []
  | operand | statement => [nameX]
  | firstArgument => [.symbol ')']
  | conditionOpening => .symbol '(' :: nameX :: .symbol ')' :: closedBlock
  | blockOpening _ => closedBlock
  | letName => [nameX, .symbol '=', nameX]
  | letAssign => [.symbol '=', nameX]
  | parametersOpening => .symbol '(' :: .symbol ')' :: closedBlock
  | firstParameter => .symbol ')' :: closedBlock
  | parameter => nameX :: .symbol ')' :: closedBlock
  | afterParameter => .symbol ')' :: closedBlock

/-- The tokens of completions. -/
def completionTokens : List Token :=
  [nameX, .symbol '(', .symbol ')', .symbol '{', .symbol '}', .symbol '=']

theorem Frame.completion_subset (frame : Frame) : frame.completion ⊆ completionTokens := by
  cases frame <;> simp [completion, closedBlock, completionTokens]

theorem Place.completion_subset (place : Place) : place.completion ⊆ completionTokens := by
  cases place <;> simp [completion, closedBlock, completionTokens]

theorem scanned_of_mem_completionTokens {t : Token} (h : t ∈ completionTokens) : t.Scanned := by
  have whole : ∀ u ∈ completionTokens, u.Whole := by decide
  exact (whole t h).scanned

namespace Config

/-- What completes a program. -/
def completion (c : Config) : List Token :=
  c.place.completion ++ c.frames.flatMap Frame.completion

/-- The place is completed to the place after an operand. -/
theorem feed_place (place : Place) (frames : List Frame) (more : List Token) :
    ∃ thenBlock, feed place.completion.length ⟨place, frames⟩ (place.completion ++ more) =
      some ⟨afterBlock thenBlock, frames⟩ := by
  cases place with
  | blockOpening thenBlock => exact ⟨thenBlock, rfl⟩
  | afterThen | conditionOpening => exact ⟨true, rfl⟩
  | statement =>
    refine ⟨false, ?_⟩
    cases frames with
    | nil => rfl
    | cons frame outer => cases frame <;> rfl
  | _ => exact ⟨false, rfl⟩

/-- The innermost open construct is completed to an operand of the next. -/
theorem feed_frame (frame : Frame) (outer : List Frame) (thenBlock : Bool) (more : List Token) :
    ∃ thenBlock', feed frame.completion.length ⟨afterBlock thenBlock, frame :: outer⟩
      (frame.completion ++ more) = some ⟨afterBlock thenBlock', outer⟩ := by
  cases frame with
  | condition => exact ⟨true, by cases thenBlock <;> rfl⟩
  | block after => exact ⟨after, by cases thenBlock <;> rfl⟩
  | _ => exact ⟨false, by cases thenBlock <;> rfl⟩

/-- All open constructs are completed. -/
theorem feed_frames (frames : List Frame) (thenBlock : Bool) :
    ∃ thenBlock', feed (frames.flatMap Frame.completion).length ⟨afterBlock thenBlock, frames⟩
      (frames.flatMap Frame.completion) = some ⟨afterBlock thenBlock', []⟩ := by
  induction frames generalizing thenBlock with
  | nil => exact ⟨thenBlock, rfl⟩
  | cons frame outer ih =>
    obtain ⟨after, hframe⟩ := feed_frame frame outer thenBlock (outer.flatMap Frame.completion)
    obtain ⟨after', hframes⟩ := ih after
    refine ⟨after', ?_⟩
    rw [List.flatMap_cons, List.length_append, feed_add, hframe, Option.bind_some,
      List.drop_left, hframes]

/-- At the end of a program the end of the text can be read again and again. -/
theorem feed_start_nil (n : Nat) : feed n start [] = some start := by
  induction n with
  | zero => rfl
  | succ n ih => exact ih

theorem feed_end (thenBlock : Bool) (n : Nat) : (feed n ⟨afterBlock thenBlock, []⟩ []).isSome := by
  cases n with
  | zero => rfl
  | succ n =>
    have step_eq : feed (n + 1) ⟨afterBlock thenBlock, []⟩ [] = feed n start [] := by
      cases thenBlock <;> rfl
    rw [step_eq, feed_start_nil]
    rfl

/-- Every configuration can be completed. -/
theorem feed_completion (c : Config) (n : Nat) : (feed n c c.completion).isSome := by
  obtain ⟨place, frames⟩ := c
  obtain ⟨after, hplace⟩ := feed_place place frames (frames.flatMap Frame.completion)
  obtain ⟨after', hframes⟩ := feed_frames frames after
  have whole : feed (Config.completion ⟨place, frames⟩).length ⟨place, frames⟩
      (Config.completion ⟨place, frames⟩) = some ⟨afterBlock after', []⟩ := by
    rw [completion, List.length_append, feed_add, hplace, Option.bind_some, List.drop_left, hframes]
  refine feed_isSome_of_le (Nat.le_add_left n (Config.completion ⟨place, frames⟩).length) ?_
  rw [feed_add, whole, Option.bind_some, List.drop_length]
  exact feed_end after' n

/-- Only the tokens that are read matter. -/
theorem feed_take_append {i : Nat} {c : Config} {ts : List Token} (h : i ≤ ts.length)
    (more : List Token) : feed i c (ts.take i ++ more) = feed i c ts := by
  induction i generalizing c ts with
  | zero => rfl
  | succ i ih =>
    cases ts with
    | nil => cases h
    | cons t ts =>
      simp only [feed_succ, List.take_succ_cons, List.cons_append, first_cons, List.tail_cons]
      congr 1
      funext d
      exact ih (Nat.le_of_succ_le_succ h)

/-- A completion can be spelled. -/
theorem scanned_of_mem_completion {c : Config} {t : Token} (h : t ∈ c.completion) : t.Scanned := by
  refine scanned_of_mem_completionTokens ?_
  obtain h | h := List.mem_append.mp h
  · exact c.place.completion_subset h
  · obtain ⟨frame, -, h⟩ := List.mem_flatMap.mp h
    exact frame.completion_subset h

end Config

open Config

/-- What was read before the machine was stuck is the beginning of a program. -/
theorem Stuck.completes {ts : List Token} {j : Nat} (h : Stuck start ts j) :
    ∃ c : Config, (parseTokens (ts.take j ++ c.completion)).errors = [] := by
  have hle : min j ts.length ≤ ts.length := Nat.min_le_right _ _
  obtain ⟨c, hc⟩ := Option.isSome_iff_exists.mp
    (feed_isSome_of_le (Nat.min_le_left j ts.length) h.feed_isSome)
  refine ⟨c, errors_eq_nil_of_feed fun n => ?_⟩
  rw [List.take_eq_take_min]
  refine feed_isSome_of_le (Nat.le_add_left n (min j ts.length)) ?_
  rw [feed_add, feed_take_append hle, hc, Option.bind_some, List.drop_left' (by simp)]
  exact feed_completion c n

/-- What is read until the machine is stuck, and the next token, begin no program. -/
theorem Stuck.errors_ne_nil {ts : List Token} {j : Nat} (h : Stuck start ts j)
    (eofless : Eofless ts) (hj : j < ts.length) (more : List Token) :
    (parseTokens (ts.take (j + 1) ++ more)).errors ≠ [] := by
  intro clean
  obtain ⟨n, hn, heof⟩ := feed_of_errors_eq_nil clean
  have hle : n ≤ j := by
    refine Nat.le_of_lt_succ (Nat.lt_of_not_le fun hlt => ?_)
    have read := feed_isSome_of_le hlt hn
    rw [feed_take_append hj, h.feed_eq_none] at read
    cases read
  -- but up to the offending token there is no end of the text
  have hlt : n < (ts.take (j + 1)).length := by
    rw [List.length_take]
    omega
  rw [List.drop_append_of_le_length (Nat.le_of_lt hlt), List.drop_eq_getElem_cons hlt,
    List.cons_append, first_cons] at heof
  exact eofless _ (List.mem_of_mem_take (List.getElem_mem hlt)) heof

/-- The tokens before the offending token of the first error are the beginning of a source without
errors. With the offending token they are not, unless it is the end of the text. -/
theorem first_error_at_offending (source : String) (h : (parse source).errors ≠ []) :
    ∃ j, offending (parse source).after.eventList = some j ∧
      (∃ error rest, (parse source).errors = error :: rest ∧
        error.Blames (first ((tokens source).drop j))) ∧
      (∃ completed more, tokens completed = (tokens source).take j ++ more ∧
        (parse completed).errors = []) ∧
      (j < (tokens source).length → ∀ more,
        (parseTokens ((tokens source).take (j + 1) ++ more)).errors ≠ []) := by
  obtain ⟨j, hj, stuck⟩ := stuck_of_errors h
  refine ⟨j, hj, ?_, ?_, stuck.errors_ne_nil (eofless_tokens source)⟩
  · obtain ⟨rest, events, run⟩ := exists_reads_parseTokens (tokens source)
    rw [run.eventList_parseTokens] at hj
    rw [parse, run.errors_parseTokens]
    exact run.logged.blames_offending hj
  · obtain ⟨c, clean⟩ := stuck.completes
    have scanned : ∀ t ∈ (tokens source).take j ++ c.completion, t.Scanned := by
      intro t ht
      obtain ht | ht := List.mem_append.mp ht
      · exact scanned_of_mem_scan (tokens_eq_scan source ▸ List.mem_of_mem_take ht)
      · exact scanned_of_mem_completion ht
    have spelled := tokens_spell scanned
    refine ⟨_, _, spelled, ?_⟩
    rw [parse, spelled]
    exact clean

/-- A call whose first argument is missing. -/
def emptyArgument : String := spell [nameX, .symbol '(', .symbol ',']

theorem tokens_emptyArgument : tokens emptyArgument = [nameX, .symbol '(', .symbol ','] :=
  tokens_spell_of_whole (by decide)

theorem first_error_emptyArgument : (parse emptyArgument).errors ≠ [] ∧
    ∃ j, offending (parse emptyArgument).after.eventList = some j ∧
      (∃ error rest, (parse emptyArgument).errors = error :: rest ∧
        error.Blames (first ((tokens emptyArgument).drop j))) ∧
      (∃ completed more, tokens completed = (tokens emptyArgument).take j ++ more ∧
        (parse completed).errors = []) ∧
      (j < (tokens emptyArgument).length → ∀ more,
        (parseTokens ((tokens emptyArgument).take (j + 1) ++ more)).errors ≠ []) := by
  have errors : (parse emptyArgument).errors ≠ [] := by
    rw [parse, tokens_emptyArgument]
    decide
  exact ⟨errors, first_error_at_offending emptyArgument errors⟩

end LetFn
