import LetFn.Parsing.Error
import LetFn.Proofs.Text.Listing

/-!
# Reading error reports

The message of an error is one line and says which error it is, so the errors of a source can be
read off their report (`errorLines_readable`).

The three kinds of message begin differently. A message that names two kinds of token has a comma
after the first name, and a name can be a comma itself; but no name has a blank in it, so the first
name ends right before the comma before the first blank (`ParseError.unexpected_inj`).
-/

namespace LetFn

namespace ParseError

theorem message_unexpected (expected found : Kind) : (unexpected expected found).message =
    "Expected next token to be " ++ expected.name ++ ", got " ++ found.name ++ " instead" := rfl

theorem message_noExpression (found : Kind) :
    (noExpression found).message = "no prefix parse function for " ++ found.name ++ " found" := rfl

theorem message_badInteger (literal : String) : (badInteger literal).message =
    "could not parse " ++ Text.quote literal ++ " as integer" := rfl

/-- The message of an error is one line. -/
theorem oneLine_message (e : ParseError) : Text.OneLine e.message := by
  cases e with
  | unexpected expected found =>
    have words : Text.OneLine "Expected next token to be " ∧ Text.OneLine ", got " ∧
        Text.OneLine " instead" := by simp [Text.OneLine]
    simp [message_unexpected, expected.oneLine_name, found.oneLine_name, words]
  | noExpression found =>
    have words : Text.OneLine "no prefix parse function for " ∧ Text.OneLine " found" := by
      simp [Text.OneLine]
    simp [message_noExpression, found.oneLine_name, words]
  | badInteger literal =>
    have words : Text.OneLine "could not parse " ∧ Text.OneLine " as integer" := by
      simp [Text.OneLine]
    simp [message_badInteger, Text.quote, Text.oneLine_quoteWith, words]

/-- Two names with a comma after the first of them can be read back. -/
theorem unexpected_inj {a b c d : Kind}
    (h : (unexpected a b).message = (unexpected c d).message) : a = c ∧ b = d := by
  have blankless (k : Kind) : ' ' ∉ k.name.toList ++ [','] := by
    simp [k.not_mem_name]
  have text (a b : Kind) : (unexpected a b).message.toList =
      "Expected next token to be ".toList ++ ((a.name.toList ++ [',']) ++
        ' ' :: ("got ".toList ++ (b.name.toList ++ " instead".toList))) := by
    simp [message_unexpected]
  replace h := congrArg String.toList h
  rw [text, text] at h
  obtain ⟨expected, rest⟩ := append_cons_inj (blankless a) (blankless c) (List.append_cancel_left h)
  have found := List.append_cancel_right (List.append_cancel_left rest)
  exact ⟨Kind.name_injective (String.toList_inj.mp (List.append_cancel_right expected)),
    Kind.name_injective (String.toList_inj.mp found)⟩

theorem noExpression_inj {a b : Kind}
    (h : (noExpression a).message = (noExpression b).message) : a = b := by
  rw [message_noExpression, message_noExpression, String.append_left_inj,
    String.append_right_inj] at h
  exact Kind.name_injective h

theorem badInteger_inj {s t : String}
    (h : (badInteger s).message = (badInteger t).message) : s = t := by
  rw [message_badInteger, message_badInteger, String.append_left_inj, String.append_right_inj] at h
  exact Text.quoteWith_injective _ h

/-- The first characters of a message tell its kind. -/
theorem message_injective : Function.Injective message := by
  intro e f h
  cases e <;> cases f
  case unexpected.unexpected =>
    obtain ⟨rfl, rfl⟩ := unexpected_inj h
    rfl
  case noExpression.noExpression => rw [noExpression_inj h]
  case badInteger.badInteger => rw [badInteger_inj h]
  all_goals
    have first := congrArg (·.toList.head?) h
    simp [message_unexpected, message_noExpression, message_badInteger] at first

end ParseError

/-- The lines of a report, each after a tab. -/
theorem split_errorLines {errors : List ParseError} (some : errors ≠ []) :
    ((errorLines errors).split '\n').toList.map (·.copy) =
      errors.map fun error => "\t" ++ error.message := by
  have lines : ∀ line ∈ errors.map fun error => "\t" ++ error.message, '\n' ∉ line.toList := by
    intro line mem
    obtain ⟨error, -, rfl⟩ := List.mem_map.mp mem
    have := error.oneLine_message '\n' (by decide)
    simpa using this
  have split := String.toList_split_intercalate lines
  rwa [if_neg (by simpa using some)] at split

/-- Where there are errors, a tab begins their lines. -/
theorem errorLines_cons (error : ParseError) (errors : List ParseError) :
    errorLines (error :: errors) = "\t" ++ String.intercalate "\n" (error.message ::
      errors.map fun error => "\t" ++ error.message) :=
  String.intercalate_cons_append

theorem errorLines_eq_empty_iff {errors : List ParseError} :
    errorLines errors = "" ↔ errors = [] := by
  cases errors with
  | nil => exact ⟨fun _ => rfl, fun _ => String.intercalate_nil⟩
  | cons error errors => simp [errorLines_cons]

theorem errorLines_injective : Function.Injective errorLines := by
  intro es fs h
  have lines : Function.Injective fun error : ParseError => "\t" ++ error.message :=
    fun e f same => ParseError.message_injective ((String.append_right_inj _).mp same)
  by_cases none : es = []
  · rw [none, eq_comm, ← errorLines_eq_empty_iff, ← h, errorLines_eq_empty_iff, none]
  · have some : fs ≠ [] := by
      rwa [Ne, ← errorLines_eq_empty_iff, ← h, errorLines_eq_empty_iff]
    have split := split_errorLines none
    rw [h, split_errorLines some] at split
    exact (List.map_inj_right lines).mp split.symm

/-- The errors of a source can be read off their report: each stands on a line of its own after a
tab, and other errors make another report, whatever the literals are that have no value. -/
theorem errorLines_readable :
    (∀ error : ParseError, Text.OneLine error.message) ∧
      (∀ errors : List ParseError, errors ≠ [] →
        ((errorLines errors).split '\n').toList.map (·.copy) =
          errors.map fun error => "\t" ++ error.message) ∧
      Function.Injective errorLines :=
  ⟨ParseError.oneLine_message, fun _ some => split_errorLines some, errorLines_injective⟩

/-- A report of a comma in the place of a comma, and of a literal with a quotation mark, a backslash
and a line break in it. -/
theorem errorLines_readable_commas :
    let errors : List ParseError := [.unexpected .comma .comma, .badInteger "1\"\\\n2"]
    ((errorLines errors).split '\n').toList.map (·.copy) =
        ["\tExpected next token to be ,, got , instead",
          "\tcould not parse \"1\\\"\\\\\\n2\" as integer"] ∧
      ∀ others, errorLines others = errorLines errors → others = errors := by
  intro errors
  refine ⟨(errorLines_readable.2.1 errors (by decide)).trans ?_, fun _ same =>
    errorLines_readable.2.2 same⟩
  decide

end LetFn
