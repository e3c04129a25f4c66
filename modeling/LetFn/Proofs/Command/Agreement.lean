import LetFn.Proofs.Command.Lines
import LetFn.Proofs.Plain.Seam

/-!
# A session and a file

A session renders each line by itself, and a file is rendered as a whole. As long as what hands over
the lines changes none of them, both write the same (`session_agrees`): always as tokens, since no
token reaches over the end of a line; and as trees where every line is finished, so that no block
and no statement of it is open at its end. The session says goodbye after that.

`typedLines` hands over the lines of a text unchanged if there is no backspace in it
(`handsOver_typedLines`).
-/

namespace LetFn

open Text

/-! ## Typed lines -/

namespace Text

theorem flatten_prepend (c : Char) (ls : List (List Char)) :
    (prepend c ls).flatten = c :: ls.flatten := by
  cases ls with
  | nil => rfl
  | cons line ls => rfl

/-- Lines are made of the characters of the text. -/
theorem flatten_lines_sublist (cs : List Char) : (lines cs).flatten.Sublist cs := by
  induction cs using lines.induct with
  | case1 => exact List.nil_sublist _
  | case2 cs ih => exact ih.cons _
  | case3 cs ih => exact (ih.cons _).cons _
  | case4 c cs feed ending ih =>
    rw [lines, flatten_prepend]
    · exact ih.cons_cons c
    · exact feed
    · exact ending

theorem written_foldl_type {found : List (List Char)} (h : ∀ cluster ∈ found, cluster ≠ [backspace])
    (d : Draft) : (found.foldl Draft.type d).written = found.flatten.reverse ++ d.written := by
  induction found generalizing d with
  | nil => rfl
  | cons cluster found ih =>
    rw [List.forall_mem_cons] at h
    rw [List.foldl_cons, ih h.2, Draft.type, if_neg h.1]
    simp [Draft.write]

/-- A line without backspaces stays as it is. -/
theorem applyBackspaces_eq {line : String} (h : backspace ∉ line.toList) :
    applyBackspaces line = line := by
  have clean : ∀ cluster ∈ clusters line.toList, cluster ≠ [backspace] := by
    rintro cluster hcluster rfl
    refine h ?_
    rw [← flatten_clusters line.toList]
    exact List.mem_flatten_of_mem hcluster List.mem_cons_self
  rw [applyBackspaces, written_foldl_type clean, flatten_clusters]
  simp [Draft.empty]

end Text

/-- The lines of a text are handed over as they stand. -/
def HandsOver (handOver : ByteArray → List Command.Handover) (text : String) : Prop :=
  handOver text.toUTF8 = (linesOf text).map .line

/-- Without backspaces nothing is taken back. -/
theorem handsOver_typedLines {text : String} (h : backspace ∉ text.toList) :
    HandsOver Command.typedLines text := by
  have same : ∀ line ∈ linesOf text, applyBackspaces line = line := by
    intro line hline
    obtain ⟨cs, hcs, rfl⟩ := List.mem_map.mp hline
    refine applyBackspaces_eq fun mem => h ?_
    rw [String.toList_ofList] at mem
    exact (flatten_lines_sublist text.toList).subset (List.mem_flatten_of_mem hcs mem)
  have typed : Command.typedLines text.toUTF8 =
      ((Command.inputLines text.toUTF8).map Command.decode).map Command.Handover.typed := by
    rw [List.map_map]
    rfl
  rw [HandsOver, typed, Command.inputLines_toUTF8, List.map_map]
  exact List.map_congr_left fun line hline => congrArg Command.Handover.line (same line hline)

/-! ## Line by line and as a whole -/

theorem listing_append (ts us : List Token) :
    Token.listing (ts ++ us) = Token.listing ts ++ Token.listing us := by
  rw [Token.listing, Token.listingWith, List.map_append, String.join_append]
  rfl

theorem listing_flatMap_tokens (lines : List String) :
    Token.listing (lines.flatMap tokens) = String.join (lines.map (Command.answer .tokens)) := by
  induction lines with
  | nil => rfl
  | cons line lines ih =>
    rw [List.flatMap_cons, listing_append, ih, List.map_cons, String.join_cons]
    rfl

/-- A line that is read without an error and at whose end no block and no statement is open. -/
structure Finished (line : String) : Prop where
  clean : (parse line).errors = []
  balanced : countKind .lbrace (tokens line) = countKind .rbrace (tokens line)
  ended : tokens line = [] ∨ ∃ t ∈ (tokens line).getLast?, t.kind = .semicolon

/-- What comes after a finished line is read as if it stood alone. -/
theorem Finished.parseTokens_append {line : String} (h : Finished line) (ts : List Token) :
    (parseTokens (tokens line ++ ts)).value.statements =
        (parse line).value.statements ++ (parseTokens ts).value.statements ∧
      (parseTokens (tokens line ++ ts)).errors = (parseTokens ts).errors := by
  have derived := derivesProgram_parse h.clean
  have seam : Seam (tokens line) ts := h.ended.imp_right fun ended => .inr (.inl ended)
  obtain ⟨rest, events, run⟩ := exists_reads_parseTokens ts
  obtain ⟨es, none, whole⟩ := Derives.reads_append derived h.balanced seam run
  rw [whole.errors_parseTokens, whole.parseTokens_eq, run.errors_parseTokens, errorsOf_append,
    none]
  exact ⟨rfl, rfl⟩

theorem Program.text_append (ss ss' : List Stmt) :
    Program.text ⟨ss ++ ss'⟩ = Program.text ⟨ss⟩ ++ Program.text ⟨ss'⟩ := by
  rw [Program.text, List.map_append, String.join_append]
  rfl

/-- Finished lines one after the other are read without an error and printed in their order. -/
theorem parseTokens_flatMap {lines : List String} (h : ∀ line ∈ lines, Finished line) :
    (parseTokens (lines.flatMap tokens)).errors = [] ∧
      (parseTokens (lines.flatMap tokens)).value.text =
        String.join (lines.map (Command.answer .tree)) := by
  induction lines with
  | nil => decide
  | cons line lines ih =>
    rw [List.forall_mem_cons] at h
    obtain ⟨finished, h⟩ := h
    obtain ⟨clean, text⟩ := ih h
    obtain ⟨statements, errors⟩ := finished.parseTokens_append (lines.flatMap tokens)
    have answer : Command.answer .tree line = (parse line).value.text := by
      simp [Command.answer, render, finished.clean]
    rw [List.flatMap_cons, List.map_cons, String.join_cons, answer, ← text]
    refine ⟨errors.trans clean, ?_⟩
    rw [← Program.text_append, ← statements]

namespace Command

/-- What a session writes for what is handed over, if it goes on after it. -/
def Handover.reply? (mode : Mode) : Handover → Option String
  | line text => some (answer mode text)
  | interrupted => some "CTRL-C\n"
  | failed _ => none

/-- A session that never fails writes one reply after the other and says goodbye. An interruption
has the same reply at every place, and takes nothing from the others. -/
theorem sessionFrom_of_replies (mode : Mode) (written : String) {handed : List Handover}
    {replies : List String} (h : handed.map (Handover.reply? mode) = replies.map some) :
    sessionFrom mode written handed = ⟨0, written ++ String.join replies ++ "CTRL-D\n", ""⟩ := by
  induction handed generalizing written replies with
  | nil =>
    obtain rfl : replies = [] := List.map_eq_nil_iff.mp h.symm
    rw [sessionFrom, String.join_nil, String.append_empty]
  | cons one handed ih =>
    obtain ⟨reply, more, rfl, replied, others⟩ := List.map_eq_cons_iff.mp h.symm
    rw [String.join_cons, ← String.append_assoc, ← ih (written ++ reply) others.symm]
    cases one with
    | line | interrupted =>
      obtain rfl := Option.some.inj replied
      rfl
    | failed => cases replied

/-- A session over lines that are handed over writes the answer to each. -/
theorem sessionFrom_lines (mode : Mode) (lines : List String) :
    sessionFrom mode "" (lines.map .line) =
      ⟨0, String.join (lines.map (answer mode)) ++ "CTRL-D\n", ""⟩ := by
  have replies : (lines.map Handover.line).map (Handover.reply? mode) =
      (lines.map (answer mode)).map some := by
    rw [List.map_map, List.map_map]
    rfl
  rw [sessionFrom_of_replies mode "" replies, String.empty_append]

/-- The outcome of a run on a file with a text that can be rendered. -/
theorem renderFile_of_render {mode : Mode} {path text written : String}
    (h : render mode text = .ok written) :
    renderFile mode path (.ok text.toUTF8) = ⟨0, written, ""⟩ := by
  have read : (Except.ok text.toUTF8 : Except ReadFailure ByteArray).bind decode = .ok text :=
    decode_toUTF8 text
  simp only [renderFile, read, h]

end Command

/-- A session that is handed over the lines of a text writes what is written for a file with the
text, and says goodbye: as tokens always, as a tree if every line is finished. -/
theorem session_agrees
    (handOver : ByteArray → List Command.Handover) (path text : String)
    (handed : HandsOver handOver text) :
    let file := fun mode => Command.renderFile mode path (.ok text.toUTF8)
    let typed := fun mode => Command.sessionWith handOver mode text.toUTF8
    let listing := Token.listing (tokens text)
    let printed := (parse text).value.text
    (file .tokens = ⟨0, listing, ""⟩ ∧ typed .tokens = ⟨0, listing ++ "CTRL-D\n", ""⟩) ∧
    ((∀ line ∈ linesOf text, Finished line) →
      file .tree = ⟨0, printed, ""⟩ ∧ typed .tree = ⟨0, printed ++ "CTRL-D\n", ""⟩ ∧
      printed = String.join ((linesOf text).map (Command.answer .tree))) := by
  intro file typed listing printed
  have goodbye (mode : Mode) : typed mode =
      ⟨0, String.join ((linesOf text).map (Command.answer mode)) ++ "CTRL-D\n", ""⟩ := by
    show Command.sessionFrom mode "" (handOver text.toUTF8) = _
    rw [handed, Command.sessionFrom_lines]
  have listed : listing = String.join ((linesOf text).map (Command.answer .tokens)) := by
    rw [← listing_flatMap_tokens, ← tokens_eq_flatMap_linesOf]
  refine ⟨⟨Command.renderFile_of_render rfl, ?_⟩, fun finished => ?_⟩
  · rw [goodbye, listed]
  · obtain ⟨clean, answers⟩ := parseTokens_flatMap finished
    rw [← tokens_eq_flatMap_linesOf] at clean answers
    have rendered : render .tree text = .ok printed := if_pos clean
    refine ⟨Command.renderFile_of_render rendered, ?_, answers⟩
    rw [goodbye, ← answers]
    rfl

/-- A statement on a line that ends with a carriage return and a line feed, and another one on a
line that does not end. -/
def twoLines : String := spell [nameX, .symbol ';'] ++ "\r\n" ++ spell [nameX, .symbol ';']

theorem session_agrees_twoLines :
    HandsOver Command.typedLines twoLines ∧ (∀ line ∈ linesOf twoLines, Finished line) ∧
    Command.session .tokens twoLines.toUTF8 =
      ⟨0, Token.listing (tokens twoLines) ++ "CTRL-D\n", ""⟩ ∧
    Command.renderFile .tree "x" (.ok twoLines.toUTF8) = ⟨0, (parse twoLines).value.text, ""⟩ ∧
    Command.session .tree twoLines.toUTF8 =
      ⟨0, (parse twoLines).value.text ++ "CTRL-D\n", ""⟩ := by
  have characters : twoLines.toList = [' ', 'x', ' ', ';', '\r', '\n', ' ', 'x', ' ', ';'] := by
    simp [twoLines, spell, nameX, Token.word, Token.symbol]
  have handed : HandsOver Command.typedLines twoLines :=
    handsOver_typedLines (by rw [characters]; decide)
  have read : tokens (spell [nameX, .symbol ';']) = [nameX, .symbol ';'] :=
    tokens_spell_of_whole (by decide)
  have lines : linesOf twoLines = [spell [nameX, .symbol ';'], spell [nameX, .symbol ';']] := by
    rw [linesOf, characters]
    rfl
  have finished : ∀ line ∈ linesOf twoLines, Finished line := by
    intro line hline
    obtain rfl : line = spell [nameX, .symbol ';'] := by simpa [lines] using hline
    refine ⟨?_, ?_, ?_⟩
    · rw [parse, read]
      decide
    · rw [read]
      rfl
    · rw [read]
      exact .inr ⟨.symbol ';', rfl, rfl⟩
  obtain ⟨⟨-, typed⟩, trees⟩ := session_agrees Command.typedLines "x" twoLines handed
  obtain ⟨file, typed', -⟩ := trees finished
  exact ⟨handed, finished, typed, file, typed'⟩

end LetFn
