import LetFn.Command.Session
import LetFn.Proofs.Scanning.Basic

/-!
# Lines of a text

A text is cut into lines at its line feeds. `Text.lines` does so on characters, where the command
works on the bytes that it is given; `inputLines_toUTF8` says that these are the same lines. A byte
below 128 stands for a character by itself wherever it stands in a text, so the bytes of a line feed
and of a carriage return are where the characters are.

No token reaches over the end of a line, and what ends it is blank, so the tokens of a text are
those of its lines (`tokens_eq_flatMap_linesOf`).
-/

namespace LetFn

namespace Text

/-! ## Cutting into lines -/

/-- The lines with one more character at the beginning of the first. -/
def prepend (c : Char) : List (List Char) → List (List Char)
  | [] => [[c]]
  | line :: lines => (c :: line) :: lines

/-- The lines of a text without their endings, which are a line feed, or a carriage return and a
line feed. The last one need not be ended. -/
def lines : List Char → List (List Char)
  | [] => []
  | '\n' :: cs => [] :: lines cs
  | '\r' :: '\n' :: cs => [] :: lines cs
  | c :: cs => prepend c (lines cs)

/-- A line without a carriage return at its end. -/
def dropReturn : List Char → List Char
  | [] => []
  | ['\r'] => []
  | c :: cs => c :: dropReturn cs

theorem lines_cons {c : Char} {cs : List Char} (feed : c ≠ '\n')
    (ending : c = '\r' → cs.head? ≠ some '\n') : lines (c :: cs) = prepend c (lines cs) := by
  rw [lines]
  · exact feed
  · rintro rest rfl rfl
    exact ending rfl rfl

theorem dropReturn_cons_cons (c d : Char) (cs : List Char) :
    dropReturn (c :: d :: cs) = c :: dropReturn (d :: cs) := by
  simp [dropReturn]

theorem dropReturn_singleton {c : Char} (h : c ≠ '\r') : dropReturn [c] = [c] := by
  simp [dropReturn, h]

/-- Only the last character can be dropped. -/
theorem dropReturn_concat (cs : List Char) (c : Char) :
    dropReturn (cs ++ [c]) = cs ++ dropReturn [c] := by
  induction cs with
  | nil => rfl
  | cons d cs ih =>
    cases cs with
    | nil => exact dropReturn_cons_cons d c []
    | cons e cs =>
      rw [List.cons_append, List.cons_append, dropReturn_cons_cons]
      exact congrArg (d :: ·) ih

/-- The characters up to the first line feed are the first line. -/
theorem lines_append_newline {line : List Char} (h : '\n' ∉ line) (rest : List Char) :
    lines (line ++ '\n' :: rest) = dropReturn line :: lines rest := by
  induction line with
  | nil => simp [lines, dropReturn]
  | cons c line ih =>
    rw [List.mem_cons, not_or] at h
    obtain ⟨feed, h⟩ := h
    cases line with
    | nil =>
      by_cases ret : c = '\r'
      · subst ret
        simp [lines, dropReturn]
      · rw [List.singleton_append, lines_cons (Ne.symm feed) fun eq => absurd eq ret]
        simp [lines, dropReturn, prepend, ret]
    | cons d line =>
      rw [List.mem_cons, not_or] at h
      have ending : c = '\r' → (d :: line ++ '\n' :: rest).head? ≠ some '\n' := fun _ eq =>
        h.1 (Option.some.inj eq).symm
      rw [dropReturn_cons_cons, List.cons_append, lines_cons (Ne.symm feed) ending,
        ih (by simp [h]), prepend]

/-- Characters without a line feed are one line. -/
theorem lines_eq_singleton {line : List Char} (h : '\n' ∉ line) (nonempty : line ≠ []) :
    lines line = [line] := by
  induction line with
  | nil => exact absurd rfl nonempty
  | cons c line ih =>
    rw [List.mem_cons, not_or] at h
    obtain ⟨feed, h⟩ := h
    have ending : c = '\r' → line.head? ≠ some '\n' := fun _ eq =>
      h (List.mem_of_mem_head? eq)
    rw [lines_cons (Ne.symm feed) ending]
    cases line with
    | nil => rfl
    | cons d line => rw [ih h (List.cons_ne_nil d line), prepend]

/-- Induction on the lines of a text: what holds of the last one, and of a line before a text of
which it holds. -/
theorem lines_induction {motive : List Char → Prop} (cs : List Char)
    (last : ∀ line, '\n' ∉ line → motive line)
    (line : ∀ line rest, '\n' ∉ line → motive rest → motive (line ++ '\n' :: rest)) :
    motive cs := by
  induction hn : cs.length using Nat.strongRecOn generalizing cs with
  | ind n ih =>
  subst hn
  by_cases h : '\n' ∈ cs
  · obtain ⟨first, rest, rfl, hfirst⟩ := List.eq_append_cons_of_mem h
    exact line first rest hfirst (ih _ (by simp; omega) rest rfl)
  · exact last cs h

/-! ## Characters and bytes -/

/-- The bytes of characters. -/
def bytesOf (cs : List Char) : List UInt8 := cs.flatMap String.utf8EncodeChar

theorem bytesOf_append (cs ds : List Char) : bytesOf (cs ++ ds) = bytesOf cs ++ bytesOf ds :=
  List.flatMap_append

theorem bytesOf_singleton (c : Char) : bytesOf [c] = String.utf8EncodeChar c := by
  rw [bytesOf, List.flatMap_singleton]

/-- A byte below 128 is a character by itself. -/
theorem toNat_of_mem_utf8EncodeChar {b : UInt8} {c : Char} (h : b ∈ String.utf8EncodeChar c)
    (low : b.toNat < 128) : c.toNat = b.toNat := by
  have value : c.val.toNat = c.toNat := rfl
  simp only [String.utf8EncodeChar, value] at h
  split at h
  · obtain rfl := List.mem_singleton.mp h
    rw [UInt8.toNat_ofNat']
    omega
  · -- the bytes of a longer character are all 128 or more
    exfalso
    split at h
    · simp only [List.mem_cons, List.not_mem_nil, or_false] at h
      rcases h with rfl | rfl <;> rw [UInt8.toNat_ofNat'] at low <;> omega
    · split at h
      · simp only [List.mem_cons, List.not_mem_nil, or_false] at h
        rcases h with rfl | rfl | rfl <;> rw [UInt8.toNat_ofNat'] at low <;> omega
      · simp only [List.mem_cons, List.not_mem_nil, or_false] at h
        rcases h with rfl | rfl | rfl | rfl <;> rw [UInt8.toNat_ofNat'] at low <;> omega

/-- The byte of a line feed stands in a text only for a line feed. -/
theorem not_mem_bytesOf {cs : List Char} (h : '\n' ∉ cs) : 10 ∉ bytesOf cs := by
  intro mem
  obtain ⟨c, hc, byte⟩ := List.mem_flatMap.mp mem
  obtain rfl : c = '\n' := Char.toNat_inj.mp (toNat_of_mem_utf8EncodeChar byte (by decide))
  exact h hc

end Text

/-- The lines of a text, without their endings. -/
def linesOf (text : String) : List String := (Text.lines text.toList).map String.ofList

namespace Command

open Text

/-- A line of bytes without its ending is the line of characters without it. -/
theorem lineOf_bytesOf (line : List Char) :
    lineOf (bytesOf line).reverse = bytesOf (dropReturn line) := by
  obtain rfl | ⟨before, c, rfl⟩ := List.eq_nil_or_concat line
  · rfl
  rw [List.concat_eq_append, dropReturn_concat, bytesOf_append, bytesOf_append, bytesOf_singleton,
    List.reverse_append]
  by_cases ret : c = '\r'
  · subst ret
    show (bytesOf before).reverse.reverse = bytesOf before ++ []
    rw [List.reverse_reverse, List.append_nil]
  · rw [dropReturn_singleton ret, bytesOf_singleton, lineOf, List.reverse_append,
      List.reverse_reverse, List.reverse_reverse]
    -- the last byte is that of a carriage return only after one
    intro reversed ends
    have byte : 13 ∈ String.utf8EncodeChar c := by
      obtain ⟨b, bytes, start⟩ := List.exists_cons_of_ne_nil
        (List.reverse_ne_nil_iff.mpr (String.utf8EncodeChar_ne_nil (c := c)))
      rw [start] at ends
      obtain ⟨rfl, -⟩ := List.cons.inj ends
      rw [← List.mem_reverse, start]
      exact List.mem_cons_self
    exact ret (Char.toNat_inj.mp (toNat_of_mem_utf8EncodeChar byte (by decide)))

theorem linesAfter_feed (reversed bytes : List UInt8) :
    linesAfter reversed (10 :: bytes) = lineOf reversed :: linesAfter [] bytes := by
  rw [linesAfter]

/-- Bytes without a line feed belong to the line that is open. -/
theorem linesAfter_append {bytes : List UInt8} (h : 10 ∉ bytes) (reversed rest : List UInt8) :
    linesAfter reversed (bytes ++ rest) = linesAfter (bytes.reverse ++ reversed) rest := by
  induction bytes generalizing reversed with
  | nil => rfl
  | cons b bytes ih =>
    rw [List.mem_cons, not_or] at h
    rw [List.cons_append, linesAfter, ih h.2, List.reverse_cons, List.append_assoc,
      List.singleton_append]
    exact Ne.symm h.1

/-- The lines of the bytes of a text are the bytes of its lines. -/
theorem linesAfter_bytesOf (cs : List Char) :
    linesAfter [] (bytesOf cs) = (lines cs).map bytesOf := by
  induction cs using lines_induction with
  | last line h =>
    cases line with
    | nil => rfl
    | cons c line =>
      have none := linesAfter_append (not_mem_bytesOf h) [] []
      have nonempty : bytesOf (c :: line) ≠ [] := by simp [bytesOf]
      rw [List.append_nil, List.append_nil] at none
      rw [none, lines_eq_singleton h (List.cons_ne_nil c line), linesAfter, List.reverse_reverse,
        List.map_singleton]
      simpa using nonempty
  | line line rest h ih =>
    rw [lines_append_newline h, List.map_cons, ← ih, ← lineOf_bytesOf, bytesOf_append,
      linesAfter_append (not_mem_bytesOf h), List.append_nil, ← linesAfter_feed]
    rfl

theorem decode_toUTF8 (text : String) : decode text.toUTF8 = .ok text := by
  have valid : String.fromUTF8? text.toByteArray = some text := by
    rw [String.fromUTF8?, dif_pos text.isValidUTF8]
    rfl
  rw [decode, String.toUTF8, valid]

/-- The lines of the bytes of a text are its lines. -/
theorem inputLines_toUTF8 (text : String) :
    (inputLines text.toUTF8).map decode = (linesOf text).map .ok := by
  have bytes : text.toUTF8.data.toList = bytesOf text.toList := by
    rw [String.toUTF8, ← String.utf8Encode_toList, List.utf8Encode, List.data_toByteArray]
    rfl
  have line (cs : List Char) : decode ⟨(bytesOf cs).toArray⟩ = .ok (String.ofList cs) := by
    rw [← decode_toUTF8, String.toUTF8, String.toByteArray_ofList, List.utf8Encode, bytesOf,
      ← List.data_toByteArray]
  rw [inputLines, bytes, linesAfter_bytesOf, linesOf, List.map_map, List.map_map, List.map_map]
  exact List.map_congr_left fun cs _ => line cs

end Command

/-! ## Tokens of lines -/

theorem scan_dropReturn (line : List Char) : scan (Text.dropReturn line) = scan line := by
  obtain rfl | ⟨before, c, rfl⟩ := List.eq_nil_or_concat line
  · rfl
  rw [List.concat_eq_append, Text.dropReturn_concat]
  by_cases ret : c = '\r'
  · subst ret
    rw [scan_append_blank rfl, scan_nil, List.append_nil]
    exact congrArg scan (List.append_nil before)
  · rw [Text.dropReturn_singleton ret]

/-- The tokens of a text are those of its lines. -/
theorem scan_eq_flatMap_lines (cs : List Char) : scan cs = (Text.lines cs).flatMap scan := by
  induction cs using Text.lines_induction with
  | last line h =>
    cases line with
    | nil => exact scan_nil
    | cons c line =>
      rw [Text.lines_eq_singleton h (List.cons_ne_nil c line), List.flatMap_singleton]
  | line line rest h ih =>
    rw [Text.lines_append_newline h, List.flatMap_cons, scan_dropReturn, scan_append_blank rfl, ih]

theorem tokens_eq_flatMap_linesOf (text : String) :
    tokens text = (linesOf text).flatMap tokens := by
  have line (cs : List Char) : tokens (String.ofList cs) = scan cs := by
    rw [tokens_eq_scan, String.toList_ofList]
  rw [tokens_eq_scan, scan_eq_flatMap_lines, linesOf, List.flatMap_map]
  simp only [line]

end LetFn
