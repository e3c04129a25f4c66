import LetFn.Proofs.Text.Quoted
import LetFn.Render

/-!
# Reading listings

A listing shows a token a line, and the tokens can be read off it, whatever set of characters is
written as code points (`listing_decodable`).

The text of a token tells where it ends (`Token.textWith_append_inj`): the name of a kind has no
quotation mark in it, so the first one begins the quoted spelling. Names themselves are not enough
for this, since some begin with others and one is the parenthesis that stands after all of them.
-/

namespace LetFn

/-- What stands before a mark, if it is not in there, and what stands after it. -/
theorem append_cons_inj {α : Type} {a : α} {xs ys zs ws : List α} (hx : a ∉ xs) (hy : a ∉ ys)
    (h : xs ++ a :: zs = ys ++ a :: ws) : xs = ys ∧ zs = ws := by
  induction xs generalizing ys with
  | nil =>
    cases ys with
    | nil => exact ⟨rfl, (List.cons.inj h).2⟩
    | cons y ys =>
      obtain rfl := (List.cons.inj h).1
      exact absurd List.mem_cons_self hy
  | cons x xs ih =>
    cases ys with
    | nil =>
      obtain rfl := (List.cons.inj h).1
      exact absurd List.mem_cons_self hx
    | cons y ys =>
      obtain ⟨rfl, rest⟩ := List.cons.inj h
      obtain ⟨rfl, after⟩ := ih (fun mem => hx (.tail _ mem)) (fun mem => hy (.tail _ mem)) rest
      exact ⟨rfl, after⟩

namespace Kind

theorem name_injective {k k' : Kind} (h : k.name = k'.name) : k = k' := by
  have found := ofName?_name k
  rw [h, ofName?_name] at found
  exact (Option.some.inj found).symm

/-- A name is one line without blanks and quotation marks. -/
theorem not_mem_name {c : Char} (h : c ∈ ['"', ' ', '\n', '\r']) (k : Kind) :
    c ∉ k.name.toList := by
  have plain : k.name.toList.all (· ∉ ['"', ' ', '\n', '\r']) = true := by cases k <;> rfl
  intro mem
  exact of_decide_eq_true (List.all_eq_true.mp plain c mem) h

theorem oneLine_name (k : Kind) : Text.OneLine k.name := fun _ h =>
  not_mem_name (.tail _ (.tail _ h)) k

end Kind

namespace Token

variable {escaped : Char → Bool}

theorem toList_textWith (t : Token) : (t.textWith escaped).toList =
    (t.kind.name.toList ++ ['(']) ++
      '"' :: (Text.encode escaped t.literal.toList ++ '"' :: [')']) := by
  simp [textWith, Text.toList_quoteWith]

/-- The text of a token and what stands after it can be read back. -/
theorem textWith_append_inj {t u : Token} {cs ds : List Char}
    (h : (t.textWith escaped).toList ++ cs = (u.textWith escaped).toList ++ ds) :
    t = u ∧ cs = ds := by
  have unmarked (k : Kind) : '"' ∉ k.name.toList ++ ['('] := by
    simp [k.not_mem_name]
  simp only [toList_textWith, List.append_assoc _ ('"' :: _), List.cons_append] at h
  obtain ⟨names, rest⟩ := append_cons_inj (unmarked t.kind) (unmarked u.kind) h
  have kinds : t.kind = u.kind :=
    Kind.name_injective (String.toList_inj.mp (List.append_cancel_right names))
  obtain ⟨literals, after⟩ := Text.encode_append_inj rest
  obtain ⟨k, literal⟩ := t
  obtain ⟨k', literal'⟩ := u
  obtain rfl : k = k' := kinds
  obtain rfl : literal = literal' := String.toList_inj.mp literals
  exact ⟨rfl, (List.cons.inj after).2⟩

theorem textWith_injective : Function.Injective (textWith escaped) := fun _ _ h =>
  (@textWith_append_inj escaped _ _ [] [] (by rw [h])).1

/-- The text of a token is one line. -/
theorem oneLine_textWith (t : Token) : Text.OneLine (t.textWith escaped) := by
  have parentheses : Text.OneLine "(" ∧ Text.OneLine ")" := by simp [Text.OneLine]
  simp [textWith, t.kind.oneLine_name, Text.oneLine_quoteWith, parentheses]

theorem toList_listingWith_nil : (listingWith escaped []).toList = [] := rfl

theorem toList_listingWith_cons (t : Token) (ts : List Token) :
    (listingWith escaped (t :: ts)).toList =
      (t.textWith escaped).toList ++ '\n' :: (listingWith escaped ts).toList := by
  simp [listingWith, -String.toList_join]

theorem count_newline_listingWith (ts : List Token) :
    (listingWith escaped ts).toList.count '\n' = ts.length := by
  induction ts with
  | nil => rfl
  | cons t ts ih =>
    have line : (t.textWith escaped).toList.count '\n' = 0 :=
      List.count_eq_zero.mpr (t.oneLine_textWith '\n' (by decide))
    rw [toList_listingWith_cons, List.count_append, line, List.count_cons_self, ih, Nat.zero_add,
      List.length_cons]

theorem listingWith_injective : Function.Injective (listingWith escaped) := by
  intro ts us h
  replace h := congrArg String.toList h
  induction ts generalizing us with
  | nil =>
    cases us with
    | nil => rfl
    | cons u us => simp [toList_listingWith_cons, toList_listingWith_nil] at h
  | cons t ts ih =>
    cases us with
    | nil => simp [toList_listingWith_cons, toList_listingWith_nil] at h
    | cons u us =>
      rw [toList_listingWith_cons, toList_listingWith_cons] at h
      obtain ⟨rfl, rest⟩ := textWith_append_inj h
      rw [ih (List.cons.inj rest).2]

end Token

theorem render_tokens_inj {source source' : String} :
    render .tokens source = render .tokens source' ↔ tokens source = tokens source' := by
  refine ⟨fun same => ?_, fun same => by rw [render, render, same]⟩
  exact Token.listingWith_injective (Except.ok.inj same)

/-- Tokens and lists of tokens can be read off their texts, whatever characters are written as code
points. A token is shown on one line, and a source is rendered as one line for each of its tokens,
which says what tokens they are. -/
theorem listing_decodable (escaped : Char → Bool) :
    Function.Injective (Token.textWith escaped) ∧
      (∀ t : Token, Text.OneLine (t.textWith escaped)) ∧
      Function.Injective (Token.listingWith escaped) ∧
      (∀ ts : List Token, (Token.listingWith escaped ts).toList.count '\n' = ts.length) ∧
      (∀ source source' : String,
        render .tokens source = render .tokens source' ↔ tokens source = tokens source') ∧
      ∀ source : String, ∃ out, render .tokens source = .ok out ∧
        out.toList.count '\n' = (tokens source).length :=
  ⟨Token.textWith_injective, Token.oneLine_textWith, Token.listingWith_injective,
    Token.count_newline_listingWith, fun _ _ => render_tokens_inj,
    fun source => ⟨_, rfl, Token.count_newline_listingWith (tokens source)⟩⟩

end LetFn
