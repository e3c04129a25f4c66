import LetFn.Text.Cluster.Table

/-!
# Grapheme clusters

A grapheme cluster is what a reader takes for one character: a letter with its accents, a flag, a
family of joined pictographs, a Hangul syllable, a conjunct of consonants. `clusters` cuts a text
into its extended grapheme clusters, as Annex 29 of the Unicode Standard defines them.

Whether a boundary stands before a character depends on its class and on what precedes it.
`Context` keeps as much of that as the rule asks for, and `Context.joins` is the rule:

* a carriage return and a line feed belong together, and otherwise controls stand alone;
* Hangul letters and syllables join to syllables;
* marks belong to the character before them, and some signs to the character after them;
* consonants join when a linker stands among the marks between them;
* pictographs join when a joiner stands right before the second one;
* the halves of flags join by twos.

Clusters lose nothing: put together they are the text (`flatten_clusters`).
-/

namespace LetFn.Text

/-- How far a conjunct of consonants has come. -/
inductive Conjunct where
  | none
  /-- A consonant and marks. -/
  | begun
  /-- A consonant and marks with a linker among them. -/
  | linked
  deriving DecidableEq, Repr

/-- How far a sequence of pictographs has come. -/
inductive Pictographs where
  | none
  /-- A pictograph and marks. -/
  | begun
  /-- A pictograph, marks and a joiner. -/
  | joined
  deriving DecidableEq, Repr

/-- What precedes a boundary. -/
structure Context where
  last : Joining
  /-- The run of halves of flags that ends here is of odd length. -/
  halfFlag : Bool
  pictographs : Pictographs
  conjunct : Conjunct
  deriving DecidableEq, Repr

namespace Context

/-- The beginning of a text: nothing is pending. -/
def start : Context := ⟨.control, false, .none, .none⟩

/-- What precedes the boundary after one more character. -/
def step (before : Context) (k : Joining) : Context where
  last := k
  halfFlag := k = .regional && !before.halfFlag
  pictographs :=
    match k, before.pictographs with
    | .pictograph, _ => .begun
    | .extend, .begun | .linker, .begun | .nonJoiner, .begun => .begun
    | .joiner, .begun => .joined
    | _, _ => .none
  conjunct :=
    match k, before.conjunct with
    | .consonant, _ => .begun
    | .linker, .begun => .linked
    | .linker, conjunct | .extend, conjunct | .joiner, conjunct => conjunct
    | _, _ => .none

/-- No boundary stands between what precedes and the next character. -/
def joins (before : Context) (next : Joining) : Bool :=
  match before.last, next with
  | .carriageReturn, .lineFeed => true
  | .carriageReturn, _ | .lineFeed, _ | .control, _ => false
  | _, .carriageReturn | _, .lineFeed | _, .control => false
  | .leading, .leading | .leading, .vowel => true
  | .leading, .openSyllable | .leading, .closedSyllable => true
  | .openSyllable, .vowel | .openSyllable, .trailing => true
  | .vowel, .vowel | .vowel, .trailing => true
  | .closedSyllable, .trailing | .trailing, .trailing => true
  | _, .extend | _, .linker | _, .nonJoiner | _, .joiner | _, .spacing => true
  | .preceding, _ => true
  | _, .consonant => before.conjunct = .linked
  | _, .pictograph => before.pictographs = .joined
  | _, .regional => before.halfFlag
  | _, _ => false

end Context

/-- The clusters of a text after those already found and the one that is open, newest first. -/
def clustersAfter (found : List (List Char)) (opened : List Char) :
    Context → List Char → List (List Char)
  | _, [] => (opened.reverse :: found).reverse
  | before, c :: s =>
    let k := joining c
    if before.joins k then clustersAfter found (c :: opened) (before.step k) s
    else clustersAfter (opened.reverse :: found) [c] (before.step k) s

/-- The grapheme clusters of a text. -/
def clusters : List Char → List (List Char)
  | [] => []
  | c :: s => clustersAfter [] [c] (Context.start.step (joining c)) s

theorem flatten_clustersAfter (found : List (List Char)) (opened : List Char) (before : Context)
    (s : List Char) :
    (clustersAfter found opened before s).flatten =
      found.reverse.flatten ++ opened.reverse ++ s := by
  induction s generalizing found opened before with
  | nil => simp [clustersAfter]
  | cons c s ih =>
    rw [clustersAfter]
    split
    · rw [ih]
      simp
    · rw [ih]
      simp

/-- Clusters lose nothing. -/
theorem flatten_clusters (s : List Char) : (clusters s).flatten = s := by
  cases s with
  | nil => rfl
  | cons c s => simp [clusters, flatten_clustersAfter]

end LetFn.Text
