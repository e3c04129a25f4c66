/-!
# Kinds of token

A token has one of twenty-eight kinds. `Kind.name` is the name that listings and messages show,
and `Kind.ofName?` reads it back. Three tables assign kinds to spellings: `Kind.ofWord` to runs
of letters, `Kind.ofPair` to two-character operators, `Kind.ofChar` to single characters.
-/

namespace LetFn

/-- The kinds of token. -/
inductive Kind where
  /-- A character that begins no token. -/
  | illegal
  /-- The end of the text. -/
  | eof
  | ident
  | int
  /-- Reserved: no text scans to it. -/
  | string
  | assign
  | plus
  | minus
  | bang
  | star
  | slash
  | less
  | greater
  | equal
  | notEqual
  | comma
  | semicolon
  | lparen
  | rparen
  | lbrace
  | rbrace
  | function
  | let_
  | true_
  | false_
  | if_
  | else_
  | return_
  deriving DecidableEq, Repr

namespace Kind

/-- Every kind, once. -/
def all : List Kind :=
  [illegal, eof, ident, int, string, assign, plus, minus, bang, star, slash, less, greater,
   equal, notEqual, comma, semicolon, lparen, rparen, lbrace, rbrace, function, let_, true_,
   false_, if_, else_, return_]

theorem mem_all (k : Kind) : k ∈ all := by cases k <;> decide

/-- The name of a kind in listings and messages. -/
def name : Kind → String
  | illegal => "ILLEGAL"
  | eof => "EOF"
  | ident => "IDENT"
  | int => "INT"
  | string => "STRING"
  | assign => "="
  | plus => "+"
  | minus => "-"
  | bang => "!"
  | star => "*"
  | slash => "/"
  | less => "<"
  | greater => ">"
  | equal => "=="
  | notEqual => "!="
  | comma => ","
  | semicolon => ";"
  | lparen => "("
  | rparen => ")"
  | lbrace => "\x7b"
  | rbrace => "\x7d"
  | function => "FUNCTION"
  | let_ => "LET"
  | true_ => "TRUE"
  | false_ => "FALSE"
  | if_ => "IF"
  | else_ => "ELSE"
  | return_ => "RETURN"

/-- The kind of the given name. -/
def ofName? (name : String) : Option Kind := all.find? (·.name = name)

theorem ofName?_name (k : Kind) : ofName? k.name = some k := by cases k <;> decide

/-- The kind of a run of letters: a keyword or an identifier. -/
def ofWord : String → Kind
  | "fn" => function
  | "let" => let_
  | "true" => true_
  | "false" => false_
  | "if" => if_
  | "else" => else_
  | "return" => return_
  | _ => ident

/-- The kind of a two-character operator, `illegal` when there is none. -/
def ofPair : String → Kind
  | "==" => equal
  | "!=" => notEqual
  | _ => illegal

/-- The kind of a character that is a token by itself. -/
def ofChar : Char → Kind
  | '=' => assign
  | '+' => plus
  | '-' => minus
  | '!' => bang
  | '*' => star
  | '/' => slash
  | '<' => less
  | '>' => greater
  | ',' => comma
  | ';' => semicolon
  | '(' => lparen
  | ')' => rparen
  | '{' => lbrace
  | '}' => rbrace
  | _ => illegal

end Kind

end LetFn
