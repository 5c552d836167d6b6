import TypeTest.Unicode.Classes

/-!
# Tokens of a source text

The lexical skeleton that curly-brace languages share: line breaks, blanks, comments, quoted
literals, words, and single characters for everything else.  That is enough to know which `//`
really begins a comment.

A token is found by ordered choice.  Each rule takes a run of characters off the head of the
text, or nothing where it does not apply; the first rule that takes something decides the
token, and a character that no rule takes is a token of its own.  So every text has tokens, and
`Token.scan` ends them with one end-of-file token.
-/

namespace TypeTest

open Unicode

/-- What kind of token a run of characters is.  Words and single characters are both
`other`: nothing here depends on the difference. -/
inductive Token.Kind where
  | endOfFile | whitespace | newline | lineComment | blockComment | string | other
  deriving DecidableEq, Repr

namespace Token.Kind

/-- All kinds, in the order in which they are listed. -/
def all : List Token.Kind :=
  [.endOfFile, .whitespace, .newline, .lineComment, .blockComment, .string, .other]

/-- The symbolic name of a kind. -/
def symbol : Token.Kind → String
  | .endOfFile => "END_OF_FILE"
  | .whitespace => "WHITESPACE"
  | .newline => "NEWLINE"
  | .lineComment => "LINE_COMMENT"
  | .blockComment => "BLOCK_COMMENT"
  | .string => "STRING"
  | .other => "OTHER"

/-- The text by which a kind is written. -/
def label : Token.Kind → String
  | .endOfFile => "eof"
  | .whitespace => "whitespace"
  | .newline => "newline"
  | .lineComment => "lineComment"
  | .blockComment => "blockComment"
  | .string => "string"
  | .other => "other"

end Token.Kind

/-- A run of characters of a text, with the offset at which it starts. -/
structure Token where
  kind : Token.Kind
  start : Nat
  chars : List Char
  deriving DecidableEq, Repr

namespace Token

/-! ## The rules

Each rule maps a text to the characters that it takes off the head of the text. -/

/-- A line break: CR LF, CR or LF. -/
def newline : List Char → List Char
  | '\r' :: '\n' :: _ => ['\r', '\n']
  | c :: _ => if isLineEnd c then [c] else []
  | [] => []

/-- A run of blanks. -/
def blanks (text : List Char) : List Char :=
  text.takeWhile isInlineBlank

/-- Two slashes and the rest of the line. -/
def lineComment : List Char → List Char
  | '/' :: '/' :: rest => '/' :: '/' :: rest.takeWhile fun c => !isLineEnd c
  | _ => []

/-- A block comment after its opening: through the first `*/`, or else to the end of the
text. -/
def blockBody : List Char → List Char
  | '*' :: '/' :: _ => ['*', '/']
  | c :: rest => c :: blockBody rest
  | [] => []

/-- A block comment. -/
def blockComment : List Char → List Char
  | '/' :: '*' :: rest => '/' :: '*' :: blockBody rest
  | _ => []

/-- A literal after its opening quote: through the closing quote if one comes first, otherwise
up to the end of the line (where `oneLine`) or of the text.  A backslash takes the next
character with it; as the last character of the text it takes nothing and is left out. -/
def literalBody (quote : Char) (oneLine : Bool) : List Char → List Char
  | [] => []
  | ['\\'] => []
  | '\\' :: escaped :: rest => '\\' :: escaped :: literalBody quote oneLine rest
  | c :: rest =>
    if c = quote then [c]
    else if oneLine && isLineEnd c then []
    else c :: literalBody quote oneLine rest

/-- A quoted literal.  Only the back quote lets a literal run over several lines. -/
def literal : List Char → List Char
  | c :: rest =>
    if c = '"' ∨ c = '\'' then c :: literalBody c true rest
    else if c = '\x60' then c :: literalBody c false rest
    else []
  | [] => []

/-- A run of word characters and dollar signs. -/
def word (text : List Char) : List Char :=
  text.takeWhile fun c => isWordChar c || c == '$'

/-- The rules with the kind of token each makes, in order of choice. -/
def rules : List (Token.Kind × (List Char → List Char)) :=
  [(.newline, newline), (.whitespace, blanks), (.lineComment, lineComment),
    (.blockComment, blockComment), (.string, literal), (.other, word)]

/-! ## Scanning -/

/-- What a rule makes of a text, unless it takes nothing. -/
def takenBy? (text : List Char) (rule : Token.Kind × (List Char → List Char)) :
    Option (Token.Kind × List Char) :=
  match rule.2 text with
  | [] => none
  | taken => some (rule.1, taken)

/-- Kind and characters of the first token of a text that begins with `c`. -/
def first (c : Char) (rest : List Char) : Token.Kind × List Char :=
  (rules.findSome? (takenBy? (c :: rest))).getD (.other, [c])

/-- No token is empty, so scanning always moves on. -/
theorem first_ne_nil (c : Char) (rest : List Char) : (first c rest).2 ≠ [] := by
  unfold first
  cases found : rules.findSome? (takenBy? (c :: rest)) with
  | none => simp
  | some token =>
    obtain ⟨rule, -, applied⟩ := List.exists_of_findSome?_eq_some found
    unfold takenBy? at applied
    split at applied
    · simp at applied
    · obtain rfl := Option.some.inj applied
      simp_all

/-- The tokens of a text that begins at an offset, and the end-of-file token after them. -/
def scanFrom (offset : Nat) : List Char → List Token
  | [] => [⟨.endOfFile, offset, []⟩]
  | c :: rest =>
    ⟨(first c rest).1, offset, (first c rest).2⟩ ::
      scanFrom (offset + (first c rest).2.length) ((c :: rest).drop (first c rest).2.length)
termination_by text => text.length
decreasing_by
  have := List.length_pos_iff.2 (first_ne_nil c rest)
  simp only [List.length_drop, List.length_cons]
  omega

/-- The tokens of a text. -/
def scan (text : List Char) : List Token := scanFrom 0 text

/-- The text of a token. -/
def text (token : Token) : String := String.ofList token.chars

@[simp] theorem scan_nil : scan [] = [⟨.endOfFile, 0, []⟩] := by
  simp [scan, scanFrom]

end Token

end TypeTest
