import TypeTest.Text.Parts

/-!
# Normal forms of type texts

A checker may print the members of a union or an intersection in any order.  The normal form of
a type text sorts them: the text is cut at ` | ` and each part at ` & `, wherever no bracket is
open, the members are put in order of code points, and the pieces are joined again.  A member
that is wrapped in one pair of parentheses is brought to normal form inside.  Generic arguments
are left as they are.

Brackets of every kind are counted alike.  Text with a closing bracket too many, as a truncated
type may have, is cut as if that bracket were not there.
-/

namespace TypeTest.TypeText

open Text (extendFirst length_le_of_mem_extendFirst)

/-- The three brackets that open. -/
def isOpener (c : Char) : Bool := c == '(' || c == '[' || c == '{'

/-- The three brackets that close. -/
def isCloser (c : Char) : Bool := c == ')' || c == ']' || c == '}'

/-! ## Cutting and joining -/

/-- Cuts a text at each separator (a space, the mark, a space) that no bracket encloses, given
how many brackets are open.  The depth never falls below zero. -/
def splitAt (mark : Char) (depth : Nat) : List Char → List (List Char)
  | [] => [[]]
  | ' ' :: m :: ' ' :: rest =>
    if depth = 0 ∧ m = mark then [] :: splitAt mark 0 rest
    else extendFirst ' ' (splitAt mark depth (m :: ' ' :: rest))
  | c :: rest =>
    if isOpener c then extendFirst c (splitAt mark (depth + 1) rest)
    else if isCloser c then extendFirst c (splitAt mark (depth - 1) rest)
    else extendFirst c (splitAt mark depth rest)

/-- The parts of a text between its top-level separators. -/
def split (mark : Char) (text : List Char) : List (List Char) := splitAt mark 0 text

/-- Joins parts with a separator. -/
def join (mark : Char) (parts : List (List Char)) : List Char :=
  [' ', mark, ' '].intercalate parts

/-- Puts texts in order of their code points. -/
def sort (texts : List (List Char)) : List (List Char) :=
  texts.mergeSort fun a b => decide (¬ b < a)

/-! ## Wrapped members -/

/-- What follows the bracket that closes the outermost of `depth + 1` open ones. -/
def afterClose? (depth : Nat) : List Char → Option (List Char)
  | [] => none
  | c :: rest =>
    if isOpener c then afterClose? (depth + 1) rest
    else if isCloser c then
      match depth with
      | 0 => some rest
      | depth + 1 => afterClose? depth rest
    else afterClose? depth rest

/-- The inside of a text whose first character is a parenthesis that only the last
character, a parenthesis too, closes. -/
def unwrap? : List Char → Option (List Char)
  | '(' :: rest =>
    if rest.getLast? = some ')' ∧ afterClose? 0 rest = some [] then some rest.dropLast else none
  | _ => none

/-! ## Sizes of the pieces -/

/-- A part of a text is no longer than the text. -/
theorem length_le_of_mem_splitAt {mark : Char} {depth : Nat} {text part : List Char}
    (mem : part ∈ splitAt mark depth text) : part.length ≤ text.length := by
  fun_induction splitAt mark depth text generalizing part with
  | case1 => simp_all
  | case2 depth m rest _ ih =>
    rcases List.mem_cons.1 mem with rfl | mem
    · simp
    · have := ih mem
      simp only [List.length_cons]
      omega
  | case3 depth m rest _ ih =>
    exact length_le_of_mem_extendFirst (fun _ mem => ih mem) mem
  | case4 depth c rest _ _ ih =>
    exact length_le_of_mem_extendFirst (fun _ mem => ih mem) mem
  | case5 depth c rest _ _ _ ih =>
    exact length_le_of_mem_extendFirst (fun _ mem => ih mem) mem
  | case6 depth c rest _ _ _ ih =>
    exact length_le_of_mem_extendFirst (fun _ mem => ih mem) mem

/-- The inside of a wrapped text is shorter than the text. -/
theorem length_lt_of_unwrap? {text inner : List Char} (wrapped : unwrap? text = some inner) :
    inner.length < text.length := by
  unfold unwrap? at wrapped
  split at wrapped
  · split at wrapped
    · obtain rfl := Option.some.inj wrapped
      simp only [List.length_dropLast, List.length_cons]
      omega
    · simp at wrapped
  · simp at wrapped

/-! ## Normal forms -/

/-- The normal form of a type text, on characters. -/
def normalizeChars (text : List Char) : List Char :=
  join '|' <| sort <| (split '|' text).attach.map fun part =>
    join '&' <| sort <| (split '&' part.1).attach.map fun member =>
      match _wrapped : unwrap? member.1 with
      | some inner => '(' :: normalizeChars inner ++ [')']
      | none => member.1
termination_by text.length
decreasing_by
  have inside := length_lt_of_unwrap? _wrapped
  have ofPart := length_le_of_mem_splitAt member.2
  have ofText := length_le_of_mem_splitAt part.2
  omega

/-- The normal form of a type text: two texts that differ only in the order of the members of
unions and intersections, at any depth of parentheses, have the same one. -/
def normalize (text : String) : String := String.ofList (normalizeChars text.toList)

end TypeTest.TypeText
