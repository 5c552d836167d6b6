/-!
# Messages of a checker

A message is a plain text, or an explanation: a text with further explanations of it, in order.
Flattening writes one line per text, each level two spaces deeper than the one above it.
-/

namespace TypeTest

/-- A text with the explanations of it, in order. -/
inductive Explanation where
  | mk (text : String) (details : List Explanation)
  deriving Repr

namespace Explanation

/-- The text that is explained. -/
def text : Explanation → String
  | mk text _ => text

/-- What explains the text, one level below it. -/
def details : Explanation → List Explanation
  | mk _ details => details

mutual

/-- Number of texts in an explanation. -/
def size : Explanation → Nat
  | mk _ details => sizeAll details + 1

/-- Number of texts in several explanations. -/
def sizeAll : List Explanation → Nat
  | [] => 0
  | top :: others => top.size + sizeAll others

end

/-- Explanations that stand at one depth. -/
def atDepth (depth : Nat) (tops : List Explanation) : List (Explanation × Nat) :=
  tops.map fun top => (top, depth)

/-- Number of texts in what is pending. -/
def pendingSize : List (Explanation × Nat) → Nat
  | [] => 0
  | entry :: rest => entry.1.size + pendingSize rest

theorem pendingSize_atDepth_append (depth : Nat) (tops : List Explanation)
    (rest : List (Explanation × Nat)) :
    pendingSize (atDepth depth tops ++ rest) = sizeAll tops + pendingSize rest := by
  induction tops with
  | nil => simp [atDepth, sizeAll]
  | cons top others ih =>
    simp only [atDepth, List.map_cons, List.cons_append, pendingSize, sizeAll] at ih ⊢
    omega

/-- The texts of what is pending with their depths, in the order in which they are written: a
text first, then all that explains it, then what else is pending. -/
def outline (pending : List (Explanation × Nat)) : List (String × Nat) :=
  match pending with
  | [] => []
  | (mk text details, depth) :: rest =>
    (text, depth) :: outline (atDepth (depth + 1) details ++ rest)
termination_by pendingSize pending
decreasing_by
  rw [pendingSize_atDepth_append, pendingSize, size]
  omega

/-- A line of the flattened message: two spaces for each level, then the text. -/
def line (entry : String × Nat) : String :=
  String.ofList (List.replicate (2 * entry.2) ' ') ++ entry.1

/-- The whole explanation as lines, joined by a given line break. -/
def flatten (newLine : String) (top : Explanation) : String :=
  newLine.intercalate ((outline [(top, 0)]).map line)

end Explanation

/-- What a checker has to say. -/
inductive Message where
  | plain (text : String)
  | explained (top : Explanation)
  deriving Repr

namespace Message

/-- A message as one text, its lines joined by a given line break.  A plain text is kept as
it is. -/
def flattenWith (newLine : String) : Message → String
  | .plain text => text
  | .explained top => top.flatten newLine

/-- A message as one text. -/
def flatten (message : Message) : String := message.flattenWith "\n"

end Message

end TypeTest
