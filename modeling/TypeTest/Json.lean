import TypeTest.Assoc
import TypeTest.CodeText
import TypeTest.Number.Binary64

/-!
# Data values

The values that options are given as and failures are reported as.  A number written with a
fraction or an exponent is a double-precision one, any other is an integer of any size.  The
members of an object are kept in order, each key once.
-/

namespace TypeTest

/-- A data value. -/
inductive Json where
  | null
  | bool (value : Bool)
  | int (value : Int)
  | float (value : Number.Binary64)
  | str (value : CodeText)
  | arr (items : List Json)
  | obj (members : List (CodeText × Json))
  deriving Repr, Inhabited

namespace Json

/-- The text of a string value. -/
def str? : Json → Option CodeText
  | str value => some value
  | _ => none

/-- The value of an integer. -/
def int? : Json → Option Int
  | int value => some value
  | _ => none

/-- The items of an array. -/
def items? : Json → Option (List Json)
  | arr items => some items
  | _ => none

/-- The members of an object. -/
def members? : Json → Option (List (CodeText × Json))
  | obj members => some members
  | _ => none

/-- The value of an object's member. -/
def member? (value : Json) (key : String) : Option Json :=
  value.members?.bind (List.lookup (CodeText.ofString key))

/-- A text that may be absent. -/
def ofText? : Option CodeText → Json
  | some text => str text
  | none => null

end Json

end TypeTest
