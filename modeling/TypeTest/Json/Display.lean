import TypeTest.Json.Printer
import TypeTest.Text.Quoted

/-!
# Values as option texts

Every option is a text in the end.  A string stands for itself; any other value is displayed:
`None`, `True` and `False`, numbers, and lists and objects with their strings quoted.
-/

namespace TypeTest.Json

/-- Displayed numbers are set like written ones; only the words for what is not finite are
shorter. -/
def displayLayout : Number.Layout :=
  { numberLayout with nan := "nan", infinity := "inf" }

mutual

/-- The characters of a value inside another. -/
def displayInside : Json → List Char
  | null => "None".toList
  | bool true => "True".toList
  | bool false => "False".toList
  | int value => Number.intChars value
  | float value => displayLayout.render value
  | str value => Text.quoted value
  | arr items => '[' :: displayItems items ++ [']']
  | obj members => '\x7b' :: displayMembers members ++ ['\x7d']

/-- The items of a list, with a comma between them. -/
def displayItems : List Json → List Char
  | [] => []
  | [item] => item.displayInside
  | item :: items => item.displayInside ++ ',' :: ' ' :: displayItems items

/-- The members of an object, with a comma between them. -/
def displayMembers : List (CodeText × Json) → List Char
  | [] => []
  | [(key, value)] => Text.quoted key ++ ':' :: ' ' :: value.displayInside
  | (key, value) :: members =>
    Text.quoted key ++ ':' :: ' ' :: value.displayInside ++
      ',' :: ' ' :: displayMembers members

end

/-- The text that a value stands for. -/
def display : Json → CodeText
  | str value => value
  | value => String.ofList value.displayInside

@[simp] theorem display_str (value : CodeText) : (str value).display = value := rfl

end TypeTest.Json
