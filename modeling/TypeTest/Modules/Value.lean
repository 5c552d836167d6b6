import TypeTest.Checker
import TypeTest.Json

/-!
# What modules hold and give

A module holds attributes: functions that take a text and give a value, and plain values.  Most
values are data.  The others cannot be looked into from outside, but importing needs to tell some
of them apart: where the modules below a bare directory are, and where a module comes from.
-/

namespace TypeTest.Modules

/-- A value that a module holds or that a factory gives. -/
inductive Value (ρ : Type) where
  /-- Data. -/
  | data (value : Json)
  /-- A checker. -/
  | checker (made : ρ)
  /-- The places in which the modules below a bare directory are looked up. -/
  | places (directories : List CodeText)
  /-- Where a module comes from: its name, unless that is left open, and its file, if it has
  one. -/
  | origin (name file : Option CodeText)
  /-- What executes a module, or stands in for that in a bare directory. -/
  | loader (bare : Bool)
  /-- Anything else: another module among them. -/
  | other

/-- An attribute of a module.  A function gets to see the names of its module besides the text
that it is called with. -/
inductive Attribute (σ ρ : Type) where
  | callable
      (call : (names : CodeText → Option (Value ρ)) → (given : CodeText) → Action σ (Value ρ))
  | plain (value : Value ρ)

/-- Does a value say nothing?  Null, false, zero and whatever is empty do not. -/
def isBlank : Json → Bool
  | .null => true
  | .bool value => !value
  | .int value => value == 0
  | .float (.finite _ mantissa _) => mantissa == 0
  | .float _ => false
  | .str text => text.codes.isEmpty
  | .arr items => items.isEmpty
  | .obj members => members.isEmpty

namespace Value

variable {ρ : Type}

/-- A text as a value. -/
def text (value : CodeText) : Value ρ := .data (.str value)

/-- Nothing, as a value. -/
def null : Value ρ := .data .null

/-- A text that may be left open. -/
def text? : Option CodeText → Value ρ
  | some value => text value
  | none => other

/-- The places that a value names when modules are looked up in it: the texts among its items. -/
def listed : Value ρ → Except Fault (List CodeText)
  | data (.str text) => .ok (text.codes.map fun code => ⟨[code]⟩)
  | data (.arr items) => .ok (items.filterMap Json.str?)
  | data (.obj members) => .ok (members.map (·.1))
  | places directories => .ok directories
  | _ => .error .noPlaces

/-- The data of a value; what is no data shows as null. -/
def toJson : Value ρ → Json
  | data value => value
  | _ => .null

end Value

namespace Attribute

variable {σ ρ : Type}

/-- The value that an attribute is, seen from outside. -/
def value : Attribute σ ρ → Value ρ
  | callable _ => .other
  | plain value => value

end Attribute

end TypeTest.Modules
