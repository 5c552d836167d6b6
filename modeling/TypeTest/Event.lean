import TypeTest.CodeText

/-!
# Events

What a run notes as it goes on: which checkers it builds and which it uses again, which versions
it tries in search of a boundary, and which files it does not try on every version.
-/

namespace TypeTest

/-- How much an event matters to a reader of the log. -/
inductive Event.Level where
  | debug | info
  deriving DecidableEq, Repr

/-- Which part of a run notes an event. -/
inductive Event.Origin where
  | session | rule
  deriving DecidableEq, Repr

/-- What a run notes as it goes on. -/
inductive Event where
  /-- A checker is about to be built for a version. -/
  | building (version : CodeText)
  /-- A checker kept for a version is used again. -/
  | reusing (version : CodeText)
  /-- A version is about to be tested in search of a boundary. -/
  | testing (version : CodeText)
  /-- A file passes on the oldest and the newest version, so the others are left out. -/
  | spared (file : String) (oldest : CodeText)
  deriving DecidableEq, Repr

namespace Event

/-- The level of an event: only tests in search of a boundary are of general interest. -/
def level : Event → Level
  | .testing _ => .info
  | _ => .debug

/-- The part of a run that notes an event. -/
def origin : Event → Origin
  | .building _ => .session
  | .reusing _ => .session
  | .testing _ => .rule
  | .spared _ _ => .rule

/-- The text of an event. -/
def message : Event → CodeText
  | .building version => "building checker instance for version " ++ version
  | .reusing version => "reusing checker instance for version " ++ version
  | .testing version => "Test with " ++ version
  | .spared file oldest =>
    s!"{file} passes on " ++ oldest ++ " and next; skipping versions in between"

end Event

end TypeTest
