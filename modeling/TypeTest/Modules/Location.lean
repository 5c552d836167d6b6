import TypeTest.CodeText

/-!
# Locations of checker modules

An install says where its checker module is: by a path, absolute or under the working directory,
or by a dotted name.  A path is read as its components; empty ones and `.` say nothing and are
left out, `..` goes up one directory, and a first one that begins with `~` stands for the home
directory of a user.  What a resolved path leads to is for the file tree to say.
-/

namespace TypeTest.Modules

/-- A place in the file tree: the names on the way from the root. -/
abbrev Path := List CodeText

/-- The text of a path. -/
def Path.text (path : Path) : CodeText := "/" ++ CodeText.intercalate "/" path

/-- The components of a location that say something. -/
def components (location : CodeText) : List CodeText :=
  (location.splitOn '/').filter fun part => part ≠ "" ∧ part ≠ "."

/-- Does a location start from the root? -/
def isAbsolute (location : CodeText) : Bool := location.codes.head? == some '/'.toNat

/-- The text of a location, without what says nothing. -/
def plainText (location : CodeText) : CodeText :=
  match isAbsolute location, components location with
  | true, parts => "/" ++ CodeText.intercalate "/" parts
  | false, [] => "."
  | false, parts => CodeText.intercalate "/" parts

/-- The user whose home directory a first component stands for; no name is that of the one who runs
the program. -/
def homeUser? (first : CodeText) : Option CodeText :=
  if first.codes.head? = some '~'.toNat then some ⟨first.codes.tail⟩ else none

/-- Is a code point a surrogate that stands for a byte which is no part of a character? -/
def standsForByte (code : Nat) : Bool := 0xdc80 ≤ code && code ≤ 0xdcff

/-- Can something be there under a location?  No path holds the character NUL, and none a surrogate
that stands for no byte. -/
def isPossible (location : CodeText) : Bool :=
  location.codes.all fun code => code ≠ 0 && (code.isValidChar || standsForByte code)

/-- The number of bytes that a code point takes up in a path. -/
def codeSize (code : Nat) : Nat :=
  if code < 0x80 ∨ standsForByte code then 1
  else if code < 0x800 then 2
  else if code < 0x10000 then 3
  else 4

/-- The number of bytes that a text takes up in a path. -/
def byteSize (text : CodeText) : Nat :=
  text.codes.foldl (fun size code => size + codeSize code) 0

/-- The number of bytes that the name of a file can have at most. -/
def longestName : Nat := 255

/-- The number of bytes that a path can have at most. -/
def longestPath : Nat := 4095

/-- A text without the strokes at its end. -/
def withoutStrokes (text : CodeText) : CodeText :=
  ⟨(text.codes.reverse.dropWhile (· == '/'.toNat)).reverse⟩

/-- A place inside another.  Strokes at the end of either say nothing. -/
def inside (place name : CodeText) : CodeText := withoutStrokes place ++ "/" ++ withoutStrokes name

/-- The ending of module files. -/
def moduleEnding : CodeText := ".py"

/-- The endings of files that hold modules, in the order in which they are looked for.  Only a
source file can be executed here. -/
def moduleEndings : List CodeText := [".abi3.so", ".so", moduleEnding, ".pyc"]

/-- Does a name end in a certain way? -/
def endsIn (ending name : CodeText) : Bool := ending.codes.isSuffixOf name.codes

/-- Does a file have the name of a module that can be executed? -/
def namesModule (name : CodeText) : Bool := endsIn moduleEnding name

/-- Does a location end like a module file?  The ending must follow a stem. -/
def looksLikeModule (location : CodeText) : Bool :=
  match (components location).getLast? with
  | none => false
  | some name => namesModule name && moduleEnding.codes.length < name.codes.length

/-- The path that components lead to from a directory, read off the components alone. -/
def resolve (base : Path) : List CodeText → Path
  | [] => base
  | part :: parts =>
    if part = ".." then resolve base.dropLast parts else resolve (base ++ [part]) parts

/-- The parts of a dotted name, last part first. -/
def nameParts (name : CodeText) : List CodeText := (name.splitOn '.').reverse

/-- The first part of a dotted name. -/
def topmost (name : CodeText) : CodeText := ⟨name.codes.takeWhile (· ≠ '.'.toNat)⟩

/-- The dotted name with given parts, last part first. -/
def dotted (parts : List CodeText) : CodeText := CodeText.intercalate "." parts.reverse

/-- The dotted name with given parts, and all names above it. -/
def namesUpTo : (parts : List CodeText) → List CodeText
  | [] => []
  | part :: above => dotted (part :: above) :: namesUpTo above

/-- The name of a module file without its ending. -/
def stem (file : CodeText) : CodeText :=
  ⟨file.codes.take (file.codes.length - moduleEnding.codes.length)⟩

/-- The text of the file that is kept for a module file once it is compiled. -/
def compiledText (directory file : CodeText) : CodeText :=
  let kept : CodeText := if file = moduleEnding then "py" else stem file
  inside (inside directory "__pycache__") (kept ++ ".cpython-311.pyc")

end TypeTest.Modules
