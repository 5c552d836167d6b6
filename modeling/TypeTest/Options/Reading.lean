import TypeTest.Json.Display
import TypeTest.Json.Reader
import TypeTest.Options
import TypeTest.Text.Parts

/-!
# Options from data

Options are given as an object with three required members and an optional label.  Every value
counts as the text that it stands for, so a version may be given as a number.  The first thing
that is wrong decides the error: a missing member, installs that are not a list, a malformed
install, no installs, and then the first clash of names.

Data are asked for what they hold whatever they are, and some cannot be asked at all.  A fault of an
entry of the list says that the entry is malformed, and a fault of reading a file that the file
cannot be read.  Any other fault is passed on.

The words in which the system says why a file cannot be read, and those in which the reader refuses
what is no data, are not given here: they come with the content of the file, or are a function of
its bytes.
-/

namespace TypeTest

/-! ## Asking data -/

namespace Json

/-- Does a value hold a key?  An object has its keys, a list holds the strings among its items, and
a text all that occurs in it; nothing else can be asked. -/
def holdsKey (value : Json) (key : CodeText) : Except Fault Bool :=
  match value with
  | obj members => .ok (members.lookup key).isSome
  | arr items => .ok (items.any fun item => item.str? == some key)
  | str text => .ok (Text.occursIn key.codes text.codes)
  | _ => .error .notKeyed

/-- What a value has under a key.  Only an object has anything under a key. -/
def atKey (value : Json) (key : String) : Except Fault Json :=
  match value with
  | obj members =>
    match members.lookup (CodeText.ofString key) with
    | some member => .ok member
    | none => .error (.noKey key)
  | _ => .error .notKeyed

end Json

namespace Options

/-! ## Entries -/

/-- The install that an entry of the list gives. -/
def installOf (entry : Json) : Except Fault Install := do
  let version ← entry.atKey "version_name"
  let path ← entry.atKey "path"
  return ⟨version.display, path.display⟩

/-- What a fault of the entry at an index says. -/
def faultOfEntry (index : Nat) : Fault → Fault
  | .noKey _ => .options (.badInstall index)
  | .notKeyed => .options (.badInstall index)
  | fault => fault

/-- The installs that the entries from an index on give. -/
def installsFrom (index : Nat) : List Json → Except Fault (List Install)
  | [] => return []
  | entry :: entries => do
    let install ←
      try installOf entry
      catch fault => throw (faultOfEntry index fault)
    let installs ← installsFrom (index + 1) entries
    return install :: installs

/-! ## Data -/

/-- The members without which there are no options, in the order in which they are asked for. -/
def requiredKeys : List String := ["config_path", "next_path", "older_installs"]

/-- Fails for the first of some keys that a value does not hold. -/
def checkKeys (value : Json) : (keys : List String) → Except Fault Unit
  | [] => return
  | key :: keys => do
    unless ← value.holdsKey key do
      throw (.options (.missingKey key))
    checkKeys value keys

/-- The installs that the value given for them lists. -/
def installsOf : Json → Except Fault (List Install)
  | .arr entries => installsFrom 0 entries
  | _ => throw (.options .installsNotList)

/-- The options that a value gives. -/
def ofJson (value : Json) : Except Fault Options := do
  checkKeys value requiredKeys
  let older ← installsOf (← value.atKey "older_installs")
  let configPath ← value.atKey "config_path"
  let nextPath ← value.atKey "next_path"
  let label := (value.member? "checker_label").map Json.display
  (ofParts configPath.display nextPath.display (label.getD defaultLabel) older).mapError .options

/-! ## Files -/

/-- The data in a file, from its bytes or the reason why there are none.  What is no data is refused
in words that are given by its bytes. -/
def readData (refusal : ByteArray → String) : Except String ByteArray → Except Fault Json
  | .error reason => throw (.unreadable reason)
  | .ok bytes =>
    match (String.fromUTF8? bytes).bind Json.read? with
    | some value => return value
    | none => throw (.notData (refusal bytes))

/-- What a fault of reading the file of a given name says. -/
def faultOfFile (file : String) : Fault → Fault
  | .unreadable reason => .options (.unreadable file reason)
  | .notData reason => .options (.unreadable file reason)
  | fault => fault

/-- The options in a file of a given name. -/
def load (file : String) (refusal : ByteArray → String) (content : Except String ByteArray) :
    Except Fault Options := do
  let value ←
    try readData refusal content
    catch fault => throw (faultOfFile file fault)
  match value with
  | .obj _ => ofJson value
  | _ => throw (.options (.notAnObject file))

/-! ## Options in any form -/

/-- What a rule may be given for its options. -/
inductive Given where
  /-- Options that are made already. -/
  | ready (options : Options)
  /-- Data; nothing stands for no options. -/
  | data (value : Json)

/-- The options that are meant, if any are. -/
def resolve : Given → Except Fault (Option Options)
  | .ready options => .ok (some options)
  | .data .null => .ok none
  | .data value => (ofJson value).map some

end Options

end TypeTest
