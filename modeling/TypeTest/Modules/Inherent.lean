import TypeTest.Modules.Value

/-!
# What every module has

Besides what its body defines, a module has the operations that come with being a module, and some
attributes that are made or shared by all modules.  The operations can be called like a factory,
so a provider takes one for a factory if it is asked for by name and the body has defined nothing
of that name.  None of them makes a checker: most do not take a configuration, and those that do
work on the module itself.
-/

namespace TypeTest.Modules

variable {σ ρ : Type}

/-- What an inherent operation does with a configuration. -/
inductive Operation where
  /-- It does not take one. -/
  | refuses
  /-- It takes one, and has nothing to show for it. -/
  | ignores
  /-- It looks up what the module has under the configuration's path. -/
  | looksUp
  /-- It takes away what the module has under the configuration's path. -/
  | removes
  /-- It names the module anew, after the configuration's path, and blanks where it came from. -/
  | renames
  /-- It describes the module, if the configuration's path is empty. -/
  | describes
  deriving DecidableEq, Repr

/-- What a module has under a name: an attribute, or one of the operations. -/
inductive Member (σ ρ : Type) where
  | held (own : Attribute σ ρ)
  | operation (operation : Operation)

namespace Member

/-- The value that a member is, seen from outside. -/
def value : Member σ ρ → Value ρ
  | held own => own.value
  | operation _ => .other

/-- Does a member say nothing? -/
def isBlank : Member σ ρ → Bool
  | held (.plain (.data value)) => Modules.isBlank value
  | _ => false

end Member

/-! ## Names with a meaning -/

/-- Under this name a module has its own. -/
def nameKey : CodeText := "__name__"

/-- Under this name a module says what it is for. -/
def docKey : CodeText := "__doc__"

/-- Under this name a module has that of the package it belongs to. -/
def packageKey : CodeText := "__package__"

/-- Under this name a module has what executes it. -/
def loaderKey : CodeText := "__loader__"

/-- Under this name a module has where it comes from. -/
def originKey : CodeText := "__spec__"

/-- Under this name a package has the places in which its submodules are looked up. -/
def placesKey : CodeText := "__path__"

/-- Under this name a module has its file. -/
def fileKey : CodeText := "__file__"

/-- Under this name a module has the file that is kept for it once it is compiled. -/
def compiledKey : CodeText := "__cached__"

/-- Under this name a module has what is built into its language. -/
def builtinsKey : CodeText := "__builtins__"

/-- Under this name a module has notes; there are none at first. -/
def notesKey : CodeText := "__annotations__"

/-- Under this name every module has all its names. -/
def namesKey : CodeText := "__dict__"

/-- Under this name every module has what makes modules. -/
def kindKey : CodeText := "__class__"

/-- Under this name a module can have a function that is asked for what is missing. -/
def missingKey : CodeText := "__getattr__"

/-! ## What is there besides attributes -/

/-- What comes before anything that a module defines: all its names, and what it is. -/
def fixed? (key : CodeText) : Option (Member σ ρ) :=
  if key = namesKey then some (.held (.plain .other))
  else if key = kindKey then some (.operation .ignores)
  else none

/-- What modules are said to be, where nothing else is said. -/
def inheritedDoc : CodeText :=
  "Create a module object.\n\nThe name must be a string; " ++
    "the optional doc argument can have any type."

/-- The operations that every module has. -/
def operations : List (CodeText × Operation) :=
  [("__delattr__", .removes), ("__dir__", .refuses), ("__eq__", .ignores),
    ("__format__", .describes), ("__ge__", .ignores), ("__getattribute__", .looksUp),
    ("__getstate__", .refuses), ("__gt__", .ignores), ("__hash__", .refuses),
    ("__init__", .renames), ("__init_subclass__", .refuses), ("__le__", .ignores),
    ("__lt__", .ignores), ("__ne__", .ignores), ("__new__", .refuses), ("__reduce__", .refuses),
    ("__reduce_ex__", .refuses), ("__repr__", .refuses), ("__setattr__", .refuses),
    ("__sizeof__", .refuses), ("__str__", .refuses), ("__subclasshook__", .ignores)]

/-- What comes after everything that a module defines. -/
def inherited? (key : CodeText) : Option (Member σ ρ) :=
  if key = docKey then some (.held (.plain (.text inheritedDoc)))
  else (operations.lookup key).map .operation

end TypeTest.Modules
