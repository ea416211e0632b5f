import TypedTemplate.Registry

/-! The classes found in source files, by name and by dotted name, and questions about them. -/
namespace TypedTemplate

structure ClassEntry where
  name : String
  modulePath : String
  file : Path
  fields : Table String
  methods : Table String
  bases : List String

namespace ClassEntry

def qualifiedName (e : ClassEntry) : String := e.file.stem ++ "." ++ e.name

def hasMember (e : ClassEntry) (k : String) : Bool := e.fields.has k || e.methods.has k

end ClassEntry

/-- Conflicts are the names that several files define. -/
structure ClassIndex where
  entries : Table ClassEntry
  conflicts : Table (List ClassEntry)

namespace ClassIndex

def empty : ClassIndex := ⟨[], []⟩

def isDotted (name : String) : Bool := name.toList.contains '.'

def qualified? (x : ClassIndex) (name : String) : Option ClassEntry :=
  x.entries.values.find? fun e => e.qualifiedName == name

def find? (x : ClassIndex) (name : String) : Option ClassEntry :=
  if isDotted name then x.qualified? name else x.entries.find? name

def knows (x : ClassIndex) (name : String) : Bool :=
  isBuiltin name || isTyping name || (x.find? name).isSome

def commonAttributes : List String :=
  ["__class__", "__dict__", "__doc__", "__module__", "__str__", "__repr__", "__hash__"]

def openTypes : List String := ["str", "int", "float", "bool", "list", "dict", "set", "tuple"]

inductive AttributeError where
  | ambiguous (type : String) (candidates : List String)
  | noType (type : String)
  | noAttribute (type attr : String)

def AttributeError.message : AttributeError → String
  | ambiguous t candidates =>
    "Ambiguous type '" ++ t ++ "' found in multiple files. Use qualified name: " ++ Text.joinWith
      ", " candidates ++
      " or import explicitly with \x7b# typja:from <module> import " ++ t ++ " #\x7d"
  | noType t => "Type '" ++ t ++ "' not found"
  | noAttribute t a => "Attribute '" ++ a ++ "' not found on type '" ++ t ++ "'"

/-- Whether a type has an attribute. -/
def checkAttribute (x : ClassIndex) (type attr : String) : Except AttributeError Unit :=
  if openTypes.contains type then .ok ()
  else
    match x.find? type with
    | some e =>
      if e.hasMember attr || commonAttributes.contains attr then .ok ()
      else .error (.noAttribute e.qualifiedName attr)
    | none =>
      match x.conflicts.find? type with
      | some es => .error (.ambiguous type (es.map ClassEntry.qualifiedName))
      | none => .error (.noType type)

/-- The recorded annotation of an attribute. A dotted name is looked for among the qualified names
first. -/
def attributeType? (x : ClassIndex) (type attr : String) : Option String :=
  match if isDotted type then x.qualified? type else none with
  | some e => e.fields.find? attr
  | none => (x.entries.find? type).bind (·.fields.find? attr)

def byName (es : List ClassEntry) : Table (List ClassEntry) := Table.groups ClassEntry.name id es

def severalFiles : List ClassEntry → Bool
  | [] => false
  | e :: es => es.any fun e' => e'.file != e.file

/-- Records the names that several files define; names recorded before stay. -/
def detectConflicts (x : ClassIndex) : ClassIndex :=
  { x with conflicts := x.conflicts.insertAll ((byName x.entries.values).filter fun e =>
    severalFiles e.2) }

end ClassIndex

end TypedTemplate
