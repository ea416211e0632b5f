import TypedTemplate.ClassIndex.Basic

/-! Making the classes of an index known to a registry. Every entry gives one definition, known by
the key of the entry; it belongs to the last module that lists it. -/
namespace TypedTemplate.ClassIndex

def listingModules (e : ClassEntry) : List String :=
  e.file.stem :: if e.modulePath.isEmpty || isDotted e.modulePath then [] else [e.modulePath]

def moduleListings (entries : Table ClassEntry) : Table (Table String) :=
  entries.foldl
    (fun t (key, e) => (listingModules e).foldl
      (fun t m => t.insert m (((t.find? m).getD []).insert e.name key)) t) []

def owner (listings : Table (Table String)) (key : String) (e : ClassEntry) : Option String :=
  match (listings.filter fun l => l.2.values.contains key).getLast? with
  | some (m, _) => some m
  | none => if e.modulePath.isEmpty then none else some e.modulePath

def definition (module : Option String) (e : ClassEntry) : Definition :=
  ⟨e.name, e.fields, some e.methods, module⟩

def definitions (entries : Table ClassEntry) : Table Definition :=
  let listings := moduleListings entries
  entries.map fun (key, e) => (key, definition (owner listings key e) e)

/-- Registers every entry under its own module path. -/
def registerEntries (x : ClassIndex) (defs : Table Definition) (r : Registry) : Registry :=
  x.entries.foldl
    (fun r (key, e) =>
      match defs.find? key with
      | none => r
      | some d =>
        let r := { r with types := r.types.insert e.name d }
        if e.modulePath.isEmpty then r
        else
          let known := (r.modules.find? e.modulePath).getD []
          { r with modules := r.modules.insert e.modulePath (known.insert e.name d) }) r

def registerListings (listings : Table (Table String)) (defs : Table Definition) (r : Registry) :
    Registry :=
  listings.foldl
    (fun r (m, names) =>
      let listed : Table Definition :=
        names.filterMap fun (n, key) => (defs.find? key).map fun d => (n, d)
      { r with
        modules := r.modules.insert m listed
        types := listed.foldl (fun t e => t.insert e.2.name e.2) r.types }) r

def importTopLevel (x : ClassIndex) (r : Registry) : Registry :=
  x.entries.foldl
    (fun r (key, e) =>
      if !isDotted e.modulePath && key == e.modulePath ++ "." ++ e.name then
        { r with imported := r.imported.insert e.name (some (definition (some e.modulePath) e)) }
      else r) r

/-- The index with its conflicts, and the registry that knows all of its classes. -/
def register (x : ClassIndex) (r : Registry) : ClassIndex × Registry :=
  let x := x.detectConflicts
  let defs := definitions x.entries
  let r := registerListings (moduleListings x.entries) defs (registerEntries x defs r)
  let r := importTopLevel x r
  (x, { r with conflicts := x.conflicts.map fun (n, es) =>
    (n, es.map fun e => .qualified e.qualifiedName) })

end TypedTemplate.ClassIndex
