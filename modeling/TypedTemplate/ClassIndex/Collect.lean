import TypedTemplate.ClassIndex.Basic
import TypedTemplate.ClassSource.Outline
import TypedTemplate.FileTree.Search

/-! Collecting the classes of source files. A package makes classes of its modules known under its
own name. -/
namespace TypedTemplate.ClassIndex
open ClassSource

/-- An import in the source of a package. Each name may have another one after it, which does not
count. -/
structure PackageImport where
  source : Option String
  level : Nat
  names : List (PlainName × Option PlainName)

structure Package where
  path : String
  imports : List PackageImport

def isPackageFile (name : String) : Bool := name == "__init__.py"

def modulePath (relative : Path) : String :=
  let front := relative.segments.dropLast
  Text.joinWith "." (if isPackageFile relative.name then front else front ++ [relative.stem])

def entryOf (module : String) (file : Path) (o : Outline) : ClassEntry :=
  ⟨o.name, module, file, o.fields, o.methods, o.bases⟩

def addEntry (entries : Table ClassEntry) (e : ClassEntry) : Table ClassEntry :=
  let entries := entries.insert e.name e
  if e.modulePath.isEmpty then entries else entries.insert (e.modulePath ++ "." ++ e.name) e

def importsOf (body : List Stmt) : List PackageImport :=
  (Stmt.walk body).filterMap fun s =>
    match s with
    | .importFrom source level names => some ⟨source, level, names⟩
    | _ => none

/-- The statements of a source file. A file that is no readable source has none. -/
def statements? (t : FileTree) (file : Path) : Option (List Stmt) := do
  let content ← t.content? file
  let text ← (FileTree.readText content).toOption
  ClassSource.parse text.toList

/-- The entries with those of a file, and the package that the file is, if it is one. -/
def addFile (t : FileTree) (root file : Path) (entries : Table ClassEntry) :
    Table ClassEntry × Option Package :=
  match statements? t file, file.relativeTo? root with
  | some body, some relative =>
    let module := modulePath relative
    let (outlines, complete) := Outline.collect (Stmt.walk body)
    let entries := outlines.foldl (fun es o => addEntry es (entryOf module file o)) entries
    if complete && isPackageFile relative.name && !module.isEmpty
      then (entries, some ⟨module, importsOf body⟩)
    else (entries, none)
  | _, _ => (entries, none)

def addToPackage (package name : String) (e : ClassEntry) (entries : Table ClassEntry) :
    Table ClassEntry :=
  let key := package ++ "." ++ name
  if entries.has key then entries else entries.insert key { e with modulePath := package }

def importAll (package source : String) (entries : Table ClassEntry) : Table ClassEntry :=
  (entries.filter fun (key, e) => e.modulePath == source && !isDotted key).foldl
    (fun es (key, e) => addToPackage package key e es) entries

def importName (package source name : String) (entries : Table ClassEntry) : Table ClassEntry :=
  match (entries.find? (source ++ "." ++ name)).or (entries.find? name) with
  | some e => addToPackage package name e entries
  | none => entries

def importNames (package : String) (i : PackageImport) (entries : Table ClassEntry) :
    Table ClassEntry :=
  match i.source with
  | none => entries
  | some s =>
    let source := if i.level > 0 then package ++ "." ++ s else s
    i.names.foldl
      (fun es (n, _) =>
        if n.text == "*" then importAll package source es else importName package source n.text es)
          entries

def addPackage (entries : Table ClassEntry) (p : Package) : Table ClassEntry :=
  p.imports.foldl (fun es i => importNames p.path i es) entries

def isExcluded (root : Path) (exclude : List String) (file : Path) : Bool :=
  let text := ((file.relativeTo? root).getD file).render
  exclude.any fun p => nameMatches p text || nameMatches (bareFront p) (bareFront text)

def isSourceFile (p : Path) : Bool := p.suffix == ".py"

/-- The source files that a path stands for: itself, or those below it that are not excluded. -/
def filesOf (t : FileTree) (root : Path) (exclude : List String) (p : Path) : List Path :=
  if t.isFile p && isSourceFile p then [p]
  else if t.isDir p then
    (t.select ["**", "*.py"] p).filter fun f => !isExcluded root exclude f
  else []

def addFiles (t : FileTree) (root : Path) (files : List Path) (entries : Table ClassEntry) :
    Table ClassEntry × List Package :=
  files.foldl
    (fun (es, ps) f =>
      let (es, p) := addFile t root f es
      (es, ps ++ p.toList)) (entries, [])

/-- The index of the classes below some paths. Packages come last, when all classes are known.
Conflicts are kept. -/
def collect (t : FileTree) (root : Path) (exclude : List String) (paths : List Path)
    (x : ClassIndex) : ClassIndex :=
  let (entries, packages) := addFiles t root (paths.flatMap (filesOf t root exclude)) []
  { x with entries := packages.foldl addPackage entries }

def collectFile (t : FileTree) (root file : Path) (x : ClassIndex) : ClassIndex :=
  let (entries, package) := addFile t root file x.entries
  { x with entries := package.elim entries (addPackage entries) }

end TypedTemplate.ClassIndex
