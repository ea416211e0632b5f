import TypedTemplate.Directive.Comment
import TypedTemplate.Template.Engine
import TypedTemplate.Usage.Visit

/-! Checking templates one after the other. What a template declares stays known to the analysis;
what it imports is forgotten before the next. -/
namespace TypedTemplate

structure Analysis where
  engine : Template.Engine
  order : SetOrder
  index : Option ClassIndex
  byRegistry : Bool
  varTypes : Table TypeExpr
  filters : Table TypeExpr
  macros : Table MacroSignature
  ignored : List Int
  issues : List Issue

namespace Analysis

inductive Interruption where
  | comment (failure : Comment.Failure)
  | reading (b : Template.Breakdown)

def Interruption.message : Interruption → String
  | comment failure => failure.message
  | reading b => b.message

/-- An analysis with the engine that is given, or with one of its own. Either is made to escape. -/
def start (engine : Option Template.Engine) (order : SetOrder) (index : Option ClassIndex)
    (byRegistry : Bool) : Analysis :=
  ⟨(engine.getD .standard).escape, order, index, byRegistry, [], [], [], [], []⟩

def report (a : Analysis) (is : List Issue) : Analysis := { a with issues := a.issues ++ is }

def issueAt (filename : String) (p : Position) (message : String) (hint : Option String) : Issue :=
  ⟨.error, message, filename, p.line, p.col, none, hint⟩

/-- Whether a name in a declared type is known, and if not, why. -/
def checkTypeName (x : ClassIndex) (r : Registry) (filename : String) (p : Position)
    (t : TypeExpr) :
    List Issue × Bool :=
  let name := t.name
  if isBuiltin name || isTyping name || r.imported.has name then ([], false)
  else
    match if (t.module.getD "").isEmpty then x.conflicts.find? name else none with
    | some es =>
      ([issueAt filename p ("Ambiguous type '" ++ name ++ "' found in multiple files")
        (some ("Use qualified name: " ++ Text.joinWith ", " (es.map ClassEntry.qualifiedName) ++
          " or import explicitly with \x7b# typja:from <module> import " ++ name ++ " #\x7d"))],
            false)
    | none =>
      if x.knows name then ([], true)
      else
        ([issueAt filename p ("Type '" ++ name ++ "' not found in configured paths")
          (some ("Make sure '" ++ name ++
            "' is defined in files under the 'paths' configuration"))], true)

mutual
def checkSingleType (x : ClassIndex) (r : Registry) (filename : String) (p : Position) :
    TypeExpr → List Issue
  | .named raw n m => (checkTypeName x r filename p (.named raw n m)).1
  | .generic raw n m args =>
    let (found, goOn) := checkTypeName x r filename p (.generic raw n m args)
    if goOn then found ++ checkSingleTypes x r filename p args else found
  | .union raw style ms => (checkTypeName x r filename p (.union raw style ms)).1

def checkSingleTypes (x : ClassIndex) (r : Registry) (filename : String) (p : Position) :
    List TypeExpr → List Issue
  | [] => []
  | t :: ts => checkSingleType x r filename p t ++ checkSingleTypes x r filename p ts
end

def checkType (x : ClassIndex) (r : Registry) (filename : String) (p : Position) (t : TypeExpr) :
    List Issue :=
  match t.members with
  | [] => checkSingleType x r filename p t
  | ms => checkSingleTypes x r filename p ms

def checkResolved (r : Registry) (filename : String) (p : Position) (lead : String) (t : TypeExpr) :
    List Issue :=
  match r.resolve t with
  | .ok _ => []
  | .error e => [issueAt filename p (lead ++ e.message) none]

def declareVariable (a : Analysis) (r : Registry) (filename : String) (p : Position)
    (d : TypedName) : Analysis :=
  let found := match a.index with
    | some x => checkType x r filename p d.type
    | none => checkResolved r filename p "" d.type
  { a.report found with varTypes := a.varTypes.insert d.name d.type }

def declareFilter (a : Analysis) (filename : String) (p : Position) (d : TypedName) : Analysis :=
  let found := if d.type.name == "Callable" then []
    else [issueAt filename p ("Filter '" ++ d.name ++ "' must have Callable type") none]
  { a.report found with filters := a.filters.insert d.name d.type }

def declareMacro (a : Analysis) (r : Registry) (filename : String) (p : Position)
    (d : MacroSignature) : Analysis :=
  let inParams := d.params.flatMap fun q =>
    checkResolved r filename p ("Invalid type for parameter '" ++ q.name ++ "': ") q.type
  let inResult := checkResolved r filename p "Invalid return type: " d.result
  { a.report (inParams ++ inResult) with macros := a.macros.insert d.name d }

/-- The effect of one comment. An import that fails is reported by the caller. -/
def applyComment (a : Analysis) (r : Registry) (filename : String) (c : Comment) :
    Analysis × Registry × Option Registry.Error :=
  match c.directive with
  | .ignore => ({ a with ignored := if a.ignored.contains c.position.line then a.ignored
                                    else a.ignored ++ [c.position.line] }, r, none)
  | .importModule m =>
    match r.importModule m with
    | .ok r' => (a, r', none)
    | .error e => (a, r, some e)
  | .importFrom m names =>
    let (r', e) := r.importFrom m names
    (a, r', e)
  | .varTypes ds => (ds.foldl (fun a d => a.declareVariable r filename c.position d) a, r, none)
  | .filter d => (a.declareFilter filename c.position d, r, none)
  | .macroSignature d => (a.declareMacro r filename c.position d, r, none)

/-- The effects of comments up to the first failing import. -/
def applyComments (a : Analysis) (r : Registry) (filename : String) :
    List Comment → Analysis × Registry × Option Registry.Error
  | [] => (a, r, none)
  | c :: cs =>
    match a.applyComment r filename c with
    | (a', r', none) => applyComments a' r' filename cs
    | failed => failed

def usage (a : Analysis) (r : Registry) (filename : String) (content : String) : Usage where
  order := a.order
  filename := filename
  lines := Text.lines content.toList
  varTypes := a.varTypes
  filters := a.filters
  macros := a.macros
  ignored := a.ignored
  registry := r
  index := a.index
  byRegistry := a.byRegistry

def checkText (a : Analysis) (r : Registry) (filename content : String) :
    Except Interruption (List Issue) :=
  match a.engine.reading filename content with
  | .tree stmts => .ok ((a.usage r filename content).issues stmts)
  | .fault message line =>
    .ok [⟨.error, "Jinja2 syntax error: " ++ message, filename, line, 0, none, none⟩]
  | .broken b => .error (.reading b)

/-- Checks a template. A comment that cannot be read interrupts the analysis; an import that fails
is an issue without a place, and then the text is not read. -/
def template (a : Analysis) (r : Registry) (filename content : String) :
    Analysis × Registry × Option Interruption :=
  let r := r.clearImports
  match Comment.parseAll filename content with
  | .error f => (a, r, some (.comment f))
  | .ok comments =>
    match a.applyComments r filename comments with
    | (a, r, some e) => (a.report [⟨.error, e.message, filename, 0, 0, none, none⟩], r, none)
    | (a, r, none) =>
      let found := a.checkText r filename content
      let a := { a with engine := a.engine.after filename content }
      match found with
      | .ok found => (a.report found, r, none)
      | .error i => (a, r, some i)

end Analysis

end TypedTemplate
