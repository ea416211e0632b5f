import TypedTemplate.Settings.Misuse
import TypedTemplate.Table

/-! The settings of a project, in five sections. A document gives any of them and leaves the rest at
their defaults. -/
namespace TypedTemplate
open Toml (Value)

namespace Settings

structure Project where
  root : Value
  paths : Value
  failOnWarning : Value

structure Environment where
  engine : Value
  templateDirs : Value
  includePatterns : Value
  excludePatterns : Value

structure Linting where
  strict : Value
  preferBarUnions : Value
  unionStyle : Value
  fixUnions : Value
  warnUnusedImports : Value
  warnUndefinedVariables : Value
  warnTypeMismatches : Value
  validateImports : Value
  validateFilters : Value
  validateMacros : Value
  validateVariables : Value
  checkMissingAnnotations : Value

structure Formatting where
  enabled : Value
  sortImports : Value

structure Errors where
  verbosity : Value
  showSnippets : Value
  showHints : Value
  color : Value

end Settings

structure Settings where
  project : Settings.Project
  environment : Settings.Environment
  linting : Settings.Linting
  formatting : Settings.Formatting
  errors : Settings.Errors

namespace Settings

def texts (ss : List String) : Value := .list (ss.map .text)

def yes : Value := .truth true

def no : Value := .truth false

/-- An entry of a section, or its default. Only a table can be asked. -/
def entry (section_ : Value) (key : String) (default : Value) : Except Misuse Value :=
  match section_ with
  | .table t => .ok ((Table.find? t key).getD default)
  | v => .error (.member v "get")

def readProject (s : Value) : Except Misuse Project := do
  pure {
    root := ← entry s "root" (.text ".")
    paths := ← entry s "paths" (texts ["./types"])
    failOnWarning := ← entry s "fail_on_warning" no }

def readEnvironment (s : Value) : Except Misuse Environment := do
  pure {
    engine := ← entry s "jinja_env" .none
    templateDirs := ← entry s "template_dirs" (texts ["./templates"])
    includePatterns :=
      ← entry s "include_patterns" (texts ["*.html", "*.jinja", "*.jinja2", "*.j2"])
    excludePatterns := ← entry s "exclude_patterns"
      (texts ["**/node_modules/**", "**/.git/**", "**/dist/**", "**/__pycache__/**"]) }

def readLinting (s : Value) : Except Misuse Linting := do
  pure {
    strict := ← entry s "strict" no
    preferBarUnions := ← entry s "prefer_pep604_unions" yes
    unionStyle := ← entry s "union_style" (.text "warning")
    fixUnions := ← entry s "fix_union_syntax" yes
    warnUnusedImports := ← entry s "warn_unused_imports" yes
    warnUndefinedVariables := ← entry s "warn_undefined_variables" yes
    warnTypeMismatches := ← entry s "warn_type_mismatches" yes
    validateImports := ← entry s "validate_imports" yes
    validateFilters := ← entry s "validate_filters" yes
    validateMacros := ← entry s "validate_macros" yes
    validateVariables := ← entry s "validate_variables" yes
    checkMissingAnnotations := ← entry s "check_missing_annotations" no }

def readFormatting (s : Value) : Except Misuse Formatting := do
  pure { enabled := ← entry s "enabled" yes, sortImports := ← entry s "sort_imports" yes }

def readErrors (s : Value) : Except Misuse Errors := do
  pure {
    verbosity := ← entry s "verbosity" (.text "normal")
    showSnippets := ← entry s "show_snippets" yes
    showHints := ← entry s "show_hints" yes
    color := ← entry s "color" (.text "auto") }

/-- The settings that a document gives. Entries with other names do not count. -/
def read (document : Table Value) : Except Misuse Settings := do
  let sectionOf (name : String) : Value := (document.find? name).getD (.table [])
  pure {
    project := ← readProject (sectionOf "project")
    environment := ← readEnvironment (sectionOf "environment")
    linting := ← readLinting (sectionOf "linting")
    formatting := ← readFormatting (sectionOf "formatting")
    errors := ← readErrors (sectionOf "errors") }

/-- Error settings where no document gives any. -/
def Errors.standard : Errors := ⟨.text "normal", yes, yes, .text "auto"⟩

/-- Settings made without a document. They name no types and exclude more directories than an empty
document does. -/
def bare : Settings where
  project := ⟨.text ".", .list [], no⟩
  environment := {
    engine := .none
    templateDirs := texts ["./templates"]
    includePatterns := texts ["*.html", "*.jinja", "*.jinja2", "*.j2"]
    excludePatterns :=
      texts ["**/node_modules/**", "**/.git/**", "**/dist/**", "**/build/**", "wheels/**",
      ".venv/**", "**/__pycache__/**"] }
  linting := ⟨no, yes, .text "warning", yes, yes, yes, yes, yes, yes, yes, yes, no⟩
  formatting := ⟨yes, yes⟩
  errors := .standard

/-- All settings under the names that they have in documents. -/
def sections (s : Settings) : Table (Table Value) := [
  ("project", [
    ("root", s.project.root),
    ("paths", s.project.paths),
    ("fail_on_warning", s.project.failOnWarning)]),
  ("environment", [
    ("jinja_env", s.environment.engine),
    ("template_dirs", s.environment.templateDirs),
    ("include_patterns", s.environment.includePatterns),
    ("exclude_patterns", s.environment.excludePatterns)]),
  ("linting", [
    ("strict", s.linting.strict),
    ("prefer_pep604_unions", s.linting.preferBarUnions),
    ("union_style", s.linting.unionStyle),
    ("fix_union_syntax", s.linting.fixUnions),
    ("warn_unused_imports", s.linting.warnUnusedImports),
    ("warn_undefined_variables", s.linting.warnUndefinedVariables),
    ("warn_type_mismatches", s.linting.warnTypeMismatches),
    ("validate_imports", s.linting.validateImports),
    ("validate_filters", s.linting.validateFilters),
    ("validate_macros", s.linting.validateMacros),
    ("validate_variables", s.linting.validateVariables),
    ("check_missing_annotations", s.linting.checkMissingAnnotations)]),
  ("formatting", [
    ("enabled", s.formatting.enabled),
    ("sort_imports", s.formatting.sortImports)]),
  ("errors", [
    ("verbosity", s.errors.verbosity),
    ("show_snippets", s.errors.showSnippets),
    ("show_hints", s.errors.showHints),
    ("color", s.errors.color)])]

end Settings

end TypedTemplate
