/-! The settings file for a new project. It spells out every default. -/
namespace TypedTemplate.Settings

def starterLines : List String := [
  "# typja configuration file",
  "# Generated by typja init",
  "",
  "# ============================================================================",
  "# Project Configuration",
  "# ============================================================================",
  "[project]",
  "# Root directory of the project i.e you (where typja looks for files)",
  "root = \".\"",
  "",
  "# Paths where typja looks for type definition in modules in your project starting from the root",
  "# These are searched in order when resolving imports",
  "# Paths can be globs too e.g \"./src/**/schemas/*.py\"",
  "# If path is a directory, for example \"./types\", typja looks for \"./types/__init__.py\"",
  "paths = []",
  "",
  "# Exit code on warnings",
  "fail_on_warning = false",
  "",
  "",
  "# ============================================================================",
  "# Jinja Environment Configuration",
  "# ============================================================================",
  "[environment]",
  "# Where your Jinja environment is configured (relative to root)",
  "# Format: \"module.path:attribute_name\"",
  "# jinja_env = \"app.templates:env\"",
  "",
  "# Template directories to scan",
  "template_dirs = [",
  "    \"./templates\",",
  "]",
  "",
  "# Template file patterns to include",
  "include_patterns = [\"*.html\", \"*.jinja\", \"*.jinja2\", \"*.j2\"]",
  "",
  "# Template file patterns to exclude",
  "exclude_patterns = [",
  "    \"**/node_modules/**\",",
  "    \"**/.git/**\",",
  "    \"**/dist/**\",",
  "    \"**/build/**\",",
  "    \"wheels/**\",",
  "    \".venv/**\",",
  "    \"**/__pycache__/**\"",
  "]",
  "",
  "",
  "# ============================================================================",
  "# Linting Configuration",
  "# ============================================================================",
  "[linting]",
  "# Strict mode: all variables must be typed",
  "strict = false",
  "",
  "# Enforce PEP 604 union syntax (X | Y instead of Union[X, Y])",
  "prefer_pep604_unions = true",
  "",
  "# Union style enforcement level",
  "union_style = \"warning\"  # \"error\" | \"warning\" | \"ignore\"",
  "",
  "# Auto-fix PEP 604 violations (convert Optional/Union to |)",
  "fix_union_syntax = true",
  "",
  "# Warn about unused imports",
  "warn_unused_imports = true",
  "",
  "# Warn about undefined variables",
  "warn_undefined_variables = true",
  "",
  "# Warn about type mismatches",
  "warn_type_mismatches = true",
  "",
  "# Validate that imported types exist in type definitions",
  "validate_imports = true",
  "",
  "# Validate filter signatures match usage",
  "validate_filters = true",
  "",
  "# Validate macro signatures match usage",
  "validate_macros = true",
  "",
  "# Validate variable usage matches declared types",
  "validate_variables = true",
  "",
  "# Check for missing type annotations",
  "check_missing_annotations = false",
  "",
  "",
  "# ============================================================================",
  "# Formatter Configuration",
  "# ============================================================================",
  "[formatting]",
  "# Enable auto-formatting (fixes typja comment spacing)",
  "enabled = true",
  "",
  "# Sort imports alphabetically",
  "sort_imports = true",
  "",
  "",
  "# ============================================================================",
  "# Error Reporting Configuration",
  "# ============================================================================",
  "[errors]",
  "# Error message verbosity",
  "verbosity = \"normal\"  # \"minimal\" | \"normal\" | \"verbose\"",
  "",
  "# Show code snippets in error messages",
  "show_snippets = true",
  "",
  "# Show hints and suggestions in error messages",
  "show_hints = true",
  "",
  "# Color output in terminal",
  "color = \"auto\"  # \"auto\" | \"always\" | \"never\""]

/-- The text of the file; every line ends with a newline. -/
def starter : String := String.join (starterLines.map (· ++ "\n"))

end TypedTemplate.Settings
