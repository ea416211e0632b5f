import Mathlib.Logic.Function.Iterate
import TypedTemplate.Proofs.ClassIndex.Reexport
import TypedTemplate.Proofs.ClassIndex.Retention
import TypedTemplate.Proofs.Command.Isolation

/-! The imports that a registry gets from an index. The classes of module paths without a dot are
put among the imports of a template and not among those that stand, so they last until imports are
cleared: the analysis of a template, which begins by that, has the imports that stood before. -/
namespace TypedTemplate

namespace Registry

/-- What is left after templates were checked one after the other, each by an analysis of its
own. -/
def afterChecks (r : Registry) (checks : List (Analysis × String × String)) : Registry :=
  checks.foldl (fun r check => (check.1.template r check.2.1 check.2.2).2.1) r

/-- A name stays bound to a definition, however often imports are cleared and whatever templates are
checked before. -/
structure StaysImported (r : Registry) (n : String) (d : Option Definition) : Prop where
  cleared : ∀ k, (clearImports^[k] r).imported.find? n = some d
  checked : ∀ checks, (r.afterChecks checks).clearImports.imported.find? n = some d

theorem agree_iterate_clearImports (r : Registry) (k : Nat) : Agree (clearImports^[k] r) r := by
  induction k with
  | zero => exact .refl r
  | succ k ih =>
    rw [Function.iterate_succ_apply']
    exact (agree_clearImports _).trans ih

theorem agree_afterChecks (r : Registry) (checks : List (Analysis × String × String)) :
    Agree (r.afterChecks checks) r := by
  induction checks generalizing r with
  | nil => exact .refl r
  | cons check checks ih => exact (ih _).trans (check.1.agree_template r check.2.1 check.2.2)

theorem staysImported_iff_standing {r : Registry} {n : String} {d : Option Definition}
    (h : r.imported.find? n = some d) :
    r.StaysImported n d ↔ (Table.ofPairs r.autoImported).find? n = some d := by
  refine ⟨fun hstays => hstays.cleared 1, fun hstanding => ⟨fun k => ?_, fun checks => ?_⟩⟩
  · cases k with
    | zero => exact h
    | succ k =>
      rw [Function.iterate_succ_apply', (agree_iterate_clearImports r k).clearImports_eq]
      exact hstanding
  · rw [(agree_afterChecks r checks).clearImports_eq]
    exact hstanding

end Registry

namespace ClassIndex
open Registry

def topImport? (p : String × ClassEntry) : Option (String × Option Definition) :=
  if !isDotted p.2.modulePath && p.1 == dottedName p.2
    then some (p.2.name, some (definition (some p.2.modulePath) p.2))
  else none

def topImports (es : Table ClassEntry) : Table (Option Definition) := es.filterMap topImport?

theorem importTopLevel_eq (x : ClassIndex) (r : Registry) :
    importTopLevel x r = { r with imported := r.imported.insertAll (topImports x.entries) } := by
  rw [importTopLevel]
  generalize x.entries = es
  induction es generalizing r with
  | nil => rfl
  | cons p es ih =>
    obtain ⟨k, e⟩ := p
    rw [List.foldl_cons, ih, topImports, topImports]
    dsimp only
    by_cases htop : (!isDotted e.modulePath && k == e.modulePath ++ "." ++ e.name) = true
    · have hp : topImport? (k, e) = some (e.name, some (definition (some e.modulePath) e)) :=
        if_pos htop
      rw [if_pos htop, List.filterMap_cons_some hp]
      rfl
    · have hp : topImport? (k, e) = none := if_neg htop
      rw [if_neg htop, List.filterMap_cons_none hp]

theorem register_imports (x : ClassIndex) (r : Registry) :
    (x.register r).2.imported = r.imported.insertAll (topImports x.entries) ∧
      (x.register r).2.autoImported = r.autoImported := by
  rw [register, importTopLevel_eq, registerListings_eq, registerEntries_eq]
  exact ⟨rfl, rfl⟩

section TopLevel

variable (t : FileTree) (root : Path) (files : List Path)

/-- The files give a name a class at the top: under a module path without a dot, by a file that is
the module and records the class or by a request of the package of that path. -/
structure TopLevel (m n : String) : Prop where
  named : m ≠ ""
  undotted : isDotted m = false
  given : (∃ f ∈ files, moduleOf? root f = some m ∧ n ∈ recordedNames t f) ∨
    ∃ q ∈ requests t root files, q.Supplies (classEntries t root files) m n

variable {t root files}

theorem TopLevel.undotted_name {m n : String} (h : TopLevel t root files m n) : '.' ∉ n.toList := by
  rcases h.given with ⟨f, -, -, hn⟩ | ⟨q, -, -, e, ⟨hfind, -⟩, rfl⟩
  · exact undotted_of_recorded hn
  · exact (sound_classEntries t root files).undotted hfind

theorem mem_topImports_iff {n : String} {d : Option Definition} :
    (n, d) ∈ topImports (gathered t root files) ↔ ∃ m e, TopLevel t root files m n ∧
      (gathered t root files).find? (m ++ "." ++ n) = some e ∧
        d = some (definition (some m) e) := by
  have hsound := sound_gathered t root files
  rw [topImports, List.mem_filterMap]
  constructor
  · rintro ⟨⟨k, e⟩, hmem, htop⟩
    rw [topImport?] at htop
    have hfind : (gathered t root files).find? k = some e :=
      (Table.find?_eq_some_iff_mem hsound.nodup).2 hmem
    split at htop
    · next hkey =>
      obtain ⟨hundotted, rfl⟩ : isDotted e.modulePath = false ∧ k = dottedName e := by
        simpa using hkey
      obtain ⟨rfl, rfl⟩ : e.name = n ∧ some (definition (some e.modulePath) e) = d := by
        simpa using htop
      have hnamed := (hsound.of_find?_dotted (hsound.undotted hfind) hfind).1
      exact ⟨e.modulePath, e,
        ⟨hnamed, hundotted,
          (exists_gathered_dotted_iff (hsound.undotted hfind) hnamed).1 ⟨e, hfind⟩⟩, hfind, rfl⟩
    · cases htop
  · rintro ⟨m, e, htop, hfind, rfl⟩
    obtain ⟨-, rfl, rfl⟩ := hsound.of_find?_dotted htop.undotted_name hfind
    refine ⟨(_, e), Table.mem_of_find? hfind, ?_⟩
    simp [topImport?, htop.undotted, dottedName]

end TopLevel

/-- Registering an index imports the names that have classes at the top and no others. Each is bound
to the definition of such a class, and stays bound to it exactly if it was a standing import with
that definition before. So in a new registry none stays. -/
theorem register_staysImported_iff (t : FileTree) (root : Path) (exclude : List String)
    (paths : List Path) (x₀ : ClassIndex) (r₀ : Registry) (n : String) :
    let files := paths.flatMap (filesOf t root exclude)
    let x := collect t root exclude paths x₀
    let r := (x.register r₀).2
    ((∀ m, ¬ TopLevel t root files m n) → r.imported.find? n = r₀.imported.find? n) ∧
    ((∃ m, TopLevel t root files m n) → ∃ m e, TopLevel t root files m n ∧
      x.entries.find? (m ++ "." ++ n) = some e ∧
      r.imported.find? n = some (some (definition (some m) e)) ∧
      (r.StaysImported n (some (definition (some m) e)) ↔
        (Table.ofPairs r₀.autoImported).find? n = some (some (definition (some m) e)))) := by
  intro files x r
  have hentries : x.entries = gathered t root files := entries_collect t root exclude paths x₀
  obtain ⟨himported, hstanding⟩ := register_imports x r₀
  rw [hentries] at himported ⊢
  rcases Table.find?_insertAll_cases (topImports (gathered t root files)) r₀.imported n with
    ⟨hkeys, hfind⟩ | ⟨d, hmem, hfind⟩
  · refine ⟨fun _ => himported ▸ hfind, ?_⟩
    rintro ⟨m, htop⟩
    obtain ⟨e, he⟩ := (exists_gathered_dotted_iff htop.undotted_name htop.named).2 htop.given
    exact absurd (List.mem_map_of_mem (mem_topImports_iff.2 ⟨m, e, htop, he, rfl⟩)) hkeys
  · obtain ⟨m, e, htop, he, rfl⟩ := mem_topImports_iff.1 hmem
    have hbound : r.imported.find? n = some (some (definition (some m) e)) := by
      rw [himported, hfind]
    refine ⟨fun hnone => absurd htop (hnone m), fun _ => ⟨m, e, htop, he, hbound, ?_⟩⟩
    rw [staysImported_iff_standing hbound, hstanding]

def modelsTree : FileTree :=
  ⟨[(["p"], .dir 0), (["p", "models"], .dir 0),
    (["p", "models", "__init__.py"], .file (Text.Utf8.encode "from .user import User\n") 0),
    (["p", "models", "user.py"], .file (Text.Utf8.encode "class User:\n    name: str\n") 0)], ["p"]⟩

def modelsPaths : List Path :=
  [.relative ["models", "__init__.py"], .relative ["models", "user.py"]]

def modelsIndex : ClassIndex := collect modelsTree .here [] modelsPaths .empty

theorem register_staysImported_iff_models :
    let r := (modelsIndex.register .empty).2
    TopLevel modelsTree .here (modelsPaths.flatMap (filesOf modelsTree .here [])) "models" "User" ∧
      ∃ d, r.imported.find? "User" = some d ∧ ¬ r.StaysImported "User" d := by
  intro r
  have hasked : (requests modelsTree .here (modelsPaths.flatMap (filesOf modelsTree .here []))).any
      (fun q => q.package == "models" && q.name.text == "User" &&
        ((classEntries modelsTree .here (modelsPaths.flatMap (filesOf modelsTree .here []))).find?
          "User").any fun e => e.name == "User") = true := by
    decide +kernel
  obtain ⟨q, hq, hasked⟩ := List.any_eq_true.1 hasked
  simp only [Bool.and_eq_true, beq_iff_eq] at hasked
  obtain ⟨⟨hpackage, hname⟩, hfound⟩ := hasked
  obtain ⟨e, he, hown⟩ := (Option.any_eq_true _ _).1 hfound
  have hown : e.name = "User" := by simpa using hown
  have hsupplies :
      q.Supplies (classEntries modelsTree .here (modelsPaths.flatMap (filesOf modelsTree .here [])))
        "models"
      "User" := ⟨hpackage, e, ⟨hown ▸ he, by rw [hname, if_neg (by decide), hown]⟩, hown⟩
  have htop : TopLevel modelsTree .here (modelsPaths.flatMap (filesOf modelsTree .here [])) "models"
    "User" :=
    ⟨by decide, by decide, .inr ⟨q, hq, hsupplies⟩⟩
  obtain ⟨m, e, -, -, hbound, hstays⟩ :=
    (register_staysImported_iff modelsTree .here [] modelsPaths .empty .empty "User").2 ⟨_, htop⟩
  exact ⟨htop, _, hbound, fun h => nomatch hstays.1 h⟩

theorem package_import_cleared :
    let r := (modelsIndex.register .empty).2
    r.imported.keys = ["User"] ∧ r.clearImports.imported.keys = [] ∧
      ((Analysis.start none .ascending (some modelsIndex) false).template r "t.html"
        "").2.1.imported.keys = [] := by
  decide +kernel

end ClassIndex

end TypedTemplate
