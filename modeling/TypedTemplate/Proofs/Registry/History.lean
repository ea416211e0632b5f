import TypedTemplate.Proofs.Registry.Imports

/-! Registries after a history of requests. What a plain name stands for is what the last import of
it since the imports were cleared has bound it to; an import that failed counts with the names that
it bound, and registrations do not matter. -/
namespace TypedTemplate

namespace Definition

def ownedBy (module : Option String) (d : Definition) : Definition := { d with module := module }

def body (d : Definition) : Definition := d.ownedBy none

end Definition

namespace Registry

/-- What can happen to a registry. Tables and definitions that were handed to it are still those of
its callers: `shared` is what becomes of them by way of others, as when an imported definition is
registered once more and then belongs to another module. -/
inductive Change where
  | registerType (d : Definition)
  | registerModule (module : String) (defs : Table Definition)
  | importModule (module : String)
  | importFrom (module : String) (names : List ImportedName)
  | clearImports
  | setConflicts (conflicts : Table (List Candidate))
  | shared (types : Table Definition) (modules : Table (Table Definition))
    (owner : String → Option String)

def Change.isRequest : Change → Bool
  | shared _ _ _ => false
  | _ => true

/-- The registry after a change. A request that fails keeps what it has done until then. -/
def apply (r : Registry) : Change → Registry
  | .registerType d => r.registerType d
  | .registerModule m defs => r.registerModule m defs
  | .importModule m => (r.importModule m).toOption.getD r
  | .importFrom m names => (r.importFrom m names).1
  | .clearImports => r.clearImports
  | .setConflicts cs => { r with conflicts := cs }
  | .shared types modules owner =>
    { r with
      types := types
      modules := modules
      imported := r.imported.map fun e => (e.1, e.2.map (.ownedBy (owner e.1))) }

/-- The registry after a history, which has its latest change first. -/
def after : List Change → Registry
  | [] => empty
  | c :: past => (after past).apply c

/-- What imports have bound since the imports were cleared, the latest first. -/
def bound : List Change → Table (Option Definition)
  | [] => []
  | .importFrom m names :: past => ((after past).bindings m names).reverse ++ bound past
  | .clearImports :: _ => []
  | _ :: past => bound past

section Step

variable (r : Registry)

theorem registerType_frame (d : Definition) :
    (r.registerType d).imported = r.imported ∧
    (r.registerType d).autoImported = r.autoImported := by
  rw [registerType]
  cases d.module with
  | none => exact ⟨rfl, rfl⟩
  | some m => cases hm : m.isEmpty <;> simp [hm]

theorem importModule_frame (m : String) :
    ((r.importModule m).toOption.getD r).imported = r.imported ∧
      ((r.importModule m).toOption.getD r).autoImported = r.autoImported := by
  rw [importModule]
  split <;> exact ⟨rfl, rfl⟩

theorem autoImported_apply (c : Change) : (r.apply c).autoImported = r.autoImported := by
  cases c with
  | registerType d => exact (r.registerType_frame d).2
  | importModule m => exact (r.importModule_frame m).2
  | importFrom m names => rw [apply, (r.importFrom_eq m names).1]
  | registerModule | clearImports | setConflicts | shared => rfl

end Step

theorem autoImported_after (past : List Change) : (after past).autoImported = [] := by
  induction past with
  | nil => rfl
  | cons c past ih => rw [after, autoImported_apply, ih]

theorem imported_after {α : Type} (f : Definition → α) (past : List Change)
    (hf : ∀ types modules owner, .shared types modules owner ∈ past →
      ∀ k d, f (d.ownedBy (owner k)) = f d) (n : String) :
    ((after past).imported.find? n).map (Option.map f) = ((bound past).find? n).map
    (Option.map f) := by
  induction past with
  | nil => rfl
  | cons c past ih =>
    have hpast := ih fun types modules owner h => hf types modules owner (List.mem_cons_of_mem _ h)
    rw [after]
    cases c with
    | registerType d =>
      rw [apply, (registerType_frame _ d).1]
      exact hpast
    | importModule m =>
      rw [apply, (importModule_frame _ m).1]
      exact hpast
    | registerModule m defs => exact hpast
    | setConflicts cs => exact hpast
    | importFrom m names =>
      rw [apply, (importFrom_eq _ m names).1, bound, Table.find?_insertAll_last, Option.map_or,
        hpast, Table.find?, Table.find?, Table.find?, List.lookup_append, Option.map_or]
    | clearImports =>
      rw [apply, clearImports, autoImported_after]
      rfl
    | shared types modules owner =>
      have howner := hf types modules owner List.mem_cons_self n
      rw [apply, show bound (.shared types modules owner :: past) = bound past from rfl, ← hpast]
      dsimp only
      rw [Table.find?_map fun k => Option.map (Definition.ownedBy (owner k)), Option.map_map]
      congr 1
      funext d
      cases d with
      | none => rfl
      | some d => exact congrArg some (howner d)

theorem toOption_resolve_plain (r : Registry) (raw : String) {n : String}
    (hbuiltin : isBuiltin n = false)
    (htyping : isTyping n = false) :
    (r.resolve (.named raw n none)).toOption = r.imported.find? n := by
  rw [resolve, resolveName, hbuiltin, htyping]
  simp only [Bool.false_eq_true, if_false, Option.filter_none]
  cases r.imported.find? n with
  | some d => rfl
  | none =>
    dsimp only
    split
    · split
      · split <;> rfl
      · rfl
    · rfl

/-- A plain name can be resolved exactly if an import since the imports were cleared has bound it,
and then stands for what the last of them bound it to. -/
theorem resolve_after (past : List Change) (raw : String) {n : String}
    (hbuiltin : isBuiltin n = false) (htyping : isTyping n = false) :
    ((after past).resolve (.named raw n none)).toOption.map (Option.map Definition.body) =
        ((bound past).find? n).map (Option.map Definition.body) ∧
      ((∀ c ∈ past, c.isRequest = true) →
        ((after past).resolve (.named raw n none)).toOption = (bound past).find? n) := by
  rw [toOption_resolve_plain _ raw hbuiltin htyping]
  refine ⟨imported_after Definition.body past (fun _ _ _ _ _ _ => rfl) n, fun hrequests => ?_⟩
  have h := imported_after id past (fun types modules owner hmem => by cases hrequests _ hmem) n
  simpa using h

def reimported : List Change :=
  let user (fields : Table String) : Table Definition := [("User", ⟨"User", fields, none, none⟩)]
  [.shared [] [] fun _ => some "legacy", .registerModule "admin" (user []),
    .importFrom "admin" [⟨"User", none⟩, ⟨"Ghost", none⟩], .importFrom "models" [⟨"User", none⟩],
    .registerModule "admin" (user [("name", "str")]),
      .registerModule "models" (user [("id", "int")])]

theorem resolve_after_reimported :
    (isBuiltin "User" = false ∧ isTyping "User" = false) ∧
      ((after reimported).resolve (.named "User" "User" none)).toOption.map
        (Option.map Definition.body) = some (some ⟨"User", [("name", "str")], none, none⟩) :=
  ⟨by decide, (resolve_after reimported "User" (by decide) (by decide)).1⟩

end Registry

end TypedTemplate
