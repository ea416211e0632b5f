import TypedTemplate.Proofs.Table
import TypedTemplate.Registry

/-! What an import from a module binds. The names are bound one after the other up to the first that
the module lacks, so that a failed import may have bound names before, and may have replaced what
they were bound to. -/
namespace TypedTemplate.Registry

/-- What a name of a module is bound to. A name of `typing` has no definition. -/
def binding? (r : Registry) (source : String × String) : Option (Option Definition) :=
  if source.1 == "typing" then if isTyping source.2 then some none else none
  else ((r.moduleTypes source.1).find? source.2).map some

theorem find?_of_binding {r : Registry} {source : String × String} {d : Definition}
    (h : r.binding? source = some (some d)) :
    (r.moduleTypes source.1).find? source.2 = some d := by
  rw [binding?] at h
  split at h
  · split at h
    · cases h
    · cases h
  · simpa using h

/-- The names that an import binds, with what it binds them to: all up to the first that the module
lacks. -/
def bindings (r : Registry) (m : String) : List ImportedName → Table (Option Definition)
  | [] => []
  | n :: ns =>
    match r.binding? (m, n.name) with
    | some d => (n.bound, d) :: bindings r m ns
    | none => []

section Bind

variable {r s : Registry} {m : String} {find : String → Except Error (Option Definition)}

theorem bindAll_eq (hfind : ∀ n, (find n).toOption = r.binding? (m, n)) (ns : List ImportedName) :
    (bindAll find s ns).1 = { s with imported := s.imported.insertAll (r.bindings m ns) } ∧
      ((bindAll find s ns).2 = none ↔ ∀ n ∈ ns, (r.binding? (m, n.name)).isSome = true) := by
  induction ns generalizing s with
  | nil => exact ⟨rfl, by simp [bindAll]⟩
  | cons n ns ih =>
    rw [bindAll, bindings, List.forall_mem_cons, ← hfind n.name]
    cases find n.name with
    | ok d => exact ⟨ih.1, by simpa [Except.toOption] using ih.2⟩
    | error e => exact ⟨rfl, by simp [Except.toOption]⟩

theorem bindings_unknown (hm : m ≠ "typing") (hunknown : r.modules.find? m = none)
    (ns : List ImportedName) :
    r.bindings m ns = [] := by
  cases ns with
  | nil => rfl
  | cons n ns =>
    rw [bindings, binding?, if_neg (by simpa using hm), moduleTypes, hunknown]
    rfl

end Bind

variable (r : Registry) (m : String) (names : List ImportedName)

/-- An import binds its names up to the first that the module lacks, and succeeds exactly if there
is such a module and it lacks none. -/
theorem importFrom_eq :
    (r.importFrom m names).1 = { r with imported := r.imported.insertAll (r.bindings m names) } ∧
      ((r.importFrom m names).2 = none ↔
        (m = "typing" ∨ r.modules.has m = true) ∧ ∀ n ∈ names, (r.binding? (m, n.name)).isSome =
          true) := by
  rw [importFrom]
  by_cases hm : m = "typing"
  · rw [if_pos (by simpa using hm)]
    refine (bindAll_eq (r := r) (m := m) (fun n => ?_) names).imp_right fun h => h.trans
      (by simp [hm])
    cases htyping : isTyping n <;> simp [binding?, hm, htyping, Except.toOption]
  · rw [if_neg (by simpa using hm)]
    cases hdefs : r.modules.find? m with
    | none => simp [bindings_unknown hm hdefs, Table.has, Table.insertAll, hdefs, hm]
    | some defs =>
      refine (bindAll_eq (r := r) (m := m) (fun n => ?_) names).imp_right fun h => h.trans
        (by simp [Table.has, hdefs])
      cases hd : defs.find? n <;> simp [binding?, hm, moduleTypes, hdefs, hd, Except.toOption]

/-- An import that fails changes nothing exactly if no name is missing, or each name that it binds,
as the last of its bindings has it, was bound so before. -/
theorem importFrom_harmless_iff :
    (∀ e, (r.importFrom m names).2 = some e →
        (r.importFrom m names).1.imported = r.imported ∧ (r.importFrom m names).1.importedModules =
          r.importedModules) ↔
      (∀ n ∈ names, (r.binding? (m, n.name)).isSome = true) ∨
        ∀ k d, Table.find? (r.bindings m names).reverse k = some d →
          r.imported.find? k = some d := by
  obtain ⟨hstate, hnone⟩ := r.importFrom_eq m names
  rw [hstate]
  simp only [and_true, Table.insertAll_eq_self_iff]
  cases herr : (r.importFrom m names).2 with
  | none => exact iff_of_true (by simp) (.inl (hnone.1 herr).2)
  | some e =>
    refine ⟨fun h => .inr (h e rfl), fun h e' _ => ?_⟩
    rcases h with hall | hlast
    · -- all names are known and the import fails, so there is no such module, and nothing is bound
      have hunknown : ¬ (m = "typing" ∨ r.modules.has m = true) :=
        fun hm => by simp [hnone.2 ⟨hm, hall⟩] at herr
      obtain ⟨hm, hhas⟩ := not_or.1 hunknown
      rw [bindings_unknown hm (by simpa [Table.has] using hhas)]
      intro k d hd
      cases hd
    · exact hlast

def namesakes : Registry :=
  let user (fields : Table String) : Table Definition := [("User", ⟨"User", fields, none, none⟩)]
  let known := (empty.registerModule "models" (user [("id", "int")])).registerModule "admin"
    (user [("name", "str")])
  (known.importFrom "models" [⟨"User", none⟩]).1

theorem failed_import_replaces :
    namesakes.imported.map (fun e => (e.1, e.2.bind Definition.module)) =
      [("User", some "models")] ∧
      (namesakes.importFrom "admin" [⟨"User", none⟩, ⟨"Ghost", none⟩]).2.map Error.message =
        some "Module 'admin' has no type 'Ghost'. Available types: User" ∧
      (namesakes.importFrom "admin" [⟨"User", none⟩, ⟨"Ghost", none⟩]).1.imported.map
        (fun e => (e.1, e.2.bind Definition.module)) = [("User", some "admin")] := by
  decide

end TypedTemplate.Registry
