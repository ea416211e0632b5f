import TypedTemplate.Proofs.Registry.Imports
import TypedTemplate.Proofs.Usage.Interruption
import TypedTemplate.Proofs.Usage.Raised

/-! What the comments of a template leave behind: the names that they bind and declare, the lines
that they except, and their own issues. The last comment about a name counts. -/
namespace TypedTemplate

theorem exists_ok_of_any {ε α : Type} {x : Except ε α} {P : α → Bool}
    (h : x.toOption.any P = true) :
    ∃ a, x = .ok a ∧ P a = true := by
  cases x with
  | error e => cases h
  | ok a => exact ⟨a, rfl, h⟩

def ImportedName.last? (bound : String) : List ImportedName → Option String
  | [] => none
  | n :: ns => (last? bound ns).or (if bound == n.bound then some n.name else none)

theorem ImportedName.mem_of_last? {bound k : String} {ns : List ImportedName}
    (h : last? bound ns = some k) :
    ∃ n ∈ ns, n.name = k := by
  induction ns with
  | nil => cases h
  | cons n ns ih =>
    rw [last?, Option.or_eq_some_iff] at h
    rcases h with h | ⟨-, h⟩
    · obtain ⟨n', hn', hk⟩ := ih h
      exact ⟨n', List.mem_cons_of_mem _ hn', hk⟩
    · exact ⟨n, List.mem_cons_self, by simpa using (Option.ite_none_right_eq_some.1 h).2⟩

def TypedName.last? (v : String) : List TypedName → Option TypeExpr
  | [] => none
  | d :: ds => (last? v ds).or (if v == d.name then some d.type else none)

namespace Directive

/-- The module and the name in it that a directive binds a name to. -/
def source? (bound : String) : Directive → Option (String × String)
  | importFrom m names => (ImportedName.last? bound names).map fun n => (m, n)
  | _ => none

/-- The type that a directive declares for a variable. -/
def declared? (v : String) : Directive → Option TypeExpr
  | varTypes ds => TypedName.last? v ds
  | _ => none

/-- The type that a directive declares for a filter. -/
def filterType? (f : String) : Directive → Option TypeExpr
  | filter d => if f == d.name then some d.type else none
  | _ => none

end Directive

namespace Comment

def source? (bound : String) : List Comment → Option (String × String)
  | [] => none
  | c :: cs => (source? bound cs).or (c.directive.source? bound)

def declared? (v : String) : List Comment → Option TypeExpr
  | [] => none
  | c :: cs => (declared? v cs).or (c.directive.declared? v)

def filterType? (f : String) : List Comment → Option TypeExpr
  | [] => none
  | c :: cs => (filterType? f cs).or (c.directive.filterType? f)

def Excepts (cs : List Comment) (line : Int) : Prop :=
  ∃ c ∈ cs, c.directive = .ignore ∧ c.position.line = line

end Comment

namespace Registry

theorem find?_bindings {r : Registry} {m : String} {ns : List ImportedName}
    (h : ∀ n ∈ ns, (r.binding? (m, n.name)).isSome = true) (bound : String) :
    Table.find? (r.bindings m ns).reverse bound = (ImportedName.last? bound ns).bind fun n =>
      r.binding? (m, n) := by
  induction ns with
  | nil => rfl
  | cons n ns ih =>
    rw [List.forall_mem_cons] at h
    obtain ⟨d, hd⟩ := Option.isSome_iff_exists.1 h.1
    rw [bindings, hd, Table.find?_reverse_cons, ih h.2, ImportedName.last?]
    cases hlast : ImportedName.last? bound ns with
    | some k =>
      obtain ⟨n', hn', rfl⟩ := ImportedName.mem_of_last? hlast
      obtain ⟨d', hd'⟩ := Option.isSome_iff_exists.1 (h.2 n' hn')
      simp [hd']
    | none => cases bound == n.bound <;> simp [hd]

theorem importFrom_applied {r r' : Registry} {m : String} {names : List ImportedName}
    (h : r.importFrom m names = (r', none)) :
    r'.modules = r.modules ∧ ∀ bound, r'.imported.find? bound =
      match (Directive.importFrom m names).source? bound with
      | some s => r.binding? s
      | none => r.imported.find? bound := by
  obtain ⟨hstate, hnone⟩ := r.importFrom_eq m names
  rw [h] at hstate hnone
  obtain rfl : r' = _ := hstate
  refine ⟨rfl, fun bound => ?_⟩
  rw [Table.find?_insertAll_last, find?_bindings (hnone.1 rfl).2, Directive.source?]
  cases hlast : ImportedName.last? bound names with
  | none => rfl
  | some k =>
    obtain ⟨n, hn, rfl⟩ := ImportedName.mem_of_last? hlast
    obtain ⟨d, hd⟩ := Option.isSome_iff_exists.1 ((hnone.1 rfl).2 n hn)
    simp [hd]

end Registry

namespace Analysis

section Issues

variable {x : ClassIndex} {r : Registry} {filename : String} {p : Position}

def Unlike (i : Issue) : Prop := ∀ type, i.hint ≠ some (Usage.attributeHint type)

theorem unlike_checkTypeName {t : TypeExpr} :
    ∀ i ∈ (checkTypeName x r filename p t).1, Unlike i := by
  intro i hi type
  unfold checkTypeName at hi
  dsimp only at hi
  split at hi
  · cases hi
  · split at hi
    · obtain rfl := List.mem_singleton.1 hi
      exact Usage.ne_attributeHint (by simp)
    · split at hi
      · cases hi
      · obtain rfl := List.mem_singleton.1 hi
        exact Usage.ne_attributeHint (by simp)

mutual
theorem unlike_checkSingleType : (t : TypeExpr) → ∀ i ∈ checkSingleType x r filename p t, Unlike i
  | .named raw n m, i, hi => by
    rw [checkSingleType] at hi
    exact unlike_checkTypeName i hi
  | .generic raw n m args, i, hi => by
    rw [checkSingleType] at hi
    dsimp only at hi
    split at hi
    · rcases List.mem_append.1 hi with hi | hi
      · exact unlike_checkTypeName i hi
      · exact unlike_checkSingleTypes args i hi
    · exact unlike_checkTypeName i hi
  | .union raw style ms, i, hi => by
    rw [checkSingleType] at hi
    exact unlike_checkTypeName i hi

theorem unlike_checkSingleTypes :
    (ts : List TypeExpr) → ∀ i ∈ checkSingleTypes x r filename p ts, Unlike i
  | [], i, hi => by
    rw [checkSingleTypes] at hi
    cases hi
  | t :: ts, i, hi => by
    rw [checkSingleTypes] at hi
    rcases List.mem_append.1 hi with hi | hi
    · exact unlike_checkSingleType t i hi
    · exact unlike_checkSingleTypes ts i hi
end

theorem unlike_checkType {t : TypeExpr} : ∀ i ∈ checkType x r filename p t, Unlike i := by
  intro i hi
  unfold checkType at hi
  split at hi
  · exact unlike_checkSingleType t i hi
  · exact unlike_checkSingleTypes _ i hi

theorem unlike_checkResolved {lead : String} {t : TypeExpr} :
    ∀ i ∈ checkResolved r filename p lead t, Unlike i := by
  intro i hi type
  unfold checkResolved at hi
  split at hi
  · cases hi
  · obtain rfl := List.mem_singleton.1 hi
    exact Option.some_ne_none _ |>.symm

end Issues

/-- Comments were applied to an analysis and a registry, and all imports in them succeeded. -/
structure Applied (cs : List Comment) (a : Analysis) (r : Registry) (a' : Analysis)
    (r' : Registry) : Prop where
  index : a'.index = a.index
  byRegistry : a'.byRegistry = a.byRegistry
  modules : r'.modules = r.modules
  imported : ∀ bound, r'.imported.find? bound =
    match Comment.source? bound cs with
    | some s => r.binding? s
    | none => r.imported.find? bound
  varTypes : ∀ v, a'.varTypes.find? v = (Comment.declared? v cs).or (a.varTypes.find? v)
  filters : ∀ f, a'.filters.find? f = (Comment.filterType? f cs).or (a.filters.find? f)
  ignored : ∀ line, line ∈ a'.ignored → line ∈ a.ignored ∨ Comment.Excepts cs line
  issues : ∀ i ∈ a'.issues, i ∈ a.issues ∨ Unlike i

theorem applied_nil (a : Analysis) (r : Registry) : Applied [] a r a r where
  index := rfl
  byRegistry := rfl
  modules := rfl
  imported _ := rfl
  varTypes _ := rfl
  filters _ := rfl
  ignored _ h := .inl h
  issues _ h := .inl h

theorem Applied.cons {c : Comment} {cs : List Comment} {a b d : Analysis} {r s t : Registry}
    (h : Applied [c] a r b s) (h' : Applied cs b s d t) : Applied (c :: cs) a r d t where
  index := h'.index.trans h.index
  byRegistry := h'.byRegistry.trans h.byRegistry
  modules := h'.modules.trans h.modules
  imported bound := by
    have hsame (source : String × String) : s.binding? source = r.binding? source := by
      rw [Registry.binding?, Registry.binding?, Registry.moduleTypes, Registry.moduleTypes,
        h.modules]
    rw [h'.imported bound, h.imported bound, Comment.source?, Comment.source?, Comment.source?,
      Option.none_or]
    cases Comment.source? bound cs with
    | none => rfl
    | some source => exact hsame source
  varTypes v := by
    rw [h'.varTypes v, h.varTypes v, Comment.declared?, Comment.declared?, Comment.declared?,
      Option.none_or, Option.or_assoc]
  filters f := by
    rw [h'.filters f, h.filters f, Comment.filterType?, Comment.filterType?, Comment.filterType?,
      Option.none_or, Option.or_assoc]
  ignored line hl := by
    rcases h'.ignored line hl with hl | ⟨c', hc, hl⟩
    · rcases h.ignored line hl with hl | ⟨c', hc, hl⟩
      · exact .inl hl
      · exact .inr ⟨c', by simpa using .inl (List.mem_singleton.1 hc), hl⟩
    · exact .inr ⟨c', List.mem_cons_of_mem c hc, hl⟩
  issues i hi := (h'.issues i hi).elim (h.issues i) .inr

theorem applied_report {c : Comment} {a b : Analysis} {r : Registry}
    (hs : ∀ bound, c.directive.source? bound = none)
    (hd : ∀ v, c.directive.declared? v = none) (hindex : b.index = a.index)
    (hreg : b.byRegistry = a.byRegistry)
    (hvars : b.varTypes = a.varTypes)
    (hfilters : ∀ f, b.filters.find? f = (c.directive.filterType? f).or (a.filters.find? f))
    (hignored : ∀ line, line ∈ b.ignored → line ∈ a.ignored ∨ Comment.Excepts [c] line)
    (hissues : ∀ i ∈ b.issues, i ∈ a.issues ∨ Unlike i) : Applied [c] a r b r where
  index := hindex
  byRegistry := hreg
  modules := rfl
  imported bound := by rw [Comment.source?, hs bound]; rfl
  varTypes v := by rw [Comment.declared?, hd v, hvars]; rfl
  filters f := by rw [Comment.filterType?, hfilters f]; rfl
  ignored := hignored
  issues := hissues

section Declare

variable (r : Registry) (filename : String) (p : Position)

theorem declareVariables_spec (a : Analysis) (ds : List TypedName) :
    let b := ds.foldl (fun a d => a.declareVariable r filename p d) a
    b.index = a.index ∧ b.byRegistry = a.byRegistry ∧ b.ignored = a.ignored ∧
      b.filters = a.filters ∧
      (∀ v, b.varTypes.find? v = (TypedName.last? v ds).or (a.varTypes.find? v)) ∧
      ∀ i ∈ b.issues, i ∈ a.issues ∨ Unlike i := by
  induction ds generalizing a with
  | nil => exact ⟨rfl, rfl, rfl, rfl, fun _ => rfl, fun _ h => .inl h⟩
  | cons d ds ih =>
    obtain ⟨hindex, hreg, hignored, hfilters, hvars, hissues⟩ :=
      ih (a.declareVariable r filename p d)
    refine ⟨hindex, hreg, hignored, hfilters, fun v => ?_, fun i hi => ?_⟩
    · rw [List.foldl_cons, hvars v, TypedName.last?, Option.or_assoc, declareVariable,
        Table.find?_insert]
      split <;> rfl
    · rcases hissues i hi with hi | hi
      · rcases List.mem_append.1 hi with hi | hi
        · exact .inl hi
        · refine .inr ?_
          split at hi
          · exact unlike_checkType i hi
          · exact unlike_checkResolved i hi
      · exact .inr hi

end Declare

theorem applied_of_applyComment {a a' : Analysis} {r r' : Registry} {filename : String}
    {c : Comment} (h : a.applyComment r filename c = (a', r', none)) : Applied [c] a r a' r' := by
  unfold applyComment at h
  split at h
  · next hc =>
    cases h
    refine applied_report (by simp [hc, Directive.source?]) (by simp [hc, Directive.declared?]) rfl
      rfl rfl (fun f => by rw [hc]; rfl)
      (fun line hl => ?_) fun _ hi => .inl hi
    dsimp only at hl
    split at hl
    · exact .inl hl
    · rcases List.mem_append.1 hl with hl | hl
      · exact .inl hl
      · exact .inr ⟨c, by simp, hc, (List.mem_singleton.1 hl).symm⟩
  · next m hc =>
    unfold Registry.importModule at h
    split at h
    · next r₁ hr =>
      cases h
      split at hr
      · cases hr
        exact { applied_nil a r with
          imported := fun bound => by rw [Comment.source?, hc]; rfl
          varTypes := fun v => by rw [Comment.declared?, hc]; rfl
          filters := fun f => by rw [Comment.filterType?, hc]; rfl
          ignored := fun _ hl => .inl hl }
      · cases hr
    · cases h
  · next m names hc =>
    obtain ⟨rfl, hr⟩ : a = a' ∧ r.importFrom m names = (r', none) := by
      rcases himport : r.importFrom m names with ⟨r₁, e⟩
      rw [himport] at h
      cases h
      exact ⟨rfl, rfl⟩
    obtain ⟨hmodules, himported⟩ := Registry.importFrom_applied hr
    exact { applied_nil a r with
      modules := hmodules
      imported := fun bound => by rw [himported bound, Comment.source?, hc]; rfl
      varTypes := fun v => by rw [Comment.declared?, hc]; rfl
      filters := fun f => by rw [Comment.filterType?, hc]; rfl
      ignored := fun _ hl => .inl hl }
  · next ds hc =>
    cases h
    obtain ⟨hindex, hreg, hignored, hfilters, hvars, hissues⟩ :=
      declareVariables_spec r filename c.position a ds
    exact {
      index := hindex
      byRegistry := hreg
      modules := rfl
      imported := fun bound => by rw [Comment.source?, hc]; rfl
      varTypes := fun v => by rw [hvars v, Comment.declared?, hc]; rfl
      filters := fun f => by rw [hfilters, Comment.filterType?, hc]; rfl
      ignored := fun _ hl => .inl (hignored ▸ hl)
      issues := hissues }
  · next d hc =>
    cases h
    refine applied_report (by simp [hc, Directive.source?]) (by simp [hc, Directive.declared?]) rfl
      rfl rfl
      (fun f => by rw [hc, Directive.filterType?, declareFilter, Table.find?_insert]; split <;> rfl)
      (fun _ hl => .inl hl) fun i hi => ?_
    rcases List.mem_append.1 hi with hi | hi
    · exact .inl hi
    · refine .inr fun type => ?_
      split at hi
      · cases hi
      · obtain rfl := List.mem_singleton.1 hi
        exact (Option.some_ne_none _).symm
  · next d hc =>
    cases h
    refine applied_report (by simp [hc, Directive.source?]) (by simp [hc, Directive.declared?]) rfl
      rfl rfl (fun f => by rw [hc]; rfl)
      (fun _ hl => .inl hl) fun i hi => ?_
    rcases List.mem_append.1 hi with hi | hi
    · exact .inl hi
    · rcases List.mem_append.1 hi with hi | hi
      · obtain ⟨q, -, hi⟩ := List.mem_flatMap.1 hi
        exact .inr (unlike_checkResolved i hi)
      · exact .inr (unlike_checkResolved i hi)

theorem applied_of_applyComments {a a' : Analysis} {r r' : Registry} {filename : String}
    {cs : List Comment}
    (h : a.applyComments r filename cs = (a', r', none)) : Applied cs a r a' r' := by
  induction cs generalizing a r with
  | nil =>
    cases h
    exact applied_nil _ _
  | cons c cs ih =>
    rw [applyComments] at h
    split at h
    · next b s hc => exact (applied_of_applyComment hc).cons (ih h)
    · next hfailed =>
      exact absurd h (hfailed _ _)

theorem applyComment_failed {a a' : Analysis} {r r' : Registry} {filename : String} {c : Comment}
    {e : Registry.Error} (h : a.applyComment r filename c = (a', r', some e)) : a' = a := by
  unfold applyComment at h
  split at h
  · cases h
  · split at h
    · cases h
    · cases h
      rfl
  · exact (congrArg Prod.fst h).symm
  · cases h
  · cases h
  · cases h

theorem unlike_applyComments {a a' : Analysis} {r r' : Registry} {filename : String}
    {cs : List Comment}
    {e : Option Registry.Error} (h : a.applyComments r filename cs = (a', r', e)) :
    ∀ i ∈ a'.issues, i ∈ a.issues ∨ Unlike i := by
  induction cs generalizing a r with
  | nil =>
    cases h
    exact fun i hi => .inl hi
  | cons c cs ih =>
    rw [applyComments] at h
    split at h
    · next b s hc => exact fun i hi => (ih h i hi).elim ((applied_of_applyComment hc).issues i) .inr
    · next hfailed =>
      cases e with
      | none => exact absurd h (hfailed _ _)
      | some e =>
        rw [applyComment_failed h]
        exact fun i hi => .inl hi

section Template

variable {a : Analysis} {r : Registry} {filename content : String} {cs : List Comment}
  {stmts : List Template.Stmt}

/-- What is known about a template when its text is looked at. -/
def textUsage (a : Analysis) (r : Registry) (filename content : String) (cs : List Comment) :
    Usage :=
  (a.applyComments r.clearImports filename cs).1.usage
    (a.applyComments r.clearImports filename cs).2.1 filename content

theorem applied_textUsage (hok : ¬ a.importsFail r filename cs) :
    a.Applied cs r.clearImports (a.applyComments r.clearImports filename cs).1
      (a.applyComments r.clearImports filename cs).2.1 := by
  unfold importsFail at hok
  rcases happ : a.applyComments r.clearImports filename cs with ⟨a', r', _ | e⟩
  · exact applied_of_applyComments happ
  · rw [happ] at hok
    exact absurd rfl hok

theorem issues_template_eq (hcs : Comment.parseAll filename content = .ok cs)
    (hok : ¬ a.importsFail r filename cs)
    (hparse : a.engine.reading filename content = .tree stmts) :
    (a.template r filename content).1.issues =
      (a.applyComments r.clearImports filename cs).1.issues ++
      (a.textUsage r filename content cs).issues stmts := by
  have hengine := a.engine_applyComments r.clearImports filename cs
  unfold importsFail at hok
  unfold textUsage
  rcases happ : a.applyComments r.clearImports filename cs with ⟨a', r', _ | e⟩
  · rw [happ] at hengine
    have htext :
        a'.checkText r' filename content = .ok ((a'.usage r' filename content).issues stmts) := by
      rw [checkText, hengine, hparse]
    simp only [template, hcs, happ, htext]
    rfl
  · rw [happ] at hok
    exact absurd rfl hok

theorem issues_template (hcs : Comment.parseAll filename content = .ok cs)
    (hok : ¬ a.importsFail r filename cs)
    (hparse : a.engine.reading filename content = .tree stmts) :
    ∃ a' r', a.Applied cs r.clearImports a' r' ∧
      (a.template r filename content).1.issues = a'.issues ++ (a'.usage r' filename content).issues
        stmts :=
  ⟨_, _, applied_textUsage hok, issues_template_eq hcs hok hparse⟩

end Template

theorem unlike_template {a : Analysis} {r : Registry} {filename content : String}
    {cs : List Comment}
    (hcs : Comment.parseAll filename content = .ok cs) (hfail : a.importsFail r filename cs)
    (hnew : a.issues = []) :
    ∀ i ∈ (a.template r filename content).1.issues, Unlike i := by
  unfold importsFail at hfail
  rcases happ : a.applyComments r.clearImports filename cs with ⟨a', r', _ | e⟩
  · rw [happ] at hfail
    cases hfail
  · intro i hi
    simp only [template, hcs, happ] at hi
    rcases List.mem_append.1 hi with hi | hi
    · refine (unlike_applyComments happ i hi).resolve_left ?_
      rw [hnew]
      exact List.not_mem_nil
    · obtain rfl := List.mem_singleton.1 hi
      exact fun type => (Option.some_ne_none _).symm

end Analysis

end TypedTemplate
