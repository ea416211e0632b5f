import TypedTemplate.Proofs.TypeExpr.Nodes
import TypedTemplate.Proofs.Usage.Declared

/-! The names in the type of a declared variable. The issues of a declaration are those of the names
that are looked at, one after the other. Behind a name that needs no class nothing is looked at, so
an unknown name there is passed over; where all names are known there is no issue. -/
namespace TypedTemplate

namespace TypeExpr

mutual
theorem nodes_subset {w : TypeExpr} : (t : TypeExpr) → w ∈ t.nodes → w.nodes ⊆ t.nodes
  | named r n m, h => by
    rw [nodes] at h
    rw [List.mem_singleton.1 h]
    exact List.Subset.refl _
  | generic r n m args, h => by
    rw [nodes] at h
    cases h with
    | head => exact List.Subset.refl _
    | tail _ h =>
      rw [nodes]
      exact List.subset_cons_of_subset _ (nodes_subset_all args h)
  | union r style ms, h => by
    rw [nodes] at h
    cases h with
    | head => exact List.Subset.refl _
    | tail _ h =>
      rw [nodes]
      exact List.subset_cons_of_subset _ (nodes_subset_all ms h)

theorem nodes_subset_all {w : TypeExpr} :
    (ts : List TypeExpr) → w ∈ nodesAll ts → w.nodes ⊆ nodesAll ts
  | [], h => by
    rw [nodesAll] at h
    cases h
  | t :: ts, h => by
    rw [nodesAll] at h ⊢
    rcases List.mem_append.1 h with h | h
    · exact List.subset_append_of_subset_left _ (nodes_subset t h)
    · exact List.subset_append_of_subset_right _ (nodes_subset_all ts h)
end

theorem undotted_of_parse {text : String} {t : TypeExpr} (h : parse text = .ok t) :
    ∀ v ∈ t.nodes, ClassIndex.isDotted v.name = false := by
  intro v hv
  obtain ⟨s, hs⟩ := (reads_of_parseChars h).of_mem_nodes hv
  simpa [ClassIndex.isDotted] using hs.wellShaped.undotted

end TypeExpr

/-- A name that needs no class: it is built in, a name of `typing`, or imported. -/
def Registry.grants (r : Registry) (name : String) : Bool :=
  isBuiltin name || isTyping name || r.imported.has name

def ClassIndex.isAmbiguous (x : ClassIndex) (t : TypeExpr) : Bool :=
  x.conflicts.has t.name && (t.module.getD "").isEmpty

namespace Analysis

/-- The name of a node needs no class, or is that of a class and leaves no doubt of which. -/
def Known (x : ClassIndex) (r : Registry) (t : TypeExpr) : Prop :=
  r.grants t.name = true ∨
    x.entries.has t.name = true ∧
      (x.conflicts.has t.name = false ∨ (t.module.getD "").isEmpty = false)

instance (x : ClassIndex) (r : Registry) (t : TypeExpr) : Decidable (Known x r t) :=
  inferInstanceAs (Decidable (_ ∨ _ ∧ (_ ∨ _)))

/-- The name of a node needs a class, and there is none. -/
def Unknown (x : ClassIndex) (r : Registry) (t : TypeExpr) : Prop :=
  r.grants t.name = false ∧ x.entries.has t.name = false

instance (x : ClassIndex) (r : Registry) (t : TypeExpr) : Decidable (Unknown x r t) :=
  inferInstanceAs (Decidable (_ ∧ _))

def goesOn (x : ClassIndex) (r : Registry) (t : TypeExpr) : Bool :=
  !r.grants t.name && !x.isAmbiguous t

mutual
def looked (x : ClassIndex) (r : Registry) : TypeExpr → List TypeExpr
  | .named raw n m => [.named raw n m]
  | .generic raw n m args =>
    .generic raw n m args :: if goesOn x r (.generic raw n m args) then lookedAll x r args else []
  | .union raw style ms => [.union raw style ms]

def lookedAll (x : ClassIndex) (r : Registry) : List TypeExpr → List TypeExpr
  | [] => []
  | t :: ts => looked x r t ++ lookedAll x r ts
end

/-- The nodes of a declared type whose names are looked at. An outer union stands for its
members. -/
def lookedAt (x : ClassIndex) (r : Registry) (t : TypeExpr) : List TypeExpr :=
  match t.members with
  | [] => looked x r t
  | ms => lookedAll x r ms

def nameIssues (x : ClassIndex) (r : Registry) (filename : String) (p : Position) (t : TypeExpr) :
    List Issue :=
  (checkTypeName x r filename p t).1

section Looking

variable {x : ClassIndex} {r : Registry} {filename : String} {p : Position} {t v : TypeExpr}

theorem Unknown.not_known (h : Unknown x r t) : ¬ Known x r t := by
  rintro (hg | ⟨he, -⟩)
  · rw [h.1] at hg
    cases hg
  · rw [h.2] at he
    cases he

theorem not_known_of_isAmbiguous (hg : r.grants t.name = false) (h : x.isAmbiguous t = true) :
    ¬ Known x r t := by
  rw [ClassIndex.isAmbiguous, Bool.and_eq_true] at h
  simp [Known, hg, h.1, h.2]

theorem goesOn_eq_false_iff :
    goesOn x r t = false ↔ r.grants t.name = true ∨ x.isAmbiguous t = true := by
  rw [goesOn]
  cases r.grants t.name <;> simp

theorem checkTypeName_cases (x : ClassIndex) (r : Registry) (filename : String) (p : Position)
    (t : TypeExpr) :
    (r.grants t.name = true ∧ checkTypeName x r filename p t = ([], false)) ∨
    (r.grants t.name = false ∧ x.isAmbiguous t = true ∧
      ∃ i, i.severity = .error ∧ checkTypeName x r filename p t = ([i], false)) ∨
    (r.grants t.name = false ∧ x.isAmbiguous t = false ∧ x.knows t.name = true ∧
      checkTypeName x r filename p t = ([], true)) ∨
    (r.grants t.name = false ∧ x.isAmbiguous t = false ∧ x.knows t.name = false ∧
      ∃ i, i.severity = .error ∧ checkTypeName x r filename p t = ([i], true)) := by
  unfold checkTypeName
  dsimp only
  rw [← Registry.grants]
  cases hg : r.grants t.name with
  | true => exact .inl ⟨rfl, rfl⟩
  | false =>
    refine .inr ?_
    rw [ClassIndex.isAmbiguous, Table.has]
    cases (t.module.getD "").isEmpty with
    | false =>
      refine .inr ?_
      cases x.knows t.name with
      | true => exact .inl ⟨rfl, Bool.and_false _, rfl, rfl⟩
      | false => exact .inr ⟨rfl, Bool.and_false _, rfl, _, rfl, rfl⟩
    | true =>
      cases x.conflicts.find? t.name with
      | some es => exact .inl ⟨rfl, rfl, _, rfl, rfl⟩
      | none =>
        refine .inr ?_
        cases x.knows t.name with
        | true => exact .inl ⟨rfl, rfl, rfl, rfl⟩
        | false => exact .inr ⟨rfl, rfl, rfl, _, rfl, rfl⟩

theorem snd_checkTypeName : (checkTypeName x r filename p t).2 = goesOn x r t := by
  rw [goesOn]
  rcases checkTypeName_cases x r filename p t with ⟨hg, h⟩ | ⟨hg, ha, i, -, h⟩ | ⟨hg, ha, -,
    h⟩ | ⟨hg, ha, -, i, -, h⟩
  · rw [h, hg]
    rfl
  · rw [h, hg, ha]
    rfl
  · rw [h, hg, ha]
    rfl
  · rw [h, hg, ha]
    rfl

theorem severity_nameIssues : ∀ i ∈ nameIssues x r filename p t, i.severity = .error := by
  intro i hi
  rw [nameIssues] at hi
  rcases checkTypeName_cases x r filename p t with ⟨-, h⟩ | ⟨-, -, j, hj, h⟩ | ⟨-, -, -, h⟩ | ⟨-, -,
    -, j, hj, h⟩
  · rw [h] at hi
    cases hi
  · rw [h] at hi
    rw [List.mem_singleton.1 hi]
    exact hj
  · rw [h] at hi
    cases hi
  · rw [h] at hi
    rw [List.mem_singleton.1 hi]
    exact hj

theorem nameIssues_eq_nil_iff (hdot : ClassIndex.isDotted t.name = false) :
    nameIssues x r filename p t = [] ↔ Known x r t := by
  have hknows (hg : r.grants t.name = false) : x.knows t.name = x.entries.has t.name := by
    have hnames : (isBuiltin t.name || isTyping t.name) = false := by
      rw [Registry.grants, Bool.or_eq_false_iff] at hg
      exact hg.1
    rw [ClassIndex.knows, hnames, Bool.false_or, ClassIndex.find?, hdot]
    rfl
  rw [nameIssues]
  rcases checkTypeName_cases x r filename p t with ⟨hg, h⟩ | ⟨hg, ha, i, -, h⟩ | ⟨hg, ha, hk,
    h⟩ | ⟨hg, ha, hk, i, -, h⟩
  · rw [h]
    exact iff_of_true rfl (.inl hg)
  · rw [h]
    exact iff_of_false (List.cons_ne_nil _ _) (not_known_of_isAmbiguous hg ha)
  · rw [h]
    rw [hknows hg] at hk
    exact iff_of_true rfl
      (.inr ⟨hk, by simpa [ClassIndex.isAmbiguous, ← Bool.not_eq_true, imp_iff_not_or] using ha⟩)
  · rw [h]
    rw [hknows hg] at hk
    exact iff_of_false (List.cons_ne_nil _ _) (Unknown.not_known ⟨hg, hk⟩)

mutual
theorem checkSingleType_eq :
    (t : TypeExpr) → checkSingleType x r filename p t = (looked x r t).flatMap
    (nameIssues x r filename p)
  | .named raw n m => by
    rw [checkSingleType, looked, List.flatMap_singleton]
    rfl
  | .generic raw n m args => by
    rw [checkSingleType, looked, List.flatMap_cons]
    dsimp only
    rw [snd_checkTypeName]
    split
    · rw [checkSingleTypes_eq args]
      rfl
    · exact (List.append_nil _).symm
  | .union raw style ms => by
    rw [checkSingleType, looked, List.flatMap_singleton]
    rfl

theorem checkSingleTypes_eq :
    (ts : List TypeExpr) → checkSingleTypes x r filename p ts = (lookedAll x r ts).flatMap
      (nameIssues x r filename p)
  | [] => by
    rw [checkSingleTypes, lookedAll]
    rfl
  | t :: ts => by
    rw [checkSingleTypes, lookedAll, List.flatMap_append, checkSingleType_eq t,
      checkSingleTypes_eq ts]
end

theorem checkType_eq (t : TypeExpr) :
    checkType x r filename p t = (lookedAt x r t).flatMap (nameIssues x r filename p) := by
  unfold checkType lookedAt
  cases t.members with
  | nil => exact checkSingleType_eq t
  | cons m ms => exact checkSingleTypes_eq (m :: ms)

mutual
theorem looked_subset : (t : TypeExpr) → looked x r t ⊆ t.nodes
  | .named raw n m => by
    rw [looked, TypeExpr.nodes]
    exact List.Subset.refl _
  | .generic raw n m args => by
    rw [looked, TypeExpr.nodes]
    apply List.cons_subset_cons
    split
    · exact lookedAll_subset args
    · exact List.nil_subset _
  | .union raw style ms => by
    rw [looked, TypeExpr.nodes]
    exact List.cons_subset_cons _ (List.nil_subset _)

theorem lookedAll_subset : (ts : List TypeExpr) → lookedAll x r ts ⊆ TypeExpr.nodesAll ts
  | [] => by
    rw [lookedAll]
    exact List.nil_subset _
  | t :: ts => by
    rw [lookedAll, TypeExpr.nodesAll]
    apply List.append_subset.2
    exact ⟨List.subset_append_of_subset_left _ (looked_subset t),
      List.subset_append_of_subset_right _ (lookedAll_subset ts)⟩
end

theorem grants_union (raw : String) (style : UnionStyle) (ms : List TypeExpr) :
    r.grants (TypeExpr.union raw style ms).name = true := by
  have htyping : isTyping style.name = true := by cases style <;> decide
  rw [Registry.grants, TypeExpr.name, htyping, Bool.or_true, Bool.true_or]

def Covered (x : ClassIndex) (r : Registry) (v : TypeExpr) (nodes : List TypeExpr) : Prop :=
  v ∈ nodes ∨ ∃ w ∈ nodes, goesOn x r w = false ∧ v ∈ w.nodes

theorem Covered.mono {nodes more : List TypeExpr} (h : Covered x r v nodes) (hsub : nodes ⊆ more) :
    Covered x r v more := by
  rcases h with h | ⟨w, hw, h⟩
  · exact .inl (hsub h)
  · exact .inr ⟨w, hsub hw, h⟩

mutual
theorem covered_looked : (t : TypeExpr) → v ∈ t.nodes → Covered x r v (looked x r t)
  | .named raw n m, h => by
    rw [TypeExpr.nodes] at h
    rw [looked]
    exact .inl h
  | .generic raw n m args, h => by
    rw [looked]
    cases hgo : goesOn x r (.generic raw n m args) with
    | false => exact .inr ⟨_, List.mem_cons_self, hgo, h⟩
    | true =>
      rw [TypeExpr.nodes] at h
      cases h with
      | head => exact .inl List.mem_cons_self
      | tail _ h => exact (covered_lookedAll args h).mono (List.subset_cons_self _ _)
  | .union raw style ms, h => by
    rw [looked]
    exact .inr ⟨_, List.mem_cons_self, goesOn_eq_false_iff.2 (.inl (grants_union raw style ms)), h⟩

theorem covered_lookedAll :
    (ts : List TypeExpr) → v ∈ TypeExpr.nodesAll ts → Covered x r v (lookedAll x r ts)
  | [], h => by
    rw [TypeExpr.nodesAll] at h
    cases h
  | t :: ts, h => by
    rw [TypeExpr.nodesAll] at h
    rw [lookedAll]
    rcases List.mem_append.1 h with h | h
    · exact (covered_looked t h).mono (List.subset_append_left _ _)
    · exact (covered_lookedAll ts h).mono (List.subset_append_right _ _)
end

theorem lookedAt_eq (x : ClassIndex) (r : Registry) (t : TypeExpr) :
    lookedAt x r t = looked x r t ∨
      ∃ raw style ms, t = .union raw style ms ∧ lookedAt x r t = lookedAll x r ms := by
  unfold lookedAt
  split
  · exact .inl rfl
  · next ms hms =>
    cases t with
    | named raw n m => exact absurd rfl hms
    | generic raw n m args => exact absurd rfl hms
    | union raw style ms => exact .inr ⟨raw, style, ms, rfl, rfl⟩

theorem lookedAt_subset (t : TypeExpr) : lookedAt x r t ⊆ t.nodes := by
  rcases lookedAt_eq x r t with h | ⟨raw, style, ms, rfl, h⟩
  · rw [h]
    exact looked_subset t
  · rw [h, TypeExpr.nodes]
    exact List.subset_cons_of_subset _ (lookedAll_subset ms)

/-- An outer union is the only node that neither is looked at nor stands inside one that is, and its
name needs no class. -/
theorem covered_lookedAt (hv : v ∈ t.nodes) (hg : r.grants v.name = false) :
    Covered x r v (lookedAt x r t) := by
  rcases lookedAt_eq x r t with h | ⟨raw, style, ms, rfl, h⟩
  · rw [h]
    exact covered_looked t hv
  · rw [h]
    rw [TypeExpr.nodes] at hv
    cases hv with
    | head =>
      rw [grants_union] at hg
      cases hg
    | tail _ hv => exact covered_lookedAll ms hv

theorem checkType_eq_nil_iff (hdot : ∀ v ∈ t.nodes, ClassIndex.isDotted v.name = false) :
    checkType x r filename p t = [] ↔ ∀ v ∈ lookedAt x r t, Known x r v := by
  rw [checkType_eq, List.flatMap_eq_nil_iff]
  exact forall₂_congr fun v hv => nameIssues_eq_nil_iff (hdot v (lookedAt_subset t hv))

end Looking

section Declaration

variable {a : Analysis} {x : ClassIndex} {d : TypedName} {text : String}

theorem issues_declareVariable (hx : a.index = some x) (r : Registry) (filename : String)
    (p : Position) (d : TypedName) :
    (a.declareVariable r filename p d).issues = a.issues ++ checkType x r filename p d.type := by
  rw [declareVariable, hx]
  rfl

/-- An unknown name anywhere in a declared type is reported by some error exactly if a name that
is looked at is not known, or no name that is looked at and needs no class has an unknown name
inside. -/
theorem unknown_reported_iff (hx : a.index = some x) (ht : TypeExpr.parse text = .ok d.type)
    (r : Registry) (filename : String) (p : Position) :
    ∃ found, (a.declareVariable r filename p d).issues = a.issues ++ found ∧
      found = (lookedAt x r d.type).flatMap (nameIssues x r filename p) ∧
        (∀ i ∈ found, i.severity = .error) ∧
      (((∃ v ∈ d.type.nodes, Unknown x r v) → ∃ i ∈ found, i.severity = .error) ↔
        (∃ w ∈ lookedAt x r d.type, ¬ Known x r w) ∨
          ∀ w ∈ lookedAt x r d.type, r.grants w.name = true → ∀ v ∈ w.nodes, ¬ Unknown x r v) := by
  have hfound :
      checkType x r filename p d.type = (lookedAt x r d.type).flatMap (nameIssues x r filename p) :=
    checkType_eq d.type
  have hsev : ∀ i ∈ checkType x r filename p d.type, i.severity = .error := by
    intro i hi
    rw [hfound] at hi
    obtain ⟨v, -, hi⟩ := List.mem_flatMap.1 hi
    exact severity_nameIssues i hi
  have hreported : (∃ i ∈ checkType x r filename p d.type, i.severity = .error) ↔
      ∃ w ∈ lookedAt x r d.type, ¬ Known x r w := by
    have hnil : checkType x r filename p d.type = [] ↔ ∀ w ∈ lookedAt x r d.type, Known x r w :=
      checkType_eq_nil_iff (TypeExpr.undotted_of_parse ht)
    rw [← not_iff_not, not_exists, not_exists]
    simp only [not_and, not_not]
    rw [← hnil, List.eq_nil_iff_forall_not_mem]
    exact forall_congr' fun i => ⟨fun h hi => h hi (hsev i hi), fun h hi => absurd hi h⟩
  refine ⟨_, issues_declareVariable hx r filename p d, hfound, hsev, ?_⟩
  rw [hreported]
  constructor
  · intro h
    by_cases hw : ∃ w ∈ lookedAt x r d.type, ¬ Known x r w
    · exact .inl hw
    · refine .inr fun w hlooked _ v hv hunknown => hw (h ⟨v, ?_, hunknown⟩)
      exact TypeExpr.nodes_subset d.type (lookedAt_subset d.type hlooked) hv
  · rintro (hw | hhidden) ⟨v, hv, hunknown⟩
    · exact hw
    · rcases covered_lookedAt hv hunknown.1 with hlooked | ⟨w, hlooked, hgo, hinside⟩
      · exact ⟨v, hlooked, hunknown.not_known⟩
      · cases hg : r.grants w.name with
        | true => exact absurd hunknown (hhidden w hlooked hg v hinside)
        | false =>
          have ha : x.isAmbiguous w = true :=
            (goesOn_eq_false_iff.1 hgo).resolve_left (by simp [hg])
          exact ⟨w, hlooked, not_known_of_isAmbiguous hg ha⟩

def blankClass (module name : String) : ClassEntry :=
  ⟨name, module, .relative [module ++ ".py"], [], [], []⟩

def shop : ClassIndex :=
  ⟨[("Shelf", blankClass "shop" "Shelf"), ("Book", blankClass "shop" "Book")],
    [("Book", [blankClass "shop" "Book", blankClass "library" "Book"])]⟩

theorem unknown_reported_iff_shelf :
    ∃ t, TypeExpr.parse "Shelf[Ghost]" = .ok t ∧ (∃ v ∈ t.nodes, Unknown shop .empty v) ∧
      ∃ i ∈ ((start none .ascending (some shop) false).declareVariable .empty "t.html" .start ⟨"s",
        t⟩).issues, i.severity = .error := by
  have hread : (TypeExpr.parse "Shelf[Ghost]").toOption.any
    (fun t => decide (∃ v ∈ t.nodes, Unknown shop .empty v) &&
      decide (∃ w ∈ lookedAt shop .empty t, ¬ Known shop .empty w)) = true := by decide +kernel
  obtain ⟨t, ht, hread⟩ := exists_ok_of_any hread
  rw [Bool.and_eq_true, decide_eq_true_eq, decide_eq_true_eq] at hread
  obtain ⟨hunknown, hlooked⟩ := hread
  obtain ⟨found, hissues, -, -, hiff⟩ :=
    unknown_reported_iff (a := start none .ascending (some shop) false)
    (d := ⟨"s", t⟩) rfl ht .empty "t.html" .start
  obtain ⟨i, hi, hsev⟩ := hiff.2 (.inl hlooked) hunknown
  refine ⟨t, ht, hunknown, i, ?_, hsev⟩
  rw [hissues]
  exact List.mem_append_right _ hi

theorem unknown_in_list_unreported :
    ∃ t, TypeExpr.parse "list[Ghost]" = .ok t ∧ (∃ v ∈ t.nodes, Unknown shop .empty v) ∧
      ((start none .ascending (some shop) false).declareVariable .empty "t.html" .start ⟨"s",
        t⟩).issues = [] := by
  have hread : (TypeExpr.parse "list[Ghost]").toOption.any
    (fun t => decide (∃ v ∈ t.nodes, Unknown shop .empty v) &&
      ((start none .ascending (some shop) false).declareVariable .empty "t.html" .start ⟨"s",
        t⟩).issues.isEmpty) = true := by decide +kernel
  obtain ⟨t, ht, hread⟩ := exists_ok_of_any hread
  rw [Bool.and_eq_true, decide_eq_true_eq, List.isEmpty_iff] at hread
  exact ⟨t, ht, hread⟩

/-- A declaration is accepted exactly if all names that are looked at are known; so it is where all
names are. -/
theorem known_not_reported (hx : a.index = some x) (ht : TypeExpr.parse text = .ok d.type)
    (r : Registry) (filename : String) (p : Position) :
    ((∀ v ∈ d.type.nodes, Known x r v) → (a.declareVariable r filename p d).issues = a.issues) ∧
      ((a.declareVariable r filename p d).issues = a.issues ↔
        ∀ v ∈ lookedAt x r d.type, Known x r v) := by
  have hiff : (a.declareVariable r filename p d).issues = a.issues ↔
    ∀ v ∈ lookedAt x r d.type, Known x r v := by
    rw [issues_declareVariable hx, List.append_right_eq_self]
    exact checkType_eq_nil_iff (TypeExpr.undotted_of_parse ht)
  refine ⟨fun hknown => hiff.2 fun v hv => ?_, hiff⟩
  exact hknown v (lookedAt_subset d.type hv)

theorem known_not_reported_shelf :
    ∃ t, TypeExpr.parse "Shelf[shop.Book, Optional[int]] | None" = .ok t ∧ t.nodes.length = 7 ∧
      (∀ v ∈ t.nodes, Known shop .empty v) ∧
      ((start none .ascending (some shop) false).declareVariable .empty "t.html" .start ⟨"s",
        t⟩).issues = [] := by
  have hread : (TypeExpr.parse "Shelf[shop.Book, Optional[int]] | None").toOption.any (fun t =>
      decide (t.nodes.length = 7) && decide (∀ v ∈ t.nodes, Known shop .empty v)) = true := by
        decide +kernel
  obtain ⟨t, ht, hread⟩ := exists_ok_of_any hread
  rw [Bool.and_eq_true, decide_eq_true_eq, decide_eq_true_eq] at hread
  refine ⟨t, ht, hread.1, hread.2, ?_⟩
  exact (known_not_reported (a := start none .ascending (some shop) false) (d := ⟨"s", t⟩) rfl ht
    .empty "t.html" .start).1 hread.2

end Declaration

end Analysis

end TypedTemplate
