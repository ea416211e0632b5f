import Mathlib.Data.Fintype.EquivFin
import TypedTemplate.Proofs.Usage.AttributeChain
import TypedTemplate.Usage.Analysis

/-! The classes that reports of missing attributes are about. An access is checked under one name,
which of a generic type is that of its first argument, and which no class need have. A report tells
of a class that lacks the attribute where the type, `None` aside, is a plain name and the name
looked up is that of a class. -/
namespace TypedTemplate

namespace TypeExpr

mutual
/-- The type without the `None` of a union, where one other member is left. -/
def lone : TypeExpr → TypeExpr
  | named raw n m => named raw n m
  | generic raw n m args => generic raw n m args
  | union raw style ms => (loneOf ms).getD (union raw style ms)

def loneOf : List TypeExpr → Option TypeExpr
  | [] => none
  | t :: ts =>
    if t.name == "None" then loneOf ts
    else if ts.all (·.name == "None") then some t.lone else none
end

def IsPlain (t : TypeExpr) : Prop := t.isUnion = false ∧ t.args = []

mutual
theorem baseName_lone : (t : TypeExpr) → t.lone.baseName = t.baseName
  | named raw n m => by rw [lone]
  | generic raw n m args => by rw [lone]
  | union raw style ms => by
    rw [lone]
    cases h : loneOf ms with
    | none => rfl
    | some s =>
      rw [baseName, firstBaseName_of_loneOf ms h]
      rfl

theorem firstBaseName_of_loneOf {s : TypeExpr} :
    (ms : List TypeExpr) → loneOf ms = some s → firstBaseName ms = some s.baseName
  | [], h => by
    rw [loneOf] at h
    cases h
  | t :: ts, h => by
    rw [loneOf] at h
    rw [firstBaseName]
    split at h
    · next hnone =>
      rw [if_pos hnone]
      exact firstBaseName_of_loneOf ts h
    · next hnone =>
      rw [if_neg hnone]
      split at h
      · cases h
        rw [baseName_lone t]
      · cases h
end

theorem IsPlain.baseName_eq {t : TypeExpr} (h : t.IsPlain) : t.baseName = t.qualifiedName := by
  cases t with
  | named raw n m => rw [baseName, qualifiedName, name, module]
  | generic raw n m args =>
    obtain rfl : args = [] := h.2
    rw [baseName, qualifiedName, name, module]
  | union raw style ms => cases h.1

end TypeExpr

namespace ClassIndex

variable {x : ClassIndex} {name : String} {c : ClassEntry}

def Calls (x : ClassIndex) (name : String) (c : ClassEntry) : Prop :=
  x.entries.find? name = some c ∨ c ∈ x.entries.values ∧ c.qualifiedName = name

theorem calls_of_find? (h : x.find? name = some c) : x.Calls name c := by
  rw [find?] at h
  split at h
  · exact .inr ⟨List.mem_of_find?_eq_some h, by simpa using List.find?_some h⟩
  · exact .inl h

theorem exists_lacking (c : ClassEntry) :
    ∃ attr, c.hasMember attr = false ∧ attr ∉ commonAttributes := by
  obtain ⟨attr, hfresh⟩ :=
    Infinite.exists_notMem_finset (c.fields.keys ++ c.methods.keys ++ commonAttributes).toFinset
  rw [List.mem_toFinset, List.mem_append, List.mem_append, not_or, not_or] at hfresh
  refine ⟨attr, ?_, hfresh.2⟩
  rw [ClassEntry.hasMember, Bool.or_eq_false_iff, ← Bool.not_eq_true, ← Bool.not_eq_true]
  exact ⟨mt Table.mem_keys_of_has hfresh.1.1, mt Table.mem_keys_of_has hfresh.1.2⟩

end ClassIndex

namespace Usage
open Template ClassIndex

def Denotes (u : Usage) (x : ClassIndex) (t : TypeExpr) (c : ClassEntry) : Prop :=
  x.Calls t.qualifiedName c ∨ x.Calls (u.lookupName t) c

/-- The type, `None` aside, is the plain name of a class that lacks the attribute. -/
structure NamesLacking (u : Usage) (x : ClassIndex) (t : TypeExpr) (attr : String) : Prop where
  plain : t.lone.IsPlain
  lacking : ∃ c, u.Denotes x t.lone c ∧ c.hasMember attr = false
  uncommon : attr ∉ commonAttributes

/-- The type, `None` aside, is a plain name, a class is looked up for it, and what that class lacks
is lacking in some class of that name. -/
structure FoundAsNamed (u : Usage) (x : ClassIndex) (t : TypeExpr) : Prop where
  plain : t.lone.IsPlain
  found : ∃ d, x.find? (u.lookupName t) = some d ∧ ∀ attr, d.hasMember attr = false →
    attr ∉ commonAttributes → ∃ c, u.Denotes x t.lone c ∧ c.hasMember attr = false

/-- If an access adds something to the issues of its base, the type of the base names a class that
lacks the attribute. -/
def Grounded (u : Usage) (x : ClassIndex) (loops : LoopVariables) (line : Nat) (base : Expr)
    (attr : String) : Prop :=
  ∀ found, u.visit loops (.attr line base attr) = found ++ u.visit loops base → found ≠ [] →
    ∃ t, u.typeOf? loops base = some t ∧ u.NamesLacking x t attr

section Grounds

variable {u : Usage} {x : ClassIndex} {loops : LoopVariables} {line : Nat} {base : Expr}
  {attr : String} {t : TypeExpr}

theorem visit_attr_of_ignored (hreg : u.byRegistry = false) (hline : u.isIgnored line = true) :
    u.visit loops (.attr line base attr) = [] := by
  rw [visit, hreg, hline]
  rfl

theorem grounded_iff (hx : u.index = some x) (hreg : u.byRegistry = false) :
    u.Grounded x loops line base attr ↔ u.isIgnored line = true ∨
      ∀ t, u.typeOf? loops base = some t → x.Refuses (u.lookupName t) attr →
        u.NamesLacking x t attr := by
  cases hline : u.isIgnored line with
  | true =>
    refine iff_of_true (fun found hfound hne => ?_) (.inl rfl)
    rw [visit_attr_of_ignored hreg hline] at hfound
    exact absurd (List.append_eq_nil_iff.1 hfound.symm).1 hne
  | false =>
    rw [Grounded, visit_attr hreg hline, or_iff_right Bool.false_ne_true]
    constructor
    · intro h t ht hrefused
      have hcheck :=
        ((checkAttr_cases hx ht line attr).resolve_right fun hsilent => hsilent.1 hrefused).2
      obtain ⟨s, hs, hlacking⟩ := h _ rfl (by rw [hcheck]; exact List.cons_ne_nil _ _)
      obtain rfl : s = t := Option.some.inj (hs.symm.trans ht)
      exact hlacking
    · intro h found hfound hne
      rw [← List.append_cancel_right hfound] at hne
      cases ht : u.typeOf? loops base with
      | none => exact absurd (checkAttr_of_unknown ht line attr) hne
      | some t =>
        rcases checkAttr_cases hx ht line attr with ⟨hrefused, -⟩ | ⟨-, hsilent⟩
        · exact ⟨t, rfl, h t ht hrefused⟩
        · exact absurd hsilent hne

/-- Whatever is refused for a type names a class that lacks it, exactly if nothing is refused or
the class looked up is found as named. -/
theorem forall_namesLacking_iff :
    (∀ attr, x.Refuses (u.lookupName t) attr → u.NamesLacking x t attr) ↔
      u.lookupName t = "" ∨ u.lookupName t ∈ openTypes ∨ u.FoundAsNamed x t := by
  constructor
  · intro h
    by_cases hnamed : u.lookupName t = ""
    · exact .inl hnamed
    by_cases hopen : u.lookupName t ∈ openTypes
    · exact .inr (.inl hopen)
    refine .inr (.inr ?_)
    cases hd : x.find? (u.lookupName t) with
    | none =>
      -- even an attribute that every object has is refused
      have hrefused : x.Refuses (u.lookupName t) "__class__" :=
        ⟨hnamed, hopen, fun e he => by rw [hd] at he; cases he⟩
      exact absurd (by decide) (h _ hrefused).uncommon
    | some d =>
      have hrefused {attr : String} (hlacks : d.hasMember attr = false)
          (hcommon : attr ∉ commonAttributes) :
          x.Refuses (u.lookupName t) attr :=
        ⟨hnamed, hopen, fun e he => by rw [← Option.some.inj (hd.symm.trans he)]; exact ⟨hlacks,
          hcommon⟩⟩
      obtain ⟨attr, hlacks, hcommon⟩ := exists_lacking d
      refine ⟨(h attr (hrefused hlacks hcommon)).plain, d, hd, fun attr hlacks hcommon => ?_⟩
      exact (h attr (hrefused hlacks hcommon)).lacking
  · rintro (hname | hopen | hfound) attr hrefused
    · exact absurd hname hrefused.named
    · exact absurd hopen hrefused.checked
    · obtain ⟨d, hd, hagree⟩ := hfound.found
      obtain ⟨hlacks, hcommon⟩ := hrefused.lacking d hd
      exact ⟨hfound.plain, hagree attr hlacks hcommon, hcommon⟩

theorem lookupName_union (himport : ∀ d, u.registry.imported.find? "Union" ≠ some (some d))
    (raw : String) (style : UnionStyle) (ms : List TypeExpr) :
    u.lookupName (.union raw style ms) = (TypeExpr.union raw style ms).baseName := by
  cases style with
  | pipe =>
    rw [lookupName]
    split
    · next d _ hd => exact absurd hd (himport d)
    · rfl
  | union => rfl
  | optional => rfl

theorem denotes_of_find? {d : ClassEntry} (hplain : t.lone.IsPlain)
    (himport : ∀ d, u.registry.imported.find? "Union" ≠ some (some d))
    (hd : x.find? (u.lookupName t) = some d) :
    u.Denotes x t.lone d := by
  cases t with
  | named raw n m => exact .inr (calls_of_find? hd)
  | generic raw n m args => exact .inr (calls_of_find? hd)
  | union raw style ms =>
    rw [lookupName_union himport, ← TypeExpr.baseName_lone, hplain.baseName_eq] at hd
    exact .inl (calls_of_find? hd)

/-- An access to one attribute is grounded exactly if the line is ignored, or the index does
not refuse what is looked up for the type of the base, or that type names a class that lacks
the attribute. Accesses to all attributes are grounded exactly if the line is ignored, or what
is looked up for the type is empty, or one of the types whose attributes are not checked, or
found as named. So it is where, `None` aside, the type is a plain name, the name looked up is
that of a class, and no class is imported as `Union`. -/
theorem grounded_iff_scanned (hx : u.index = some x) (hreg : u.byRegistry = false)
    (loops : LoopVariables) (line : Nat) (base : Expr) :
    (∀ attr, u.Grounded x loops line base attr ↔ u.isIgnored line = true ∨
        ∀ t, u.typeOf? loops base = some t → x.Refuses (u.lookupName t) attr →
          u.NamesLacking x t attr) ∧
      ((∀ attr, u.Grounded x loops line base attr) ↔ u.isIgnored line = true ∨
        ∀ t, u.typeOf? loops base = some t →
          u.lookupName t = "" ∨ u.lookupName t ∈ openTypes ∨ u.FoundAsNamed x t) ∧
      ∀ t, t.lone.IsPlain → (x.find? (u.lookupName t)).isSome = true →
        (∀ d, u.registry.imported.find? "Union" ≠ some (some d)) → u.FoundAsNamed x t := by
  refine ⟨fun attr => grounded_iff hx hreg, ?_, fun t hplain hfound himport => ?_⟩
  · rw [forall_congr' fun attr => grounded_iff hx hreg, forall_or_left, forall_comm]
    refine or_congr_right (forall_congr' fun t => ?_)
    rw [← forall_namesLacking_iff, forall_comm]
  · obtain ⟨d, hd⟩ := Option.isSome_iff_exists.1 hfound
    exact ⟨hplain, d, hd, fun attr hlacks _ => ⟨d, denotes_of_find? hplain himport hd, hlacks⟩⟩

theorem grounded_iff_scanned_user :
    (withUser.visit [] (.attr 3 (.name 3 "user") "dog")).map Issue.message =
    ["Type 'User' has no attribute 'dog'"] ∧
      ∀ attr, withUser.Grounded people [] 3 (.name 3 "user") attr := by
  obtain ⟨-, hall, hscanned⟩ :=
    grounded_iff_scanned (u := withUser) (x := people) rfl rfl [] 3 (.name 3 "user")
  refine ⟨by decide +kernel, hall.2 (.inr fun t ht => .inr (.inr ?_))⟩
  cases ht
  exact hscanned _ ⟨rfl, rfl⟩ (by decide +kernel) fun d hd => by cases hd

end Grounds

end Usage

theorem Analysis.any_attribute_reported :
    ((start none .ascending (some .empty) false).template .empty "t.html"
        "\x7b# typja:var x: Any #\x7d\n\x7b\x7b x.name \x7d\x7d\n").1.issues.map Issue.message =
        ["Type 'Any' has no attribute 'name'"] ∧
      ∀ name c, ¬ ClassIndex.empty.Calls name c := by
  refine ⟨by decide +kernel, fun name c h => ?_⟩
  rcases h with h | ⟨h, -⟩
  · cases h
  · cases h

end TypedTemplate
