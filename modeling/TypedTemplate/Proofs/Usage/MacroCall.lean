import Mathlib.Data.List.Nodup
import Mathlib.Data.List.Perm.Subperm
import Mathlib.Tactic.MkIffOfInductiveProp
import TypedTemplate.Usage.Visit

/-! Calls of macros. A call binds if each argument finds a parameter of its own and each parameter
without a fallback gets an argument. The check compares numbers only, and the names of arguments
with those of all parameters: it passes every call that binds if the parameters have different
names, but also calls in which a parameter filled twice, or one that could be left to its fallback,
makes up for another. -/
namespace TypedTemplate

namespace MacroSignature
open Template

/-- The parameters that every call has to fill. -/
def required (m : MacroSignature) : List Parameter := m.params.filter fun p => p.fallback.isNone

section Binding

variable (m : MacroSignature) (shape : ArgShape)

def Filled (p : Parameter) : Prop := p ∈ m.params.take shape.positional ∨ p.name ∈ shape.named

/-- No parameter is filled by position and by name, or twice by name. -/
@[mk_iff]
structure FilledOnce : Prop where
  leading : ∀ p ∈ m.params.take shape.positional, p.name ∉ shape.named
  named : ∀ p ∈ m.params, shape.named.count p.name ≤ 1

/-- Each parameter without a fallback is filled by position or by name. -/
def Supplied : Prop := ∀ p ∈ m.params.drop shape.positional, p.fallback = none →
    p.name ∈ shape.named

@[mk_iff]
structure Binds : Prop where
  positional : shape.positional ≤ m.params.length
  known : ∀ k ∈ shape.named, k ∈ m.params.map Parameter.name
  once : m.FilledOnce shape
  supplied : m.Supplied shape

/-- The numbers of arguments and parameters fit, and each name is that of some parameter. -/
structure Fits : Prop where
  required_le : m.required.length ≤ Usage.argCount shape
  le_params : Usage.argCount shape ≤ m.params.length
  known : ∀ k ∈ shape.named, k ∈ m.params.map Parameter.name

/-- A parameter with a fallback is filled, and one without is not. -/
def Displaced : Prop := (∃ p ∈ m.params, p.fallback ≠ none ∧ m.Filled shape p) ∧ ¬ m.Supplied shape

instance : Decidable (m.FilledOnce shape) := decidable_of_iff _ (m.filledOnce_iff shape).symm

instance : Decidable (m.Supplied shape) :=
  inferInstanceAs
    (Decidable (∀ p ∈ m.params.drop shape.positional, p.fallback = none → p.name ∈ shape.named))

instance : Decidable (m.Binds shape) := decidable_of_iff _ (m.binds_iff shape).symm

end Binding

section Count

variable {m : MacroSignature} {shape : ArgShape}

theorem mem_required {p : Parameter} : p ∈ m.required ↔ p ∈ m.params ∧ p.fallback = none := by
  rw [required, List.mem_filter, Option.isNone_iff_eq_none]

theorem mem_take_or_drop {p : Parameter} (n : Nat) (hp : p ∈ m.params) :
    p ∈ m.params.take n ∨ p ∈ m.params.drop n := by
  rwa [← List.mem_append, List.take_append_drop]

theorem nodup_required (hnames : (m.params.map Parameter.name).Nodup) :
    (m.required.map Parameter.name).Nodup :=
  hnames.sublist (List.filter_sublist.map _)

theorem Fits.positional_le (h : m.Fits shape) : shape.positional ≤ m.params.length :=
  Nat.le_trans (Nat.le_add_right _ _) h.le_params

theorem FilledOnce.nodup_named (h : m.FilledOnce shape)
    (hknown : ∀ k ∈ shape.named, k ∈ m.params.map Parameter.name) :
    shape.named.Nodup := by
  rw [List.nodup_iff_count_le_one]
  intro k
  by_cases hk : k ∈ shape.named
  · obtain ⟨p, hp, rfl⟩ := List.mem_map.1 (hknown k hk)
    exact h.named p hp
  · rw [List.count_eq_zero.2 hk]
    exact Nat.zero_le 1

theorem Binds.named_subset (h : m.Binds shape) :
    shape.named ⊆ (m.params.drop shape.positional).map Parameter.name := by
  intro k hk
  obtain ⟨p, hp, rfl⟩ := List.mem_map.1 (h.known k hk)
  have hlead : p ∉ m.params.take shape.positional := fun hp => h.once.leading p hp hk
  exact List.mem_map_of_mem ((mem_take_or_drop _ hp).resolve_left hlead)

theorem Binds.argCount_le (h : m.Binds shape) : Usage.argCount shape ≤ m.params.length := by
  have hle := (h.once.nodup_named h.known).length_le_of_subset h.named_subset
  rw [List.length_map, List.length_drop] at hle
  have := h.positional
  rw [Usage.argCount]
  omega

def filledNames (m : MacroSignature) (shape : ArgShape) : List String :=
  (m.params.take shape.positional).map Parameter.name ++ shape.named

theorem length_filledNames (h : shape.positional ≤ m.params.length) :
    (m.filledNames shape).length = Usage.argCount shape := by
  rw [filledNames, List.length_append, List.length_map, List.length_take_of_le h, Usage.argCount]

theorem Binds.required_le (h : m.Binds shape) (hnames : (m.params.map Parameter.name).Nodup) :
    m.required.length ≤ Usage.argCount shape := by
  rw [← length_filledNames h.positional, ← List.length_map (f := Parameter.name)]
  refine (nodup_required hnames).length_le_of_subset fun k hk => ?_
  obtain ⟨p, hp, rfl⟩ := List.mem_map.1 hk
  obtain ⟨hp, hnone⟩ := mem_required.1 hp
  rw [filledNames, List.mem_append]
  exact (mem_take_or_drop _ hp).imp (List.mem_map_of_mem ·) fun hrest => h.supplied p hrest hnone

theorem FilledOnce.nodup_filledNames (h : m.FilledOnce shape)
    (hnames : (m.params.map Parameter.name).Nodup)
    (hknown : ∀ k ∈ shape.named, k ∈ m.params.map Parameter.name) :
    (m.filledNames shape).Nodup := by
  refine List.Nodup.append (hnames.sublist ((List.take_sublist _ _).map _))
    (h.nodup_named hknown) ?_
  intro k hlead hk
  obtain ⟨p, hp, rfl⟩ := List.mem_map.1 hlead
  exact h.leading p hp hk

/-- As many arguments as parameters without a fallback fill all of these, if each fills one of them
and no two the same. -/
theorem FilledOnce.supplied (h : m.FilledOnce shape) (hnames : (m.params.map Parameter.name).Nodup)
    (hfits : m.Fits shape) (hnone : ∀ p ∈ m.params, m.Filled shape p → p.fallback = none) :
    m.Supplied shape := by
  have hsub : m.filledNames shape ⊆ m.required.map Parameter.name := by
    have hreq : ∀ p ∈ m.params, m.Filled shape p → p.name ∈ m.required.map Parameter.name :=
      fun p hp hfilled => List.mem_map_of_mem (mem_required.2 ⟨hp, hnone p hp hfilled⟩)
    intro k hk
    obtain hk | hk := List.mem_append.1 hk
    · obtain ⟨p, hp, rfl⟩ := List.mem_map.1 hk
      exact hreq p (List.mem_of_mem_take hp) (.inl hp)
    · obtain ⟨p, hp, rfl⟩ := List.mem_map.1 (hfits.known k hk)
      exact hreq p hp (.inr hk)
  have hperm : (m.filledNames shape).Perm (m.required.map Parameter.name) := by
    refine ((h.nodup_filledNames hnames hfits.known).subperm hsub).perm_of_length_le ?_
    rw [List.length_map, length_filledNames hfits.positional_le]
    exact hfits.required_le
  intro p hp hfallback
  have hmem : p.name ∈ m.filledNames shape :=
    hperm.mem_iff.2 (List.mem_map_of_mem (mem_required.2 ⟨List.mem_of_mem_drop hp, hfallback⟩))
  -- Its name is not that of a parameter in front of it.
  refine (List.mem_append.1 hmem).resolve_left fun hlead => ?_
  rw [← List.take_append_drop shape.positional m.params, List.map_append] at hnames
  exact List.disjoint_of_nodup_append hnames hlead (List.mem_map_of_mem hp)

theorem Fits.binds_iff (h : m.Fits shape) : m.Binds shape ↔ m.FilledOnce shape ∧ m.Supplied shape :=
  ⟨fun hb => ⟨hb.once, hb.supplied⟩, fun ho => ⟨h.positional_le, h.known, ho.1, ho.2⟩⟩

theorem Fits.binds_iff_not_displaced (h : m.Fits shape)
    (hnames : (m.params.map Parameter.name).Nodup) :
    m.Binds shape ↔ m.FilledOnce shape ∧ ¬ m.Displaced shape := by
  rw [h.binds_iff]
  refine and_congr_right fun honce => ⟨fun hsup hd => hd.2 hsup, fun hd => ?_⟩
  by_contra hsup
  refine hsup (honce.supplied hnames h fun p hp hfilled => ?_)
  by_contra hfallback
  exact hd ⟨⟨p, hp, hfallback, hfilled⟩, hsup⟩

theorem Binds.fits_iff (h : m.Binds shape) :
    m.Fits shape ↔ m.required.length ≤ Usage.argCount shape :=
  ⟨Fits.required_le, fun hle => ⟨hle, h.argCount_le, h.known⟩⟩

end Count

end MacroSignature

namespace Usage
open Template MacroSignature

variable {u : Usage} {id : String} {m : MacroSignature} {shape : ArgShape}

theorem checkCall_eq_nil_iff (line nameLine : Nat) (hm : u.macros.find? id = some m)
    (hs : shape.spread = false) :
    u.checkCall line (.name nameLine id) shape = [] ↔ m.Fits shape := by
  have hunknown : shape.named.filter (fun k => !(m.params.map Parameter.name).contains k) = [] ↔
      ∀ k ∈ shape.named, k ∈ m.params.map Parameter.name := by
    simp only [List.filter_eq_nil_iff, Bool.not_eq_true', Bool.not_eq_false, List.contains_iff_mem]
  simp only [checkCall, Expr.name?, Option.bind_some, hm, Option.map_some, hs, Bool.false_eq_true,
    ↓reduceIte, List.append_eq_nil_iff, List.map_eq_nil_iff]
  rw [hunknown, ← required]
  split_ifs with hfew hmany
  · exact ⟨fun h => h.1.elim, fun h => absurd h.required_le (Nat.not_le.2 hfew)⟩
  · exact ⟨fun h => h.1.elim, fun h => absurd h.le_params (Nat.not_le.2 hmany)⟩
  · exact ⟨fun h => ⟨Nat.not_lt.1 hfew, Nat.not_lt.1 hmany, h.2⟩, fun h => ⟨rfl, h.known⟩⟩

/-- The issues of a call of a declared macro are its own, those of the name called and those of the
arguments. It has none of its own if and only if the call fits. That is the same as binding unless a
call fits that fills a parameter twice or leaves one without a fallback unfilled, or one binds that
has fewer arguments than there are such parameters. The last needs two parameters of one name, and
with different names a call that fits leaves a parameter unfilled only for another that has a
fallback. -/
theorem checkCall_nil_iff_binds (loops : LoopVariables) (line nameLine : Nat) (args : List Expr)
    (hm : u.macros.find? id = some m) (hs : shape.spread = false)
    (hline : u.isIgnored line = false) :
    let callee := Expr.name nameLine id
    let own := u.checkCall line callee shape
    u.visit loops (.call line callee shape args) = own ++ u.visit loops callee ++ u.visitAll loops
      args ∧ (own = [] ↔ m.Fits shape) ∧
      ((own = [] ↔ m.Binds shape) ↔
        (m.Fits shape → m.FilledOnce shape ∧ m.Supplied shape) ∧
          (m.Binds shape → m.required.length ≤ argCount shape)) ∧
      ((m.params.map Parameter.name).Nodup →
        (m.Binds shape → own = []) ∧
          ((own = [] ↔ m.Binds shape) ↔
            (m.Fits shape → m.FilledOnce shape ∧ ¬ m.Displaced shape))) := by
  intro callee own
  have hown : own = [] ↔ m.Fits shape := checkCall_eq_nil_iff line nameLine hm hs
  refine ⟨?_, hown, ?_, fun hnames => ?_⟩
  · simp only [own, callee, visit, hline, Bool.false_eq_true, ↓reduceIte]
  · rw [hown]
    exact iff_def.trans (and_congr (forall_congr' Fits.binds_iff) (forall_congr' Binds.fits_iff))
  · have hbinds : m.Binds shape → m.Fits shape := fun h => h.fits_iff.2 (h.required_le hnames)
    refine ⟨fun h => hown.2 (hbinds h), ?_⟩
    rw [hown]
    exact (iff_def.trans (and_iff_left hbinds)).trans
      (forall_congr' fun h => h.binds_iff_not_displaced hnames)

def fieldMacro : MacroSignature where
  name := "field"
  params :=
    [⟨"name", .named "str" "str" none, none⟩, ⟨"kind", .named "str" "str" none, some "'text'"⟩]
  result := .named "str" "str" none

def fieldUsage : Usage where
  filename := "t.html"
  lines := []
  varTypes := []
  filters := []
  macros := [("field", fieldMacro)]
  ignored := [2]
  registry := .empty
  index := none
  byRegistry := false

theorem checkCall_nil_iff_binds_field :
    let shape : ArgShape := ⟨1, ["kind"], false⟩
    fieldUsage.macros.find? "field" = some fieldMacro ∧ fieldUsage.isIgnored 3 = false ∧
      fieldMacro.Binds shape ∧ fieldUsage.checkCall 3 (.name 3 "field") shape = [] := by
  intro shape
  have hbinds : fieldMacro.Binds shape := by decide
  have hnames : (fieldMacro.params.map Parameter.name).Nodup := by decide
  exact ⟨rfl, rfl, hbinds, ((checkCall_nil_iff_binds [] 3 3 [] rfl rfl rfl).2.2.2 hnames).1 hbinds⟩

theorem checkCall_field_unbound :
    let fallbackOnly : ArgShape := ⟨0, ["kind"], false⟩
    let twice : ArgShape := ⟨1, ["name"], false⟩
    (fieldUsage.checkCall 3 (.name 3 "field") fallbackOnly = [] ∧
      ¬ fieldMacro.Supplied fallbackOnly) ∧
      fieldUsage.checkCall 3 (.name 3 "field") twice = [] ∧ ¬ fieldMacro.FilledOnce twice := by
  decide +kernel

end Usage

end TypedTemplate
