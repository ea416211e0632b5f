import TypedTemplate.Proofs.ClassIndex.Lookup
import TypedTemplate.Proofs.Usage.Raised

/-! Attributes of attributes. The type of an access is that of a field, so behind the first access
to anything else no type is known, and nothing more is reported. -/
namespace TypedTemplate

namespace Template.Expr

/-- Accesses to attributes one behind the other, each with its line. -/
def chain (e : Expr) (accesses : List (Nat × String)) : Expr :=
  accesses.foldl (fun e a => .attr a.1 e a.2) e

theorem chain_cons (e : Expr) (a : Nat × String) (as : List (Nat × String)) :
    e.chain (a :: as) = (Expr.attr a.1 e a.2).chain as := rfl

end Template.Expr

namespace ClassIndex

def HasField (x : ClassIndex) (t : TypeExpr) (attr : String) : Prop :=
  ∃ e, x.entries.find? t.baseName = some e ∧ e.fields.has attr = true

/-- There is a name to look up, its attributes are checked, and no class found under it has
the attribute. -/
structure Refuses (x : ClassIndex) (type attr : String) : Prop where
  named : type ≠ ""
  checked : type ∉ openTypes
  lacking : ∀ e, x.find? type = some e → e.hasMember attr = false ∧ attr ∉ commonAttributes

theorem refuses_iff {x : ClassIndex} {type attr : String} :
    x.Refuses type attr ↔ type.isEmpty = false ∧ x.checkAttribute type attr ≠ .ok () := by
  have hempty : type ≠ "" ↔ type.isEmpty = false := by simp
  by_cases hopen : type ∈ openTypes
  · have hok : x.checkAttribute type attr = .ok () := by
      rw [checkAttribute, if_pos (by simpa using hopen)]
    exact iff_of_false (fun h => h.checked hopen) (fun h => h.2 hok)
  · rw [ne_eq, checkAttribute_eq_ok_iff hopen, ← hempty]
    constructor
    · intro h
      refine ⟨h.named, ?_⟩
      rintro ⟨e, he, hmember | hcommon⟩
      · rw [(h.lacking e he).1] at hmember
        cases hmember
      · exact (h.lacking e he).2 hcommon
    · intro h
      refine ⟨h.1, hopen, fun e he => ⟨?_, fun hcommon => h.2 ⟨e, he, .inr hcommon⟩⟩⟩
      rw [← Bool.not_eq_true]
      exact fun hmember => h.2 ⟨e, he, .inl hmember⟩

theorem HasField.not_refuses {x : ClassIndex} {t : TypeExpr} {attr : String} (h : x.HasField t attr)
    (hdot : isDotted t.baseName = false) : ¬ x.Refuses t.baseName attr := by
  intro hrefused
  obtain ⟨e, he, hfield⟩ := h
  have hfind : x.find? t.baseName = some e := by
    rw [find?, hdot]
    exact he
  have hmember := (hrefused.lacking e hfind).1
  rw [ClassEntry.hasMember, hfield, Bool.true_or] at hmember
  cases hmember

end ClassIndex

namespace Usage
open Template ClassIndex

section Access

variable {u : Usage} {x : ClassIndex} {loops : LoopVariables} {base : Expr} {t : TypeExpr}

theorem checkAttr_of_unknown (ht : u.typeOf? loops base = none) (line : Nat) (attr : String) :
    u.checkAttr loops line base attr = [] := by
  rw [checkAttr, ht]

theorem checkAttr_cases (hx : u.index = some x) (ht : u.typeOf? loops base = some t) (line : Nat)
    (attr : String) :
    (x.Refuses (u.lookupName t) attr ∧
      u.checkAttr loops line base attr = [u.missing line (u.lookupName t) attr]) ∨
      (¬ x.Refuses (u.lookupName t) attr ∧ u.checkAttr loops line base attr = []) := by
  rw [refuses_iff, checkAttr, ht, hx]
  dsimp only
  cases (u.lookupName t).isEmpty with
  | true => exact .inr ⟨by simp, rfl⟩
  | false =>
    cases x.checkAttribute (u.lookupName t) attr with
    | ok _ => exact .inr ⟨by simp, rfl⟩
    | error e => exact .inl ⟨by simp, rfl⟩

theorem visit_attr (hreg : u.byRegistry = false) {line : Nat} (hline : u.isIgnored line = false)
    (base : Expr) (attr : String) :
    u.visit loops (.attr line base attr) = u.checkAttr loops line base attr ++ u.visit loops
      base := by
  rw [visit, hreg, hline]
  rfl

theorem lookupName_of_no_imports (h : u.registry.imported = []) (t : TypeExpr) :
    u.lookupName t = t.baseName := by
  rw [lookupName, h]
  cases t.module.filter (!·.isEmpty) <;> rfl

theorem typeOf?_attr_of_unknown (ht : u.typeOf? loops base = none) (line : Nat) (attr : String) :
    u.typeOf? loops (.attr line base attr) = none := by
  rw [typeOf?, ht]
  rfl

theorem typeOf?_attr_of_not_field (hx : u.index = some x) (ht : u.typeOf? loops base = some t)
    (hdot : isDotted t.baseName = false) {attr : String} (h : ¬ x.HasField t attr) (line : Nat) :
    u.typeOf? loops (.attr line base attr) = none := by
  have hnone : x.attributeType? t.baseName attr = none := by
    rw [attributeType?, hdot]
    cases he : x.entries.find? t.baseName with
    | none => rfl
    | some e =>
      cases hf : e.fields.find? attr with
      | none => exact hf
      | some text => exact absurd ⟨e, he, by rw [Table.has, hf]; rfl⟩ h
  have hunknown : u.attributeTypeOf? t attr = none := by
    rw [attributeTypeOf?, hx, Option.bind_eq_bind, Option.bind_some, hnone]
    split <;> rfl
  rw [typeOf?, ht, Option.bind_eq_bind, Option.bind_some, hunknown]
  rfl

end Access

/-- The access at a place of a chain is the first one to something that is no field of the type
reached before it. -/
structure FirstStray (u : Usage) (x : ClassIndex) (loops : LoopVariables) (e : Expr)
    (as : List (Nat × String)) (k : Nat) (t : TypeExpr) (a : Nat × String) : Prop where
  access : as[k]? = some a
  reached : u.typeOf? loops (e.chain (as.take k)) = some t
  stray : ¬ x.HasField t a.2
  fields : ∀ j < k, ∃ b s, as[j]? = some b ∧ u.typeOf? loops (e.chain (as.take j)) = some s ∧
    x.HasField s b.2

section Chain

variable {u : Usage} {x : ClassIndex} {loops : LoopVariables} {e : Expr} {t s : TypeExpr}
  {a b : Nat × String} {as : List (Nat × String)} {k : Nat}

theorem FirstStray.zero (ht : u.typeOf? loops e = some t) (h : ¬ x.HasField t a.2) :
    u.FirstStray x loops e (a :: as) 0 t a where
  access := rfl
  reached := ht
  stray := h
  fields j hj := absurd hj (Nat.not_lt_zero j)

theorem FirstStray.succ (ht : u.typeOf? loops e = some t) (hfield : x.HasField t a.2)
    (h : u.FirstStray x loops (.attr a.1 e a.2) as k s b) :
    u.FirstStray x loops e (a :: as) (k + 1) s b where
  access := h.access
  reached := h.reached
  stray := h.stray
  fields j hj := by
    cases j with
    | zero => exact ⟨a, t, rfl, ht, hfield⟩
    | succ j => exact h.fields j (Nat.lt_of_succ_lt_succ hj)

theorem FirstStray.cons_cases (h : u.FirstStray x loops e (a :: as) k s b)
    (ht : u.typeOf? loops e = some t) :
    (s = t ∧ b = a ∧ ¬ x.HasField t a.2) ∨
      (x.HasField t a.2 ∧ ∃ j, u.FirstStray x loops (.attr a.1 e a.2) as j s b) := by
  cases k with
  | zero =>
    obtain rfl : a = b := Option.some.inj h.access
    obtain rfl : t = s := Option.some.inj (ht.symm.trans h.reached)
    exact .inl ⟨rfl, rfl, h.stray⟩
  | succ k =>
    obtain ⟨c, r, hc, hr, hfield⟩ := h.fields 0 (Nat.zero_lt_succ k)
    obtain rfl : a = c := Option.some.inj hc
    obtain rfl : t = r := Option.some.inj (ht.symm.trans hr)
    exact .inr ⟨hfield, k, h.access, h.reached, h.stray,
      fun j hj => h.fields (j + 1) (Nat.succ_lt_succ hj)⟩

theorem typeOf?_chain_of_unknown (he : u.typeOf? loops e = none) (as : List (Nat × String)) :
    u.typeOf? loops (e.chain as) = none := by
  induction as generalizing e with
  | nil => exact he
  | cons a as ih => exact ih (typeOf?_attr_of_unknown he a.1 a.2)

theorem FirstStray.ne_none (h : u.FirstStray x loops e as k s b) : u.typeOf? loops e ≠ none := by
  intro he
  have hreached := h.reached
  rw [typeOf?_chain_of_unknown he] at hreached
  cases hreached

theorem visit_chain_of_unknown (hreg : u.byRegistry = false) (he : u.typeOf? loops e = none)
    (hlines : ∀ a ∈ as, u.isIgnored a.1 = false) :
    u.visit loops (e.chain as) = u.visit loops e := by
  induction as generalizing e with
  | nil => rfl
  | cons a as ih =>
    rw [Expr.chain_cons, ih (typeOf?_attr_of_unknown he a.1 a.2) fun b hb =>
      hlines b (List.mem_cons_of_mem a hb),
      visit_attr hreg (hlines a List.mem_cons_self), checkAttr_of_unknown he, List.nil_append]

theorem visit_chain_cases (hx : u.index = some x) (hreg : u.byRegistry = false)
    (himports : u.registry.imported = [])
    (ht : u.typeOf? loops e = some t) (hlines : ∀ a ∈ as, u.isIgnored a.1 = false)
    (hdots : ∀ k < as.length, ∀ s, u.typeOf? loops (e.chain (as.take k)) = some s →
      isDotted s.baseName = false) :
    (∃ k s a, u.FirstStray x loops e as k s a ∧ x.Refuses s.baseName a.2 ∧
        u.visit loops (e.chain as) = u.missing a.1 s.baseName a.2 :: u.visit loops e) ∨
      (∀ k s a, u.FirstStray x loops e as k s a → ¬ x.Refuses s.baseName a.2) ∧
        u.visit loops (e.chain as) = u.visit loops e := by
  induction as generalizing e t with
  | nil => exact .inr ⟨fun k s a h => absurd h.access (by simp), rfl⟩
  | cons a as ih =>
    have hdot : isDotted t.baseName = false := hdots 0 (Nat.zero_lt_succ _) t ht
    have hrest : ∀ b ∈ as, u.isIgnored b.1 = false :=
      fun b hb => hlines b (List.mem_cons_of_mem a hb)
    have hvisit :
        u.visit loops (.attr a.1 e a.2) = u.checkAttr loops a.1 e a.2 ++ u.visit loops e :=
      visit_attr hreg (hlines a List.mem_cons_self) e a.2
    have hcheck := checkAttr_cases hx ht a.1 a.2
    rw [lookupName_of_no_imports himports] at hcheck
    by_cases hfield : x.HasField t a.2
    · have hsilent : u.checkAttr loops a.1 e a.2 = [] :=
        (hcheck.resolve_left fun h => hfield.not_refuses hdot h.1).2
      rw [hsilent, List.nil_append] at hvisit
      cases hnext : u.typeOf? loops (.attr a.1 e a.2) with
      | none =>
        refine .inr ⟨fun k s b h => ?_, by
          rw [Expr.chain_cons, visit_chain_of_unknown hreg hnext hrest, hvisit]⟩
        rcases h.cons_cases ht with ⟨-, -, hstray⟩ | ⟨-, j, hlater⟩
        · exact absurd hfield hstray
        · exact absurd hnext hlater.ne_none
      | some t' =>
        rcases ih hnext hrest (fun k hk => hdots (k + 1) (Nat.succ_lt_succ hk))
          with ⟨k, s, b, h, hrefused, hv⟩ | ⟨h, hv⟩
        · exact .inl ⟨k + 1, s, b, h.succ ht hfield, hrefused, by rw [Expr.chain_cons, hv, hvisit]⟩
        · refine .inr ⟨fun k s b hfirst => ?_, by rw [Expr.chain_cons, hv, hvisit]⟩
          rcases hfirst.cons_cases ht with ⟨-, -, hstray⟩ | ⟨-, j, hlater⟩
          · exact absurd hfield hstray
          · exact h j s b hlater
    · -- the access has no type, so nothing behind it is reported
      have hnext := typeOf?_attr_of_not_field hx ht hdot hfield a.1
      have hchain : u.visit loops (e.chain (a :: as)) = u.checkAttr loops a.1 e a.2 ++ u.visit loops
        e := by
        rw [Expr.chain_cons, visit_chain_of_unknown hreg hnext hrest, hvisit]
      rcases hcheck with ⟨hrefused, hfound⟩ | ⟨hgranted, hfound⟩
      · exact .inl ⟨0, t, a, .zero ht hfield, hrefused, by rw [hchain, hfound]; rfl⟩
      · refine .inr ⟨fun k s b h => ?_, by rw [hchain, hfound, List.nil_append]⟩
        rcases h.cons_cases ht with ⟨rfl, rfl, -⟩ | ⟨hmember, -⟩
        · exact hgranted
        · exact absurd hmember hfield

theorem FirstStray.unique {j : Nat} (h : u.FirstStray x loops e as k s b)
    (h' : u.FirstStray x loops e as j t a) :
    j = k ∧ t = s ∧ a = b := by
  have hle {i j : Nat} {s t : TypeExpr} {a b : Nat × String} (h : u.FirstStray x loops e as i s b)
      (h' : u.FirstStray x loops e as j t a) : j ≤ i := by
    by_contra hlt
    obtain ⟨c, r, hc, hr, hfield⟩ := h'.fields i (Nat.lt_of_not_le hlt)
    obtain rfl : c = b := Option.some.inj (hc.symm.trans h.access)
    obtain rfl : r = s := Option.some.inj (hr.symm.trans h.reached)
    exact h.stray hfield
  obtain rfl : j = k := Nat.le_antisymm (hle h h') (hle h' h)
  exact ⟨rfl, Option.some.inj (h'.reached.symm.trans h.reached),
    Option.some.inj (h'.access.symm.trans h.access)⟩

/-- In a chain of accesses to attributes of a declared variable, where nothing is imported and no
name reached has a dot, at most one missing attribute is reported: that of the first access to
something that is no field of the type reached before it, if the index refuses it. -/
theorem visit_chain_first {v : String} {l : Nat} (hx : u.index = some x)
    (hreg : u.byRegistry = false)
    (himports : u.registry.imported = []) (hv : u.varTypes.has v = true)
    (hlines : ∀ a ∈ as, u.isIgnored a.1 = false)
    (hdots : ∀ k < as.length, ∀ s, u.typeOf? loops ((Expr.name l v).chain (as.take k)) = some s →
      isDotted s.baseName = false) :
    (u.visit loops ((Expr.name l v).chain as)).length ≤ 1 ∧
      ∀ i, i ∈ u.visit loops ((Expr.name l v).chain as) ↔
        ∃ k s a, u.FirstStray x loops (.name l v) as k s a ∧ x.Refuses s.baseName a.2 ∧
          i = u.missing a.1 s.baseName a.2 := by
  have hname : u.visit loops (.name l v) = [] := by
    rw [visit, checkName, hv, Bool.or_true, if_pos rfl]
  obtain ⟨t, hfind⟩ := Option.isSome_iff_exists.1 hv
  have ht : u.typeOf? loops (.name l v) = some t := by
    rw [typeOf?, hfind, Option.some_or]
  rcases visit_chain_cases hx hreg himports ht hlines hdots
    with ⟨k, s, a, h, hrefused, hvisit⟩ | ⟨h, hvisit⟩
  · rw [hvisit, hname]
    refine ⟨Nat.le_refl 1, fun i => ⟨fun hi => ⟨k, s, a, h, hrefused, List.mem_singleton.1 hi⟩, ?_⟩⟩
    rintro ⟨j, r, b, h', -, rfl⟩
    obtain ⟨-, rfl, rfl⟩ := h.unique h'
    exact List.mem_singleton.2 rfl
  · rw [hvisit, hname]
    refine ⟨Nat.zero_le 1, fun i => ⟨fun hi => absurd hi List.not_mem_nil, ?_⟩⟩
    rintro ⟨k, s, a, h', hrefused, -⟩
    exact absurd hrefused (h k s a h')

def people : ClassIndex :=
  ⟨[("User", ⟨"User", "people", .relative ["people.py"], [("profile", "Optional[Profile]")], [],
    []⟩),
    ("Profile", ⟨"Profile", "people", .relative ["people.py"], [("address", "Address")], [], []⟩),
    ("Address", ⟨"Address", "people", .relative ["people.py"], [("city", "str")], [], []⟩)], []⟩

def withUser : Usage where
  filename := "t.html"
  lines := []
  varTypes := [("user", .union "User | None" .pipe [.named "User" "User" none, .noneType])]
  filters := []
  macros := []
  ignored := []
  registry := .empty
  index := some people
  byRegistry := false

def zipcodePath : List (Nat × String) :=
  [(3, "profile"), (3, "address"), (3, "zipcode"), (3, "length")]

theorem visit_chain_first_zipcode :
    (withUser.visit [] ((Expr.name 3 "user").chain zipcodePath)).map Issue.message =
        ["Type 'Address' has no attribute 'zipcode'"] ∧
      ∃ k s a, withUser.FirstStray people [] (.name 3 "user") zipcodePath k s a ∧
        attributeMessage s.baseName a.2 = "Type 'Address' has no attribute 'zipcode'" := by
  have hnames : ∀ k < zipcodePath.length,
      (withUser.typeOf? [] ((Expr.name 3 "user").chain (zipcodePath.take k))).all
        (fun s => !isDotted s.baseName) = true := by decide +kernel
  have hdots : ∀ k < zipcodePath.length, ∀ s,
      withUser.typeOf? [] ((Expr.name 3 "user").chain (zipcodePath.take k)) = some s →
        isDotted s.baseName = false := by
    intro k hk s hs
    have hname := hnames k hk
    rw [hs] at hname
    simpa using hname
  have hvisit : (withUser.visit [] ((Expr.name 3 "user").chain zipcodePath)).map Issue.message =
      ["Type 'Address' has no attribute 'zipcode'"] := by decide +kernel
  obtain ⟨-, hiff⟩ :=
    visit_chain_first (u := withUser) (x := people) (v := "user") (l := 3) rfl rfl rfl rfl
      (by decide) hdots
  refine ⟨hvisit, ?_⟩
  have hmem : "Type 'Address' has no attribute 'zipcode'" ∈
      (withUser.visit [] ((Expr.name 3 "user").chain zipcodePath)).map Issue.message := by
    rw [hvisit]
    exact List.mem_singleton.2 rfl
  obtain ⟨i, hi, hmessage⟩ := List.mem_map.1 hmem
  obtain ⟨k, s, a, hfirst, -, rfl⟩ := (hiff i).1 hi
  exact ⟨k, s, a, hfirst, hmessage⟩

end Chain

end Usage

end TypedTemplate
