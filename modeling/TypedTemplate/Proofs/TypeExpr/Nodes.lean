import TypedTemplate.Proofs.TypeExpr.RoundTrip
import TypedTemplate.Proofs.TypeExpr.Weight

/-! The nodes of a type that is read. Each node is itself read from some text, and one that stands
inside another from a text without bars. So a fact about the root of every type that is read is one
about all nodes, and bars make a union at the root only. -/
namespace TypedTemplate.TypeExpr
open Text

/-- The types directly inside a type. -/
def children : TypeExpr → List TypeExpr
  | named _ _ _ => []
  | generic _ _ _ args => args
  | union _ _ ms => ms

theorem nodes_eq_cons (t : TypeExpr) : t.nodes = t :: nodesAll t.children := by
  cases t <;> simp [nodes, children, nodesAll]

theorem mem_nodesAll {v : TypeExpr} {ts : List TypeExpr} :
    v ∈ nodesAll ts ↔ ∃ t ∈ ts, v ∈ t.nodes := by
  induction ts with
  | nil => simp [nodesAll]
  | cons t ts ih => simp [nodesAll, ih]

section Inside

def ReadBarless (t : TypeExpr) : Prop := ∃ s, ¬ bar <:+: s ∧ Reads s t

theorem readBarless_noneType : ReadBarless noneType :=
  ⟨"None".toList, by decide, .name (by decide) (by decide)⟩

def BarlessThroughout (t : TypeExpr) : Prop :=
  ReadBarless t ∧ ∀ v ∈ nodesAll t.children, ReadBarless v

theorem readBarless_of_mem {ts : List TypeExpr} (h : ∀ t ∈ ts, BarlessThroughout t) :
    ∀ v ∈ nodesAll ts, ReadBarless v := by
  intro v hv
  obtain ⟨t, ht, hv⟩ := mem_nodesAll.1 hv
  rw [nodes_eq_cons] at hv
  rcases List.mem_cons.1 hv with rfl | hv
  · exact (h v ht).1
  · exact (h t ht).2 v hv

variable {s : List Char} {t : TypeExpr}

/-- What stands inside a type that is read is read from a text without bars: the pieces between bars
have none, and neither have the parts of a text without bars. -/
theorem Reads.inside (h : Reads s t) : ∀ v ∈ nodesAll t.children, ReadBarless v := by
  induction h with
  | name => simp [ofName, children, nodesAll]
  | @bars s as hbar hp ha ih =>
    refine readBarless_of_mem
      (List.forall_mem_map.2 fun a hm => ⟨⟨_, fun hin => ?_, ha a hm⟩, ih a hm⟩)
    have hpiece : a.text ∈ pieces bar s := hp ▸ List.mem_map_of_mem hm
    exact not_infix_of_mem_pieces (by decide) hpiece (hin.trans (trim_isInfix _))
  | union hbar hp ha ih =>
    exact readBarless_of_mem
      (List.forall_mem_map.2 fun a hm => ⟨⟨_, bar_absent_of_mem hbar hp hm, ha a hm⟩, ih a hm⟩)
  | @optional inner t hbar ht ih =>
    have hnone : BarlessThroughout noneType :=
      ⟨readBarless_noneType, by simp [noneType, children, nodesAll]⟩
    have hinner : ¬ bar <:+: trim inner :=
      fun hin => hbar ((hin.trans (trim_isInfix _)).trans (infix_bracketed _ _))
    exact readBarless_of_mem
      (List.forall_mem_cons.2 ⟨⟨⟨_, hinner, ht⟩, ih⟩, List.forall_mem_singleton.2 hnone⟩)
  | generic hb hbar hc hp ha ih =>
    exact readBarless_of_mem
      (List.forall_mem_map.2 fun a hm => ⟨⟨_, bar_absent_of_mem hbar hp hm, ha a hm⟩, ih a hm⟩)
  | @callable base inner ps r hb hbar hc hp ha hr ihp ihr =>
    have hinner {p : List Char} (h : p <:+: trim inner) : ¬ bar <:+: trim p := fun hin =>
      hbar ((((hin.trans (trim_isInfix _)).trans h).trans (trim_isInfix _)).trans
        (infix_bracketed _ _))
    obtain ⟨hparams, hresult⟩ := infix_of_callableParts hp
    refine readBarless_of_mem (List.forall_mem_append.2 ⟨List.forall_mem_map.2 fun a hm => ?_, ?_⟩)
    · exact ⟨⟨_, hinner (hparams _ (List.mem_map_of_mem hm)), ha a hm⟩, ihp a hm⟩
    · simpa using ⟨⟨_, hinner hresult, hr⟩, ihr⟩

theorem Reads.of_mem_nodes (h : Reads s t) {v : TypeExpr} (hv : v ∈ t.nodes) :
    ∃ s', Reads s' v := by
  rw [nodes_eq_cons] at hv
  cases hv with
  | head => exact ⟨s, h⟩
  | tail _ hv =>
    obtain ⟨s', -, hs'⟩ := h.inside v hv
    exact ⟨s', hs'⟩

end Inside

section Shape

def IsBars (t : TypeExpr) : Prop := t.isUnion = true ∧ t.module = none

/-- How the fields of a node depend on each other. -/
structure WellShaped (t : TypeExpr) : Prop where
  isUnion_iff : t.isUnion = true ↔ ∃ ms, t.members? = some ms
  args_eq_none : t.isUnion = true → t.args? = none
  union_name : t.isUnion = true → t.name = "Union" ∨ t.name = "Optional"
  two_le_of_bars : t.IsBars → 2 ≤ t.members.length
  optional_members : t.isUnion = true → t.name = "Optional" → ∃ w, t.members = [w, noneType]
  undotted : '.' ∉ t.name.toList

theorem dot_not_mem_splitName (s : List Char) : '.' ∉ (splitName s).2.toList := by
  rw [splitName]
  split
  · next m n h => simpa using not_mem_of_cutLast? h
  · next h => simpa using not_mem_of_cutLast?_none h

variable {s : List Char} {t : TypeExpr}

theorem wellShaped_of_members?_eq_none (h : t.members? = none) (hdot : '.' ∉ t.name.toList) :
    WellShaped t := by
  have hno : ¬ t.isUnion = true := by simp [isUnion, h]
  exact ⟨by simp [hno, h], fun hu => absurd hu hno, fun hu => absurd hu hno,
    fun hb => absurd hb.1 hno, fun hu => absurd hu hno, hdot⟩

theorem wellShaped_union {raw : String} {style : UnionStyle} {ms : List TypeExpr}
    (hbars : style = .pipe → 2 ≤ ms.length) (hoptional : style = .optional →
      ∃ w, ms = [w, noneType]) :
    WellShaped (.union raw style ms) where
  isUnion_iff := ⟨fun _ => ⟨ms, rfl⟩, fun _ => rfl⟩
  args_eq_none _ := rfl
  union_name _ := by cases style <;> simp [name, UnionStyle.name]
  two_le_of_bars hb := hbars (by
    obtain ⟨-, hm⟩ := hb
    cases style <;> simp_all [module, UnionStyle.module])
  optional_members _ hn := hoptional (by cases style <;> simp_all [name, UnionStyle.name])
  undotted := (by cases style <;> decide : '.' ∉ style.name.toList)

theorem Reads.wellShaped (h : Reads s t) : WellShaped t := by
  cases h with
  | name => exact wellShaped_of_members?_eq_none rfl (dot_not_mem_splitName s)
  | @bars s as hbar hp ha =>
    refine wellShaped_union (fun _ => ?_) (by simp)
    rw [List.length_map, ← as.length_map (f := Arg.text), hp]
    exact two_le_length_pieces (by decide) hbar
  | union => exact wellShaped_union (by simp) (by simp)
  | optional => exact wellShaped_union (by simp) fun _ => ⟨_, rfl⟩
  | @generic base => exact wellShaped_of_members?_eq_none rfl (dot_not_mem_splitName (trim base))
  | @callable base => exact wellShaped_of_members?_eq_none rfl (dot_not_mem_splitName (trim base))

theorem Reads.not_isBars (h : Reads s t) (hbar : ¬ bar <:+: s) : ¬ t.IsBars := by
  cases h with
  | bars h => exact absurd h hbar
  | _ => simp [IsBars, isUnion, members?, module, UnionStyle.module, ofName, ofGeneric]

theorem Reads.raw_eq (h : Reads s t) : t.raw = String.ofList s := by
  cases h <;> rfl

/-- A text is refused at the place that it was asked for, or it is read, with the trimmed text at
the root, every node in shape, and bars nowhere below the root. -/
theorem parseAt_wellShaped (p : Position) (text : String) :
    (∃ cause, parseAt p text = .error ⟨p, cause⟩) ∨
      ∃ t, parseAt p text = .ok t ∧ t.raw = String.ofList (trim text.toList) ∧
        (∀ v ∈ t.nodes, v.WellShaped) ∧ ∀ v ∈ nodesAll t.children, ¬ v.IsBars := by
  cases h : parse text with
  | error cause => exact .inl ⟨cause, by rw [parseAt, h]; rfl⟩
  | ok t =>
    have hreads := reads_of_parseChars h
    refine .inr ⟨t, by rw [parseAt, h]; rfl, hreads.raw_eq, fun v hv => ?_, fun v hv => ?_⟩
    · obtain ⟨s, hs⟩ := hreads.of_mem_nodes hv
      exact hs.wellShaped
    · obtain ⟨s, hbar, hs⟩ := hreads.inside v hv
      exact hs.not_isBars hbar

end Shape

end TypedTemplate.TypeExpr
