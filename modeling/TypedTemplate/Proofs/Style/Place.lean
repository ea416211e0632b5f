import TypedTemplate.Proofs.Style.Kept

/-! What stands in the place of a type after a union in it is spelled with bars. The place closes
all brackets that it opens, as before. A comma comes to stand outside brackets only where an
optional had more than one part, and then bars follow it. -/
namespace TypedTemplate.Style
open Text TypeExpr

/-- A comma outside brackets with a bar behind it. -/
def Torn (k : Int) (s : List Char) : Prop := ∃ x v, s = x ++ ',' :: v ∧ depthOf k x = 0 ∧ '|' ∈ v

theorem Torn.append {j k : Int} {a s : List Char} (h : Torn k s) (hd : depthOf j a = k)
    (b : List Char) :
    Torn j (a ++ (s ++ b)) := by
  obtain ⟨x, v, rfl, hx, hv⟩ := h
  exact ⟨a ++ x, v ++ b, by simp, by rw [depthOf_append, hd, hx], List.mem_append_left _ hv⟩

theorem sealed_of_nonneg {d : Char} {k : Int} {s : List Char} (h : Sealed d 0 s)
    (hn : ∀ u, u <+: s → 0 ≤ depthOf 0 u) (hk : 0 ≤ k) : Sealed d k s := by
  by_cases h0 : k = 0
  · rwa [h0]
  · refine sealed_of_pos fun u hu => ?_
    have hadd := depthOf_add k 0 u
    have := hn u hu
    rw [Int.add_zero] at hadd
    omega

theorem sealed_intercalate_bar {ps : List (List Char)}
    (h : ∀ p ∈ ps, Sealed ',' 0 p ∧ ∀ u, u <+: p → 0 ≤ depthOf 0 u) {k : Int} (hk : 0 ≤ k) :
    Sealed ',' k (bar.intercalate ps) := by
  induction ps generalizing k with
  | nil => trivial
  | cons p ps ih =>
    obtain ⟨hs, hn⟩ := h p (by simp)
    cases ps with
    | nil => simpa using sealed_of_nonneg hs hn hk
    | cons q ps =>
      have hdepth : 0 ≤ depthOf k p := by
        have hadd := depthOf_add k 0 p
        have := hn p List.prefix_rfl
        rw [Int.add_zero] at hadd
        omega
      rw [List.intercalate_cons_of_ne_nil (by simp), List.append_assoc, sealed_append,
        sealed_append, depthOf_plain (s := bar) (by decide)]
      exact ⟨sealed_of_nonneg hs hn hk, sealed_of_not_mem (by decide) _,
        ih (fun r hr => h r (by simp [hr])) hdepth⟩

section Replace

variable {head old inner : List Char}

theorem square_withBars (hh : head ∈ heads) (hc : Closes head old inner) (hs : Square inner) :
    Square (withBars old) := by
  intro c hm
  rcases mem_withBars hh hc hm with hm | hm
  · exact hs c hm
  · have : ∀ c ∈ " | None".toList, isOpen c = false ∧ isClose c = false := by decide
    simp [this c hm]

theorem depthOf_withBars (hh : head ∈ heads) (hc : Closes head old inner) (hs : Square old)
    (k : Int) :
    depthOf k (withBars old) = depthOf k old := by
  have hin : Square inner := fun c hm => hs c (by rw [hc.eq]; simp [hm])
  have hcl : old.count ']' = 1 := by
    have hhead : ∀ d ∈ heads, d.count ']' = 0 := by decide
    rw [hc.eq, List.count_append, List.count_append, hhead head hh,
      List.count_eq_zero.2 hc.inner_open]
    rfl
  rw [hs.depthOf_eq, (square_withBars hh hc hin).depthOf_eq, count_open_withBars hh hc,
    hc.count_open hh, hcl, List.count_eq_zero.2 (bracket_not_mem_withBars hh hc)]
  omega

theorem sealed_withBars_optional (hc : Closes optionalHead old inner) {k : Int}
    (hs : Sealed ',' k inner) :
    Sealed ',' k (withBars old) := by
  rw [withBars_optional hc]
  exact sealed_append.2 ⟨hs, sealed_of_not_mem (by decide) _⟩

theorem sealed_withBars_union (hc : Closes unionHead old inner) (hs : Square inner) {k : Int}
    (hk : 0 ≤ k) :
    Sealed ',' k (withBars old) := by
  rw [withBars_union hc, bar_eq]
  refine sealed_intercalate_bar (fun p hp => ?_) hk
  have hpin := infix_of_mem_splitTrimmed hp
  rw [splitTrimmed_eq] at hp
  obtain ⟨q, hq, rfl⟩ := List.mem_map.1 hp
  refine ⟨?_, fun u hu => ?_⟩
  · obtain ⟨a, b, hab, ha, hb⟩ := exists_eq_trim q
    have hsealed := sealed_of_mem_splitTop hq
    rw [hab, sealed_append, sealed_append,
      depthOf_plain fun c hm => (isBracket_of_isBlank (ha c hm)).imp_right And.left] at hsealed
    exact hsealed.2.1
  · have hsub : ∀ c ∈ u, c ∈ inner := fun c hm => hpin.subset (hu.subset hm)
    have hsq : Square u := fun c hm => hs c (hsub c hm)
    have hclose : ']' ∉ u := fun hm => hc.inner_open (hsub _ hm)
    rw [hsq.depthOf_eq, List.count_eq_zero.2 hclose]
    omega

theorem sealed_or_torn_withBars (hh : head ∈ heads) (hc : Closes head old inner) (hs : Square inner)
    {k : Int} (hk : 0 ≤ k) : Sealed ',' k (withBars old) ∨ Torn k (withBars old) := by
  simp only [heads, List.mem_cons, List.not_mem_nil, or_false] at hh
  rcases hh with rfl | rfl
  · by_cases hin : Sealed ',' k inner
    · exact .inl (sealed_withBars_optional hc hin)
    · obtain ⟨x, v, rfl, hx, -⟩ := exists_of_not_sealed hin
      rw [withBars_optional hc]
      exact .inr ⟨x, v ++ " | None".toList, by simp, hx, by simp⟩
  · exact .inl (sealed_withBars_union hc hs hk)

theorem sealed_or_torn_replace (hh : head ∈ heads) (hc : Closes head old inner) {s : List Char}
    {k : Int} (hsq : Square s) (hs : Sealed ',' k s) (hn : ∀ u, u <+: s → 0 ≤ depthOf k u) :
    Sealed ',' k (replace old (withBars old) s) ∨ Torn k (replace old (withBars old) s) := by
  have hne : old ≠ [] := by simp [hc.eq]
  induction hlen : s.length using Nat.strongRecOn generalizing s k with
  | _ n ih =>
    cases hcut : cut? old s with
    | none => rw [replace_of_absent (cut?_eq_none_iff.1 hcut)]; exact .inl hs
    | some p =>
      obtain ⟨a, b⟩ := p
      have hsplit := cut?_eq_append hcut
      rw [replace_of_cut? hne hcut]
      have hlt := length_lt_of_cut? hne hcut
      rw [hsplit] at hsq hs hn
      rw [sealed_append, sealed_append] at hs
      have hold : Square old := fun c hm => hsq c (by simp [hm])
      have hin : Square inner := fun c hm => hold c (by rw [hc.eq]; simp [hm])
      have hdepth : depthOf (depthOf k a) (withBars old) = depthOf (depthOf k a) old :=
        depthOf_withBars hh hc hold _
      have hrest : ∀ u, u <+: b → 0 ≤ depthOf (depthOf (depthOf k a) old) u := fun u hu => by
        have :=
          hn (a ++ (old ++ u))
            ((List.prefix_append_right_inj a).2 ((List.prefix_append_right_inj old).2 hu))
        rwa [depthOf_append, depthOf_append] at this
      rcases sealed_or_torn_withBars hh hc hin (hn a (List.prefix_append a _)) with hnew | hnew
      · rcases ih b.length (hlen ▸ hlt) (fun c hm => hsq c (by simp [hm])) hs.2.2 hrest rfl
          with hb | hb
        · refine .inl (sealed_append.2 ⟨hs.1, sealed_append.2 ⟨hnew, ?_⟩⟩)
          rwa [hdepth]
        · refine .inr ?_
          have := hb.append (a := a ++ withBars old) (by rw [depthOf_append, hdepth]) []
          simpa using this
      · exact .inr (hnew.append rfl _)

theorem depthOf_replace (hh : head ∈ heads) (hc : Closes head old inner) {s : List Char}
    (hsq : Square s) (k : Int) :
    depthOf k (replace old (withBars old) s) = depthOf k s := by
  have hne : old ≠ [] := by simp [hc.eq]
  induction hlen : s.length using Nat.strongRecOn generalizing s k with
  | _ n ih =>
    cases hcut : cut? old s with
    | none => rw [replace_of_absent (cut?_eq_none_iff.1 hcut)]
    | some p =>
      obtain ⟨a, b⟩ := p
      have hsplit := cut?_eq_append hcut
      have hlt := length_lt_of_cut? hne hcut
      rw [replace_of_cut? hne hcut]
      rw [hsplit] at hsq ⊢
      rw [depthOf_append, depthOf_append, depthOf_append, depthOf_append,
        depthOf_withBars hh hc fun c hm => hsq c (by simp [hm]),
        ih b.length (hlen ▸ hlt) (fun c hm => hsq c (by simp [hm])) _ rfl]

end Replace

/-- What the place of a type may hold. -/
structure Placed (x : List Char) : Prop where
  chars : ∀ c ∈ x, isTypeChar c = true ∨ c = '|'
  closed : depthOf 0 x = 0
  sealed_or_torn : Sealed ',' 0 x ∨ Torn 0 x

theorem Placed.not_mem {x : List Char} {c : Char} (h : Placed x) (hc : isTypeChar c = false)
    (hb : c ≠ '|') : c ∉ x := by
  intro hm
  rcases h.chars c hm with hm | hm
  · simp [hc] at hm
  · exact hb hm

section Spelling

variable {t : TypeExpr} {s : List Char}

theorem chars_spelling (h : Spelling t s) : ∀ c ∈ s, isTypeChar c = true ∨ c = '|' := by
  cases h with
  | single h => exact fun c hm => .inl (h.isTypeChar c hm)
  | bars hlen ht ha =>
    intro c hm
    rcases mem_intercalate hm with hm | ⟨p, hp, hm⟩
    · have : ∀ c ∈ bar, isTypeChar c = true ∨ c = '|' := by decide
      exact this c hm
    · obtain ⟨a, hma, rfl⟩ := List.mem_map.1 hp
      exact .inl (isTypeChar_of_trim (ha a hma).isTypeChar c hm)

theorem square_of_chars {x : List Char} (h : ∀ c ∈ x, isTypeChar c = true ∨ c = '|') :
    Square x := by
  intro c hm
  rcases h c hm with hc | rfl
  · exact square_of_isTypeChar (s := [c]) (by simpa using hc) c (by simp)
  · decide

theorem nested_spelling (h : Spelling t s) : Nested s := by
  cases h with
  | single h => exact h.nested
  | bars hlen ht ha =>
    refine nested_intercalate (nested_plain (by decide)) fun p hp => ?_
    obtain ⟨a, hm, rfl⟩ := List.mem_map.1 hp
    exact nested_of_trim (ha a hm).nested

theorem sealed_spelling (h : Spelling t s) : Sealed ',' 0 s := by
  cases h with
  | single h => exact h.isSealed
  | bars hlen ht ha =>
    refine sealed_intercalate_bar (fun p hp => ?_) (Int.le_refl 0)
    obtain ⟨a, hm, rfl⟩ := List.mem_map.1 hp
    exact ⟨(part_of_trim (ha a hm).part).isSealed, (nested_of_trim (ha a hm).nested).nonneg⟩

theorem placed_spelling (h : Spelling t s) : Placed s :=
  ⟨chars_spelling h, (nested_spelling h).closed, .inl (sealed_spelling h)⟩

theorem placed_replace (h : Spelling t s) {head old inner : List Char} (hh : head ∈ heads)
    (hc : Closes head old inner) (ho : old <:+: s) : Placed (replace old (withBars old) s) := by
  have hsq := square_of_chars (chars_spelling h)
  refine ⟨fun c hm => ?_, ?_,
    sealed_or_torn_replace hh hc hsq (sealed_spelling h) (nested_spelling h).nonneg⟩
  · rcases mem_replace hm with hm | hm
    · rcases mem_withBars hh hc hm with hm | hm
      · exact chars_spelling h c (ho.subset (by rw [hc.eq]; simp [hm]))
      · have : ∀ c ∈ " | None".toList, isTypeChar c = true ∨ c = '|' := by decide
        exact this c hm
    · exact chars_spelling h c hm
  · rw [depthOf_replace hh hc hsq, (nested_spelling h).closed]

theorem part_of_optional {inner : List Char} (h : Spelled t (bracketed optionalName inner)) :
    Part inner := by
  have hbase {base x : List Char} (hb : Plain base)
      (hx : bracketed optionalName inner = bracketed base x) :
      optionalName = base ∧ inner = x := by
    obtain ⟨hbase, hin⟩ := append_cons_inj (by decide) (fun hm => absurd (hb '[' hm) (by decide)) hx
    exact ⟨hbase, List.append_cancel_right hin⟩
  generalize hx : bracketed optionalName inner = x at h
  cases h with
  | name hp ht hne =>
    have hm : '[' ∈ x := by simp [← hx, bracketed]
    exact absurd (hp '[' hm) (by decide)
  | generic hb hu ho => exact absurd (hbase hb.plain hx).1.symm ho
  | callable hb hc =>
    obtain ⟨rfl, -⟩ := hbase hb.plain hx
    exact absurd hc (by decide)
  | union => exact absurd (hbase (by decide) hx).1 (by decide)
  | optional ha =>
    obtain ⟨-, rfl⟩ := hbase (by decide) hx
    exact part_of_trim ha.part

theorem Kept.isSealed {head old inner : List Char} (hk : Kept old s) (h : Spelling t s)
    (hh : head ∈ heads)
    (hc : Closes head old inner) : Sealed ',' 0 (replace old (withBars old) s) := by
  have hs := hk.spelled h hh hc
  obtain ⟨rest, rfl, hclosing⟩ := hk.exists_rest
  rw [replace_start hh hc hclosing]
  have hrest : ',' ∉ rest := fun hm => absurd (hclosing ',' hm) (by decide)
  have hsq := square_of_isTypeChar hs.isTypeChar
  refine sealed_append.2 ⟨?_, sealed_of_not_mem hrest _⟩
  simp only [heads, List.mem_cons, List.not_mem_nil, or_false] at hh
  rcases hh with rfl | rfl
  · have hw := hk.whole (by rw [hc.eq]; exact List.prefix_append _ _)
    rw [hw, hc.eq] at hs
    exact sealed_withBars_optional hc (part_of_optional hs).isSealed
  · exact sealed_withBars_union hc (fun c hm => hsq c (by rw [hc.eq]; simp [hm])) (Int.le_refl 0)

end Spelling

end TypedTemplate.Style
