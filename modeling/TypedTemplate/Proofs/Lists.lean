import Mathlib.Data.List.Forall2
import Mathlib.Data.List.Nodup
import Mathlib.Data.List.SplitBy

/-! General facts about lists: reading all of their elements, pieces put together, and stable
sorting. -/
namespace TypedTemplate

section Reading

variable {α β γ ε : Type} {g : α → Option β} {f : β → Except ε γ} {l : List α}

theorem map_eq_of_mapM {l : List β} {cs : List γ} (h : l.mapM f = .ok cs) :
    l.map f = cs.map .ok := by
  induction l generalizing cs with
  | nil =>
    cases h
    rfl
  | cons b l ih =>
    rw [List.mapM_cons] at h
    cases hb : f b with
    | error e => simp [hb, bind, Except.bind] at h
    | ok c =>
      cases hl : l.mapM f with
      | error e => simp [hb, hl, bind, Except.bind] at h
      | ok cs' =>
        obtain rfl : c :: cs' = cs := by simpa [hb, hl, bind, Except.bind, pure, Except.pure]
          using h
        rw [List.map_cons, List.map_cons, hb, ih hl]

theorem forall₂_of_mapM_filterMap {cs : List γ} (h : (l.filterMap g).mapM f = .ok cs) :
    List.Forall₂ (fun a c => ∃ b, g a = some b ∧ f b = .ok c) (l.filter fun a => (g a).isSome)
      cs := by
  induction l generalizing cs with
  | nil =>
    cases h
    exact .nil
  | cons a l ih =>
    cases hg : g a with
    | none =>
      rw [List.filterMap_cons_none hg] at h
      rw [List.filter_cons_of_neg (by simp [hg])]
      exact ih h
    | some b =>
      rw [List.filterMap_cons_some hg, List.mapM_cons] at h
      rw [List.filter_cons_of_pos (by simp [hg])]
      cases hf : f b with
      | error e => simp [hf, bind, Except.bind] at h
      | ok c =>
        cases hrest : (l.filterMap g).mapM f with
        | error e => simp [hf, hrest, bind, Except.bind] at h
        | ok cs' =>
          obtain rfl : c :: cs' = cs := by simpa [hf, hrest, bind, Except.bind, pure, Except.pure]
            using h
          exact .cons ⟨b, hg, hf⟩ (ih hrest)

theorem exists_of_mapM_filterMap {e : ε} (h : (l.filterMap g).mapM f = .error e) :
    ∃ front a back, l = front ++ a :: back ∧ (∀ x ∈ front, ∀ b, g x = some b → ∃ c, f b = .ok c) ∧
      ∃ b, g a = some b ∧ f b = .error e := by
  induction l with
  | nil => cases h
  | cons a l ih =>
    have later (h : (l.filterMap g).mapM f = .error e) (ha : ∀ b, g a = some b → ∃ c, f b = .ok c) :
        ∃ front x back, a :: l = front ++ x :: back ∧
          (∀ x ∈ front, ∀ b, g x = some b → ∃ c, f b = .ok c) ∧
          ∃ b, g x = some b ∧ f b = .error e := by
      obtain ⟨front, x, back, rfl, hfront, hx⟩ := ih h
      exact ⟨a :: front, x, back, rfl, List.forall_mem_cons.2 ⟨ha, hfront⟩, hx⟩
    cases hg : g a with
    | none =>
      rw [List.filterMap_cons_none hg] at h
      exact later h fun b hb => nomatch hg.symm.trans hb
    | some b =>
      rw [List.filterMap_cons_some hg, List.mapM_cons] at h
      cases hf : f b with
      | error e' =>
        obtain rfl : e' = e := by simpa [hf, bind, Except.bind] using h
        exact ⟨[], a, l, rfl, by simp, b, hg, hf⟩
      | ok c =>
        refine later ?_ fun b' hb' => ⟨c, by rw [← Option.some.inj (hg.symm.trans hb'), hf]⟩
        cases hrest : (l.filterMap g).mapM f with
        | error e' =>
          obtain rfl : e' = e := by simpa [hf, hrest, bind, Except.bind] using h
          rfl
        | ok cs => simp [hf, hrest, bind, Except.bind, pure, Except.pure] at h

theorem filterM_ok {ε α : Type} {f : α → Except ε Bool} {P : α → Prop} {l : List α}
    (h : ∀ a ∈ l, ∃ b, f a = .ok b ∧ (b = true ↔ P a)) : ∃ l', l.filterM f = .ok l' ∧ ∀ a, a ∈ l' ↔
      a ∈ l ∧ P a := by
  have haux : ∀ acc, ∃ l', List.filterAuxM f l acc = .ok l' ∧ ∀ a, a ∈ l' ↔ a ∈ acc ∨ a ∈ l ∧
    P a := by
    induction l with
    | nil => exact fun acc => ⟨acc, rfl, by simp⟩
    | cons x l ih =>
      intro acc
      obtain ⟨b, hb, hiff⟩ := h x List.mem_cons_self
      obtain ⟨l', hl', hmem⟩ :=
        ih (fun a ha => h a (List.mem_cons_of_mem _ ha)) (cond b (x :: acc) acc)
      refine ⟨l', by rw [List.filterAuxM, hb]; exact hl', fun a => ?_⟩
      rw [hmem]
      cases b <;> grind
  obtain ⟨l', hl', hmem⟩ := haux []
  exact ⟨l'.reverse, by rw [List.filterM, hl']; rfl, by simpa using hmem⟩

theorem mapM_ok {ε α β : Type} {f : α → Except ε (List β)} {P : α → β → Prop} {l : List α}
    (h : ∀ a ∈ l, ∃ bs, f a = .ok bs ∧ ∀ b, b ∈ bs ↔ P a b) :
    ∃ bss, l.mapM f = .ok bss ∧ ∀ b, b ∈ bss.flatten ↔ ∃ a ∈ l, P a b := by
  induction l with
  | nil => exact ⟨[], rfl, by simp⟩
  | cons x l ih =>
    obtain ⟨bs, hbs, hmem⟩ := h x List.mem_cons_self
    obtain ⟨bss, hbss, hmem'⟩ := ih fun a ha => h a (List.mem_cons_of_mem _ ha)
    refine ⟨bs :: bss, by rw [List.mapM_cons, hbs, hbss]; rfl, fun b => ?_⟩
    rw [List.flatten_cons, List.mem_append, hmem, hmem', List.exists_mem_cons_iff]

end Reading

section Pieces

theorem flatMap_sublist_of_forall₂ {α β γ : Type} {R : α → β → Prop} {f : α → List γ}
    {g : β → List γ} {l : List α}
    {l' : List β} (h : List.Forall₂ R l l') (hfg : ∀ a b, R a b → (g b).Sublist (f a)) :
    (l'.flatMap g).Sublist (l.flatMap f) := by
  induction h with
  | nil => exact .slnil
  | cons hab _ ih =>
    rw [List.flatMap_cons, List.flatMap_cons]
    exact (hfg _ _ hab).append ih

theorem flatMap_eq_iff_of_sublist {α β : Type} {f g : α → List β} {l : List α}
    (h : ∀ a ∈ l, (f a).Sublist (g a)) :
    (l.flatMap f).Sublist (l.flatMap g) ∧ (l.flatMap f = l.flatMap g ↔ ∀ a ∈ l, f a = g a) := by
  induction l with
  | nil => simp
  | cons a l ih =>
    obtain ⟨hsub, hiff⟩ := ih fun b hb => h b (List.mem_cons_of_mem _ hb)
    have ha := h a List.mem_cons_self
    rw [List.flatMap_cons, List.flatMap_cons, List.forall_mem_cons, ← hiff]
    refine ⟨ha.append hsub, fun heq => ?_, fun heq => by rw [heq.1, heq.2]⟩
    have hlen := congrArg List.length heq
    rw [List.length_append, List.length_append] at hlen
    have hle := ha.length_le
    have hle' := hsub.length_le
    exact ⟨ha.eq_of_length (by omega), hsub.eq_of_length (by omega)⟩

end Pieces

theorem nodup_eraseDups {α : Type} [BEq α] [LawfulBEq α] (l : List α) : l.eraseDups.Nodup := by
  cases l with
  | nil => exact .nil
  | cons a l =>
    rw [List.eraseDups_cons, List.nodup_cons]
    exact ⟨by simp [List.mem_eraseDups], nodup_eraseDups _⟩
termination_by l.length
decreasing_by exact Nat.lt_succ_of_le (List.length_filter_le ..)

section Sorting

variable {α : Type} {le : α → α → Bool}

/-- Elements of which each may stand before the other. -/
def level (le : α → α → Bool) (a b : α) : Bool := le a b && le b a

theorem eq_of_filter_level (total : ∀ a b, (le a b || le b a) = true) {l r : List α}
    (hl : l.Pairwise fun a b => le a b)
    (hr : r.Pairwise fun a b => le a b) (h : ∀ a, l.filter (level le a) = r.filter (level le a)) :
        l = r := by
  have hself (a : α) : level le a a = true := by simpa [level] using total a a
  have mem_iff {l r : List α} (h : ∀ a, l.filter (level le a) = r.filter (level le a)) (a : α) :
      a ∈ l ↔ a ∈ r := by
    simpa [hself a] using congrArg (a ∈ ·) (h a)
  induction l generalizing r with
  | nil =>
    exact (List.eq_nil_iff_forall_not_mem.2 fun b hb => by simpa using (mem_iff h b).2 hb).symm
  | cons a l ih =>
    cases r with
    | nil => simpa using (mem_iff h a).1 (by simp)
    | cons b r =>
      -- each of the two heads stands in the other list, so that neither may stand after the other
      have hab : le a b = true := by
        rcases List.mem_cons.1 ((mem_iff h b).2 (by simp)) with rfl | hb
        · simpa [level] using hself b
        · exact List.rel_of_pairwise_cons hl hb
      have hba : le b a = true := by
        rcases List.mem_cons.1 ((mem_iff h a).1 (by simp)) with rfl | ha
        · simpa [level] using hself a
        · exact List.rel_of_pairwise_cons hr ha
      have hheads := h a
      rw [List.filter_cons_of_pos (hself a), List.filter_cons_of_pos (by simp [level, hab, hba])]
        at hheads
      obtain ⟨rfl, -⟩ := List.cons.inj hheads
      refine congrArg _ (ih hl.of_cons hr.of_cons fun c => ?_)
      have hc := h c
      rw [List.filter_cons, List.filter_cons] at hc
      split at hc
      · exact (List.cons.inj hc).2
      · exact hc

variable (trans : ∀ a b c, le a b = true → le b c = true → le a c = true)
  (total : ∀ a b, (le a b || le b a) = true)
include trans total

theorem filter_level_mergeSort (l : List α) (a : α) :
    (l.mergeSort le).filter (level le a) = l.filter (level le a) := by
  have hlevel : (l.filter (level le a)).Pairwise fun b c => le b c = true := by
    refine List.pairwise_of_forall_mem_list fun b hb c hc => ?_
    have hb := (List.mem_filter.1 hb).2
    have hc := (List.mem_filter.1 hc).2
    rw [level, Bool.and_eq_true] at hb hc
    exact trans b a c hb.2 hc.1
  have hsub := (List.sublist_mergeSort trans total hlevel List.filter_sublist).filter (level le a)
  rw [List.filter_filter] at hsub
  simp only [Bool.and_self] at hsub
  exact (hsub.eq_of_length ((List.mergeSort_perm l le).filter _).length_eq.symm).symm

theorem eq_mergeSort {l r : List α} (hr : r.Pairwise fun a b => le a b)
    (h : ∀ a, r.filter (level le a) = l.filter (level le a)) : r = l.mergeSort le :=
  eq_of_filter_level total hr (List.pairwise_mergeSort trans total l) fun a => by
    rw [h, filter_level_mergeSort trans total]

end Sorting

section Keys

variable {α : Type} (key : α → String)

theorem not_before_iff {a b : String} : (!decide (b < a)) = true ↔ a ≤ b := by
  rw [Bool.not_eq_true', decide_eq_false_iff_not, String.not_lt]

theorem pairwise_mergeSort_key (as : List α) :
    (as.mergeSort fun a b => !decide (key b < key a)).Pairwise fun a b => key a ≤ key b := by
  refine (List.pairwise_mergeSort (fun a b c hab hbc => ?_) (fun a b => ?_) as).imp not_before_iff.1
  · exact not_before_iff.2 (String.le_trans (not_before_iff.1 hab) (not_before_iff.1 hbc))
  · rw [Bool.or_eq_true, not_before_iff, not_before_iff]
    exact String.le_total _ _

theorem eq_mergeSort_key_iff {as : List α} :
    (as = as.mergeSort fun a b => !decide (key b < key a)) ↔ (as.map key).Pairwise (· ≤ ·) := by
  rw [List.pairwise_map]
  refine ⟨fun h => h ▸ pairwise_mergeSort_key key as, fun h => ?_⟩
  exact (List.mergeSort_of_pairwise (h.imp not_before_iff.2)).symm

end Keys

end TypedTemplate
