import Mathlib.Algebra.Order.BigOperators.Group.Finset
import Mathlib.Logic.Function.Iterate
import TypedTemplate.Proofs.Style.Kept
import TypedTemplate.Proofs.Style.Repair

/-! Repairing what is found, again and again. A text may grow by a repair and a repair may leave or
form another union, but every repaired line loses an opening bracket and no other line gains one. So
the number of opening brackets bounds the number of rounds. -/
namespace TypedTemplate.Style
open Text

/-- A finding about a union of the old style. -/
def asksForBars (i : Issue) : Bool :=
  startsWith i.message.toList "Use PEP 604 union syntax (X | Y) instead of ".toList

/-- A round: the content with its own findings repaired. -/
def round (filename content : String) : String := repair content (lint .standard filename content)

theorem toList_round (filename content : String) :
    (round filename content).toList = (edits (lines content.toList)).foldl edit content.toList := by
  rw [round, repair, String.toList_ofList, foldl_repairOne_lint]

section Found

variable {filename : String}

theorem asksForBars_of_repairs {s : Settings} {source : List Char} {cs : List Comment} {rule : Rule}
    {i : Issue}
    (hr : rule.repairs = false) (hi : i ∈ apply s filename source cs rule) :
    asksForBars i = false := by
  rw [Bool.eq_false_iff]
  intro hasks
  have hbars : Rule.barUnions.opening <+: i.message.toList := List.isPrefixOf_iff_prefix.1 hasks
  rw [Rule.eq_of_opening (told_of_mem_apply hi).1 hbars] at hr
  cases hr

theorem asksForBars_of_mem_oldUnions {severity : Severity} {source : List Char} {i : Issue}
    (hi : i ∈ oldUnions severity filename source) : asksForBars i = true := by
  obtain ⟨p, -, hp⟩ := List.mem_filterMap.1 hi
  obtain ⟨old, -, rfl⟩ := Option.map_eq_some_iff.1 hp
  exact List.isPrefixOf_iff_prefix.2 (Rule.opening_message .barUnions (String.ofList old))

theorem oldUnions_ne_nil_iff {severity : Severity} {source : List Char} :
    oldUnions severity filename source ≠ [] ↔ ∃ l ∈ lines source, oldUnion? l ≠ none := by
  rw [ne_eq, oldUnions, List.filterMap_eq_nil_iff]
  constructor
  · intro h
    by_contra! hnone
    refine h fun p hp => ?_
    obtain ⟨⟨l, k⟩, hl, rfl⟩ := List.mem_map.1 hp
    exact Option.map_eq_none_iff.2 (hnone l (List.fst_mem_of_mem_zipIdx hl))
  · rintro ⟨l, hl, ho⟩ h
    obtain ⟨k, hk⟩ := List.mem_iff_getElem?.1 hl
    exact ho
      (Option.map_eq_none_iff.1
        (h _ (List.mem_map.2 ⟨(l, k), List.mem_zipIdx_iff_getElem?.2 hk, rfl⟩)))

theorem exists_asksForBars_iff {content : String} :
    (∃ i ∈ lint .standard filename content, asksForBars i = true) ↔
      ∃ l ∈ lines content.toList, oldUnion? l ≠ none := by
  constructor
  · rintro ⟨i, hi, hasks⟩
    obtain ⟨rule, -, hi⟩ := List.mem_flatMap.1 hi
    cases hr : rule.repairs with
    | false =>
      rw [asksForBars_of_repairs hr hi] at hasks
      exact absurd hasks (by decide)
    | true =>
      obtain rfl : rule = .barUnions := by
        revert hr
        cases rule <;> decide
      exact oldUnions_ne_nil_iff.1 (List.ne_nil_of_mem hi)
  · intro h
    obtain ⟨i, hi⟩ := List.exists_mem_of_ne_nil (oldUnions .warning filename content.toList)
      (oldUnions_ne_nil_iff.2 h)
    exact ⟨i, List.mem_flatMap.2 ⟨.barUnions, by decide, hi⟩, asksForBars_of_mem_oldUnions hi⟩

end Found

section Brackets

theorem count_mended_lt {l old : List Char} (h : oldUnion? l = some old) :
    (mended l).count '[' < l.count '[' := by
  obtain ⟨head, hh, inner, hc, hin⟩ := oldUnion?_eq_some h
  have hcount := count_open_replace hh hc l
  have hlen := two_le_length_pieces (by simp [hc.eq]) hin
  rw [mended, h, Option.elim_some]
  omega

theorem count_mended_le (l : List Char) : (mended l).count '[' ≤ l.count '[' := by
  cases h : oldUnion? l with
  | none => rw [mended, h, Option.elim_none]
  | some old => exact Nat.le_of_lt (count_mended_lt h)

theorem count_eq_sum_lineAt {s : List Char} {n : Nat} (hn : (lines s).length ≤ n) :
    s.count '[' = ∑ k ∈ Finset.range n, (lineAt s k).count '[' := by
  have sum (ls : List (List Char)) (n : Nat) (hn : ls.length ≤ n) :
      (ls.map (List.count '[')).sum = ∑ k ∈ Finset.range n, ((ls[k]?).getD []).count '[' := by
    induction ls generalizing n with
    | nil => simp
    | cons l ls ih =>
      obtain ⟨m, rfl⟩ := Nat.exists_eq_add_of_le' (show 1 ≤ n by simp at hn; omega)
      rw [Finset.sum_range_succ', List.map_cons, List.sum_cons, ih m (by simpa using hn),
        Nat.add_comm]
      rfl
  rw [← sum_count_lines (by decide), sum _ n hn]
  rfl

theorem count_foldl_edits_lt {content : List Char} (h : ∃ l ∈ lines content, oldUnion? l ≠ none) :
    ((edits (lines content)).foldl edit content).count '[' < content.count '[' := by
  obtain ⟨l, hl, ho⟩ := h
  obtain ⟨old, ho⟩ := Option.ne_none_iff_exists'.1 ho
  obtain ⟨k, hk⟩ := List.mem_iff_getElem?.1 hl
  have hline : lineAt content k = l := by simp [lineAt, hk]
  let after := (edits (lines content)).foldl edit content
  let n := max (lines content).length (lines after).length
  have hkn : k ∈ Finset.range n :=
    Finset.mem_range.2 (lt_of_lt_of_le (List.getElem?_eq_some_iff.1 hk).1 (le_max_left _ _))
  calc after.count '[' = ∑ j ∈ Finset.range n, (lineAt after j).count '[' :=
    count_eq_sum_lineAt (le_max_right _ _)
    _ = ∑ j ∈ Finset.range n, (mended (lineAt content j)).count '[' :=
      Finset.sum_congr rfl fun j _ => congrArg _ (lineAt_repaired content j)
    _ < ∑ j ∈ Finset.range n, (lineAt content j).count '[' :=
      Finset.sum_lt_sum (fun j _ => count_mended_le _)
        ⟨k, hkn, by rw [hline]; exact count_mended_lt ho⟩
    _ = content.count '[' := (count_eq_sum_lineAt (le_max_left _ _)).symm

end Brackets

section Rounds

variable {filename content : String}

theorem count_round_lt (h : ∃ i ∈ lint .standard filename content, asksForBars i = true) :
    (round filename content).toList.count '[' < content.toList.count '[' := by
  rw [toList_round]
  exact count_foldl_edits_lt (exists_asksForBars_iff.1 h)

theorem round_eq_self (h : ∀ i ∈ lint .standard filename content, asksForBars i = false) :
    round filename content = content := by
  have hnone : ∀ l ∈ lines content.toList, oldUnion? l = none := by
    intro l hl
    by_contra ho
    obtain ⟨i, hi, hasks⟩ := exists_asksForBars_iff.2 ⟨l, hl, ho⟩
    rw [h i hi] at hasks
    exact absurd hasks (by decide)
  rw [← String.toList_inj, toList_round]
  refine foldl_eq_self fun e he => ?_
  obtain ⟨l, old, hl, ho, -⟩ := mem_edits.1 he
  rw [hnone l (List.mem_of_getElem? hl)] at ho
  cases ho

theorem exists_round_calm (filename content : String) :
    ∃ n ≤ content.toList.count '[',
      ∀ i ∈ lint .standard filename ((round filename)^[n] content), asksForBars i = false := by
  induction hm : content.toList.count '[' using Nat.strongRecOn generalizing content with
  | _ m ih =>
    by_cases hcalm : ∀ i ∈ lint .standard filename content, asksForBars i = false
    · exact ⟨0, Nat.zero_le m, hcalm⟩
    · have hlt : (round filename content).toList.count '[' < content.toList.count '[' :=
        count_round_lt (by simpa using hcalm)
      obtain ⟨n, hn, hend⟩ := ih _ (hm ▸ hlt) (round filename content) rfl
      exact ⟨n + 1, by omega, by rwa [Function.iterate_succ_apply]⟩

/-- A round with a finding about a union takes opening brackets away and any other changes nothing.
So after at most as many rounds as there are opening brackets no union is found and nothing changes
any more. -/
theorem rounds_converge (filename content : String) :
    ((∃ i ∈ lint .standard filename content, asksForBars i = true) →
      (round filename content).toList.count '[' < content.toList.count '[') ∧
    ((∀ i ∈ lint .standard filename content, asksForBars i = false) →
      round filename content = content) ∧
    ∃ n ≤ content.toList.count '[',
      (∀ i ∈ lint .standard filename ((round filename)^[n] content), asksForBars i = false) ∧
      round filename ((round filename)^[n] content) = (round filename)^[n] content := by
  obtain ⟨n, hn, hcalm⟩ := exists_round_calm filename content
  exact ⟨count_round_lt, round_eq_self, n, hn, hcalm, round_eq_self hcalm⟩

end Rounds

end TypedTemplate.Style
