import TypedTemplate.Proofs.Text.Bracket

/-! Cutting loses nothing. The parts of a text are told by what they are: they join to the text,
hold no delimiter outside brackets and, but for the last, leave no bracket open. -/
namespace TypedTemplate.Text

variable {d : Char} {s p : List Char} {ps : List (List Char)}

/-- The delimiter that ends a text outside brackets. No part follows it. -/
def closing (d : Char) (s : List Char) : List Char :=
  if s.getLast? = some d ∧ depthOf 0 s = 0 then [d] else []

/-- The parts between the delimiters outside brackets. A bracket may be closed that was
never opened. -/
structure Cuts (d : Char) (s : List Char) (ps : List (List Char)) : Prop where
  nil_iff : ps = [] ↔ s = []
  joined : [d].intercalate ps ++ closing d s = s
  isSealed : ∀ p ∈ ps, Sealed d 0 p
  closed : ∀ p ∈ ps.dropLast, depthOf 0 p = 0

section Closing

variable (hd : isOpen d = false ∧ isClose d = false)
include hd

theorem depthOf_append_delimiter (hp : depthOf 0 p = 0) (s : List Char) :
    depthOf 0 (p ++ d :: s) = depthOf 0 s := by
  rw [depthOf_append, hp, depthOf_cons, depthAfter, hd.1, hd.2]
  rfl

theorem closing_concat (hp : depthOf 0 p = 0) : closing d (p ++ [d]) = [d] := by
  rw [closing, depthOf_append_delimiter hd hp]
  simp

theorem closing_append_cons (hp : depthOf 0 p = 0) (hs : s ≠ []) :
    closing d (p ++ d :: s) = closing d s := by
  have hlast : (p ++ d :: s).getLast? = s.getLast? := by
    rw [List.append_cons, List.getLast?_append, Option.or_of_isSome (by simpa using hs)]
  rw [closing, closing, depthOf_append_delimiter hd hp, hlast]

theorem closing_sealed (h : Sealed d 0 s) : closing d s = [] := by
  rw [closing, if_neg]
  rintro ⟨hlast, hdepth⟩
  obtain ⟨u, rfl⟩ := List.getLast?_eq_some_iff.1 hlast
  have hu : depthOf 0 u = 0 := by
    simpa [depthAfter, hd.1, hd.2] using hdepth
  exact (sealed_append.1 h).2.1 ⟨rfl, hu⟩

end Closing

section Delimiter

variable (hd : isOpen d = false ∧ isClose d = false)
include hd

theorem Cuts.whole (h : Sealed d 0 s) (hne : s ≠ []) : Cuts d s [s] where
  nil_iff := by simp [hne]
  joined := by simp [closing_sealed hd h]
  isSealed := by simpa using h
  closed := by simp

theorem Cuts.cons (hp : Sealed d 0 p) (hdepth : depthOf 0 p = 0) (h : Cuts d s ps) :
    Cuts d (p ++ d :: s) (p :: ps) := by
  refine ⟨by simp, ?_, List.forall_mem_cons.2 ⟨hp, h.isSealed⟩, ?_⟩
  · by_cases hs : s = []
    · rw [h.nil_iff.2 hs, hs, closing_concat hd hdepth]
      simp
    · rw [List.intercalate_cons_of_ne_nil (mt h.nil_iff.1 hs), closing_append_cons hd hdepth hs,
        List.append_assoc, h.joined]
      simp
  · cases ps with
    | nil => simp
    | cons q qs => exact List.forall_mem_cons.2 ⟨hdepth, h.closed⟩

theorem exists_cuts (s : List Char) : ∃ ps, Cuts d s ps := by
  by_cases h : Sealed d 0 s
  · by_cases hne : s = []
    · exact ⟨[], by rw [hne]; exact ⟨by simp, by simp [closing], by simp, by simp⟩⟩
    · exact ⟨[s], .whole hd h hne⟩
  · obtain ⟨x, v, hs, hdepth, hx⟩ := exists_of_not_sealed h
    obtain ⟨ps, hps⟩ := exists_cuts v
    exact ⟨x :: ps, hs ▸ .cons hd hx hdepth hps⟩
termination_by s.length
decreasing_by simp [hs]; omega

theorem Cuts.tail {q : List Char} (h : Cuts d s (p :: q :: ps)) :
    ∃ v, s = p ++ d :: v ∧ Cuts d v (q :: ps) := by
  have hdepth : depthOf 0 p = 0 := h.closed p (by simp)
  obtain ⟨v, hv⟩ : ∃ v, v = [d].intercalate (q :: ps) ++ closing d s := ⟨_, rfl⟩
  have hs : s = p ++ d :: v := by
    conv => lhs; rw [← h.joined, @List.intercalate_cons_of_ne_nil _ [d] p _ (by simp)]
    rw [hv, List.append_assoc, List.append_assoc]
    rfl
  have hne : v ≠ [] := by
    rintro rfl
    rw [hs, closing_concat hd hdepth] at hv
    simp at hv
  refine ⟨v, hs, by simp [hne], ?_, fun r hr => h.isSealed r (by simp [hr]),
    fun r hr => h.closed r ?_⟩
  · rw [← closing_append_cons hd hdepth hne, ← hs, ← hv]
  · exact List.mem_cons_of_mem p hr

theorem splitTop_eq_of_cuts (h : Cuts d s ps) : splitTop d s = ps := by
  induction ps generalizing s with
  | nil => rw [h.nil_iff.1 rfl]; rfl
  | cons p ps ih =>
    have hp : Sealed d 0 p := h.isSealed p (by simp)
    cases ps with
    | cons q ps =>
      obtain ⟨v, rfl, hv⟩ := h.tail hd
      rw [splitTop_delimiter hd hp (h.closed p (by simp)), ih hv]
    | nil =>
      have hjoined : p ++ closing d s = s := by simpa using h.joined
      rw [closing] at hjoined
      split at hjoined
      · next hlast =>
        -- the text ends with a delimiter, so its one part ends outside brackets
        have hdepth : depthOf 0 p = 0 := by
          simpa [← hjoined, depthAfter, hd.1, hd.2] using hlast.2
        rw [← hjoined, splitTop_delimiter hd hp hdepth]
        rfl
      · rw [List.append_nil] at hjoined
        rw [← hjoined]
        exact splitTop_sealed hp fun hnil => by simpa [← hjoined, hnil] using h.nil_iff

theorem splitTop_eq_iff : splitTop d s = ps ↔ Cuts d s ps := by
  refine ⟨fun h => ?_, splitTop_eq_of_cuts hd⟩
  obtain ⟨qs, hqs⟩ := exists_cuts hd s
  rwa [← h, splitTop_eq_of_cuts hd hqs]

end Delimiter

/-- A delimiter that is no bracket cuts a text into its parts, whatever brackets are open or closed
in it; for commas the trimmed parts are those of an old union, and the trimmed parts that are not
empty are those of a list of arguments. -/
theorem splitters_agree :
    (∀ (d : Char) (s : List Char) (ps : List (List Char)), isOpen d = false → isClose d = false →
      (splitTopOn [d] s = ps ↔ Cuts d s ps)) ∧
    ∀ (s : List Char) (ps : List (List Char)), Cuts ',' s ps →
      splitTrimmed s = ps.map trim ∧
        splitArgs s = (ps.map trim).filter fun p => decide (p ≠ []) := by
  refine ⟨fun d s ps ho hc => ?_, fun s ps h => ?_⟩
  · rw [splitTopOn_singleton, splitTop_eq_iff ⟨ho, hc⟩]
  have hcut : splitTop ',' s = ps := splitTop_eq_of_cuts ⟨rfl, rfl⟩ h
  have htrim : splitTrimmed s = ps.map trim := by rw [splitTrimmed_eq, hcut]
  refine ⟨htrim, ?_⟩
  rw [splitArgs_eq, htrim]
  exact List.filter_congr fun p _ => by cases p <;> simp

theorem splitters_agree_unopened :
    Cuts ',' "a,)b, (c,, d,".toList ["a".toList, ")b, (c".toList, [], " d".toList] ∧
      splitArgs "a,)b, (c,, d,".toList = ["a".toList, ")b, (c".toList, "d".toList] := by
  have hcuts := (splitters_agree.1 ',' "a,)b, (c,, d,".toList _ rfl rfl).1
    (by decide +kernel : _ = ["a".toList, ")b, (c".toList, [], " d".toList])
  exact ⟨hcuts, (splitters_agree.2 _ _ hcuts).2.trans (by decide +kernel)⟩

end TypedTemplate.Text
