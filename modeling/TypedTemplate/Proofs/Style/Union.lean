import Mathlib.Data.List.TakeDrop
import TypedTemplate.Proofs.Text.Bracket
import TypedTemplate.Style.Union

/-! Unions of the old styles in a line: what the search finds, and the spelling with bars. A found
union reaches to the first closing bracket behind its head, and its new spelling has no closing
bracket. -/
namespace TypedTemplate.Style
open Text

theorem optionalHead_eq : optionalHead = ['O', 'p', 't', 'i', 'o', 'n', 'a', 'l', '['] := rfl

theorem unionHead_eq : unionHead = ['U', 'n', 'i', 'o', 'n', '['] := rfl

/-- A union with the given head: at least one character and then the first closing bracket. -/
structure Closes (head old inner : List Char) : Prop where
  eq : old = head ++ (inner ++ [']'])
  inner_ne_nil : inner ≠ []
  inner_open : ']' ∉ inner

theorem bracketed?_eq_some {head s old : List Char} (h : bracketed? head s = some old) :
    ∃ inner, Closes head old inner ∧ old <:+: s := by
  induction s with
  | nil => simp [bracketed?] at h
  | cons c s ih =>
    have later (h : bracketed? head s = some old) : ∃ inner, Closes head old inner ∧
      old <:+: c :: s := by
      obtain ⟨inner, hc, hs⟩ := ih h
      exact ⟨inner, hc, hs.trans (List.suffix_cons _ _).isInfix⟩
    rw [bracketed?] at h
    split at h
    · exact later h
    · next rest hr =>
      rw [List.span_eq_takeWhile_dropWhile] at h
      dsimp only at h
      split at h
      · exact later h
      · next hne =>
        rw [Bool.or_eq_true, not_or] at hne
        rw [Option.some.injEq] at h
        have hsplit := List.takeWhile_append_dropWhile (p := (· != ']')) (l := rest)
        cases hd : rest.dropWhile (· != ']') with
        | nil => simp [hd] at hne
        | cons d tail =>
          have hclose : d = ']' := by
            have := List.head?_dropWhile_not (· != ']') rest
            simpa [hd] using this
          refine ⟨rest.takeWhile (· != ']'), ⟨by simp [← h], by simpa using hne.1, fun hm => ?_⟩,
            [], tail, ?_⟩
          · have := List.all_takeWhile (p := (· != ']')) (l := rest)
            rw [List.all_eq_true] at this
            simpa using this ']' hm
          · rw [after?_eq_some hr, ← hsplit, hd, hclose, ← h]
            simp

def heads : List (List Char) := [optionalHead, unionHead]

theorem oldUnion?_eq_some {line old : List Char} (h : oldUnion? line = some old) :
    ∃ head ∈ heads, ∃ inner, Closes head old inner ∧ old <:+: line := by
  rw [oldUnion?, Option.or_eq_some_iff] at h
  rcases h with h | ⟨-, h⟩
  · exact ⟨_, by simp [heads], bracketed?_eq_some h⟩
  · exact ⟨_, by simp [heads], bracketed?_eq_some h⟩

theorem withBars_optional {old inner : List Char} (h : Closes optionalHead old inner) :
    withBars old = inner ++ " | None".toList := by
  simp only [withBars, h.eq, after?_append, List.dropLast_concat]

theorem after?_optionalHead_union (s : List Char) :
    after? optionalHead (unionHead ++ s) = none := by
  have hp : ¬ optionalHead <+: unionHead ++ s := by
    rw [optionalHead_eq, unionHead_eq]
    simp
  rw [after?, if_neg fun h => hp (List.isPrefixOf_iff_prefix.1 h)]

theorem withBars_union {old inner : List Char} (h : Closes unionHead old inner) :
    withBars old = " | ".toList.intercalate (splitTrimmed inner) := by
  simp only [withBars, h.eq, after?_optionalHead_union, after?_append, List.dropLast_concat]

theorem mem_withBars {head old inner : List Char} {c : Char} (hh : head ∈ heads)
    (h : Closes head old inner) (hc : c ∈ withBars old) : c ∈ inner ∨ c ∈ " | None".toList := by
  simp only [heads, List.mem_cons, List.not_mem_nil, or_false] at hh
  rcases hh with rfl | rfl
  · rw [withBars_optional h] at hc
    exact List.mem_append.1 hc
  · rw [withBars_union h] at hc
    rcases mem_intercalate hc with hc | ⟨p, hp, hc⟩
    · have : ∀ c ∈ " | ".toList, c ∈ " | None".toList := by decide
      exact .inr (this c hc)
    · exact .inl ((infix_of_mem_splitTrimmed hp).subset hc)

theorem bracket_not_mem_withBars {head old inner : List Char} (hh : head ∈ heads)
    (h : Closes head old inner) :
    ']' ∉ withBars old := by
  intro hm
  rcases mem_withBars hh h hm with hm | hm
  · exact h.inner_open hm
  · exact absurd hm (by decide)

end TypedTemplate.Style
