import Mathlib.Data.List.Infix
import TypedTemplate.Proofs.Text.Bracket

/-! Laws of lines. Joining lines and cutting again loses at most one empty line at the end, so a
text is viewed through its line at each place, where a missing line counts as empty. -/
namespace TypedTemplate.Text

def Unbroken (s : List Char) : Prop := ∀ c ∈ s, isLineEnd c = false

theorem lines_cons {c : Char} (h : isLineEnd c = false) (s : List Char) :
    lines (c :: s) = extendHead c (lines s) := by
  rw [lines]
  · simp [h]
  · rintro u rfl
    exact absurd h (by decide)

theorem lines_newline (s : List Char) : lines ('\n' :: s) = [] :: lines s := by
  rw [lines]
  · simp [show isLineEnd '\n' = true by decide]
  · intro u h
    exact absurd h (by decide)

theorem lines_append {l : List Char} (h : Unbroken l) (s : List Char) :
    lines (l ++ s) = l.foldr extendHead (lines s) := by
  induction l with
  | nil => rfl
  | cons c l ih =>
    rw [List.cons_append, lines_cons (h c (by simp)), ih fun d hd => h d (by simp [hd])]
    rfl

theorem lines_append_newline {l : List Char} (h : Unbroken l) (s : List Char) :
    lines (l ++ '\n' :: s) = l :: lines s := by
  rw [lines_append h, lines_newline, foldr_extendHead_cons, List.append_nil]

theorem lines_unbroken {l : List Char} (h : Unbroken l) (hne : l ≠ []) : lines l = [l] := by
  have := lines_append h []
  rw [List.append_nil] at this
  rw [this, lines, foldr_extendHead_nil hne]

theorem lines_eq_nil {s : List Char} (h : lines s = []) : s = [] := by
  fun_cases lines s with
  | case1 => rfl
  | case2 s => simp [lines] at h
  | case3 c s hne hc =>
    rw [lines, if_pos hc] at h
    · cases h
    · exact hne
  | case4 c s _ hc =>
    rw [lines_cons (by simpa using hc)] at h
    cases hs : lines s <;> simp [hs, extendHead] at h

theorem unbroken_of_mem_lines {s l : List Char} (h : l ∈ lines s) : Unbroken l := by
  fun_induction lines s generalizing l with
  | case1 => simp at h
  | case2 s ih =>
    rcases List.mem_cons.1 h with rfl | h
    · simp [Unbroken]
    · exact ih h
  | case3 c s _ hc ih =>
    rcases List.mem_cons.1 h with rfl | h
    · simp [Unbroken]
    · exact ih h
  | case4 c s _ hc ih =>
    have hc : isLineEnd c = false := by simpa using hc
    cases hs : lines s with
    | nil =>
      obtain rfl : l = [c] := by simpa [hs, extendHead] using h
      simpa [Unbroken] using hc
    | cons k ks =>
      rw [hs, extendHead] at h
      rcases List.mem_cons.1 h with rfl | h
      · rintro d (_ | ⟨_, hd⟩)
        · exact hc
        · exact ih (by simp [hs]) d hd
      · exact ih (by simp [hs, h])

def lineAt (s : List Char) (k : Nat) : List Char := ((lines s)[k]?).getD []

theorem unlines_cons {ls : List (List Char)} (hne : ls ≠ []) (l : List Char) :
    unlines (l :: ls) = l ++ '\n' :: unlines ls := by
  rw [unlines, List.intercalate_cons_of_ne_nil hne, List.append_assoc]
  rfl

theorem unlines_concat {ls : List (List Char)} (hne : ls ≠ []) (l : List Char) :
    unlines (ls ++ [l]) = unlines ls ++ '\n' :: l := by
  induction ls with
  | nil => exact absurd rfl hne
  | cons k ls ih =>
    cases ls with
    | nil => simp [unlines, List.intercalate_cons_of_ne_nil]
    | cons m ls =>
      have hrest : m :: ls ≠ [] := by simp
      rw [List.cons_append, unlines_cons (by simp), ih hrest, unlines_cons hrest k,
        List.append_assoc]
      rfl

theorem lineAt_unlines {ls : List (List Char)} (h : ∀ l ∈ ls, Unbroken l) (k : Nat) :
    lineAt (unlines ls) k = (ls[k]?).getD [] := by
  induction ls generalizing k with
  | nil => rfl
  | cons l ls ih =>
    have hl : Unbroken l := h l (by simp)
    cases ls with
    | nil =>
      cases l with
      | nil => cases k <;> rfl
      | cons c l => simp [lineAt, unlines, lines_unbroken hl]
    | cons m ls =>
      rw [unlines_cons (by simp), lineAt, lines_append_newline hl]
      cases k with
      | zero => rfl
      | succ k => exact ih (fun p hp => h p (by simp [hp])) k

theorem length_lines_unlines {ls : List (List Char)} (h : ∀ l ∈ ls, Unbroken l) :
    (lines (unlines ls)).length = if ls.getLast? = some [] then ls.length - 1 else ls.length := by
  induction ls with
  | nil => rfl
  | cons l ls ih =>
    have hl : Unbroken l := h l (by simp)
    cases ls with
    | nil =>
      cases l with
      | nil => rfl
      | cons c l => simp [unlines, lines_unbroken hl]
    | cons m ls =>
      rw [unlines_cons (by simp), lines_append_newline hl, List.length_cons,
        ih fun p hp => h p (by simp [hp]), List.getLast?_cons_cons]
      split <;> simp

theorem sum_count_lines {c : Char} (h : isLineEnd c = false) (s : List Char) :
    ((lines s).map (List.count c)).sum = s.count c := by
  have hne {d : Char} (hd : isLineEnd d = true) : d ≠ c := by
    rintro rfl
    rw [h] at hd
    exact absurd hd (by decide)
  fun_induction lines s with
  | case1 => rfl
  | case2 s ih => simp [ih, hne (d := '\r') (by decide), hne (d := '\n') (by decide)]
  | case3 d s _ hd ih => simp [ih, hne hd]
  | case4 d s _ hd ih =>
    rw [sum_count_extendHead, ih, List.count_cons, List.count_cons, List.count_nil]
    omega

/-- A text whose lines end with line feeds only. -/
def LineFed (s : List Char) : Prop := ∀ c ∈ s, isLineEnd c = true → c = '\n'

theorem lineFed_unlines {ls : List (List Char)} (h : ∀ l ∈ ls, Unbroken l) :
    LineFed (unlines ls) := by
  intro c hc hend
  rcases mem_intercalate hc with hc | ⟨l, hl, hc⟩
  · exact List.mem_singleton.1 hc
  · rw [h l hl c hc] at hend
    exact absurd hend (by decide)

theorem LineFed.exists_lines {s : List Char} (h : LineFed s) :
    ∃ ls, ls ≠ [] ∧ (∀ l ∈ ls, Unbroken l) ∧ unlines ls = s := by
  refine ⟨pieces ['\n'] s, pieces_ne_nil _ _, fun l hl c hc => ?_, intercalate_pieces _ _⟩
  by_contra hend
  obtain rfl := h c ((infix_of_mem_pieces hl).subset hc) (by simpa using hend)
  exact not_infix_of_mem_pieces (by simp) hl ((List.singleton_infix_iff _ _).2 hc)

end TypedTemplate.Text
