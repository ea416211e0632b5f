import TypedTemplate.Proofs.Directive.Outside
import TypedTemplate.Proofs.Style.Convergence

/-! What a round of repairs does to the text outside the comments. The repair works on lines and
knows nothing of comments: it takes the head, the commas and the closing bracket of a union, every
line end other than a line feed, and line ends at the end of the text. So the script of a round is
written down character by character, and the text outside the comments stays exactly if the script
is confined to comments. -/
namespace TypedTemplate.Style
open Text
open Comment (Stroke before after outside Confined isMark weigh)

def kept (s : List Char) : List Stroke := s.map .kept

def dropped (s : List Char) : List Stroke := s.map fun c => ⟨c, []⟩

def weight (c : Char) : Nat :=
  if c = ']' ∨ c = ',' then 8 else if c ≠ '\n' ∧ isLineEnd c = true then 2 else 1

/-- A script of one text, for another text, that touches no mark of a comment. -/
structure Script (s t : List Char) (S : List Stroke) : Prop where
  before_eq : before S = s
  after_eq : after S = t
  sound : ∀ x ∈ S, x.Sound weight

section Scripts

variable {s t s' t' : List Char} {S S' : List Stroke} {c : Char}

theorem Script.nil : Script [] [] [] := ⟨rfl, rfl, by simp⟩

theorem Script.append (h : Script s t S) (h' : Script s' t' S') :
    Script (s ++ s') (t ++ t') (S ++ S') where
  before_eq := by rw [Comment.before_append, h.before_eq, h'.before_eq]
  after_eq := by rw [Comment.after_append, h.after_eq, h'.after_eq]
  sound x hx := (List.mem_append.1 hx).elim (h.sound x) (h'.sound x)

theorem Script.cons (hc : (⟨c, s⟩ : Stroke).Sound weight) (h : Script s' t' S) :
    Script (c :: s') (s ++ t') (⟨c, s⟩ :: S) where
  before_eq := by rw [Comment.before_cons, h.before_eq]
  after_eq := by rw [Comment.after_cons, h.after_eq]
  sound := List.forall_mem_cons.2 ⟨hc, h.sound⟩

theorem script_kept (s : List Char) : Script s s (kept s) := by
  induction s with
  | nil => exact .nil
  | cons c s ih =>
    have hc : (Stroke.kept c).Sound weight := .inl rfl
    exact .cons hc ih

theorem weight_pos (c : Char) : 0 < weight c := by
  rw [weight]
  split
  · omega
  · split <;> omega

theorem sound_dropped (h : isMark c = false) : (⟨c, []⟩ : Stroke).Sound weight :=
  .inr ⟨h, by simp, weight_pos c⟩

theorem script_single (h : (⟨c, t⟩ : Stroke).Sound weight) : Script [c] t [⟨c, t⟩] := by
  simpa using Script.cons h .nil

theorem script_dropped (h : ∀ c ∈ s, isMark c = false) : Script s [] (dropped s) := by
  induction s with
  | nil => exact .nil
  | cons c s ih => exact .cons (sound_dropped (h c (by simp))) (ih fun d hd => h d (by simp [hd]))

theorem Script.intercalate (h : Script s t S) {α : Type} {f g : α → List Char} {F : α → List Stroke}
    {as : List α} (has : ∀ a ∈ as, Script (f a) (g a) (F a)) :
    Script (s.intercalate (as.map f)) (t.intercalate (as.map g)) (S.intercalate (as.map F)) := by
  induction as with
  | nil => exact .nil
  | cons a as ih =>
    cases as with
    | nil => simpa using has a (by simp)
    | cons b as =>
      have hrest := ih fun x hx => has x (by simp [hx])
      simp only [List.map_cons, List.intercalate_cons_cons] at hrest ⊢
      exact ((has a (by simp)).append h).append hrest

end Scripts

section Unions

def trimming (s : List Char) : List Stroke :=
  dropped (s.takeWhile isBlank) ++
    (kept (trim s) ++ dropped ((trimStart s).reverse.takeWhile isBlank).reverse)

def listing (s : List Char) : List Stroke :=
  [⟨',', " | ".toList⟩].intercalate ((splitTop ',' s).map trimming) ++
    dropped (s.drop ([','].intercalate (splitTop ',' s)).length)

def unionStrokes (old : List Char) : List Stroke :=
  match after? optionalHead old with
  | some rest => dropped optionalHead ++ (kept rest.dropLast ++ [⟨']', " | None".toList⟩])
  | none =>
    match after? unionHead old with
    | some rest => dropped unionHead ++ (listing rest.dropLast ++ [⟨']', []⟩])
    | none => kept old

def lineStrokes (line : List Char) : List Stroke :=
  (oldUnion? line).elim (kept line) fun old => (unionStrokes old).intercalate
    ((pieces old line).map kept)

theorem sound_comma : (⟨',', " | ".toList⟩ : Stroke).Sound weight :=
  .inr ⟨by decide, by decide, by decide⟩

theorem sound_close : (⟨']', " | None".toList⟩ : Stroke).Sound weight :=
  .inr ⟨by decide, by decide, by decide⟩

theorem script_trimming (s : List Char) : Script s (trim s) (trimming s) := by
  have hblank (u : List Char) : ∀ c ∈ u.takeWhile isBlank, isMark c = false := fun c hc =>
    Comment.isMark_eq_false (List.all_eq_true.1 List.all_takeWhile c hc) (by decide)
  have hend : trim s ++ ((trimStart s).reverse.takeWhile isBlank).reverse = trimStart s := by
    rw [trim, trimEnd, ← List.reverse_append, List.takeWhile_append_dropWhile, List.reverse_reverse]
  have h := (script_dropped (hblank s)).append
    ((script_kept (trim s)).append
      (script_dropped fun c hc => hblank (trimStart s).reverse c (List.mem_reverse.1 hc)))
  rw [hend, trimStart, List.takeWhile_append_dropWhile, List.nil_append, List.append_nil] at h
  exact h

theorem exists_intercalate_splitTopFrom (k : Int) (s : List Char) :
    ∃ e, s = [','].intercalate (splitTopFrom ',' k s) ++ e ∧ (e = [] ∨ e = [',']) := by
  induction s generalizing k with
  | nil => exact ⟨[], rfl, .inl rfl⟩
  | cons c s ih =>
    rw [splitTopFrom]
    split
    · next hc =>
      obtain ⟨rfl, -⟩ := hc
      obtain ⟨e, hs, he⟩ := ih k
      cases hp : splitTopFrom ',' k s with
      | nil => exact ⟨[','], by simp [splitTopFrom_eq_nil hp], .inr rfl⟩
      | cons p ps =>
        rw [hp] at hs
        exact ⟨e, by rw [List.intercalate_cons_of_ne_nil (by simp)]; simpa using hs, he⟩
    · obtain ⟨e, hs, he⟩ := ih (depthAfter k c)
      cases hp : splitTopFrom ',' (depthAfter k c) s with
      | nil => exact ⟨[], by simp [splitTopFrom_eq_nil hp, extendHead], .inl rfl⟩
      | cons p ps =>
        rw [hp] at hs
        refine ⟨e, ?_, he⟩
        have hcons := intercalate_append_cons [','] [c] p ps
        rw [List.singleton_append, List.singleton_append] at hcons
        rw [extendHead, hcons, List.cons_append, ← hs]

theorem script_listing (s : List Char) :
    Script s (" | ".toList.intercalate (splitTrimmed s)) (listing s) := by
  obtain ⟨e, hs, he⟩ := exists_intercalate_splitTopFrom 0 s
  have hcomma : Script [','] " | ".toList [⟨',', " | ".toList⟩] := script_single sound_comma
  have hparts := hcomma.intercalate fun p (_ : p ∈ splitTop ',' s) => script_trimming p
  have hdrop : s.drop ([','].intercalate (splitTop ',' s)).length = e := by
    conv => lhs; arg 2; rw [hs]
    rw [splitTop, List.drop_left]
  have hend : Script e [] (dropped e) := script_dropped (by rcases he with rfl | rfl <;> decide)
  have h := hparts.append hend
  rw [List.map_id', List.append_nil] at h
  rw [listing, hdrop, splitTrimmed_eq]
  rwa [splitTop, ← hs] at h

theorem script_unionStrokes {head old inner : List Char} (hh : head ∈ heads)
    (h : Closes head old inner) :
    Script old (withBars old) (unionStrokes old) := by
  simp only [heads, List.mem_cons, List.not_mem_nil, or_false] at hh
  rcases hh with rfl | rfl
  · have hstrokes :
        unionStrokes old = dropped optionalHead ++ (kept inner ++ [⟨']', " | None".toList⟩]) := by
      simp only [unionStrokes, h.eq, after?_append, List.dropLast_concat]
    rw [hstrokes, withBars_optional h, h.eq]
    exact (script_dropped (by decide)).append
      ((script_kept inner).append (script_single sound_close))
  · have hstrokes : unionStrokes old = dropped unionHead ++ (listing inner ++ [⟨']', []⟩]) := by
      simp only [unionStrokes, h.eq, after?_optionalHead_union, after?_append, List.dropLast_concat]
    rw [hstrokes, withBars_union h, h.eq]
    have hinner :=
      (script_listing inner).append (script_single (sound_dropped (c := ']') (by decide)))
    rw [List.append_nil] at hinner
    exact (script_dropped (by decide)).append hinner

theorem script_lineStrokes (line : List Char) : Script line (mended line) (lineStrokes line) := by
  cases h : oldUnion? line with
  | none =>
    rw [lineStrokes, mended, h]
    exact script_kept line
  | some old =>
    obtain ⟨head, hh, inner, hc, -⟩ := oldUnion?_eq_some h
    have hpieces := (script_unionStrokes hh hc).intercalate fun p (_ : p ∈ pieces old line) =>
      script_kept p
    rw [List.map_id', intercalate_pieces] at hpieces
    rw [lineStrokes, mended, h]
    exact hpieces

end Unions

section Breaks

/-- A line end, of which all but the last character always goes, and the line behind it. -/
structure LineBreak where
  front : List Char
  last : Char
  line : List Char

def breaks : List Char → List Char × List LineBreak
  | [] => ([], [])
  | '\r' :: '\n' :: s => ([], ⟨['\r'], '\n', (breaks s).1⟩ :: (breaks s).2)
  | c :: s => if isLineEnd c then ([], ⟨[], c, (breaks s).1⟩ :: (breaks s).2)
    else (c :: (breaks s).1, (breaks s).2)

def breakStrokes : Nat → List LineBreak → List Stroke
  | _, [] => []
  | n, b :: bs =>
    dropped b.front ++ ⟨b.last, if n = 0 then [] else ['\n']⟩ ::
      (lineStrokes b.line ++ breakStrokes (n - 1) bs)

def filledLines : List (List Char) → Nat
  | [] => 0
  | l :: ls => if filledLines ls = 0 ∧ l = [] then 0 else filledLines ls + 1

/-- The number of lines after the repair. Every edit but the first loses an empty line at the end,
where there is one. -/
def linesLeft (ls : List (List Char)) : Nat :=
  max (filledLines ls) (ls.length - ((edits ls).length - 1))

/-- What a round of repairs does to each character of a content. -/
def strokes (content : List Char) : List Stroke :=
  if edits (lines content) = [] then kept content
  else lineStrokes (breaks content).1 ++ breakStrokes (linesLeft (lines content) - 1)
    (breaks content).2

theorem breaks_eq (s : List Char) :
    (breaks s).1 ++ (breaks s).2.flatMap (fun b => b.front ++ b.last :: b.line) = s := by
  fun_induction breaks s with
  | case1 => rfl
  | case2 s ih => simpa using ih
  | case3 c s _ hc ih => simpa using ih
  | case4 c s _ hc ih => simpa using ih

def allLines (s : List Char) : List (List Char) := (breaks s).1 :: (breaks s).2.map LineBreak.line

def endsLine (s : List Char) : Bool := s.getLast?.all isLineEnd

theorem endsLine_cons {c : Char} (h : isLineEnd c = true) (s : List Char) :
    endsLine (c :: s) = endsLine s := by
  cases s with
  | nil => exact h
  | cons d s => rw [endsLine, List.getLast?_cons_cons, endsLine]

theorem allLines_eq (s : List Char) : allLines s = lines s ++ if endsLine s then [[]] else [] := by
  unfold allLines
  fun_induction breaks s with
  | case1 => rfl
  | case2 s ih =>
    rw [endsLine_cons (by decide), endsLine_cons (by decide)]
    exact congrArg ([] :: ·) ih
  | case3 c s hne hc ih =>
    have hlines : lines (c :: s) = [] :: lines s := by
      rw [lines, if_pos hc]
      exact hne
    rw [hlines, endsLine_cons hc]
    exact congrArg ([] :: ·) ih
  | case4 c s _ hc ih =>
    have hc : isLineEnd c = false := by simpa using hc
    rw [lines_cons hc]
    cases hs : lines s with
    | nil =>
      obtain rfl := lines_eq_nil hs
      simp [breaks, extendHead, endsLine, hc]
    | cons l ls =>
      have hends : endsLine (c :: s) = endsLine s := by
        cases s with
        | nil => cases hs
        | cons d s => rw [endsLine, List.getLast?_cons_cons, endsLine]
      rw [hs, List.cons_append, List.cons.injEq] at ih
      rw [hends, extendHead, ih.1, ih.2, List.cons_append]

theorem lineAt_eq_allLines (s : List Char) (k : Nat) : lineAt s k = ((allLines s)[k]?).getD [] := by
  rw [allLines_eq, lineAt, List.getElem?_append]
  split
  · rfl
  · next hk =>
    rw [List.getElem?_eq_none (by omega), Option.getD_none]
    split
    · cases k - (lines s).length <;> rfl
    · rfl

theorem length_breaks (s : List Char) :
    (breaks s).2.length + 1 = (lines s).length + if endsLine s then 1 else 0 := by
  have hlen : (allLines s).length = (breaks s).2.length + 1 := by simp [allLines]
  rw [← hlen, allLines_eq, List.length_append]
  split <;> rfl

theorem isLineEnd_of_mem_breaks {s : List Char} {b : LineBreak} (h : b ∈ (breaks s).2) :
    isLineEnd b.last = true ∧ ∀ c ∈ b.front, isLineEnd c = true := by
  fun_induction breaks s with
  | case1 => simp at h
  | case2 s ih =>
    rcases List.mem_cons.1 h with rfl | h
    · exact ⟨rfl, by simp; decide⟩
    · exact ih h
  | case3 c s _ hc ih =>
    rcases List.mem_cons.1 h with rfl | h
    · exact ⟨hc, by simp⟩
    · exact ih h
  | case4 c s _ hc ih => exact ih h

end Breaks

section Length

variable {content : List Char} {e : Edit} {es : List Edit} {n k : Nat}

theorem eq_nil_of_filledLines_le {ls : List (List Char)} (h : filledLines ls ≤ k) :
    (ls[k]?).getD [] = [] := by
  induction ls generalizing k with
  | nil => rfl
  | cons l ls ih =>
    rw [filledLines] at h
    split at h
    · next hempty =>
      cases k with
      | zero => exact hempty.2
      | succ k => exact ih (by omega)
    · obtain ⟨k, rfl⟩ := Nat.exists_eq_add_of_le' (show 1 ≤ k by omega)
      exact ih (by omega)

theorem ne_nil_of_filledLines_eq {ls : List (List Char)} (h : filledLines ls = n + 1) :
    (ls[n]?).getD [] ≠ [] := by
  induction ls generalizing n with
  | nil => cases h
  | cons l ls ih =>
    rw [filledLines] at h
    split at h
    · cases h
    · next hne =>
      cases n with
      | zero => exact fun hl => hne ⟨by omega, hl⟩
      | succ n => exact ih (by omega)

theorem lt_length_of_lineAt_ne_nil (h : lineAt content k ≠ []) : k < (lines content).length := by
  by_contra hk
  exact h (by rw [lineAt, List.getElem?_eq_none (by omega), Option.getD_none])

theorem lineAt_ne_nil_of_oldUnion? (h : oldUnion? (lineAt content k) ≠ none) :
    lineAt content k ≠ [] :=
  fun hnil => h (by rw [hnil]; rfl)

theorem exists_edit_eq (hfits : Fits e.2) (h : oldUnion? (lineAt content e.1) ≠ none) :
    ∃ ls, edit content e = unlines ls ∧ (∀ l ∈ ls, Unbroken l) ∧
      ls.length = (lines content).length := by
  obtain ⟨old, ho⟩ := Option.ne_none_iff_exists'.1 h
  have hk := lt_length_of_lineAt_ne_nil (lineAt_ne_nil_of_oldUnion? h)
  have hl : lineAt content e.1 = (lines content)[e.1] := by simp [lineAt, hk]
  have hr : repairLine e.2 (lines content)[e.1] = some (replace old e.2 (lines content)[e.1]) := by
    rw [repairLine, ← hl, ho, Option.map_some]
  refine ⟨(lines content).set e.1 (replace old e.2 (lines content)[e.1]), ?_,
    fun m hm => ?_, by simp⟩
  · simp [edit, hk, hr]
  · rcases List.mem_or_eq_of_mem_set hm with hm | rfl
    · exact unbroken_of_mem_lines hm
    · exact unbroken_repairLine hfits.unbroken (unbroken_of_mem_lines (List.getElem_mem hk)) hr

theorem length_lines_of_unlines {ls : List (List Char)} (hls : ∀ l ∈ ls, Unbroken l)
    (hn : lineAt (unlines ls) n ≠ [])
    (hempty : ∀ k > n, lineAt (unlines ls) k = []) :
    (lines (unlines ls)).length = max (n + 1) (ls.length - 1) := by
  rw [lineAt_unlines hls] at hn
  have hlt : n < ls.length := by
    by_contra hge
    exact hn (by rw [List.getElem?_eq_none (by omega), Option.getD_none])
  rw [length_lines_unlines hls, List.getLast?_eq_getElem?]
  by_cases hlast : n = ls.length - 1
  · rw [if_neg]
    · omega
    · rw [← hlast]
      exact fun h => hn (by rw [h, Option.getD_some])
  · have hend := hempty (ls.length - 1) (by omega)
    rw [lineAt_unlines hls, List.getElem?_eq_getElem (by omega), Option.getD_some] at hend
    rw [if_pos]
    · omega
    · rw [List.getElem?_eq_getElem (by omega), hend]

/-- The lines after a pass. The last line with a character is there until the last edit, so that
only empty lines behind it are lost. -/
theorem exists_foldl_edit_eq (hne : es ≠ []) (hsorted : es.Pairwise fun d e => d.1 < e.1)
    (hfits : ∀ e ∈ es, Fits e.2)
    (hold : ∀ e ∈ es, oldUnion? (lineAt content e.1) ≠ none) (hn : lineAt content n ≠ [])
    (hempty : ∀ k > n, lineAt content k = []) :
    ∃ ls, es.foldl edit content = unlines ls ∧ (∀ l ∈ ls, Unbroken l) ∧
      ls.length = max (n + 1) ((lines content).length - (es.length - 1)) := by
  induction es generalizing content with
  | nil => exact absurd rfl hne
  | cons e es ih =>
    obtain ⟨ls, hls, hunbroken, hlen⟩ := exists_edit_eq (hfits e (by simp)) (hold e (by simp))
    have hlt := lt_length_of_lineAt_ne_nil hn
    cases es with
    | nil => exact ⟨ls, hls, hunbroken, by rw [hlen, List.length_singleton]; omega⟩
    | cons d es =>
      obtain ⟨hbefore, hsorted⟩ := List.pairwise_cons.1 hsorted
      have hother {j : Nat} (hj : j ≠ e.1) : lineAt (edit content e) j = lineAt content j := by
        rw [lineAt_edit (hfits e (by simp)).unbroken, if_neg hj]
      have hd : d.1 ≤ n := by
        by_contra hd
        exact lineAt_ne_nil_of_oldUnion? (hold d (by simp)) (hempty d.1 (by omega))
      have hed := hbefore d (by simp)
      have hn' : lineAt (edit content e) n ≠ [] := by rwa [hother (by omega)]
      have hempty' : ∀ k > n, lineAt (edit content e) k = [] :=
        fun k hk => by rw [hother (by omega), hempty k hk]
      obtain ⟨ms, hms, hmunbroken, hmlen⟩ :=
        ih (by simp) hsorted (fun x hx => hfits x (by simp [hx]))
        (fun x hx => by rw [hother (Nat.ne_of_gt (hbefore x hx))]; exact hold x (by simp [hx])) hn'
          hempty'
      refine ⟨ms, hms, hmunbroken, ?_⟩
      rw [hls] at hn' hempty' hmlen
      rw [hmlen, length_lines_of_unlines hunbroken hn' hempty', hlen]
      simp only [List.length_cons]
      omega

theorem exists_repaired_eq (hne : edits (lines content) ≠ []) :
    0 < linesLeft (lines content) ∧ linesLeft (lines content) ≤ (lines content).length ∧
      ∃ ls, (edits (lines content)).foldl edit content = unlines ls ∧ (∀ l ∈ ls, Unbroken l) ∧
        ls.length = linesLeft (lines content) := by
  have hold : ∀ e ∈ edits (lines content), oldUnion? (lineAt content e.1) ≠ none := by
    intro e he
    obtain ⟨l, old, hl, ho, -⟩ := mem_edits.1 he
    simp [lineAt, hl, ho]
  obtain ⟨e, he⟩ := List.exists_mem_of_ne_nil _ hne
  have hpos : 0 < filledLines (lines content) := by
    by_contra hzero
    exact lineAt_ne_nil_of_oldUnion? (hold e he) (eq_nil_of_filledLines_le (by omega))
  obtain ⟨n, hn⟩ := Nat.exists_eq_add_of_le' hpos
  have hlast : lineAt content n ≠ [] := ne_nil_of_filledLines_eq hn
  have hempty : ∀ k > n, lineAt content k = [] := fun k hk => eq_nil_of_filledLines_le (by omega)
  have hlt := lt_length_of_lineAt_ne_nil hlast
  obtain ⟨ls, hls, hunbroken, hlen⟩ :=
    exists_foldl_edit_eq hne (sorted_edits _) (fun e he => fits_of_mem_edits he) hold hlast hempty
  rw [linesLeft, hn]
  exact ⟨by omega, by omega, ls, hls, hunbroken, hlen⟩

end Length

section Script

theorem isMark_of_isLineEnd {c : Char} (h : isLineEnd c = true) : isMark c = false :=
  Comment.isMark_eq_false h (by decide)

theorem sound_lineEnd {c : Char} (h : isLineEnd c = true) (n : Nat) :
    (⟨c, if n = 0 then [] else ['\n']⟩ : Stroke).Sound weight := by
  have hmark := isMark_of_isLineEnd h
  split
  · exact sound_dropped hmark
  · by_cases hc : c = '\n'
    · exact .inl (by rw [hc])
    · refine .inr ⟨hmark, by simp; decide, ?_⟩
      have hplain : ¬ (c = ']' ∨ c = ',') := by rintro (rfl | rfl) <;> exact absurd h (by decide)
      have hlight : weigh weight ['\n'] = 1 := by decide
      rw [hlight, weight, if_neg hplain, if_pos ⟨hc, h⟩]
      omega

theorem script_breakStrokes {bs : List LineBreak}
    (hbs : ∀ b ∈ bs, isLineEnd b.last = true ∧ ∀ c ∈ b.front, isLineEnd c = true)
    {n : Nat} (hempty : ∀ b ∈ bs.drop n, b.line = []) {l l' : List Char} {S : List Stroke}
    (hS : Script l l' S) :
    Script (l ++ bs.flatMap fun b => b.front ++ b.last :: b.line)
      (unlines (l' :: (bs.take n).map fun b => mended b.line)) (S ++ breakStrokes n bs) := by
  induction bs generalizing n l l' S with
  | nil => simpa [unlines, breakStrokes] using hS
  | cons b bs ih =>
    obtain ⟨hlast, hfront⟩ := hbs b (by simp)
    have hrest : Script _ _ (lineStrokes b.line ++ breakStrokes (n - 1) bs) :=
      ih (fun x hx => hbs x (by simp [hx])) (fun x hx => hempty x ?_) (script_lineStrokes b.line)
    · have h := hS.append ((script_dropped fun c hc => isMark_of_isLineEnd (hfront c hc)).append
        (.cons (sound_lineEnd hlast n) hrest))
      rw [breakStrokes, List.flatMap_cons]
      cases n with
      | zero =>
        have hline : mended b.line = [] := by
          rw [hempty b (by simp)]
          rfl
        simpa [hline, unlines] using h
      | succ n =>
        rw [List.take_succ_cons, List.map_cons, unlines_cons (by simp)]
        simpa using h
    · cases n with
      | zero => exact List.mem_cons_of_mem _ hx
      | succ n => exact hx

theorem script_strokes (content : List Char) :
    Script content ((edits (lines content)).foldl edit content) (strokes content) := by
  rw [strokes]
  split
  · next hnone =>
    rw [hnone]
    exact script_kept content
  · next hne =>
    obtain ⟨hpos, hle, ls, hls, hunbroken, hlen⟩ := exists_repaired_eq hne
    generalize hleft : linesLeft (lines content) = m at *
    obtain ⟨n, rfl⟩ := Nat.exists_eq_add_of_le' hpos
    have hbreaks := length_breaks content
    have hempty : ∀ b ∈ (breaks content).2.drop n, b.line = [] := by
      intro b hb
      obtain ⟨k, hk⟩ := List.mem_iff_getElem?.1 hb
      rw [List.getElem?_drop] at hk
      have hline := lineAt_eq_allLines content (n + k + 1)
      rw [allLines, List.getElem?_cons_succ, List.getElem?_map, hk] at hline
      refine hline.symm.trans (eq_nil_of_filledLines_le ?_)
      rw [linesLeft] at hleft
      omega
    have h := script_breakStrokes (fun b hb => isLineEnd_of_mem_breaks hb) hempty
        (script_lineStrokes (breaks content).1)
    rw [breaks_eq] at h
    -- the lines on both sides are the repaired lines of the content
    have hjoined : ((allLines content).take (n + 1)).map mended = ls := by
      have hlength : (allLines content).length = (breaks content).2.length + 1 := by simp [allLines]
      refine List.ext_getElem (by simp; omega) fun k hk hk' => ?_
      have hline := lineAt_repaired content k
      rw [hls, lineAt_unlines hunbroken, lineAt_eq_allLines, List.getElem?_eq_getElem hk',
        List.getElem?_eq_getElem (by omega), Option.getD_some, Option.getD_some] at hline
      rw [List.getElem_map, List.getElem_take, hline]
    rw [hls, ← hjoined]
    simpa [allLines, Function.comp_def] using h

end Script

section End

theorem breakStrokes_append (n : Nat) (bs bs' : List LineBreak) :
    breakStrokes n (bs ++ bs') = breakStrokes n bs ++ breakStrokes (n - bs.length) bs' := by
  induction bs generalizing n with
  | nil => rfl
  | cons b bs ih =>
    have hn : n - 1 - bs.length = n - (b :: bs).length := by
      rw [List.length_cons]
      omega
    rw [List.cons_append, breakStrokes, breakStrokes, ih, hn]
    simp

theorem edits_ne_nil {ls : List (List Char)} (h : ∃ l ∈ ls, oldUnion? l ≠ none) :
    edits ls ≠ [] := by
  obtain ⟨l, hl, ho⟩ := h
  obtain ⟨k, hk⟩ := List.mem_iff_getElem?.1 hl
  obtain ⟨old, ho⟩ := Option.ne_none_iff_exists'.1 ho
  exact List.ne_nil_of_mem (mem_edits.2 ⟨l, old, hk, ho, rfl⟩ : (k, withBars old) ∈ edits ls)

theorem getLast?_strokes {content : List Char} (hne : edits (lines content) ≠ [])
    (hends : endsLine content = true) :
    ∃ c, (strokes content).getLast? = some ⟨c, []⟩ := by
  obtain ⟨hpos, hle, -⟩ := exists_repaired_eq hne
  have hbreaks := length_breaks content
  rw [hends, if_pos rfl] at hbreaks
  obtain ⟨bs, b, hlast⟩ := List.eq_nil_or_concat (breaks content).2 |>.resolve_left fun hnil => by
    rw [hnil, List.length_nil] at hbreaks
    omega
  rw [List.concat_eq_append] at hlast
  have hline : b.line = [] := by
    have hlines := allLines_eq content
    rw [allLines, hlast, hends, if_pos rfl, List.map_append, ← List.cons_append] at hlines
    exact (List.cons.inj (List.append_inj' hlines rfl).2).1
  rw [hlast, List.length_append, List.length_singleton] at hbreaks
  have hn : linesLeft (lines content) - 1 - bs.length = 0 := by omega
  refine ⟨b.last, ?_⟩
  rw [strokes, if_neg hne, hlast, breakStrokes_append, hn, breakStrokes, hline]
  have hempty : lineStrokes [] = [] := rfl
  simp [breakStrokes, hempty]

end End

/-- A round changes a content by its strokes, and the text outside the comments stays exactly if
they are confined to comments. It never does where something is repaired in a content that ends with
a line end. -/
theorem outside_round_iff (filename content : String) :
    before (strokes content.toList) = content.toList ∧
      after (strokes content.toList) = (round filename content).toList ∧
    (outside (round filename content).toList = outside content.toList ↔
      Confined (strokes content.toList)) ∧
    ((∃ i ∈ lint .standard filename content, asksForBars i = true) → endsLine content.toList =
      true → outside (round filename content).toList ≠ outside content.toList) := by
  have h := script_strokes content.toList
  rw [← toList_round filename] at h
  have hiff : outside (round filename content).toList = outside content.toList ↔
    Confined (strokes content.toList) := by
    rw [← Comment.outside_eq_iff h.sound, h.before_eq, h.after_eq]
  refine ⟨h.before_eq, h.after_eq, hiff, fun hasks hends hsame => ?_⟩
  obtain ⟨c, hlast⟩ := getLast?_strokes (edits_ne_nil (exists_asksForBars_iff.1 hasks)) hends
  have hkept := (hiff.1 hsame).getLast?_eq_kept h.sound hlast
  cases hkept

theorem outside_final_newline :
    let content := "\x7b# typja:var x: Optional[int] #\x7d\n"
    round "t.html" content = "\x7b# typja:var x: int | None #\x7d" ∧ outside content.toList =
      [[], ['\n']] ∧ outside (round "t.html" content).toList = [[], []] := by
  intro content
  simp only [round, repair, foldl_repairOne_lint, content]
  decide +kernel

end TypedTemplate.Style
