import Mathlib.Data.List.TakeWhile
import TypedTemplate.Directive.Comment
import TypedTemplate.Proofs.Directive.Declaration
import TypedTemplate.Proofs.Text.Lines

/-! The comments of a text by their bodies. No comment begins inside another, so the bodies of a
text are those of its parts wherever no comment goes on from one part into the next, and line ends
at the end of a text add none. -/
namespace TypedTemplate.Comment
open Text Directive

def keyword : List Char := ['t', 'y', 'p', 'j', 'a', ':']

def written (w b : List Char) : List Char := '{' :: '#' :: (w ++ (keyword ++ (b ++ ['#', '}'])))

def body? (s : List Char) : Option (List Char) := (atStart? s).map Prod.snd

/-- A text begins with a comment. -/
structure Begins (s w b rest : List Char) : Prop where
  eq : s = written w b ++ rest
  blank : ∀ c ∈ w, isBlank c = true
  unclosed : '#' ∉ b
  filled : b ≠ []

theorem takeWhile_ne {c : Char} {b : List Char} (h : c ∉ b) (rest : List Char) :
    (b ++ c :: rest).takeWhile (· != c) = b ∧ (b ++ c :: rest).dropWhile (· != c) = c :: rest := by
  have hall : ∀ d ∈ b, (d != c) = true := by
    intro d hd
    rw [bne_iff_ne]
    rintro rfl
    exact h hd
  rw [List.takeWhile_append_of_pos hall, List.dropWhile_append_of_pos hall]
  simp

theorem atStart?_eq_some {s raw b : List Char} (h : atStart? s = some (raw, b)) :
    ∃ w rest, raw = written w b ∧ Begins s w b rest := by
  simp only [atStart?, Option.bind_eq_some_iff, Option.bind_eq_bind,
    List.span_eq_takeWhile_dropWhile] at h
  obtain ⟨inner, hin, after, hafter, rest, hrest, hbody⟩ := h
  split at hbody
  · simp at hbody
  · next hne =>
    obtain ⟨hraw, rfl⟩ := Prod.mk.inj (Option.some.inj hbody)
    have hs : s = written (inner.takeWhile isBlank) (after.takeWhile (· != '#')) ++ rest := by
      have hblank : inner = inner.takeWhile isBlank ++ (keyword ++ after) :=
        (List.takeWhile_append_dropWhile).symm.trans (congrArg _ (after?_eq_some hafter))
      have hsplit : after = after.takeWhile (· != '#') ++ (['#', '}'] ++ rest) := by
        rw [← after?_eq_some hrest, List.takeWhile_append_dropWhile]
      generalize after.takeWhile (· != '#') = body at hsplit
      generalize inner.takeWhile isBlank = w at hblank
      rw [after?_eq_some hin, hblank, hsplit]
      simp [written]
    refine ⟨inner.takeWhile isBlank, rest, ?_, hs, fun c hc => ?_, fun hm => ?_, by simpa using hne⟩
    · rw [← hraw, hs]
      simp
    · exact List.mem_takeWhile_imp hc
    · simpa using List.mem_takeWhile_imp hm

theorem body?_eq_some {s b : List Char} (h : body? s = some b) : ∃ w rest, Begins s w b rest := by
  obtain ⟨⟨raw, _⟩, hat, rfl⟩ := Option.map_eq_some_iff.1 h
  obtain ⟨w, rest, -, hbegin⟩ := atStart?_eq_some hat
  exact ⟨w, rest, hbegin⟩

theorem Begins.atStart?_eq {s w b rest : List Char} (h : Begins s w b rest) :
    atStart? s = some (written w b, b) := by
  have hin : after? ['{', '#'] s = some (w ++ (keyword ++ (b ++ ('#' :: '}' :: rest)))) := by
    rw [h.eq]
    simp [written, after?]
  have hkey : trimStart (w ++ (keyword ++ (b ++ ('#' :: '}' :: rest)))) = keyword ++
    (b ++ ('#' :: '}' :: rest)) := by
    rw [trimStart, dropWhile_append_of_all h.blank]
    rfl
  have hafter : after? "typja:".toList (keyword ++ (b ++ ('#' :: '}' :: rest))) = some
    (b ++ '#' :: ('}' :: rest)) :=
    after?_append keyword _
  have hclose : after? ['#', '}'] ('#' :: ('}' :: rest)) = some rest :=
    after?_append ['#', '}'] rest
  obtain ⟨htake, hdrop⟩ := takeWhile_ne h.unclosed ('}' :: rest)
  have hraw : s.take (s.length - rest.length) = written w b := by
    rw [h.eq]
    simp
  simp only [atStart?, hin, hkey, hafter, Option.bind_eq_bind, Option.bind_some,
    List.span_eq_takeWhile_dropWhile, htake,
    hdrop, hclose, List.isEmpty_iff, h.filled, if_false, hraw]

theorem Begins.body?_eq {s w b rest : List Char} (h : Begins s w b rest) : body? s = some b := by
  rw [body?, h.atStart?_eq]
  rfl

section Scan

variable {s w b rest : List Char}

theorem scanFrom_append (u s : List Char) (p : Position) :
    scanFrom u.length p (u ++ s) = scan (u.foldl Position.advance p) s := by
  induction u generalizing p with
  | nil => rfl
  | cons c u ih => exact ih (p.advance c)

theorem scan_cons_of_none {c : Char} (h : atStart? (c :: s) = none) (p : Position) :
    scan p (c :: s) = scan (p.advance c) s := by
  rw [scan, scanFrom, h]
  rfl

theorem Begins.scan_eq_cons (h : Begins s w b rest) (p : Position) :
    scan p s = (p, written w b, b) :: scan ((written w b).foldl Position.advance p) rest := by
  have hat := h.atStart?_eq
  obtain ⟨t, ht⟩ : ∃ t, written w b = '{' :: t := ⟨_, rfl⟩
  rw [h.eq, ht] at hat ⊢
  rw [List.cons_append] at hat ⊢
  rw [scan, scanFrom, hat]
  exact congrArg _ (scanFrom_append t rest _)

theorem Begins.length_lt (h : Begins s w b rest) : rest.length < s.length := by
  rw [h.eq, List.length_append]
  simp [written]

/-- To go through a text as the scan does: character by character where no comment begins, and over
each comment at once. -/
theorem scan_induction {motive : List Char → Prop} (nil : motive [])
    (plain : ∀ c s, atStart? (c :: s) = none → motive s → motive (c :: s))
    (comment : ∀ s w b rest, Begins s w b rest → motive rest → motive s) (s : List Char) :
    motive s := by
  induction hn : s.length using Nat.strongRecOn generalizing s with
  | _ n ih =>
    cases s with
    | nil => exact nil
    | cons c s =>
      cases hat : atStart? (c :: s) with
      | none => exact plain c s hat (ih s.length (by rw [← hn]; simp) s rfl)
      | some found =>
        obtain ⟨w, rest, -, hbegin⟩ := atStart?_eq_some hat
        exact comment _ w _ rest hbegin (ih rest.length (hn ▸ hbegin.length_lt) rest rfl)

end Scan

def bodies : List Char → List (List Char)
  | [] => []
  | c :: s => (body? (c :: s)).toList ++ bodies s

theorem toOption_read (filename : String) (found : Position × List Char × List Char) :
    (read filename found).toOption.map (fun c => c.directive.barred) = sense found.2.2 := by
  rw [read, sense]
  cases Directive.parse (trim found.2.2) <;> rfl

/-- What comments declare, without places and texts and with every union written with bars. -/
def meanings (cs : List Comment) : List Directive := cs.map fun c => c.directive.barred

section Bodies

variable {s w b rest : List Char}

theorem Begins.opening (h : Begins s w b rest) : ∃ e r, s = '{' :: '#' :: e :: r ∧ e ≠ '}' := by
  rw [h.eq, written]
  cases w with
  | nil => exact ⟨'t', _, rfl, by decide⟩
  | cons e w =>
    refine ⟨e, _, rfl, ?_⟩
    rintro rfl
    exact absurd (h.blank _ List.mem_cons_self) (by decide)

theorem body?_eq_none (h : ∀ e r, s = '{' :: '#' :: e :: r → e = '}') : body? s = none := by
  refine Option.eq_none_iff_forall_ne_some.2 fun b hb => ?_
  obtain ⟨w, rest, hbegin⟩ := body?_eq_some hb
  obtain ⟨e, r, hs, he⟩ := hbegin.opening
  exact he (h e r hs)

theorem bodies_cons {c : Char} (h : c ≠ '{') (s : List Char) : bodies (c :: s) = bodies s := by
  rw [bodies, body?_eq_none fun e r hs => absurd (List.cons.inj hs).1 h]
  rfl

theorem body?_append_close {u : List Char} (hu : '#' ∉ u) (y : List Char) :
    body? (u ++ '#' :: '}' :: y) = none := by
  refine body?_eq_none fun e r hs => ?_
  match u with
  | [] => exact absurd (List.cons.inj hs).1 (by decide)
  | [d] =>
    simp only [List.cons_append, List.nil_append, List.cons.injEq, true_and] at hs
    exact hs.2.1.symm
  | c :: d :: u =>
    simp only [List.cons_append, List.cons.injEq] at hs
    exact absurd (by simp [hs.2.1]) hu

theorem bodies_append_close {u : List Char} (hu : '#' ∉ u) (y : List Char) :
    bodies (u ++ '#' :: '}' :: y) = bodies y := by
  induction u with
  | nil => rw [List.nil_append, bodies_cons (by decide), bodies_cons (by decide)]
  | cons c u ih =>
    have hnone := body?_append_close hu y
    rw [List.cons_append] at hnone
    rw [List.cons_append, bodies, hnone, ih fun hm => hu (List.mem_cons_of_mem _ hm)]
    rfl

theorem Begins.bodies_eq (h : Begins s w b rest) : bodies s = b :: bodies rest := by
  have hs : s = '{' :: '#' :: ((w ++ (keyword ++ b)) ++ '#' :: '}' :: rest) := by
    rw [h.eq]
    simp [written]
  have hno : '#' ∉ w ++ (keyword ++ b) := by
    simp only [List.mem_append, not_or]
    exact ⟨fun hm => absurd (h.blank _ hm) (by decide), by decide, h.unclosed⟩
  have hb := h.body?_eq
  rw [hs] at hb ⊢
  rw [bodies, hb, bodies_cons (by decide), bodies_append_close hno]
  rfl

theorem map_scan (p : Position) (s : List Char) :
    (scan p s).map (fun found => found.2.2) = bodies s := by
  induction s using scan_induction generalizing p with
  | nil => rfl
  | plain c s hat ih =>
    rw [scan_cons_of_none hat, ih, bodies, body?, hat]
    rfl
  | comment s w b rest hbegin ih => rw [hbegin.scan_eq_cons, List.map_cons, ih, hbegin.bodies_eq]

theorem toOption_parseAll (filename content : String) :
    (parseAll filename content).toOption.map meanings = (bodies content.toList).mapM sense := by
  change Option.map (List.map _) _ = _
  rw [parseAll, toOption_mapM, map_mapM, ← map_scan .start, List.mapM_map]
  exact mapM_congr_mem fun found _ => toOption_read filename found

theorem body?_append {u y : List Char}
    (h : ∀ w b, '#' ∉ w ++ b → written w b <+: u ++ y → written w b <+: u) :
    body? (u ++ y) = body? u := by
  refine Option.ext fun b => ⟨fun hb => ?_, fun hb => ?_⟩
  · obtain ⟨w, rest, hbegin⟩ := body?_eq_some hb
    have hno : '#' ∉ w ++ b := by
      simp only [List.mem_append, not_or]
      exact ⟨fun hm => absurd (hbegin.blank _ hm) (by decide), hbegin.unclosed⟩
    obtain ⟨rest', hu⟩ := h w b hno (by rw [hbegin.eq]; exact List.prefix_append _ _)
    exact Begins.body?_eq ⟨hu.symm, hbegin.blank, hbegin.unclosed, hbegin.filled⟩
  · obtain ⟨w, rest, hbegin⟩ := body?_eq_some hb
    have happend : Begins (u ++ y) w b (rest ++ y) :=
      ⟨by rw [hbegin.eq, List.append_assoc], hbegin.blank, hbegin.unclosed, hbegin.filled⟩
    exact happend.body?_eq

theorem bodies_append {x y : List Char} (h : ∀ u, u ≠ [] → u <:+ x → body? (u ++ y) = body? u) :
    bodies (x ++ y) = bodies x ++ bodies y := by
  induction x with
  | nil => rfl
  | cons c x ih =>
    have hc := h (c :: x) (by simp) List.suffix_rfl
    rw [List.cons_append] at hc
    rw [List.cons_append, bodies, bodies, hc,
      ih fun u hu hs => h u hu (hs.trans (List.suffix_cons _ _)), List.append_assoc]

def Open (x : List Char) : Prop :=
  ∃ u, u ≠ [] ∧ u <:+ x ∧ ∃ w b, '#' ∉ w ++ b ∧ u <+: written w b ∧ u ≠ written w b

theorem bodies_append_of_not_open {x : List Char} (hx : ¬ Open x) (y : List Char) :
    bodies (x ++ y) = bodies x ++ bodies y := by
  refine bodies_append fun u hu hs => body?_append fun w b hno hp => ?_
  rcases prefix_append_cases hp with hp | ⟨v, hv, -⟩
  · exact hp
  · by_cases heq : u = written w b
    · rw [heq]
    · exact absurd ⟨u, hu, hs, w, b, hno, by rw [hv]; exact List.prefix_append _ _, heq⟩ hx

theorem bodies_append_of_not_mem {x : List Char} (hx : '{' ∉ x) (y : List Char) :
    bodies (x ++ y) = bodies y := by
  induction x with
  | nil => rfl
  | cons c x ih =>
    rw [List.mem_cons, not_or] at hx
    rw [List.cons_append, bodies_cons (Ne.symm hx.1), ih hx.2]

theorem bodies_unbraced {y : List Char} (hy : '}' ∉ y) : bodies y = [] := by
  induction y with
  | nil => rfl
  | cons c y ih =>
    rw [List.mem_cons, not_or] at hy
    have hnone : body? (c :: y) = none := by
      refine Option.eq_none_iff_forall_ne_some.2 fun b hb => ?_
      obtain ⟨w, rest, hbegin⟩ := body?_eq_some hb
      have hm : '}' ∈ c :: y := by
        rw [hbegin.eq]
        simp [written]
      exact (List.mem_cons.1 hm).elim hy.1 hy.2
    rw [bodies, hnone, ih hy.2]
    rfl

theorem Begins.scan_eq (h : Begins s w b rest) (hr : '}' ∉ rest) (p : Position) :
    ∃ raw, scan p s = [(p, raw, b)] := by
  have hrest (q : Position) : scan q rest = [] := by
    rw [← List.map_eq_nil_iff, map_scan, bodies_unbraced hr]
  exact ⟨written w b, by rw [h.scan_eq_cons, hrest]⟩

theorem bodies_append_unbraced {x y : List Char} (hy : '}' ∉ y) : bodies (x ++ y) = bodies x := by
  have happend : bodies (x ++ y) = bodies x ++ bodies y :=
    bodies_append fun u _ _ => body?_append fun w b _ hp => by
    rcases prefix_append_cases hp with hp | ⟨v, hv, hp⟩
    · exact hp
    · cases hlast : v.getLast? with
      | none =>
        rw [List.getLast?_eq_none_iff.1 hlast, List.append_nil] at hv
        rw [hv]
      | some c =>
        have hc : (written w b).getLast? = some '}' := by
          simp [written, List.getLast?_cons, List.getLast?_append]
        rw [hv, List.getLast?_append, hlast, Option.some_or, Option.some.injEq] at hc
        exact absurd (hp.subset (hc ▸ List.mem_of_getLast? hlast)) hy
  rw [happend, bodies_unbraced hy, List.append_nil]

theorem Begins.bodies_append (h : Begins s w b rest) (x : List Char) :
    bodies (x ++ s) = bodies x ++ bodies s := by
  obtain ⟨e, r, rfl, he⟩ := h.opening
  refine Comment.bodies_append fun u hu _ => body?_append fun w b hno hp => ?_
  rcases prefix_append_cases hp with hp | ⟨v, hv, hp⟩
  · exact hp
  · have hz : '#' ∉ w ++ (keyword ++ b) := by
      simp only [List.mem_append, not_or] at hno ⊢
      exact ⟨hno.1, by decide, hno.2⟩
    have heq : u ++ v = '{' :: '#' :: ((w ++ (keyword ++ b)) ++ '#' :: ['}']) := by
      rw [← hv]
      simp [written]
    generalize w ++ (keyword ++ b) = z at hz heq
    obtain ⟨t, ht⟩ := hp
    match u, v, hu with
    | u, [], _ => rw [hv, List.append_nil]
    | u, [c], _ =>
      have hlast := congrArg List.getLast? heq
      simp [List.getLast?_cons, List.getLast?_append] at hlast ht
      exact absurd (hlast.symm.trans ht.1) (by decide)
    | [a], c :: d :: v, _ =>
      simp only [List.cons_append, List.nil_append, List.cons.injEq] at heq ht
      exact absurd (heq.2.1.symm.trans ht.1) (by decide)
    | a :: a' :: u, c :: d :: v, _ =>
      -- the sign that opens the comment would have to close the earlier one
      simp only [List.cons_append, List.cons.injEq] at heq ht
      obtain ⟨rfl, rfl, htail⟩ := ht
      have hrest : (u ++ ['{']) ++ '#' :: v = z ++ '#' :: ['}'] := by simpa using heq.2.2
      have hsuffix : v <:+ ['}'] := suffix_of_append_cons hz hrest
      cases v with
      | nil =>
        have hlast := congrArg List.getLast? hrest
        simp at hlast
      | cons f v =>
        rw [List.cons_append, List.cons.injEq] at htail
        exact absurd (htail.1.symm.trans (by simpa using hsuffix.subset List.mem_cons_self)) he

end Bodies

section Lines

variable {ls ms : List (List Char)}

theorem bodies_unlines_append (hne : ls ≠ []) {es : List (List Char)} (he : ∀ e ∈ es, e = []) :
    bodies (unlines (ls ++ es)) = bodies (unlines ls) := by
  induction es generalizing ls with
  | nil => rw [List.append_nil]
  | cons e es ih =>
    have hconcat : ls ++ [e] ≠ [] := by simp
    rw [← List.singleton_append, ← List.append_assoc, ih hconcat fun d hd => he d (by simp [hd]),
      he e (by simp), unlines_concat hne]
    exact bodies_append_unbraced (by decide)

theorem bodies_unlines_of_le (hne : ls ≠ []) (hle : ls.length ≤ ms.length)
    (h : ∀ k : Nat, (ls[k]?).getD [] = (ms[k]?).getD []) :
    bodies (unlines ms) = bodies (unlines ls) := by
  have hsplit : ms = ls ++ ms.drop ls.length := by
    refine List.ext_getElem? fun k => ?_
    rcases Nat.lt_or_ge k ls.length with hk | hk
    · have := h k
      rw [List.getElem?_append_left hk]
      rw [List.getElem?_eq_getElem hk, List.getElem?_eq_getElem (by omega)] at this ⊢
      simpa [eq_comm] using this
    · rw [List.getElem?_append_right hk, List.getElem?_drop]
      congr 1
      omega
  rw [hsplit]
  refine bodies_unlines_append hne fun e he => ?_
  obtain ⟨k, hk⟩ := List.mem_iff_getElem?.1 he
  have := h (ls.length + k)
  rw [List.getElem?_drop] at hk
  simpa [hk, eq_comm] using this

theorem bodies_congr {s t : List Char} (hs : LineFed s) (ht : LineFed t)
    (h : ∀ k, lineAt s k = lineAt t k) :
    bodies s = bodies t := by
  obtain ⟨ls, hl, hls, rfl⟩ := hs.exists_lines
  obtain ⟨ms, hm, hms, rfl⟩ := ht.exists_lines
  simp only [lineAt_unlines hls, lineAt_unlines hms] at h
  rcases Nat.le_total ls.length ms.length with hle | hle
  · exact (bodies_unlines_of_le hl hle h).symm
  · exact bodies_unlines_of_le hm hle fun k => (h k).symm

end Lines

end TypedTemplate.Comment
