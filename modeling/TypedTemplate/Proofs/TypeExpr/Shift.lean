import TypedTemplate.Proofs.TypeExpr.Weight

/-! Moving the first closing bracket of a type to its end, as it happens when a union around the
type loses its own bracket. The type means the same afterwards exactly if nothing but closing
brackets and blanks stood behind it. -/
namespace TypedTemplate.TypeExpr
open Text

def Closing (s : List Char) : Prop := ∀ c ∈ s, c = ']' ∨ isBlank c = true

theorem closing_append {a b : List Char} : Closing (a ++ b) ↔ Closing a ∧ Closing b := by
  simp [Closing, or_imp, forall_and]

theorem closing_blank {b : List Char} (h : ∀ c ∈ b, isBlank c = true) :
    Closing b := fun c hc => .inr (h c hc)

theorem not_closing_of_comma {s : List Char} (h : ',' ∈ s) : ¬ Closing s := fun hs =>
  absurd (hs ',' h) (by decide)

/-- A text cut at its first closing bracket: what opens, blanks before the bracket, and what
follows. -/
structure Split (x q e q' : List Char) : Prop where
  eq : x = q ++ (e ++ ']' :: q')
  opens : '[' ∈ q
  unclosed : ']' ∉ q
  blank : ∀ c ∈ e, isBlank c = true

/-- Without the blanks and with the closing bracket at the end, the text reads as before exactly if
all that follows the bracket closes. -/
def Shifts (t : TypeExpr) (x : List Char) : Prop :=
  ∀ q e q' b, Split x q e q' → (∀ c ∈ b, isBlank c = true) →
    (ReadsAs (q ++ (q' ++ (b ++ [']']))) t ↔ Closing q')

theorem bracket_not_mem_blank {b : List Char} (h : ∀ c ∈ b, isBlank c = true) {c : Char}
    (hc : isBlank c = false) :
    c ∉ b := fun hm => by simp [h c hm] at hc

theorem readsAs_append_blank {s b : List Char} {t : TypeExpr} (h : ∀ c ∈ b, isBlank c = true) :
    ReadsAs (s ++ b) t ↔ ReadsAs s t := by
  rw [← readsAs_trim, trim_append_blank h, readsAs_trim]

theorem readsAs_blank_append {s b : List Char} {t : TypeExpr} (h : ∀ c ∈ b, isBlank c = true) :
    ReadsAs (b ++ s) t ↔ ReadsAs s t := by
  rw [← readsAs_trim, trim_blank_append h, readsAs_trim]

theorem Shifts.of_trim {t : TypeExpr} {x : List Char} (h : Shifts t (trim x)) : Shifts t x := by
  intro q e q' b hs hb
  obtain ⟨a, d, hx, ha, hd⟩ := exists_eq_trim x
  have hsplit := hs.eq
  rw [hx] at hsplit
  rcases List.append_eq_append_iff.1 hsplit with ⟨q₀, rfl, hrest⟩ | ⟨z, hz, -⟩
  · have hq₀ : '[' ∈ q₀ :=
      (List.mem_append.1 hs.opens).resolve_left (bracket_not_mem_blank ha (by decide))
    have hu : ']' ∉ q₀ := fun hm => hs.unclosed (by simp [hm])
    have hlast : trim x ++ d = (q₀ ++ (e ++ [']'])) ++ q' := by simpa using hrest
    obtain ⟨q₁, ht, rfl⟩ : ∃ q₁, trim x = (q₀ ++ (e ++ [']'])) ++ q₁ ∧ q' = q₁ ++ d := by
      rcases List.append_eq_append_iff.1 hlast with ⟨z, hz, rfl⟩ | ⟨z, hz, hz'⟩
      · obtain rfl | ⟨z, c, rfl⟩ := List.eq_nil_or_concat z
        · exact ⟨[], by simpa using hz.symm, by simp⟩
        · have hc : c = ']' := by
            have := congrArg List.getLast? hz
            simpa [List.getLast?_append, List.getLast?_cons, eq_comm] using this
          exact absurd (hd c (by simp)) (by rw [hc]; decide)
      · exact ⟨z, hz, hz'⟩
    have hkey := h q₀ e q₁ (d ++ b) ⟨by simpa using ht, hq₀, hu, hs.blank⟩ (by
      intro c hc
      rcases List.mem_append.1 hc with hc | hc
      · exact hd c hc
      · exact hb c hc)
    rw [List.append_assoc, readsAs_blank_append ha, closing_append, and_iff_left (closing_blank hd),
      ← hkey]
    simp
  · exact absurd (ha '[' (by rw [hz]; simp [hs.opens])) (by decide)

theorem Split.exists_trim {x u v : List Char} (h : Split x u [] v) :
    ∃ b e, Split x (b ++ trim u) e v ∧ ∀ c ∈ b, isBlank c = true := by
  obtain ⟨b, e, hu, hb, he⟩ := exists_eq_trim u
  refine ⟨b, e, ⟨?_, ?_, fun hm => h.unclosed ?_, he⟩, hb⟩
  · have hx := h.eq
    rw [List.nil_append] at hx
    conv at hx => rhs; rw [hu]
    simpa using hx
  · have ho := h.opens
    rw [hu, ← List.append_assoc] at ho
    exact (List.mem_append.1 ho).resolve_right (bracket_not_mem_blank he (by decide))
  · rw [hu, ← List.append_assoc]
    exact List.mem_append_left _ hm

theorem bracketed_split {base inner q e q' : List Char} (hb : Plain base)
    (h : Split (bracketed base inner) q e q') :
    ∃ q₁, q = base ++ '[' :: q₁ ∧
      ((inner = q₁ ++ e ∧ q' = []) ∨ ∃ r, inner = q₁ ++ (e ++ ']' :: r) ∧ q' = r ++ [']']) := by
  obtain ⟨a, q₁, rfl, ha⟩ := List.eq_append_cons_of_mem h.opens
  have heq := h.eq
  rw [bracketed, List.append_assoc, List.cons_append] at heq
  obtain ⟨rfl, hrest⟩ := append_cons_inj (fun hm => absurd (hb '[' hm) (by decide)) ha heq
  refine ⟨q₁, rfl, ?_⟩
  obtain rfl | ⟨r, c, rfl⟩ := List.eq_nil_or_concat q'
  · refine .inl ⟨?_, rfl⟩
    rw [← List.append_assoc] at hrest
    exact List.append_cancel_right hrest
  · rw [List.concat_eq_append] at hrest ⊢
    have hcat : inner ++ [']'] = (q₁ ++ (e ++ ']' :: r)) ++ [c] := by simpa using hrest
    obtain ⟨hi, hc⟩ := List.append_inj' hcat rfl
    rw [List.cons.injEq] at hc
    exact .inr ⟨r, hi, by rw [hc.1]⟩

theorem forall₂_concat_iff {α β : Type} {R : α → β → Prop} {l : List α} {m : List β} {x : α}
    {y : β} :
    List.Forall₂ R (l ++ [x]) (m ++ [y]) ↔ List.Forall₂ R l m ∧ R x y := by
  rw [← List.forall₂_reverse_iff, List.reverse_append, List.reverse_append]
  simp [List.forall₂_reverse_iff, and_comm]

theorem forall₂_args {as : List Arg} (h : ∀ a ∈ as, Spelled a.type (trim a.text)) :
    List.Forall₂ ReadsAs ((as.map Arg.text).map trim) (as.map Arg.type) := by
  rw [List.map_map, List.forall₂_map_left_iff, List.forall₂_map_right_iff, List.forall₂_same]
  exact fun a ha => readsAs_spelling (.single (h a ha))

theorem Spelled.open_mem {t : TypeExpr} {x w v : List Char} (h : Spelled t (trim x))
    (hx : x = w ++ ']' :: v) : '[' ∈ w := by
  have hnest := nested_of_trim h.nested
  have hchar := isTypeChar_of_trim h.isTypeChar
  rw [hx] at hnest hchar
  have hpos := hnest.depthOf_pos (z := []) List.nil_prefix
  rw [List.append_nil, depthOf_eq_count fun c hc => hchar c (by simp [hc])] at hpos
  exact List.count_pos_iff.1 (by omega)

section Args

variable {as : List Arg} {q e q' b : List Char}

theorem joined_split (ha : ∀ a ∈ as, Spelled a.type (trim a.text))
    (h : joined as = q ++ (e ++ ']' :: q')) (hq : ']' ∉ q) (he : ∀ c ∈ e, isBlank c = true) :
    ∃ init a post u v, as = init ++ a :: post ∧ Split a.text u e v ∧
      q = lead (init.map Arg.text) ++ u ∧ q' = [','].intercalate (v :: post.map Arg.text) := by
  have hopen :
      ']' ∉ q ++ e := by simp [hq, bracket_not_mem_blank he (show isBlank ']' = false by decide)]
  rw [joined, ← List.append_assoc] at h
  obtain ⟨_, w, v, _, hps, hlead, hq'⟩ := intercalate_eq_append (by decide) hopen h
  obtain ⟨init, rest, rfl, rfl, hrest⟩ := List.map_eq_append_iff.1 hps
  obtain ⟨a, post, rfl, hatext, rfl⟩ := List.map_eq_cons_iff.1 hrest
  have hw : '[' ∈ w := (ha a (by simp)).open_mem hatext
  rcases List.append_eq_append_iff.1 hlead with ⟨z, hz, hz'⟩ | ⟨u, hu, rfl⟩
  · exact absurd (he '[' (by rw [hz']; simp [hw])) (by decide)
  · refine ⟨init, a, post, u, v, rfl, ⟨by rw [hatext, List.append_assoc], ?_, ?_, he⟩, hu, hq'⟩
    · exact (List.mem_append.1 hw).resolve_right (bracket_not_mem_blank he (by decide))
    · exact fun hm => hq (by simp [hu, hm])

theorem forall₂_shift_iff {init post : List Arg} {a : Arg} {u v x : List Char}
    (ha : ∀ c ∈ init ++ a :: post, Spelled c.type (trim c.text)) (ih : Shifts a.type (trim a.text))
    (hs : Split a.text u e v) (hq' : q' = [','].intercalate (v :: post.map Arg.text))
    (hx : ReadsAs x a.type ↔ ReadsAs (u ++ (q' ++ [']'])) a.type) :
    List.Forall₂ ReadsAs ((init.map Arg.text).map trim ++ [x]) ((init ++ a :: post).map Arg.type) ↔
      Closing q' := by
  cases post with
  | nil =>
    obtain rfl : q' = v := by simpa using hq'
    have hlast : q' ++ [']'] = q' ++ ([] ++ [']']) := rfl
    rw [List.map_append, List.map_cons, List.map_nil, forall₂_concat_iff, hx, hlast,
      ih.of_trim _ _ _ _ hs (by simp)]
    exact and_iff_right (forall₂_args fun c hc => ha c (by simp [hc]))
  | cons c post =>
    refine iff_of_false (fun hf => ?_) (not_closing_of_comma ?_)
    · have := hf.length_eq
      simp at this
    · rw [hq', List.map_cons, List.intercalate_cons_of_ne_nil (by simp)]
      simp

theorem shifts_args (ha : ∀ a ∈ as, Spelled a.type (trim a.text))
    (ih : ∀ a ∈ as, Shifts a.type (trim a.text))
    (h : joined as = q ++ (e ++ ']' :: q')) (hq : ']' ∉ q) (he : ∀ c ∈ e, isBlank c = true)
    (hb : ∀ c ∈ b, isBlank c = true) :
    List.Forall₂ ReadsAs (splitArgs (q ++ (q' ++ ']' :: b))) (as.map Arg.type) ↔ Closing q' := by
  obtain ⟨init, a, post, u, v, rfl, hs, rfl, hq'⟩ := joined_split ha h hq he
  have hpart {c : Arg} (hc : c ∈ init ++ a :: post) : Part c.text := part_of_trim (ha c hc).part
  have hnest : Nested ((u ++ e) ++ ']' :: q') := by
    have hj : Nested (joined (a :: post)) :=
      nested_joined fun c hc => (ha c (by simp [List.mem_cons.1 hc])).nested
    have hcut := intercalate_append_cons [','] (u ++ (e ++ [']'])) v (post.map Arg.text)
    have htext : a.text = u ++ (e ++ [']']) ++ v := by rw [hs.eq]; simp
    rw [joined, List.map_cons, htext, hcut, ← hq'] at hj
    simpa using hj
  have hdepth : depthOf 0 (u ++ e) = depthOf 0 u := by
    rw [depthOf_append, (nested_of_plain fun c hc => isPlain_of_isBlank (he c hc)).depthOf_eq]
  have hsealed : Sealed ',' 0 (u ++ (q' ++ ']' :: b)) := by
    have ha' := (hpart (c := a) (by simp)).isSealed
    rw [hs.eq, sealed_append] at ha'
    rw [sealed_append, sealed_append]
    refine ⟨ha'.1, sealed_of_pos fun z hz => ?_, sealed_of_not_mem ?_ _⟩
    · have := hnest.depthOf_pos hz
      rwa [depthOf_append, hdepth] at this
    · simp [bracket_not_mem_blank hb (show isBlank ',' = false by decide)]
  have hfilled : trim (u ++ (q' ++ ']' :: b)) ≠ [] :=
    trim_ne_nil_of_mem (c := ']') (by decide) (by simp)
  have hlast : u ++ (q' ++ ']' :: b) = u ++ (q' ++ [']']) ++ b := by simp
  rw [List.append_assoc, splitArgs_lead (fun p hp => ?_) hsealed hfilled]
  · exact forall₂_shift_iff ha (ih a (by simp)) hs hq'
      (by rw [readsAs_trim, hlast, readsAs_append_blank hb])
  · obtain ⟨c, hc, rfl⟩ := List.mem_map.1 hp
    exact hpart (by simp [hc])

end Args

theorem bar_absent_bracketed {base inner : List Char} (hb : Plain base) (hi : '|' ∉ inner) :
    ¬ bar <:+: bracketed base inner := by
  refine bar_absent fun hm => ?_
  simp only [bracketed, List.mem_append, List.mem_cons, List.not_mem_nil, or_false] at hm
  rcases hm with hm | hm | hm | hm
  · exact absurd (hb '|' hm) (by decide)
  · exact absurd hm (by decide)
  · exact hi hm
  · exact absurd hm (by decide)

theorem shifts_of_inner {base inner : List Char} {t : TypeExpr} (hb : Plain base)
    (hbar : '|' ∉ inner)
    (hfirst : ∀ x, ']' ∉ inner → trim x = trim inner → '|' ∉ x → ReadsAs (bracketed base x) t)
    (hlater : ∀ q e r b, inner = q ++ (e ++ ']' :: r) → ']' ∉ q → (∀ c ∈ e, isBlank c = true) →
      (∀ c ∈ b, isBlank c = true) → '|' ∉ q ++ (r ++ ']' :: b) →
      (ReadsAs (bracketed base (q ++ (r ++ ']' :: b))) t ↔ Closing r)) :
    Shifts t (bracketed base inner) := by
  intro q e q' b hs hblank
  have hb' : '|' ∉ b := bracket_not_mem_blank hblank (by decide)
  obtain ⟨q₁, rfl, ⟨rfl, rfl⟩ | ⟨r, rfl, rfl⟩⟩ := bracketed_split hb hs
  · have heq : base ++ '[' :: q₁ ++ ([] ++ (b ++ [']'])) = bracketed base (q₁ ++ b) := by
      simp [bracketed]
    have hq₁ : ']' ∉ q₁ ++ e := by
      have := hs.unclosed
      simp only [List.mem_append, List.mem_cons, not_or] at this ⊢
      exact ⟨this.2.2, bracket_not_mem_blank hs.blank (by decide)⟩
    rw [heq, iff_true_intro (show Closing [] by simp [Closing]), iff_true]
    refine hfirst _ hq₁ (by rw [trim_append_blank hblank, trim_append_blank hs.blank]) ?_
    simp only [List.mem_append, not_or] at hbar ⊢
    exact ⟨hbar.1, hb'⟩
  · have heq : base ++ '[' :: q₁ ++ (r ++ [']'] ++ (b ++ [']'])) = bracketed base
      (q₁ ++ (r ++ ']' :: b)) := by
      simp [bracketed]
    rw [heq, closing_append, and_iff_left (show Closing [']'] by simp [Closing])]
    refine hlater q₁ e r b rfl (fun hm => hs.unclosed (by simp [hm])) hs.blank hblank ?_
    simp only [List.mem_append, List.mem_cons, not_or] at hbar ⊢
    exact ⟨hbar.1, hbar.2.2.2, by decide, hb'⟩

theorem shifts_bracketed {base : List Char} {as : List Arg} {t : TypeExpr} (hb : Plain base)
    (ha : ∀ a ∈ as, Spelled a.type (trim a.text)) (ih : ∀ a ∈ as, Shifts a.type (trim a.text))
    (hread : ∀ inner, '|' ∉ inner →
      (ReadsAs (bracketed base inner) t ↔
        List.Forall₂ ReadsAs (splitArgs inner) (as.map Arg.type))) :
    Shifts t (bracketed base (joined as)) := by
  have hbar : '|' ∉ joined as := fun hm =>
    absurd (isTypeChar_of_joined (fun a hm => (ha a hm).isTypeChar) '|' hm) (by decide)
  refine shifts_of_inner hb hbar (fun x _ hx hbx => ?_) fun q e r b h hq he hbl hbx => ?_
  · have hargs := splitArgs_joined ha
    rw [← hx, splitArgs_trim] at hargs
    rw [hread x hbx, hargs]
    simpa using forall₂_args ha
  · rw [hread _ hbx, shifts_args ha ih h hq he hbl]

theorem not_readsAs_callable {base q e r b : List Char} {t : TypeExpr} (hb : Base base)
    (hc : isCallable (trim base) = true) (hn : Nested (q ++ (e ++ ']' :: r)))
    (hchar : ∀ c ∈ q ++ (e ++ ']' :: r), isTypeChar c = true) (hq : ']' ∉ q)
    (he : ∀ c ∈ e, isBlank c = true)
    (hbl : ∀ c ∈ b, isBlank c = true) : ¬ ReadsAs (bracketed base (q ++ (r ++ ']' :: b))) t := by
  have hbar : '|' ∉ q ++ (r ++ ']' :: b) := by
    have hbarb : '|' ∉ b := bracket_not_mem_blank hbl (by decide)
    have hbart {c : Char} (h : c ∈ q ++ (e ++ ']' :: r)) : c ≠ '|' := by
      rintro rfl
      exact absurd (hchar _ h) (by decide)
    simp only [List.mem_append, List.mem_cons, not_or]
    exact ⟨fun h => hbart (by simp [h]) rfl, fun h => hbart (by simp [h]) rfl, by decide, hbarb⟩
  intro h
  obtain ⟨as, res, hparts, hread⟩ :=
    callableParts_of_readsAs hb hc (bar_absent_bracketed hb.plain hbar) h
  obtain ⟨before, params, hin, hbefore, htexts, -⟩ := callableParts?_eq_some hparts
  obtain ⟨a, d, hinner, ha, hd⟩ := exists_eq_trim (q ++ (r ++ ']' :: b))
  -- the text up to the bracket that ends the parameters has another one to close
  obtain ⟨z, hz, hzr⟩ : ∃ z, a ++ (before ++ [']']) = q ++ z ∧ z <+: r := by
    rw [hin] at hinner
    have hcut : q ++ r ++ ']' :: b = a ++ (before ++ [']']) ++ (',' :: ' ' :: (res ++ d)) := by
      simpa [paramsEnd] using hinner
    have hpre : a ++ (before ++ [']']) <+: q ++ r := by
      rcases List.append_eq_append_iff.1 hcut with ⟨w, hw, hrest⟩ | ⟨w, hw, -⟩
      · have hcomma : ',' ∈ ']' :: b := by rw [hrest]; simp
        exact absurd (List.mem_cons.1 hcomma) (by
          simp [bracket_not_mem_blank hbl (show isBlank ',' = false by decide)])
      · exact ⟨w, hw.symm⟩
    rcases prefix_append_cases hpre with hp | ⟨z, hz, hzr⟩
    · exact absurd (hp.subset (by simp)) hq
    · exact ⟨z, hz, hzr⟩
  have hpos := @Nested.depthOf_pos (q ++ e) r z (by simpa using hn) hzr
  have hdepth : depthOf 0 (q ++ e ++ z) = depthOf 0 (q ++ z) := by
    rw [depthOf_append, depthOf_append, depthOf_append,
      (nested_of_plain fun c hc => isPlain_of_isBlank (he c hc)).depthOf_eq]
  have hzchar : ∀ c ∈ q ++ z, isTypeChar c = true := by
    intro c hc
    refine hchar c ?_
    rcases List.mem_append.1 hc with hc | hc
    · simp [hc]
    · simp [hzr.subset hc]
  rw [hdepth, depthOf_eq_count hzchar, ← hz] at hpos
  have hopen := count_trim (show isBlank '[' = false by decide) before
  have hclose := count_trim (show isBlank ']' = false by decide) before
  have hbal : ∀ c ∈ as, Balanced (trim c.text) c.type := fun c hc => by
    refine (readsAs_trim.2 (hread c hc)).balanced (bar_absent fun hm => hbar ?_)
    rw [trim_trim] at hm
    have hin := (infix_of_callableParts hparts).1 c.text (List.mem_map_of_mem hc)
    exact ((trim_isInfix _).trans (hin.trans (trim_isInfix _))).subset hm
  have hle := (weightAll_args hbal).2
  rw [htexts, sum_count_splitArgs (by decide) (by decide),
    sum_count_splitArgs (by decide) (by decide)] at hle
  rw [hbefore] at hopen hclose
  simp [List.count_eq_zero.2 (bracket_not_mem_blank ha (show isBlank '[' = false by decide)),
    List.count_eq_zero.2 (bracket_not_mem_blank ha (show isBlank ']' = false by decide))]
      at hpos hopen hclose
  omega

theorem Spelled.shifts {t : TypeExpr} {x : List Char} (h : Spelled t x) : Shifts t x := by
  induction h with
  | name hp ht hne =>
    intro q e q' b hs _
    have hm := hp '[' (by rw [hs.eq]; simp [hs.opens])
    exact absurd hm (by decide)
  | generic hb hu ho hc hne ha ih =>
    exact shifts_bracketed hb.plain ha ih fun inner hi =>
      readsAs_generic_iff hb hu ho hc (bar_absent_bracketed hb.plain hi)
  | union hne ha ih =>
    exact shifts_bracketed (by decide) ha ih fun inner hi => readsAs_union_iff
      (bar_absent_bracketed (by decide) hi)
  | @optional a ha ih =>
    have hbar : '|' ∉ a.text :=
      fun hm => absurd (isTypeChar_of_trim ha.isTypeChar '|' hm) (by decide)
    refine shifts_of_inner (by decide) hbar (fun x _ hx hbx => ?_) fun q e r b h hq he hbl hbx => ?_
    · rw [readsAs_optional_iff (bar_absent_bracketed (by decide) hbx), ← readsAs_trim, hx]
      exact readsAs_spelling (.single ha)
    · have ho : '[' ∈ q := by
        have := ha.open_mem (h.trans (List.append_assoc q e _).symm)
        exact (List.mem_append.1 this).resolve_right (bracket_not_mem_blank he (by decide))
      have heq : q ++ (r ++ ']' :: b) = q ++ (r ++ ([] ++ [']'])) ++ b := by simp
      rw [readsAs_optional_iff (bar_absent_bracketed (by decide) hbx), heq,
        readsAs_append_blank hbl, ih.of_trim q e r [] ⟨h, ho, hq, he⟩ (by simp)]
  | @callable base ps r hb hc hend hps hr ihp ihr =>
    have hw := Spelled.callable hb hc hend hps hr
    have hchar : ∀ c ∈ signature ps r, TypeExpr.isTypeChar c = true := fun c hm =>
      hw.isTypeChar c ((infix_bracketed base _).subset hm)
    have hnest := nested_signature (nested_joined fun a hm => (hps a hm).nested) hr.nested
    refine shifts_of_inner hb.plain (fun hm => absurd (hchar '|' hm) (by decide)) (fun x hno => ?_)
      fun q e r' b h hq he hbl hbx => ?_
    · exact absurd (by simp [signature, paramsEnd]) hno
    · rw [h] at hchar hnest
      refine iff_of_false (not_readsAs_callable hb hc hnest hchar hq he hbl)
        (not_closing_of_comma ?_)
      have hcut : ('[' :: joined ps) ++ ']' :: (',' :: ' ' :: r.text) = q ++ e ++ ']' :: r' := by
        simpa [signature, paramsEnd] using h
      have hopen : ']' ∉ q ++ e := by
        simp [hq, bracket_not_mem_blank he (show isBlank ']' = false by decide)]
      exact (suffix_of_append_cons hopen hcut).subset (by simp)

end TypedTemplate.TypeExpr
