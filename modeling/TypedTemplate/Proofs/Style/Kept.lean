import TypedTemplate.Proofs.Style.Union
import TypedTemplate.Proofs.TypeExpr.Shift

/-! Which types keep their meaning when a union in them is spelled with bars. The search ends a
union at its first closing bracket and bars bind less than brackets, so the union has to begin the
type and nothing but closing brackets may follow it. -/
namespace TypedTemplate.Style
open Text TypeExpr

/-- The union can be spelled with bars in its place in the type. -/
structure Kept (old s : List Char) : Prop where
  isStart : old <+: s
  closing : Closing (s.drop old.length)
  whole : optionalHead <+: old → s = old
  bars : bar <:+: withBars old

section Count

variable {head old inner s : List Char}

theorem Closes.count_open (hh : head ∈ heads) (h : Closes head old inner) :
    old.count '[' = 1 + inner.count '[' := by
  have hcount : ∀ d ∈ heads, d.count '[' = 1 := by decide
  rw [h.eq, List.count_append, List.count_append, hcount head hh]
  simp

theorem count_open_withBars (hh : head ∈ heads) (h : Closes head old inner) :
    (withBars old).count '[' = inner.count '[' := by
  simp only [heads, List.mem_cons, List.not_mem_nil, or_false] at hh
  rcases hh with rfl | rfl
  · rw [withBars_optional h, List.count_append]
    rfl
  · rw [withBars_union h, count_intercalate, sum_count_splitTrimmed (by decide) (by decide)]
    rfl

theorem count_open_replace (hh : head ∈ heads) (h : Closes head old inner) (s : List Char) :
    (replace old (withBars old) s).count '[' + ((pieces old s).length - 1) = s.count '[' := by
  have hs := congrArg (List.count '[') (intercalate_pieces old s)
  rw [count_intercalate, h.count_open hh] at hs
  rw [replace, count_intercalate, count_open_withBars hh h, ← hs, Nat.mul_add]
  omega

end Count

theorem spelling_weight {t : TypeExpr} {s : List Char} (h : Spelling t s) :
    (Spelled t s ∧ t.weight = s.count '[') ∨ t.weight = 1 + s.count '[' := by
  have hr := readsAs_spelling h
  cases h with
  | single h =>
    refine .inl ⟨h, (hr.balanced (bar_absent fun hm => ?_)).weight_eq⟩
    exact h.not_mem (c := '|') (by decide) ((trim_isInfix s).subset hm)
  | bars hlen ht ha =>
    refine .inr (hr.weight_bars ?_)
    rw [trim_eq_self ht]
    exact bar_infix_intercalate (by simpa using hlen)

theorem spelled_of_readsAs {t : TypeExpr} {s head old inner : List Char} (h : Spelling t s)
    (hh : head ∈ heads)
    (hc : Closes head old inner) (ho : old <:+: s) (hr : ReadsAs (replace old (withBars old) s) t) :
    Spelled t s ∧ bar <:+: trim (replace old (withBars old) s) ∧ (pieces old s).length = 2 := by
  have hcount := count_open_replace hh hc s
  have hlen := two_le_length_pieces (by simp [hc.eq]) ho
  by_cases hbar : bar <:+: trim (replace old (withBars old) s)
  · have hw := hr.weight_bars hbar
    rcases spelling_weight h with ⟨h, hs⟩ | hs
    · exact ⟨h, hbar, by omega⟩
    · omega
  · have hw := (hr.balanced hbar).weight_eq
    rcases spelling_weight h with ⟨-, hs⟩ | hs <;> omega

section Start

variable {old inner rest : List Char} {raw : String} {style : UnionStyle}

theorem bar_eq : " | ".toList = bar := rfl

theorem unionHead_append (s : List Char) : unionHead ++ s = unionName ++ '[' :: s := rfl

theorem optionalHead_append (s : List Char) : optionalHead ++ s = optionalName ++ '[' :: s := rfl

theorem inner_cases {x : List Char} (h : x ++ [']'] = inner ++ ']' :: rest) :
    (x = inner ∧ rest = []) ∨ ∃ r, x = inner ++ ']' :: r ∧ rest = r ++ [']'] := by
  obtain rfl | ⟨r, c, rfl⟩ := List.eq_nil_or_concat rest
  · exact .inl ⟨List.append_cancel_right h, rfl⟩
  · rw [List.concat_eq_append] at h ⊢
    have hcat : x ++ [']'] = (inner ++ ']' :: r) ++ [c] := by simpa using h
    obtain ⟨hx, hc⟩ := List.append_inj' hcat rfl
    rw [List.cons.injEq] at hc
    exact .inr ⟨r, hx, by rw [hc.1]⟩

theorem two_le_of_bar {xs : List (List Char)} (hx : ∀ x ∈ xs, '|' ∉ x)
    (h : bar <:+: bar.intercalate xs) :
    2 ≤ xs.length := by
  match xs, h with
  | [], h => simp [bar] at h
  | [x], h => exact absurd (h.trans (by simp)) (bar_absent (hx x (by simp)))
  | _ :: _ :: _, _ => simp

theorem bar_infix_withBars {head : List Char} (hh : head ∈ heads) (hc : Closes head old inner)
    (hi : '|' ∉ inner) (h : '|' ∈ withBars old) : bar <:+: withBars old := by
  simp only [heads, List.mem_cons, List.not_mem_nil, or_false] at hh
  rcases hh with rfl | rfl
  · rw [withBars_optional hc]
    exact (List.prefix_append bar "None".toList).isInfix.trans (List.suffix_append _ _).isInfix
  · rw [withBars_union hc, bar_eq] at h ⊢
    refine bar_infix_intercalate ?_
    rcases hp : splitTrimmed inner with _ | ⟨x, _ | ⟨y, ps⟩⟩
    · simp [hp] at h
    · rw [hp, List.intercalate_singleton] at h
      exact absurd ((infix_of_mem_splitTrimmed (by rw [hp]; simp)).subset h) hi
    · simp

theorem readsAs_union_start {as : List Arg} (ha : ∀ a ∈ as, Spelled a.type (trim a.text))
    (hc : Closes unionHead old inner) (h : bracketed unionName (joined as) = old ++ rest)
    (hbar : bar <:+: withBars old) :
    ReadsAs (withBars old ++ rest) (.union raw style (as.map Arg.type)) ↔ Closing rest := by
  have hchar : ∀ c ∈ joined as, isTypeChar c = true :=
    isTypeChar_of_joined fun a hm => (ha a hm).isTypeChar
  have hbars : '|' ∉ joined as := fun hm => absurd (hchar '|' hm) (by decide)
  have hpart : ∀ p ∈ as.map Arg.text, Part p := fun p hp => by
    obtain ⟨a, hm, rfl⟩ := List.mem_map.1 hp
    exact part_of_trim (ha a hm).part
  rw [hc.eq, bracketed, List.append_assoc, unionHead_append, List.append_cancel_left_eq,
    List.cons.injEq, List.append_assoc, List.singleton_append] at h
  rw [withBars_union hc, bar_eq] at hbar ⊢
  rcases inner_cases h.2 with ⟨rfl, rfl⟩ | ⟨r, hj, rfl⟩
  · have hne : as.map Arg.text ≠ [] := by
      intro h0
      exact hc.inner_ne_nil (by rw [joined, h0]; rfl)
    have htexts : splitTrimmed (joined as) = (as.map Arg.text).map trim :=
      splitTrimmed_intercalate hne hpart
    have hplain : ∀ x ∈ (as.map Arg.text).map trim, '|' ∉ x := fun x hx hm => by
      rw [← htexts] at hx
      exact hbars ((infix_of_mem_splitTrimmed hx).subset hm)
    have htrim := (@trimmed_intercalate bar _ (List.map_eq_nil_iff.not.2 hne) fun p hp => by
      obtain ⟨q, hq, rfl⟩ := List.mem_map.1 hp
      exact ⟨(hpart q hq).not_blank, trimmed_trim q⟩).2
    rw [htexts] at hbar ⊢
    rw [List.append_nil, readsAs_parts_iff (two_le_of_bar hplain hbar) htrim hplain]
    exact iff_of_true (forall₂_args ha) (by simp [Closing])
  · obtain ⟨init, a, post, u, v, rfl, hs, rfl, hr⟩ :=
      joined_split (e := []) ha hj hc.inner_open (by simp)
    obtain ⟨b, e, hs', hb⟩ := hs.exists_trim
    have hu : u ≠ [] := List.ne_nil_of_mem hs.opens
    have hsealed : Sealed ',' 0 u := by
      have := (hpart a.text (by simp)).isSealed
      rw [hs.eq, sealed_append] at this
      exact this.1
    have hinit : ∀ p ∈ init.map Arg.text, Part p :=
      fun p hp => hpart p (by rw [List.map_append]; simp [hp])
    rw [splitTrimmed_lead hinit hsealed hu] at hbar ⊢
    have hfilled : trim u ≠ [] := trim_ne_nil_of_mem (by decide) hs.opens
    have hlast : Trimmed (trim u ++ (r ++ [']'])) :=
      trimmed_append (trimmed_trim u) ⟨by decide, by decide⟩ hfilled (by simp) r
    have hplain (w : List Char) (hw : '|' ∉ w) :
        ∀ x ∈ (init.map Arg.text).map trim ++ [trim u ++ w], '|' ∉ x := by
      intro x hx hm
      rcases List.mem_append.1 hx with hx | hx
      · obtain ⟨p, hp, rfl⟩ := List.mem_map.1 hx
        obtain ⟨c, hc, rfl⟩ := List.mem_map.1 hp
        exact (ha c (by simp [hc])).not_mem (c := '|') (by decide) hm
      · rw [List.mem_singleton.1 hx] at hm
        have hu : '|' ∈ u := (trim_isInfix u).subset ((List.mem_append.1 hm).resolve_right hw)
        exact hbars (by rw [hj]; simp [hu])
    have hlen := two_le_of_bar (by simpa using hplain [] (by simp)) hbar
    have htrim :=
      (@trimmed_intercalate bar ((init.map Arg.text).map trim ++ [trim u ++ (r ++ [']'])]) (by simp)
      fun p hp => ?_).2
    · rw [intercalate_concat_append, readsAs_parts_iff (by simpa using hlen) htrim (hplain _ ?_),
        forall₂_shift_iff ha (ha a (by simp)).shifts hs' hr ?_, closing_append,
        and_iff_left (show Closing [']'] by simp [Closing])]
      · rw [List.append_assoc, readsAs_blank_append hb]
      · intro hm
        rcases List.mem_append.1 hm with hm | hm
        · exact hbars (by rw [hj]; simp [hm])
        · exact absurd hm (by decide)
    · rcases List.mem_append.1 hp with hp | hp
      · obtain ⟨q, hq, rfl⟩ := List.mem_map.1 hp
        exact ⟨(hinit q hq).not_blank, trimmed_trim q⟩
      · rw [List.mem_singleton.1 hp]
        exact ⟨by simp, hlast⟩

theorem trim_of_readsAs_noneType {x : List Char} (h : ReadsAs x noneType) :
    trim x = "None".toList := by
  obtain ⟨u, hu, heq⟩ := h
  have hr := reads_of_parseChars hu
  generalize trim x = y at hr ⊢
  cases hr with
  | name hb hbar =>
    simp only [ofName, noneType, barred, named.injEq, true_and] at heq
    unfold splitName at heq
    split at heq
    · exact absurd heq.2 (by simp)
    · rw [← heq.1, String.toList_ofList]
  | _ => simp [noneType, barred, ofGeneric] at heq

theorem spelled_noneType : Spelled noneType "None".toList :=
  .name (by decide) ⟨by decide, by decide⟩ (by decide)

theorem readsAs_optional_start {a : Arg} (ha : Spelled a.type (trim a.text))
    (hc : Closes optionalHead old inner) (h : bracketed optionalName a.text = old ++ rest) :
    ReadsAs (withBars old ++ rest) (.union raw style [a.type, noneType]) ↔ rest = [] := by
  have hbars : '|' ∉ a.text :=
    fun hm => absurd (isTypeChar_of_trim ha.isTypeChar '|' hm) (by decide)
  rw [hc.eq, bracketed, List.append_assoc, optionalHead_append, List.append_cancel_left_eq,
    List.cons.injEq, List.append_assoc, List.singleton_append] at h
  have hcases := inner_cases h.2
  have hfilled : trim inner ≠ [] := by
    rcases hcases with ⟨rfl, -⟩ | ⟨r, hr, -⟩
    · exact ha.ne_nil
    · exact trim_ne_nil_of_mem (by decide) (ha.open_mem hr)
  have hplain : '|' ∉ inner ∧ '|' ∉ rest := by
    rcases hcases with ⟨rfl, rfl⟩ | ⟨r, hr, rfl⟩
    · exact ⟨hbars, by simp⟩
    · rw [hr] at hbars
      simp only [List.mem_append, List.mem_cons, List.not_mem_nil, or_false, not_or] at hbars ⊢
      exact ⟨hbars.1, hbars.2.2, by decide⟩
  have hnone : Trimmed ("None".toList ++ rest) := by
    rcases hcases with ⟨-, rfl⟩ | ⟨r, -, rfl⟩
    · exact ⟨by decide, by decide⟩
    · exact trimmed_append spelled_noneType.trimmed ⟨by decide, by decide⟩ (by decide) (by simp) r
  obtain ⟨b, e, hi, hb, he⟩ := exists_eq_trim inner
  have heq :
      withBars old ++ rest = b ++ bar.intercalate [trim inner ++ e, "None".toList ++ rest] := by
    rw [withBars_optional hc]
    conv => lhs; rw [hi]
    simp [bar]
  have htrim : Trimmed (bar.intercalate [trim inner ++ e, "None".toList ++ rest]) := by
    have := trimmed_append (trimmed_trim inner) hnone hfilled (by simp) (e ++ bar)
    simpa using this
  rw [heq, readsAs_blank_append hb, readsAs_parts_iff (by simp) htrim ?_]
  · rw [List.forall₂_cons, List.forall₂_cons, readsAs_append_blank he, readsAs_trim]
    rcases hcases with ⟨rfl, rfl⟩ | ⟨r, -, rfl⟩
    · refine iff_of_true ⟨readsAs_trim.1 (readsAs_spelling (.single ha)), ?_, .nil⟩ rfl
      exact readsAs_spelling (.single spelled_noneType)
    · refine iff_of_false (fun hr => ?_) (by simp)
      have := trim_of_readsAs_noneType hr.2.1
      rw [trim_eq_self hnone] at this
      simp at this
  · have hi' : '|' ∉ trim inner ++ e :=
      fun hm => hplain.1 (by rw [hi]; exact List.mem_append_right _ hm)
    simp only [List.mem_cons, List.not_mem_nil, or_false, forall_eq_or_imp, forall_eq]
    refine ⟨hi', fun hm => ?_⟩
    rcases List.mem_append.1 hm with hm | hm
    · exact absurd hm (by decide)
    · exact hplain.2 hm

end Start

theorem prefix_of_append_cons {c : Char} {x y a m b : List Char} (h : x ++ c :: y = a ++ (m ++ b))
    (ha : c ∉ a) (hb : c ∉ b) : ∃ z, x = a ++ z ∧ z <+: m := by
  rcases List.append_eq_append_iff.1 h with ⟨z, rfl, hz⟩ | ⟨z, rfl, hz⟩
  · cases z with
    | nil => exact ⟨[], by simp, List.nil_prefix⟩
    | cons d z =>
      rw [List.cons_append, List.cons.injEq] at hz
      exact absurd (by simp [hz.1]) ha
  · refine ⟨z, rfl, ?_⟩
    rcases List.append_eq_append_iff.1 hz with ⟨w, rfl, hw⟩ | ⟨w, rfl, -⟩
    · exact absurd (by rw [hw]; simp) hb
    · exact List.prefix_append z w

theorem count_le_of_readsAs_bars {a new b : List Char} {t : TypeExpr}
    (h : ReadsAs (a ++ (new ++ b)) t)
    (hbar : bar <:+: trim (a ++ (new ++ b))) (ha : '|' ∉ a) (hb : '|' ∉ b) (hn : ']' ∉ new) :
    a.count '[' ≤ a.count ']' := by
  obtain ⟨raw, style, ts, rfl⟩ := exists_union_of_readsAs hbar h
  rw [readsAs_bars_iff hbar] at h
  cases hc : cut? bar (trim (a ++ (new ++ b))) with
  | none => exact absurd hbar (cut?_eq_none_iff.1 hc)
  | some p =>
    obtain ⟨f, g⟩ := p
    rw [pieces_of_cut? (by decide) hc, List.forall₂_cons_left_iff] at h
    obtain ⟨t, ts, hf, -, -⟩ := h
    have hle :=
      (hf.balanced fun hi => not_infix_of_cut? hc (by decide) (hi.trans (trim_isInfix f))).opens_le
    obtain ⟨d, e, hs, hd, he⟩ := exists_eq_trim (a ++ (new ++ b))
    rw [cut?_eq_append hc] at hs
    -- the bar stands in the new text, so all of `a` stands before it
    obtain ⟨z, hz, hznew⟩ : ∃ z, d ++ (f ++ [' ']) = a ++ z ∧ z <+: new := by
      refine prefix_of_append_cons (c := '|') (y := ' ' :: (g ++ e)) ?_ ha hb
      rw [hs]
      simp [bar]
    have ho := congrArg (List.count '[') hz
    have hcl := congrArg (List.count ']') hz
    have hzc : z.count ']' = 0 := List.count_eq_zero.2 fun hm => hn (hznew.subset hm)
    simp [List.count_eq_zero.2 (bracket_not_mem_blank hd (show isBlank '[' = false by decide)),
      List.count_eq_zero.2 (bracket_not_mem_blank hd (show isBlank ']' = false by decide)), hzc]
        at ho hcl
    omega

theorem count_lt_of_bracketed {root inner a w : List Char} (hr : Plain root) (hn : Nested inner)
    (hchar : ∀ c ∈ inner, isTypeChar c = true) (h : bracketed root inner = a ++ w) (hw : w ≠ [])
    (ha : '[' ∈ a) :
    a.count ']' < a.count '[' := by
  obtain ⟨r, a₁, rfl, hra⟩ := List.eq_append_cons_of_mem ha
  rw [bracketed, List.append_assoc, List.cons_append] at h
  obtain ⟨rfl, hin⟩ := append_cons_inj (fun hm => absurd (hr '[' hm) (by decide)) hra h
  have hpre : a₁ <+: inner := by
    obtain ⟨v, c, rfl⟩ := (List.eq_nil_or_concat w).resolve_left hw
    rw [List.concat_eq_append, ← List.append_assoc] at hin
    exact ⟨v, (List.append_inj' hin rfl).1.symm⟩
  have hdepth := hn.nonneg a₁ hpre
  rw [depthOf_eq_count fun c hc => hchar c (hpre.subset hc)] at hdepth
  have hclose : ']' ∉ root := fun hm => absurd (hr ']' hm) (by decide)
  simp [List.count_eq_zero.2 hclose, List.count_eq_zero.2 hra]
  omega

theorem base_of_bracketed {base head inner w : List Char} (hb : '[' ∉ base) (hh : head ∈ heads)
    (h : bracketed base inner = head ++ w) :
    base = unionName ∧ head = unionHead ∨ base = optionalName ∧ head = optionalHead := by
  simp only [heads, List.mem_cons, List.not_mem_nil, or_false] at hh
  rcases hh with rfl | rfl
  · rw [optionalHead_append] at h
    exact .inr ⟨(append_cons_inj hb (by decide) h).1, rfl⟩
  · rw [unionHead_append] at h
    exact .inl ⟨(append_cons_inj hb (by decide) h).1, rfl⟩

theorem head_of_bracketed {root head inner a w : List Char}
    (hroot : root = unionName ∨ root = optionalName)
    (hh : head ∈ heads) (h : bracketed root inner = a ++ (head ++ w)) (ha : '[' ∉ a) :
    a = [] ∧ head = root ++ ['['] := by
  have names : ∀ d ∈ heads, ∃ n, d = n ++ ['['] ∧ '[' ∉ n ∧ ∀ r ∈ [unionName, optionalName],
    n <:+ r → n = r := by
    intro d hd
    refine ⟨d.dropLast, ?_⟩
    revert d
    decide
  obtain ⟨n, rfl, hn, hsuffix⟩ := names head hh
  have hr : '[' ∉ root := by
    rcases hroot with rfl | rfl <;> decide
  have heq : root ++ '[' :: (inner ++ [']']) = (a ++ n) ++ '[' :: w := by simpa [bracketed] using h
  obtain ⟨rfl, -⟩ := append_cons_inj hr (by simp [ha, hn]) heq
  have := hsuffix (a ++ n) (by simpa using hroot) (List.suffix_append a n)
  obtain rfl : a = [] := by simpa using this
  exact ⟨rfl, rfl⟩

theorem pieces_eq_pair {sep s : List Char} (h : (pieces sep s).length = 2) :
    ∃ a b, s = a ++ (sep ++ b) ∧ ∀ new, replace sep new s = a ++ (new ++ b) := by
  obtain ⟨a, b, hp⟩ := List.length_eq_two.1 h
  have hs := intercalate_pieces sep s
  rw [hp] at hs
  exact ⟨a, b, by simpa using hs.symm, fun new => by simp [replace, hp]⟩

theorem kept_of_readsAs {t : TypeExpr} {s head old inner : List Char} (h : Spelling t s)
    (hh : head ∈ heads)
    (hc : Closes head old inner) (ho : old <:+: s) (hr : ReadsAs (replace old (withBars old) s) t) :
    Kept old s := by
  obtain ⟨hs, hbar, hlen⟩ := spelled_of_readsAs h hh hc ho hr
  obtain ⟨a, b, hab, hrep⟩ := pieces_eq_pair hlen
  rw [hrep] at hr hbar
  have hplain : '|' ∉ s := hs.not_mem (by decide)
  have ha : '|' ∉ a := fun hm => hplain (by rw [hab]; simp [hm])
  have hb : '|' ∉ b := fun hm => hplain (by rw [hab]; simp [hm])
  have hi : '|' ∉ inner := fun hm => hplain (by rw [hab, hc.eq]; simp [hm])
  have hle := count_le_of_readsAs_bars hr hbar ha hb (bracket_not_mem_withBars hh hc)
  have hnew : bar <:+: withBars old := by
    have hm : '|' ∈ a ++ (withBars old ++ b) := ((trim_isInfix _).subset (hbar.subset (by decide)))
    simp only [List.mem_append, ha, hb, or_false, false_or] at hm
    exact bar_infix_withBars hh hc hi hm
  have hstart {root x : List Char} (hroot : root = unionName ∨ root = optionalName)
      (hx : s = bracketed root x)
      (hn : Nested x) (hchar : ∀ c ∈ x, isTypeChar c = true) : a = [] ∧ head = root ++ ['['] := by
    have hplain : Plain root := by
      rcases hroot with rfl | rfl <;> decide
    have hopen : '[' ∉ a := fun hm => by
      have := count_lt_of_bracketed hplain hn hchar (hx.symm.trans hab) (by simp [hc.eq]) hm
      omega
    rw [hx, hc.eq, List.append_assoc] at hab
    exact head_of_bracketed hroot hh hab hopen
  obtain ⟨raw, style, ms, rfl⟩ := exists_union_of_readsAs hbar hr
  cases hs with
  | union hne has =>
    obtain ⟨rfl, rfl⟩ := hstart (.inl rfl) rfl (nested_joined fun c hm => (has c hm).nested)
      (isTypeChar_of_joined fun c hm => (has c hm).isTypeChar)
    rw [List.nil_append] at hab hr
    have hc : Closes unionHead old inner := hc
    have hclosing := (readsAs_union_start has hc hab hnew).1 hr
    refine ⟨⟨b, hab.symm⟩, by rwa [hab, List.drop_left], fun ho => absurd ho ?_, hnew⟩
    rw [hc.eq, optionalHead_eq, unionHead_eq]
    simp
  | optional harg =>
    obtain ⟨rfl, rfl⟩ :=
      hstart (.inr rfl) rfl (nested_of_trim harg.nested) (isTypeChar_of_trim harg.isTypeChar)
    rw [List.nil_append] at hab hr
    have hc : Closes optionalHead old inner := hc
    obtain rfl := (readsAs_optional_start harg hc hab).1 hr
    rw [List.append_nil] at hab
    exact ⟨⟨[], by rw [hab, List.append_nil]⟩, by simp [hab, Closing], fun _ => hab, hnew⟩

theorem Kept.spelled {t : TypeExpr} {s head old inner : List Char} (hk : Kept old s)
    (h : Spelling t s) (hh : head ∈ heads) (hc : Closes head old inner) : Spelled t s := by
  cases h with
  | single h => exact h
  | @bars as hlen ht ha =>
    obtain ⟨rest, hs⟩ := hk.isStart
    match as, hlen with
    | a :: a' :: as, _ =>
      have hfirst := ha a (by simp)
      obtain ⟨y, hy⟩ : ∃ y, bar.intercalate ((a :: a' :: as).map Arg.text) = (a.text ++ [' ']) ++
        '|' :: y := by
        refine ⟨' ' :: bar.intercalate ((a' :: as).map Arg.text), ?_⟩
        rw [List.map_cons, List.intercalate_cons_of_ne_nil (by simp)]
        simp [bar]
      have hclosing := hk.closing
      rw [← hs, List.drop_left] at hclosing
      -- the first bar stands in the union, behind a first member that is closed
      obtain ⟨z, hz, hzold⟩ :=
        prefix_of_append_cons (a := []) (m := old) (b := rest) (by rw [← hy, ← hs]; simp) (by simp)
        fun hm => absurd (hclosing '|' hm) (by decide)
      rw [List.nil_append] at hz
      rw [← hz, hc.eq, ← List.append_assoc, List.prefix_concat_iff] at hzold
      have hopens : a.text ++ [' '] <+: head ++ inner := hzold.resolve_left fun h => by
        have := (List.append_inj' h rfl).2
        simp at this
      have hclose : ']' ∉ a.text := fun hm => by
        have hhead : ∀ d ∈ heads, ']' ∉ d := by decide
        have hm := hopens.subset (List.mem_append_left _ hm)
        exact (List.mem_append.1 hm).elim (hhead head hh) hc.inner_open
      have hopen : '[' ∉ a.text := by
        have hdepth := (nested_of_trim hfirst.nested).closed
        rw [depthOf_eq_count (isTypeChar_of_trim hfirst.isTypeChar), List.count_eq_zero.2 hclose]
          at hdepth
        exact List.count_eq_zero.1 (by omega)
      rcases prefix_append_cases hopens with h | ⟨v, h, -⟩
      · have hblank : ∀ d ∈ heads, ' ' ∉ d := by decide
        exact absurd (h.subset (by simp)) (hblank head hh)
      · have hbracket : ∀ d ∈ heads, '[' ∈ d := by decide
        have hm : '[' ∈ a.text ++ [' '] := by
          rw [h]
          exact List.mem_append_left _ (hbracket head hh)
        simp [hopen] at hm

theorem Kept.exists_rest {s old : List Char} (hk : Kept old s) :
    ∃ rest, s = old ++ rest ∧ Closing rest := by
  obtain ⟨rest, rfl⟩ := hk.isStart
  exact ⟨rest, rfl, by simpa using hk.closing⟩

theorem Closes.open_mem {head old inner : List Char} (hh : head ∈ heads)
    (hc : Closes head old inner) : '[' ∈ old :=
  List.count_pos_iff.1 (by rw [hc.count_open hh]; omega)

theorem replace_start {head old inner rest new : List Char} (hh : head ∈ heads)
    (hc : Closes head old inner)
    (hr : Closing rest) : replace old new (old ++ rest) = new ++ rest := by
  have habsent : ¬ old <:+: rest :=
    fun ho => absurd (hr '[' (ho.subset (hc.open_mem hh))) (by decide)
  rw [replace_of_cut? (by simp [hc.eq]) (cut?_self (by simp [hc.eq])), List.nil_append,
    replace_of_absent habsent]

theorem readsAs_of_kept {t : TypeExpr} {s head old inner : List Char} (h : Spelling t s)
    (hh : head ∈ heads)
    (hc : Closes head old inner) (hk : Kept old s) : ReadsAs (replace old (withBars old) s) t := by
  have hs := hk.spelled h hh hc
  obtain ⟨rest, rfl, hclosing⟩ := hk.exists_rest
  rw [replace_start hh hc hclosing]
  have hbase {base x : List Char} (hb : Plain base) (hx : old ++ rest = bracketed base x) :
      base = unionName ∧ head = unionHead ∨ base = optionalName ∧ head = optionalHead := by
    rw [hc.eq, List.append_assoc] at hx
    exact base_of_bracketed (fun hm => absurd (hb '[' hm) (by decide)) hh hx.symm
  generalize hx : old ++ rest = x at hs
  cases hs with
  | name hp ht hne =>
    have hm : '[' ∈ x := by
      rw [← hx]
      exact List.mem_append_left _ (hc.open_mem hh)
    exact absurd (hp '[' hm) (by decide)
  | generic hb hu ho hcall hne ha =>
    rcases hbase hb.plain hx with ⟨h, -⟩ | ⟨h, -⟩
    · exact absurd h hu
    · exact absurd h ho
  | callable hb hcall hend hps hr =>
    rcases hbase hb.plain hx with ⟨rfl, -⟩ | ⟨rfl, -⟩
    · exact absurd hcall (by decide)
    · exact absurd hcall (by decide)
  | union hne ha =>
    rcases hbase (by decide) hx with ⟨-, rfl⟩ | ⟨h, -⟩
    · exact (readsAs_union_start ha hc hx.symm hk.bars).2 hclosing
    · exact absurd h (by decide)
  | optional ha =>
    rcases hbase (by decide) hx with ⟨h, -⟩ | ⟨-, rfl⟩
    · exact absurd h (by decide)
    · refine (readsAs_optional_start ha hc hx.symm).2 ?_
      have hw := hk.whole (by rw [hc.eq]; exact List.prefix_append _ _)
      simpa using hw

/-- Spelling a union with bars keeps the meaning of a type exactly if the union begins the type and
brackets only close behind it. -/
theorem readsAs_replace_iff {t : TypeExpr} {s head old inner : List Char} (h : Spelling t s)
    (hh : head ∈ heads)
    (hc : Closes head old inner) (ho : old <:+: s) : ReadsAs (replace old (withBars old) s) t ↔
      Kept old s :=
  ⟨kept_of_readsAs h hh hc ho, readsAs_of_kept h hh hc⟩

end TypedTemplate.Style
