import Mathlib.Data.List.Forall2
import TypedTemplate.Proofs.TypeExpr.RoundTrip
import TypedTemplate.Proofs.TypeExpr.Weight

/-! Bars inside brackets. A text is cut at its bars before its brackets are looked at, so the first
piece of a text with a bar inside brackets opens more brackets than it closes, and no such piece can
be read. -/
namespace TypedTemplate.TypeExpr
open Text

/-- The texts of types, with bars between types at any depth of brackets. -/
inductive Written : List Char → Prop
  | name {s : List Char} (hp : Plain s) (ht : Trimmed s) (hne : s ≠ []) : Written s
  | args {base : List Char} {ps : List (List Char)} (hb : Base base)
    (hc : isCallable (trim base) = false) (hne : ps ≠ [])
      (hlone : base = optionalName → ps.length = 1) (hps : ∀ p ∈ ps, Written (trim p)) :
      Written (bracketed base ([','].intercalate ps))
  | callable {base : List Char} {ps : List (List Char)} {r : List Char} (hb : Base base)
      (hc : isCallable (trim base) = true) (hend : ¬ paramsEnd <:+: [','].intercalate ps)
      (hps : ∀ p ∈ ps, Written (trim p)) (hr : Written r) :
      Written (bracketed base ('[' :: ([','].intercalate ps ++ (paramsEnd ++ r))))
  | bars {ps : List (List Char)} (hlen : 2 ≤ ps.length) (ht : Trimmed (bar.intercalate ps))
      (hps : ∀ p ∈ ps, Written (trim p)) : Written (bar.intercalate ps)

section Grammar

variable {s : List Char}

theorem forall_mem_of_trim {P : Char → Prop} (hplain : ∀ c, isPlain c = true → P c)
    (h : ∀ c ∈ trim s, P c) :
    ∀ c ∈ s, P c := by
  obtain ⟨a, b, hs, ha, hb⟩ := exists_eq_trim s
  intro c hc
  rw [hs, List.mem_append, List.mem_append] at hc
  rcases hc with hc | hc | hc
  · exact hplain c (isPlain_of_isBlank (ha c hc))
  · exact h c hc
  · exact hplain c (isPlain_of_isBlank (hb c hc))

theorem Written.forall_mem {P : Char → Prop} (hplain : ∀ c, isPlain c = true → P c)
    (hmark : ∀ c ∈ ['[', ']', ',', '|'], P c) (h : Written s) : ∀ c ∈ s, P c := by
  have between {sep : List Char} {ps : List (List Char)} (hsep : ∀ c ∈ sep, P c)
      (h : ∀ p ∈ ps, ∀ c ∈ trim p, P c) :
      ∀ c ∈ sep.intercalate ps, P c := by
    intro c hc
    rcases mem_intercalate hc with hc | ⟨p, hp, hc⟩
    · exact hsep c hc
    · exact forall_mem_of_trim hplain (h p hp) c hc
  have within {base inner : List Char} (hb : Base base) (hi : ∀ c ∈ inner, P c) :
      ∀ c ∈ bracketed base inner, P c := by
    simp only [bracketed, List.forall_mem_append, List.forall_mem_cons]
    exact ⟨fun c hc => hplain c (hb.plain c hc), hmark _ (by simp), hi, hmark _ (by simp), by simp⟩
  have hblank : P ' ' := hplain _ (by decide)
  induction h with
  | name hp ht hne => exact fun c hc => hplain c (hp c hc)
  | args hb hc hne hlone hps ih => exact within hb (between (by simp [hmark]) ih)
  | callable hb hc hend hps hr ihp ihr =>
    refine within hb ?_
    simp only [List.forall_mem_cons, List.forall_mem_append, paramsEnd]
    exact ⟨hmark _ (by simp), between (by simp [hmark]) ihp,
      ⟨hmark _ (by simp), hmark _ (by simp), hblank, by simp⟩, ihr⟩
  | bars hlen ht hps ih => exact between (by simp [bar, hmark, hblank]) ih

theorem Written.square (h : Written s) : Square s := by
  refine h.forall_mem (fun c hc => ?_) (by decide)
  obtain ⟨ho, hcl, -⟩ := isPlain_iff.1 hc
  simp [ho, hcl]

theorem nested_between {sep : List Char} {ps : List (List Char)} (hsep : Nested sep)
    (h : ∀ p ∈ ps, Nested (trim p)) :
    Nested (sep.intercalate ps) :=
  nested_intercalate hsep fun p hp => nested_of_trim (h p hp)

theorem Written.nested (h : Written s) : Nested s := by
  have hcomma : Nested [','] := nested_plain (by decide)
  induction h with
  | name hp ht hne => exact nested_of_plain hp
  | args hb hc hne hlone hps ih =>
    exact nested_bracketed (nested_of_plain hb.plain) (nested_between hcomma ih)
  | @callable base ps r hb hc hend hps hr ihp ihr =>
    have heq : '[' :: ([','].intercalate ps ++ (paramsEnd ++ r)) =
        '[' :: ([','].intercalate ps ++ [']']) ++ ([',', ' '] ++ r) := by
      simp [paramsEnd]
    rw [heq]
    exact nested_bracketed (nested_of_plain hb.plain)
      ((nested_between hcomma ihp).bracket.append ((nested_plain (by decide)).append ihr))
  | bars hlen ht hps ih => exact nested_between (nested_plain (by decide)) ih

theorem Written.trimmed (h : Written s) : Trimmed s := by
  cases h with
  | name hp ht hne => exact ht
  | args hb => exact trimmed_bracketed hb.start _
  | callable hb => exact trimmed_bracketed hb.start _
  | bars hlen ht => exact ht

theorem infix_intercalate {sep p : List Char} {ps : List (List Char)} (h : p ∈ ps) :
    p <:+: sep.intercalate ps := by
  obtain ⟨init, post, rfl⟩ := List.append_of_mem h
  induction init with
  | nil =>
    cases post with
    | nil => simp
    | cons q post =>
      rw [List.nil_append, List.intercalate_cons_of_ne_nil (by simp), List.append_assoc]
      exact (List.prefix_append _ _).isInfix
  | cons q init ih =>
    rw [List.cons_append, List.intercalate_cons_of_ne_nil (by simp)]
    exact (ih (by simp)).trans (List.suffix_append _ _).isInfix

theorem exists_args {ps : List (List Char)} (h : ∀ p ∈ ps, ∃ t, Spelled t (trim p)) :
    ∃ as : List Arg, as.map Arg.text = ps ∧ ∀ a ∈ as, Spelled a.type (trim a.text) := by
  induction ps with
  | nil => exact ⟨[], rfl, by simp⟩
  | cons p ps ih =>
    obtain ⟨t, ht⟩ := h p (by simp)
    obtain ⟨as, rfl, has⟩ := ih fun q hq => h q (by simp [hq])
    exact ⟨⟨t, p⟩ :: as, rfl, by simpa using ⟨ht, has⟩⟩

theorem Written.spelled (h : Written s) (hbar : ¬ bar <:+: s) : ∃ t, Spelled t s := by
  have absent {p inner base : List Char} {ps : List (List Char)}
      (hbar : ¬ bar <:+: bracketed base inner)
      (hin : [','].intercalate ps <:+: inner) (hp : p ∈ ps) : ¬ bar <:+: trim p := fun h =>
    hbar (h.trans
      ((trim_isInfix p).trans
        ((infix_intercalate hp).trans (hin.trans (infix_bracketed base inner)))))
  induction h with
  | name hp ht hne => exact ⟨_, .name hp ht hne⟩
  | @args base ps hb hc hne hlone hps ih =>
    obtain ⟨as, rfl, has⟩ := exists_args fun p hp => ih p hp (absent hbar List.infix_rfl hp)
    have hne' : as ≠ [] := fun h0 => hne (by rw [h0]; rfl)
    by_cases hu : base = unionName
    · subst hu
      exact ⟨_, .union hne' has⟩
    by_cases ho : base = optionalName
    · subst ho
      obtain ⟨a, rfl⟩ : ∃ a, as = [a] := List.length_eq_one_iff.1 (by simpa using hlone rfl)
      have hspelled := Spelled.optional (has a (by simp))
      exact ⟨_, by simpa using hspelled⟩
    · exact ⟨_, .generic hb hu ho hc hne' has⟩
  | @callable base ps r hb hc hend hps hr ihp ihr =>
    have hlead : [','].intercalate ps <:+: '[' :: ([','].intercalate ps ++ (paramsEnd ++ r)) :=
      ⟨['['], paramsEnd ++ r, by simp⟩
    have hlast : r <:+: '[' :: ([','].intercalate ps ++ (paramsEnd ++ r)) :=
      ⟨'[' :: ([','].intercalate ps ++ paramsEnd), [], by simp⟩
    obtain ⟨as, rfl, has⟩ := exists_args fun p hp => ihp p hp (absent hbar hlead hp)
    obtain ⟨t, ht⟩ := ihr fun h => hbar (h.trans (hlast.trans (infix_bracketed _ _)))
    exact ⟨_, @Spelled.callable base as ⟨t, r⟩ hb hc hend has ht⟩
  | bars hlen ht hps ih => exact absurd (bar_infix_intercalate hlen) hbar

end Grammar

section Cut

variable {base inner : List Char}

theorem depthOf_pos_before_bar {a b : List Char} (hb : Plain base) (hi : Nested inner)
    (h : bracketed base inner = a ++ (bar ++ b)) : 0 < depthOf 0 a := by
  rcases List.append_eq_append_iff.1 h with ⟨z, rfl, hz⟩ | ⟨z, rfl, hz⟩
  · obtain ⟨z, rfl, hin⟩ : ∃ y, z = '[' :: y ∧ inner ++ [']'] = y ++ (bar ++ b) := by
      cases z with
      | nil => simp [bar] at hz
      | cons c y =>
        obtain ⟨rfl, hin⟩ := List.cons.inj hz
        exact ⟨y, rfl, hin⟩
    have hpre : z <+: inner := by
      refine List.prefix_of_prefix_length_le ⟨bar ++ b, hin.symm⟩ (List.prefix_append _ _) ?_
      have hlen := congrArg List.length hin
      simp [bar] at hlen
      omega
    rw [depthOf_append, (nested_of_plain hb).depthOf_eq, depthOf_cons]
    exact Int.lt_of_lt_of_le (by decide) (hi.le_depthOf hpre _)
  · -- the bar cannot begin before the bracket, for the base has no bar and the bar no bracket
    have hz : bar ++ b = z ++ '[' :: (inner ++ [']']) := hz
    rcases z with _ | ⟨c, _ | ⟨d, y⟩⟩
    · simp [bar] at hz
    · simp [bar] at hz
    · obtain rfl : '|' = d := by
        simp only [bar, List.cons_append] at hz
        exact (List.cons.inj (List.cons.inj hz).2).1
      exact absurd (hb '|' (by simp)) (by decide)

theorem Reads.before_bar {s a b : List Char} {t : TypeExpr} (h : Reads s t)
    (hcut : cut? bar s = some (a, b)) :
    ∃ u, Reads (trim a) u := by
  have hin : bar <:+: s := ⟨a, b, by rw [List.append_assoc, ← cut?_eq_append hcut]⟩
  cases h with
  | bars hbar hp ha =>
    rw [pieces_of_cut? (by decide) hcut] at hp
    obtain ⟨x, as, rfl, rfl, -⟩ := List.map_eq_cons_iff.1 hp
    exact ⟨x.type, ha x (by simp)⟩
  | name hb hbar => exact absurd hin hbar
  | union hbar => exact absurd hin hbar
  | optional hbar => exact absurd hin hbar
  | generic hb hbar => exact absurd hin hbar
  | callable hb hbar => exact absurd hin hbar

theorem parseChars_bar_inside (hb : Base base) (hi : Nested inner)
    (hq : Square (bracketed base inner))
    (hbar : bar <:+: inner) : ∃ e, parseChars (bracketed base inner) = .error e := by
  cases h : parseChars (bracketed base inner) with
  | error e => exact ⟨e, rfl⟩
  | ok t =>
    have hreads := reads_of_parseChars h
    rw [trim_eq_self (trimmed_bracketed hb.start _)] at hreads
    obtain ⟨⟨a, b⟩, hcut⟩ := Option.ne_none_iff_exists'.1
      (fun h0 => cut?_eq_none_iff.1 h0 (hbar.trans (infix_bracketed base inner)))
    have heq := cut?_eq_append hcut
    obtain ⟨u, hu⟩ := hreads.before_bar hcut
    have hle :=
      (hu.balanced.1 fun hin => not_infix_of_cut? hcut (by decide)
        (hin.trans (trim_isInfix a))).opens_le
    rw [count_trim (by decide), count_trim (by decide)] at hle
    have hpos := depthOf_pos_before_bar hb.plain hi heq
    have hsquare : Square a := fun c hc => hq c (by rw [heq]; simp [hc])
    rw [hsquare.depthOf_eq] at hpos
    omega

end Cut

section Generic

theorem parseChars_args {base : List Char} {ps : List (List Char)} (hb : Base base)
    (hu : base ≠ unionName)
    (ho : base ≠ optionalName) (hc : isCallable (trim base) = false) (hne : ps ≠ [])
    (hps : ∀ p ∈ ps, Written (trim p))
    (hbar : ∀ p ∈ ps, ¬ bar <:+: trim p) :
    ∃ ts, List.Forall₂ (fun p t => parseChars p = .ok t) ps ts ∧
      parseChars (bracketed base ([','].intercalate ps)) = .ok
        (ofGeneric base ([','].intercalate ps) ts) := by
  obtain ⟨as, rfl, has⟩ := exists_args fun p hp => (hps p hp).spelled (hbar p hp)
  refine ⟨as.map Arg.type, ?_,
    parseChars_spelled (.generic hb hu ho hc (fun h0 => hne (by rw [h0]; rfl)) has)⟩
  rw [List.forall₂_map_left_iff, List.forall₂_map_right_iff, List.forall₂_same]
  intro a ha
  rw [← parseChars_trim, parseChars_spelled (has a ha)]

theorem parseChars_args_bar {base : List Char} {ps : List (List Char)} (hb : Base base)
    (ho : base ≠ optionalName)
    (hc : isCallable (trim base) = false) (hne : ps ≠ []) (hps : ∀ p ∈ ps, Written (trim p))
    (hbar : bar <:+: [','].intercalate ps) :
    ∃ e, parseChars (bracketed base ([','].intercalate ps)) = .error e := by
  have hwritten : Written (bracketed base ([','].intercalate ps)) :=
    .args hb hc hne (fun h0 => absurd h0 ho) hps
  have hinner : Nested ([','].intercalate ps) :=
    nested_between (nested_plain (by decide)) fun p hp => (hps p hp).nested
  exact parseChars_bar_inside hb hinner hwritten.square hbar

theorem forall₂_parseChars_spaced {ps : List (List Char)} {ts : List TypeExpr} :
    List.Forall₂ (fun p t => parseChars p = .ok t) (spaced ps) ts ↔
      List.Forall₂ (fun p t => parseChars p = .ok t) ps ts := by
  have trims (qs : List (List Char)) : List.Forall₂ (fun p t => parseChars p = .ok t) (qs.map trim)
      ts ↔ List.Forall₂ (fun p t => parseChars p = .ok t) qs ts := by
    simp only [List.forall₂_map_left_iff, parseChars_trim]
  rw [← trims, map_trim_spaced, trims]

/-- A generic is read, with the types of its arguments, exactly if there is no bar inside its
brackets; otherwise the text is refused. -/
theorem parse_generic_iff {base : String} {args : List String} (hb : Base base.toList)
    (hu : base ≠ "Union")
    (ho : base ≠ "Optional") (hc : isCallable (trim base.toList) = false) (hne : args ≠ [])
    (ha : ∀ a ∈ args, Written a.toList) :
    let text := base ++ "[" ++ joinWith ", " args ++ "]"
    let name := splitName (trim base.toList)
    ((∃ ts, List.Forall₂ (fun a t => parse a = .ok t) args ts ∧
      parse text = .ok (.generic text name.2 name.1 ts)) ↔ ∀ a ∈ args, ¬ bar <:+: a.toList) ∧
    ((∃ a ∈ args, bar <:+: a.toList) → ∃ e, parse text = .error e) := by
  intro text name
  let ps := args.map String.toList
  have htext : text.toList = bracketed base.toList ([','].intercalate (spaced ps)) := by
    simp [text, bracketed, joinWith, String.toList_intercalate, intercalate_spaced, ps]
  have hu' : base.toList ≠ unionName := fun h0 => hu (String.toList_inj.1 h0)
  have ho' : base.toList ≠ optionalName := fun h0 => ho (String.toList_inj.1 h0)
  have hne' : spaced ps ≠ [] := by
    obtain ⟨a, as, rfl⟩ := List.exists_cons_of_ne_nil hne
    simp [ps, spaced]
  have carry (P : List Char → Prop) (h : ∀ a ∈ args, P a.toList) : ∀ p ∈ spaced ps, P (trim p) :=
    forall_mem_spaced.2 (List.forall_mem_map.2 fun a hm => by
      rw [trim_eq_self (ha a hm).trimmed]; exact h a hm)
  have hrefused : (∃ a ∈ args, bar <:+: a.toList) → ∃ e, parse text = .error e := by
    rintro ⟨a, hm, hbar⟩
    rw [parse, htext]
    refine parseChars_args_bar hb ho' hc hne' (carry _ ha) ?_
    rw [intercalate_spaced]
    exact hbar.trans (infix_intercalate (List.mem_map_of_mem hm))
  refine ⟨⟨?_, fun hbar => ?_⟩, hrefused⟩
  · rintro ⟨ts, -, hok⟩ a hm hbar
    obtain ⟨e, he⟩ := hrefused ⟨a, hm, hbar⟩
    rw [he] at hok
    cases hok
  · obtain ⟨ts, hts, hok⟩ :=
      parseChars_args hb hu' ho' hc hne' (carry _ ha) (carry (fun p => ¬ bar <:+: p) hbar)
    refine ⟨ts, ?_, ?_⟩
    · rwa [forall₂_parseChars_spaced, List.forall₂_map_left_iff] at hts
    · rw [parse, htext, hok, ofGeneric, ← htext, String.ofList_toList]

theorem parse_generic_iff_inner_list :
    (∀ a ∈ ["str", "list[int | None]"], Written a.toList) ∧
      ∃ e, parse "dict[str, list[int | None]]" = .error e := by
  have name {s : List Char} (h : Plain s ∧ Trimmed s ∧ s ≠ []) : Written s := .name h.1 h.2.1 h.2.2
  have bars : Written (trim "int | None".toList) :=
    @Written.bars ["int".toList, "None".toList] (by decide)
    ⟨by decide, by decide⟩ (by simpa using ⟨name ⟨by decide, ⟨by decide, by decide⟩, by decide⟩,
      name ⟨by decide, ⟨by decide, by decide⟩, by decide⟩⟩)
  have list : Written "list[int | None]".toList :=
    @Written.args "list".toList ["int | None".toList] ⟨by decide, by decide⟩
    (by decide) (by decide) (by decide) (by simpa using bars)
  have hargs : ∀ a ∈ ["str", "list[int | None]"], Written a.toList := by
    simpa using ⟨name ⟨by decide, ⟨by decide, by decide⟩, by decide⟩, list⟩
  have htext : "dict" ++ "[" ++ joinWith ", " ["str", "list[int | None]"] ++ "]" =
    "dict[str, list[int | None]]" := by
    decide +kernel
  have hrefused :=
    (@parse_generic_iff "dict" _ ⟨by decide, by decide⟩ (by decide) (by decide) (by decide)
      (by decide)
    hargs).2 ⟨"list[int | None]", by decide, occurs_iff.1 (by decide +kernel)⟩
  rw [htext] at hrefused
  exact ⟨hargs, hrefused⟩

theorem parse_dict_inner_bar :
    (parse "str").toOption.map render = some "str" ∧ (parse "int | None").toOption.map render =
      some "int | None" ∧ (match parse "dict[str, int | None]" with
        | .ok _ => none
        | .error e => some e.message) = some "Invalid generic syntax: dict[str, int" := by
  decide +kernel

end Generic

end TypedTemplate.TypeExpr
