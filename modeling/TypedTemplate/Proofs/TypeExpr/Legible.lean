import TypedTemplate.Proofs.TypeExpr.Callable

/-! Which types without unions can be read. The parameters of a callable end at the first closing
bracket that a comma and a blank follow, so it can be read exactly if this is the bracket of its
list: the mark stands behind the list and nowhere in it. -/
namespace TypedTemplate.TypeExpr
open Text

/-- The texts of types without unions, with blanks where they separate nothing. In each callable its
parameters and what follows their list meet the condition. -/
inductive Formed (ok : List (List Char) → List Char → Prop) : List Char → Prop
  | name {s : List Char} (hp : Plain s) (ht : Trimmed s) (hne : s ≠ []) : Formed ok s
  | args {base : List Char} {ps : List (List Char)} (hb : Base base) (hu : base ≠ unionName)
    (ho : base ≠ optionalName)
      (hc : isCallable (trim base) = false) (hne : ps ≠ []) (hps : ∀ p ∈ ps, Formed ok (trim p)) :
      Formed ok (bracketed base ([','].intercalate ps))
  | callable {base lead gap r : List Char} {ps : List (List Char)} (hb : Base base)
    (hc : isCallable (trim base) = true)
      (hl : ∀ c ∈ lead, isBlank c = true) (hg : ∀ c ∈ gap, isBlank c = true)
      (hok : ok ps (gap ++ ',' :: r))
      (hps : ∀ p ∈ ps, Formed ok (trim p)) (hr : Formed ok (trim r)) :
      Formed ok (bracketed base (listed lead ps gap r))

def WellFormed : List Char → Prop := Formed fun _ _ => True

section Grammar

variable {ok : List (List Char) → List Char → Prop} {s : List Char}

theorem isTypeChar_of_intercalate {ps : List (List Char)}
    (h : ∀ p ∈ ps, ∀ c ∈ trim p, isTypeChar c = true) :
    ∀ c ∈ [','].intercalate ps, isTypeChar c = true := by
  intro c hc
  rcases mem_intercalate hc with hc | ⟨p, hp, hc⟩
  · rw [List.mem_singleton.1 hc]
    decide
  · exact isTypeChar_of_trim (h p hp) c hc

theorem Formed.isTypeChar (h : Formed ok s) : ∀ c ∈ s, isTypeChar c = true := by
  have hblank {b : List Char} (hb : ∀ c ∈ b, isBlank c = true) :
      ∀ c ∈ b, TypeExpr.isTypeChar c = true :=
    isTypeChar_of_plain fun c hc => isPlain_of_isBlank (hb c hc)
  induction h with
  | name hp => exact isTypeChar_of_plain hp
  | args hb _ _ _ _ _ ih =>
    exact isTypeChar_of_bracketed (isTypeChar_of_plain hb.plain) (isTypeChar_of_intercalate ih)
  | callable hb hc hl hg hok hps hr ihp ihr =>
    refine isTypeChar_of_bracketed (isTypeChar_of_plain hb.plain) ?_
    simp only [listed, List.forall_mem_append, List.forall_mem_cons]
    exact ⟨hblank hl, by decide, isTypeChar_of_intercalate ihp, by decide, hblank hg, by decide,
      isTypeChar_of_trim ihr⟩

theorem Formed.bar_absent (h : Formed ok s) : ¬ bar <:+: s :=
  TypeExpr.bar_absent fun hm => absurd (h.isTypeChar _ hm) (by decide)

theorem Formed.nested (h : Formed ok s) : Nested s := by
  induction h with
  | name hp => exact nested_of_plain hp
  | args hb _ _ _ _ _ ih =>
    exact nested_bracketed (nested_of_plain hb.plain) (nested_between nested_comma ih)
  | callable hb _ hl hg _ _ _ ihp ihr =>
    exact nested_bracketed (nested_of_plain hb.plain) (nested_listed hl hg ihp ihr)

theorem Formed.trimmed (h : Formed ok s) : Trimmed s := by
  cases h with
  | name hp ht => exact ht
  | args hb => exact trimmed_bracketed hb.start _
  | callable hb => exact trimmed_bracketed hb.start _

theorem Formed.ne_nil (h : Formed ok s) : s ≠ [] := by
  cases h with
  | name hp ht hne => exact hne
  | _ => simp [bracketed]

theorem Formed.part (h : Formed ok s) : Part s := by
  refine ⟨by rw [trim_eq_self h.trimmed]; exact h.ne_nil, ?_, h.nested.closed⟩
  cases h with
  | name hp => exact sealed_of_not_mem (fun hm => absurd (hp ',' hm) (by decide)) 0
  | args hb _ _ _ _ hps =>
    exact sealed_bracketed hb.plain (nested_between nested_comma fun p hp => (hps p hp).nested)
  | callable hb _ hl hg _ hps hr =>
    exact sealed_bracketed hb.plain (nested_listed hl hg (fun p hp => (hps p hp).nested) hr.nested)

theorem Formed.standalone (h : Formed ok s) : Standalone s :=
  ⟨h.trimmed, h.part, h.nested, square_of_isTypeChar h.isTypeChar⟩

theorem Formed.splitArgs_intercalate {ps : List (List Char)} (h : ∀ p ∈ ps, Formed ok (trim p)) :
    splitArgs ([','].intercalate ps) = ps.map trim :=
  Text.splitArgs_intercalate fun p hp => part_of_trim (h p hp).part

end Grammar

section Place

theorem callableParts?_listed {ok : List (List Char) → List Char → Prop} {lead gap r : List Char}
    {ps : List (List Char)}
    (hl : ∀ c ∈ lead, isBlank c = true) (hg : ∀ c ∈ gap, isBlank c = true)
    (hm : Marked ps (gap ++ ',' :: r))
    (hps : ∀ p ∈ ps, Formed ok (trim p)) (hr : trim r ≠ []) :
    ∃ w, callableParts? (trim (listed lead ps gap r)) = some (ps.map trim, w) ∧
      trim w = trim r := by
  obtain ⟨hend, hmark⟩ := hm
  obtain ⟨rfl, r', rfl⟩ : gap = [] ∧ ∃ r', r = ' ' :: r' := by
    cases gap with
    | nil =>
      obtain ⟨t, ht⟩ := (List.cons_prefix_cons.1 hmark).2
      exact ⟨rfl, t, ht.symm⟩
    | cons c gap =>
      obtain ⟨rfl, -⟩ := List.cons_prefix_cons.1 hmark
      exact absurd (hg ',' (by simp)) (by decide)
  have htrim := trim_trimEnd (' ' :: r')
  obtain ⟨w, hw⟩ : ∃ w, trimEnd (' ' :: r') = ' ' :: w := by
    cases hend' : trimEnd (' ' :: r') with
    | nil => exact absurd (by rw [← htrim, hend']; rfl) hr
    | cons c w =>
      have hpre := trimEnd_isPrefix (' ' :: r')
      rw [hend'] at hpre
      obtain ⟨rfl, -⟩ := List.cons_prefix_cons.1 hpre
      exact ⟨w, rfl⟩
  refine ⟨w, ?_, by rw [← trim_space, ← hw, htrim]⟩
  rw [trim_listed hl, hw, ← Formed.splitArgs_intercalate hps]
  exact callableParts?_cut hend

end Place

section Legible

variable {s base inner : List Char}

def Legible (s : List Char) : Prop := ∃ t, parseChars s = .ok t

theorem legible_trim : Legible (trim s) ↔ Legible s := by
  rw [Legible, parseChars_trim, Legible]

theorem exists_mapM_iff {ps : List (List Char)} :
    (∃ ts, ps.mapM parseChars = .ok ts) ↔ ∀ p ∈ ps, Legible p := by
  constructor
  · rintro ⟨ts, h⟩
    obtain ⟨as, rfl, -, has⟩ := args_of_mapM h
    exact List.forall_mem_map.2 fun a ha => ⟨a.type, has a ha⟩
  · intro h
    induction ps with
    | nil => exact ⟨[], rfl⟩
    | cons p ps ih =>
      obtain ⟨t, ht⟩ := h p (by simp)
      obtain ⟨ts, hts⟩ := ih fun q hq => h q (by simp [hq])
      exact ⟨t :: ts, by rw [List.mapM_cons, ht, hts]; rfl⟩

theorem legible_iff_parts (ht : Trimmed s) :
    Legible s ↔ (∀ cause, shape s ≠ .invalid cause) ∧ ∀ p ∈ (shape s).parts, Legible p := by
  rw [← exists_mapM_iff, Legible, parseChars_eq, trim_eq_self ht]
  constructor
  · rintro ⟨t, h⟩
    obtain ⟨ts, hts, hbuild⟩ := bind_eq_ok h
    refine ⟨fun cause hs => ?_, ts, hts⟩
    rw [hs] at hbuild
    cases hbuild
  · rintro ⟨hvalid, ts, hts⟩
    rw [hts]
    cases hs : shape s with
    | union style ms => cases style <;> exact ⟨_, rfl⟩
    | generic base args => exact ⟨_, rfl⟩
    | name => exact ⟨_, rfl⟩
    | invalid cause => exact absurd hs (hvalid cause)

theorem legible_name (hp : Plain s) (ht : Trimmed s) : Legible s := by
  have hs : shape s = .name := shape_name (fun hm => absurd (hp '[' hm) (by decide))
    (bar_absent fun hm => absurd (hp '|' hm) (by decide))
  rw [legible_iff_parts ht, hs]
  simp [Shape.parts]

theorem legible_args_iff (hb : Base base) (hu : base ≠ unionName) (ho : base ≠ optionalName)
    (hc : isCallable (trim base) = false) (hbar : ¬ bar <:+: bracketed base inner) :
    Legible (bracketed base inner) ↔ ∀ p ∈ splitArgs inner, Legible p := by
  have hs := shape_bracketed hb.bracket_not_mem hbar
  rw [if_neg hu, if_neg ho, hc, if_neg Bool.false_ne_true, splitArgs_trim] at hs
  rw [legible_iff_parts (trimmed_bracketed hb.start _), hs]
  simp [Shape.parts]

theorem legible_callable_iff (hb : Base base) (hc : isCallable (trim base) = true)
    (hbar : ¬ bar <:+: bracketed base inner) :
    Legible (bracketed base inner) ↔
      ∃ ps r, callableParts? (trim inner) = some (ps, r) ∧ (∀ p ∈ ps, Legible p) ∧ Legible r := by
  rw [legible_iff_parts (trimmed_bracketed hb.start _), shape_callable hb.bracket_not_mem hc hbar]
  cases callableParts? (trim inner) with
  | none => simp
  | some parts => simp [Shape.parts, Prod.ext_iff, or_imp, forall_and]

theorem Formed.legible (h : Formed Marked s) : Legible s := by
  induction h with
  | name hp ht hne => exact legible_name hp ht
  | args hb hu ho hc hne hps ih =>
    rw [legible_args_iff hb hu ho hc (Formed.args hb hu ho hc hne hps).bar_absent,
      Formed.splitArgs_intercalate hps]
    exact List.forall_mem_map.2 ih
  | callable hb hc hl hg hok hps hr ihp ihr =>
    obtain ⟨w, hparts, hw⟩ := callableParts?_listed hl hg hok hps hr.ne_nil
    rw [legible_callable_iff hb hc (Formed.callable hb hc hl hg hok hps hr).bar_absent]
    exact ⟨_, w, hparts, List.forall_mem_map.2 ihp, legible_trim.1 (hw ▸ ihr)⟩

theorem WellFormed.legible_iff (h : WellFormed s) : Legible s ↔ Formed Marked s := by
  refine ⟨fun hs => ?_, Formed.legible⟩
  induction h with
  | name hp ht hne => exact .name hp ht hne
  | args hb hu ho hc hne hps ih =>
    rw [legible_args_iff hb hu ho hc (Formed.args hb hu ho hc hne hps).bar_absent,
      Formed.splitArgs_intercalate hps] at hs
    exact .args hb hu ho hc hne fun p hp => ih p hp (List.forall_mem_map.1 hs p hp)
  | callable hb hc hl hg hok hps hr ihp ihr =>
    have hf : WellFormed _ := .callable hb hc hl hg hok hps hr
    rw [legible_callable_iff hb hc hf.bar_absent] at hs
    obtain ⟨params, result, hparts, hparams, hresult⟩ := hs
    obtain ⟨us, hus⟩ := exists_mapM_iff.2 hparams
    have hmarked := marked_of_parts hl hg (fun p hp => (hps p hp).standalone) hr.standalone
      (fun hin => hf.bar_absent (hin.trans (infix_bracketed _ _))) hparts hus
    obtain ⟨w, hparts', hw⟩ := callableParts?_listed hl hg hmarked hps hr.ne_nil
    obtain ⟨rfl, rfl⟩ := Prod.mk.inj (Option.some.inj (hparts.symm.trans hparts'))
    refine .callable hb hc hl hg hmarked (fun p hp => ihp p hp (List.forall_mem_map.1 hparams p hp))
      (ihr ?_)
    exact hw ▸ legible_trim.2 hresult

end Legible

section Join

theorem paramsEnd_infix_append_iff {p rest : List Char} :
    paramsEnd <:+: p ++ ([',', ' '] ++ rest) ↔ paramsEnd <:+: p ∨ [']'] <:+ p ∨
      paramsEnd <:+: rest := by
  constructor
  · rintro ⟨u, v, h⟩
    rw [List.append_assoc] at h
    rcases List.append_eq_append_iff.1 h with ⟨z, rfl, hz⟩ | ⟨z, rfl, hz⟩
    · rcases z with _ | ⟨c, _ | ⟨d, _ | ⟨e, z⟩⟩⟩
      · simp [paramsEnd] at hz
      · obtain rfl : ']' = c := by simpa [paramsEnd] using congrArg List.head? hz
        exact .inr (.inl (List.suffix_append _ _))
      · simp [paramsEnd] at hz
      · have hmark : paramsEnd = [c, d, e] := by simpa [paramsEnd] using congrArg (List.take 3) hz
        exact .inl ⟨u, z, by simp [hmark]⟩
    · rcases z with _ | ⟨c, _ | ⟨d, z⟩⟩
      · simp [paramsEnd] at hz
      · simp [paramsEnd] at hz
      · refine .inr (.inr ⟨z, v, ?_⟩)
        simpa [paramsEnd] using (congrArg (List.drop 2) hz).symm
  · rintro (h | ⟨u, rfl⟩ | h)
    · exact h.trans (List.prefix_append _ _).isInfix
    · exact ⟨u, rest, by simp [paramsEnd]⟩
    · exact h.trans ((List.suffix_append _ _).trans (List.suffix_append _ _)).isInfix

theorem paramsEnd_infix_join_iff {ps : List (List Char)} :
    paramsEnd <:+: [',', ' '].intercalate ps ↔ (∃ p ∈ ps, paramsEnd <:+: p) ∨
      ∃ p ∈ ps.dropLast, [']'] <:+ p := by
  induction ps with
  | nil => simp [paramsEnd]
  | cons p ps ih =>
    cases ps with
    | nil => simp
    | cons q ps =>
      have hdrop : (p :: q :: ps).dropLast = p :: (q :: ps).dropLast := rfl
      rw [List.intercalate_cons_of_ne_nil (by simp), List.append_assoc, paramsEnd_infix_append_iff,
        ih, hdrop]
      rw [List.exists_mem_cons_iff _ p, List.exists_mem_cons_iff _ p, ← or_assoc, or_or_or_comm]

end Join

section Text

variable {ts : List String} {r : String}

/-- The parameters and the result of a callable that is read as it stands: each can be read by
itself, no parameter has the mark of the end in it, and none but the last ends with a bracket. -/
structure Separable (ts : List String) (r : String) : Prop where
  params : ∀ s ∈ ts, Formed Marked s.toList
  result : Formed Marked r.toList
  unmarked : ∀ s ∈ ts, ¬ paramsEnd <:+: s.toList
  unclosed : ∀ s ∈ ts.dropLast, ¬ [']'] <:+ s.toList

theorem paramsEnd_absent_iff :
    ¬ paramsEnd <:+: [','].intercalate (spaced (ts.map String.toList)) ↔
      (∀ s ∈ ts, ¬ paramsEnd <:+: s.toList) ∧ ∀ s ∈ ts.dropLast, ¬ [']'] <:+ s.toList := by
  rw [intercalate_spaced, paramsEnd_infix_join_iff, ← List.map_dropLast]
  simp only [not_or, not_exists, not_and, List.forall_mem_map]

theorem Separable.formed (h : Separable ts r) : Formed Marked (callableText ts r).toList := by
  have hr : Formed Marked (trim (' ' :: r.toList)) := by
    rw [trim_space, trim_eq_self h.result.trimmed]
    exact h.result
  have hps : ∀ p ∈ spaced (ts.map String.toList), Formed Marked (trim p) :=
    forall_mem_spaced.2 (List.forall_mem_map.2 fun s hs => by
      rw [trim_eq_self (h.params s hs).trimmed]
      exact h.params s hs)
  have hmark : Marked (spaced (ts.map String.toList)) ([] ++ ',' :: ' ' :: r.toList) :=
    ⟨paramsEnd_absent_iff.2 ⟨h.unmarked, h.unclosed⟩, r.toList, rfl⟩
  rw [toList_callableText]
  exact @Formed.callable _ callableName [] [] (' ' :: r.toList) _ ⟨by decide, by decide⟩ (by decide)
    (by simp) (by simp) hmark hps hr

/-- A callable is read with its parameters and its result as arguments exactly if they are
separable, and is refused otherwise. -/
theorem parse_callable_iff (hts : ∀ s ∈ ts, WellFormed s.toList) (hr : WellFormed r.toList) :
    ((∃ us v, List.Forall₂ (fun s u => parse s = .ok u) ts us ∧ parse r = .ok v ∧
        parse (callableText ts r) =
          .ok (.generic (callableText ts r) "Callable" none (us ++ [v]))) ↔ Separable ts r) ∧
      (¬ Separable ts r → ∃ e, parse (callableText ts r) = .error e) := by
  have hread : ∀ t, parse (callableText ts r) = .ok t →
    ∃ us v, List.Forall₂ (fun s u => parse s = .ok u) ts us ∧
      parse r = .ok v ∧ t = .generic (callableText ts r) "Callable" none (us ++ [v]) :=
        fun t ht => by
    obtain ⟨us, v, hus, hv, heq, -⟩ :=
      parse_callableText (fun s hs => (hts s hs).standalone) hr.standalone ht
    exact ⟨us, v, hus, hv, heq⟩
  have hseparable : ∀ t, parse (callableText ts r) = .ok t → Separable ts r := fun t ht => by
    obtain ⟨us, v, hus, hv, -⟩ := hread t ht
    have hps : ∀ p ∈ spaced (ts.map String.toList), Standalone (trim p) :=
      forall_mem_spaced.2 (List.forall_mem_map.2 fun s hs => by
        rw [trim_eq_self (hts s hs).trimmed]
        exact (hts s hs).standalone)
    rw [parse, toList_callableText] at ht
    obtain ⟨hunmarked, hunclosed⟩ := paramsEnd_absent_iff.1 (paramsEnd_absent hps hr.standalone ht)
    refine ⟨fun s hs => (hts s hs).legible_iff.1 ?_, hr.legible_iff.1 ⟨v, hv⟩, hunmarked, hunclosed⟩
    obtain ⟨i, hi, rfl⟩ := List.mem_iff_getElem.1 hs
    exact ⟨_, List.Forall₂.get hus hi (hus.length_eq ▸ hi)⟩
  refine ⟨⟨?_, fun h => ?_⟩, fun h => ?_⟩
  · rintro ⟨us, v, -, -, ht⟩
    exact hseparable _ ht
  · obtain ⟨t, ht⟩ := h.formed.legible
    obtain ⟨us, v, hus, hv, rfl⟩ := hread t ht
    exact ⟨us, v, hus, hv, ht⟩
  · cases ht : parse (callableText ts r) with
    | error e => exact ⟨e, rfl⟩
    | ok t => exact absurd (hseparable t ht) h

theorem parse_callable_iff_nested :
    (∀ s ∈ ["str", "dict[str, list[int]]"], WellFormed s.toList) ∧ WellFormed "list[User]".toList ∧
      ∃ us v, List.Forall₂ (fun s u => parse s = .ok u) ["str", "dict[str, list[int]]"] us ∧
        parse "list[User]" = .ok v ∧
        parse (callableText ["str", "dict[str, list[int]]"] "list[User]") =
          .ok (.generic (callableText ["str", "dict[str, list[int]]"] "list[User]") "Callable" none
            (us ++ [v])) := by
  have name {ok} {s : List Char} (h : Plain s ∧
      ((∀ c ∈ s.head?, isBlank c = false) ∧ ∀ c ∈ s.getLast?, isBlank c = false) ∧ s ≠ []) :
          Formed ok s :=
    .name h.1 h.2.1 h.2.2
  have list {ok} {s : List Char} (h : Formed ok s) : Formed ok (bracketed "list".toList s) := by
    have hs : ∀ p ∈ [s], Formed ok (trim p) :=
      List.forall_mem_singleton.2 (by rwa [trim_eq_self h.trimmed])
    simpa using @Formed.args ok "list".toList [s] ⟨by decide, by decide⟩ (by decide) (by decide)
      (by decide) (by simp) hs
  have dict {ok} : Formed ok "dict[str, list[int]]".toList := by
    have hargs : ∀ p ∈ ["str".toList, " list[int]".toList], Formed ok (trim p) := by
      refine List.forall_mem_cons.2 ⟨name (by decide), List.forall_mem_singleton.2 ?_⟩
      rw [show trim " list[int]".toList = bracketed "list".toList "int".toList by decide]
      exact list (name (by decide))
    rw [show "dict[str, list[int]]".toList =
      bracketed "dict".toList ([','].intercalate ["str".toList, " list[int]".toList]) by decide]
    exact .args ⟨by decide, by decide⟩ (by decide) (by decide) (by decide) (by decide) hargs
  have params {ok} : ∀ s ∈ ["str", "dict[str, list[int]]"], Formed ok s.toList :=
    List.forall_mem_cons.2 ⟨name (by decide), List.forall_mem_singleton.2 dict⟩
  have result {ok} : Formed ok "list[User]".toList := @list ok "User".toList (name (by decide))
  have unmarked : ∀ s ∈ ["str", "dict[str, list[int]]"], ¬ paramsEnd <:+: s.toList := by
    have habsent : ∀ s ∈ ["str", "dict[str, list[int]]"], occurs paramsEnd s.toList = false := by
      decide
    exact fun s hs => occurs_eq_false_iff.1 (habsent s hs)
  exact ⟨params, result,
    (parse_callable_iff params result).1.2 ⟨params, result, unmarked, by decide⟩⟩

theorem parse_callable_list_first :
    (parse "list[int]").toOption.map render = some "list[int]" ∧ (parse "str").toOption.map render =
      some "str" ∧ (parse "bool").toOption.map render = some "bool" ∧
      (match parse (callableText ["list[int]", "str"] "bool") with
        | .ok _ => none
        | .error e => some e.message) = some "Invalid generic syntax: list[int" := by
  decide +kernel

end Text

end TypedTemplate.TypeExpr
