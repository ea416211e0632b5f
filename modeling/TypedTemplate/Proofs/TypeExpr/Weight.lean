import TypedTemplate.Proofs.TypeExpr.Derivation
import TypedTemplate.Proofs.TypeExpr.Meaning

/-! The weight of a type is the number of opening brackets that it takes to write it, unions counted
as if they were all written in brackets. A text without bars has as many opening brackets as the
type that is read from it weighs, and bars stand for one bracket. The weight does not depend on the
styles of unions. -/
namespace TypedTemplate.TypeExpr
open Text

def isCallableName (n : String) (m : Option String) : Bool :=
  n == "Callable" && (m == none || m == some "typing")

mutual
def weight : TypeExpr → Nat
  | named _ _ _ => 0
  | generic _ n m args => (if isCallableName n m then 2 else 1) + weightAll args
  | union _ _ ms => 1 + weightAll ms

def weightAll : List TypeExpr → Nat
  | [] => 0
  | t :: ts => t.weight + weightAll ts
end

theorem weightAll_eq_sum (ts : List TypeExpr) : weightAll ts = (ts.map weight).sum := by
  induction ts with
  | nil => simp [weightAll]
  | cons t ts ih => simp [weightAll, ih]

theorem weightAll_append (ts us : List TypeExpr) :
    weightAll (ts ++ us) = weightAll ts + weightAll us := by
  rw [weightAll_eq_sum, weightAll_eq_sum, weightAll_eq_sum, List.map_append, List.sum_append]

mutual
theorem weight_barred : (t : TypeExpr) → t.barred.weight = t.weight
  | named _ _ _ => by rw [barred, weight, weight]
  | generic _ _ _ args => by rw [barred, weight, weight, weightAll_barredAll args]
  | union _ _ ms => by rw [barred, weight, weight, weightAll_barredAll ms]

theorem weightAll_barredAll : (ts : List TypeExpr) → weightAll (barredAll ts) = weightAll ts
  | [] => by rw [barredAll]
  | t :: ts => by rw [barredAll, weightAll, weightAll, weight_barred t, weightAll_barredAll ts]
end

theorem isCallableName_splitName (b : List Char) :
    isCallableName (splitName b).2 (splitName b).1 = isCallable b := by
  have heq (s : List Char) (w : String) : String.ofList s = w ↔ s = w.toList := by
    constructor
    · rintro rfl
      exact String.toList_ofList.symm
    · rintro rfl
      exact String.ofList_toList
  have hdotted :
      cutLast? '.' "typing.Callable".toList = some ("typing".toList, "Callable".toList) := by decide
  have hplain : cutLast? '.' "Callable".toList = none := by decide
  rw [Bool.eq_iff_iff]
  unfold splitName
  cases hc : cutLast? '.' b with
  | none =>
    simp only [isCallableName, isCallable, Bool.and_eq_true, Bool.or_eq_true, beq_iff_eq, heq,
      true_or, and_true]
    constructor
    · exact .inl
    · rintro (h | h)
      · exact h
      · rw [h, hdotted] at hc
        cases hc
  | some p =>
    obtain ⟨m, n⟩ := p
    simp only [isCallableName, isCallable, Bool.and_eq_true, Bool.or_eq_true, beq_iff_eq, heq,
      reduceCtorEq, false_or, Option.some.injEq]
    constructor
    · rintro ⟨rfl, rfl⟩
      refine .inr ?_
      rw [cutLast?_eq_append hc]
      decide
    · rintro (h | h)
      · rw [h, hplain] at hc
        cases hc
      · rw [h, hdotted] at hc
        cases hc
        exact ⟨rfl, rfl⟩

section Count

variable {as : List Arg}

/-- The type has as many brackets as the text opens, and the text closes no fewer. -/
structure Balanced (s : List Char) (t : TypeExpr) : Prop where
  weight_eq : t.weight = s.count '['
  opens_le : s.count '[' ≤ s.count ']'

theorem weightAll_args (h : ∀ a ∈ as, Balanced (trim a.text) a.type) :
    weightAll (as.map Arg.type) = ((as.map Arg.text).map (List.count '[')).sum ∧
      ((as.map Arg.text).map (List.count '[')).sum ≤
      ((as.map Arg.text).map (List.count ']')).sum := by
  induction as with
  | nil => simp [weightAll]
  | cons a as ih =>
    obtain ⟨hw, hle⟩ := ih fun b hb => h b (by simp [hb])
    obtain ⟨ha, hle'⟩ := h a (by simp)
    rw [count_trim (by decide)] at ha hle'
    rw [count_trim (by decide)] at hle'
    simp only [List.map_cons, List.sum_cons, weightAll, hw, ha, true_and]
    omega

theorem count_open_bracketed {base : List Char} (hb : '[' ∉ base) (inner : List Char) :
    (bracketed base inner).count '[' = 1 + inner.count '[' := by
  simp [bracketed, List.count_eq_zero.2 hb, Nat.add_comm]

theorem le_count_close_bracketed (base inner : List Char) :
    1 + inner.count ']' ≤ (bracketed base inner).count ']' := by
  simp [bracketed]
  omega

theorem infix_bracketed (base inner : List Char) : inner <:+: bracketed base inner :=
  ⟨base ++ ['['], [']'], by simp [bracketed]⟩

theorem infix_of_mem_splitArgs {s p : List Char} (h : p ∈ splitArgs s) : p <:+: s := by
  rw [splitArgs_eq] at h
  exact infix_of_mem_splitTrimmed (List.mem_filter.1 h).1

theorem callableParts?_eq_some {inner result : List Char} {params : List (List Char)}
    (h : callableParts? inner = some (params, result)) :
    ∃ before ps, inner = before ++ (paramsEnd ++ result) ∧ trim before = '[' :: ps ∧
      params = splitArgs ps ∧ ¬ paramsEnd <:+: before := by
  simp only [callableParts?, Option.bind_eq_bind, Option.pure_def, Option.bind_eq_some_iff,
    Prod.exists] at h
  obtain ⟨before, rest, hcut, ps, hps, heq⟩ := h
  simp only [Option.some.injEq, Prod.mk.injEq] at heq
  obtain ⟨rfl, rfl⟩ := heq
  refine ⟨before, ps, cut?_eq_append hcut, ?_, splitArgs_trim ps,
    not_infix_of_cut? hcut (by decide)⟩
  rw [after?] at hps
  split at hps
  · next hp =>
    obtain ⟨t, ht⟩ := List.isPrefixOf_iff_prefix.1 hp
    rw [← ht] at hps ⊢
    simpa using hps
  · cases hps

theorem infix_of_callableParts {inner result : List Char} {params : List (List Char)}
    (h : callableParts? inner = some (params, result)) : (∀ p ∈ params, p <:+: inner) ∧
      result <:+: inner := by
  obtain ⟨before, ps, rfl, hb, rfl, -⟩ := callableParts?_eq_some h
  refine ⟨fun p hp => ?_, ((List.suffix_append _ _).trans (List.suffix_append _ _)).isInfix⟩
  have hps : ps <:+: before := ((List.suffix_cons _ _).isInfix).trans (hb ▸ trim_isInfix before)
  exact ((infix_of_mem_splitArgs hp).trans hps).trans (List.prefix_append _ _).isInfix

theorem count_callableParts {inner result : List Char} {params : List (List Char)}
    (h : callableParts? inner = some (params, result)) :
    inner.count '[' = 1 + (params.map (List.count '[')).sum + result.count '[' ∧
      inner.count ']' = 1 + (params.map (List.count ']')).sum + result.count ']' := by
  obtain ⟨before, ps, rfl, hb, rfl, -⟩ := callableParts?_eq_some h
  rw [sum_count_splitArgs (by decide) (by decide), sum_count_splitArgs (by decide) (by decide)]
  have ho := count_trim (show isBlank '[' = false by decide) before
  have hc := count_trim (show isBlank ']' = false by decide) before
  rw [hb] at ho hc
  simp [paramsEnd] at ho hc ⊢
  omega

theorem bar_absent_of_mem {base inner : List Char} (hbar : ¬ bar <:+: bracketed base inner)
    (hp : as.map Arg.text = splitArgs (trim inner)) {a : Arg} (ha : a ∈ as) :
    ¬ bar <:+: trim a.text := fun h => by
  have hmem : a.text ∈ splitArgs (trim inner) := hp ▸ List.mem_map_of_mem ha
  have htext : a.text <:+: inner := (infix_of_mem_splitArgs hmem).trans (trim_isInfix _)
  exact hbar (((h.trans (trim_isInfix _)).trans htext).trans (infix_bracketed _ _))

theorem weight_ofGeneric (base inner : List Char) (args : List TypeExpr) :
    (ofGeneric base inner args).weight = (if isCallable (trim base) then 2 else 1) + weightAll
      args := by
  rw [ofGeneric, weight, isCallableName_splitName]

theorem balanced_bracketed {base inner : List Char} {t : TypeExpr} (hb : '[' ∉ base)
    (hp : as.map Arg.text = splitArgs (trim inner)) (ha : ∀ a ∈ as, Balanced (trim a.text) a.type)
    (ht : t.weight = 1 + weightAll (as.map Arg.type)) : Balanced (bracketed base inner) t := by
  obtain ⟨hw, hle⟩ := weightAll_args ha
  rw [hp, splitArgs_trim, sum_count_splitArgs (by decide) (by decide)] at hw hle
  rw [sum_count_splitArgs (by decide) (by decide)] at hle
  have hclose := le_count_close_bracketed base inner
  exact ⟨by rw [ht, hw, count_open_bracketed hb], by rw [count_open_bracketed hb]; omega⟩

theorem Reads.balanced {s : List Char} {t : TypeExpr} (h : Reads s t) :
    (¬ bar <:+: s → Balanced s t) ∧ (bar <:+: s → t.weight = 1 + s.count '[') := by
  induction h with
  | @name s hb hbar =>
    exact ⟨fun _ => ⟨by rw [ofName, weight, List.count_eq_zero.2 hb], by
      simp [List.count_eq_zero.2 hb]⟩, fun h => absurd h hbar⟩
  | @bars s as hbar hp ha ih =>
    refine ⟨fun h => absurd hbar h, fun _ => ?_⟩
    have hall : ∀ a ∈ as, Balanced (trim a.text) a.type := fun a hm => by
      have hpiece : a.text ∈ pieces bar s := hp ▸ List.mem_map_of_mem hm
      exact (ih a hm).1 fun h => not_infix_of_mem_pieces (by decide) hpiece
        (h.trans (trim_isInfix _))
    rw [weight, (weightAll_args hall).1, hp, sum_count_pieces (by decide)]
  | @union inner as hbar hp ha ih =>
    refine ⟨fun _ => balanced_bracketed (by decide) hp (fun a hm => ?_) (by rw [weight]),
      fun h => absurd h hbar⟩
    exact (ih a hm).1 (bar_absent_of_mem hbar hp hm)
  | @optional inner t hbar ht ih =>
    refine ⟨fun _ => ?_, fun h => absurd h hbar⟩
    obtain ⟨hw, hle⟩ := ih.1 fun h => hbar ((h.trans (trim_isInfix _)).trans (infix_bracketed _ _))
    rw [count_trim (by decide)] at hw hle
    rw [count_trim (by decide)] at hle
    have hclose := le_count_close_bracketed optionalName inner
    refine ⟨?_, by rw [count_open_bracketed (by decide)]; omega⟩
    simp [weight, weightAll, noneType, hw, count_open_bracketed (show '[' ∉ optionalName by decide)]
  | @generic base inner as hb hbar hc hp ha ih =>
    refine ⟨fun _ => balanced_bracketed hb hp (fun a hm => ?_) ?_, fun h => absurd h hbar⟩
    · exact (ih a hm).1 (bar_absent_of_mem hbar hp hm)
    · rw [weight_ofGeneric, hc]
      rfl
  | @callable base inner ps r hb hbar hc hp ha hr ihp ihr =>
    refine ⟨fun _ => ?_, fun h => absurd h hbar⟩
    have hinner {p : List Char} (h : p <:+: trim inner) : ¬ bar <:+: trim p := fun hb =>
      hbar ((((hb.trans (trim_isInfix _)).trans h).trans (trim_isInfix _)).trans
        (infix_bracketed _ _))
    obtain ⟨hparams, hresult⟩ := infix_of_callableParts hp
    obtain ⟨hw, hle⟩ :=
      weightAll_args fun a hm => (ihp a hm).1 (hinner (hparams _ (List.mem_map_of_mem hm)))
    obtain ⟨hrw, hrle⟩ := ihr.1 (hinner hresult)
    obtain ⟨ho, hcl⟩ := count_callableParts hp
    rw [count_trim (by decide)] at hrw hrle ho hcl
    rw [count_trim (by decide)] at hrle
    have hclose := le_count_close_bracketed base inner
    refine ⟨?_, by rw [count_open_bracketed hb]; omega⟩
    rw [weight_ofGeneric, hc, if_pos rfl, weightAll_append, hw, weightAll, weightAll, hrw,
      count_open_bracketed hb]
    omega

theorem ReadsAs.balanced {s : List Char} {t : TypeExpr} (h : ReadsAs s t)
    (hbar : ¬ bar <:+: trim s) : Balanced s t := by
  obtain ⟨u, hu, heq⟩ := h
  obtain ⟨hw, hle⟩ := (reads_of_parseChars hu).balanced.1 hbar
  rw [count_trim (by decide)] at hw hle
  rw [count_trim (by decide)] at hle
  exact ⟨by rw [← weight_barred, ← heq, weight_barred, hw], hle⟩

theorem ReadsAs.weight_bars {s : List Char} {t : TypeExpr} (h : ReadsAs s t)
    (hbar : bar <:+: trim s) :
    t.weight = 1 + s.count '[' := by
  obtain ⟨u, hu, heq⟩ := h
  have hw := (reads_of_parseChars hu).balanced.2 hbar
  rw [count_trim (by decide)] at hw
  rw [← weight_barred, ← heq, weight_barred, hw]

end Count

end TypedTemplate.TypeExpr
