import Mathlib.Data.List.Forall2
import TypedTemplate.Proofs.TypeExpr.Reading

/-! What a type means, whatever the style of its unions. A text reads as a type when the two agree
after every union is written with bars; whether it does is decided part by part. -/
namespace TypedTemplate.TypeExpr
open Text

mutual
def barred : TypeExpr → TypeExpr
  | named _ n m => named "" n m
  | generic _ n m args => generic "" n m (barredAll args)
  | union _ _ ms => union "" .pipe (barredAll ms)

def barredAll : List TypeExpr → List TypeExpr
  | [] => []
  | t :: ts => t.barred :: barredAll ts
end

theorem barredAll_eq_map (ts : List TypeExpr) : barredAll ts = ts.map barred := by
  induction ts with
  | nil => simp [barredAll]
  | cons t ts ih => simp [barredAll, ih]

/-- Reading the text gives a type that means the same. -/
def ReadsAs (s : List Char) (t : TypeExpr) : Prop := ∃ u, parseChars s = .ok u ∧ u.barred = t.barred

def meaning (s : List Char) : Option TypeExpr := (parseChars s).toOption.map barred

theorem meaning_congr {x y : List Char} (h : trim y = trim x) : meaning y = meaning x := by
  rw [meaning, meaning, ← parseChars_trim x, ← h, parseChars_trim]

theorem readsAs_iff_meaning {s : List Char} {t : TypeExpr} :
    ReadsAs s t ↔ meaning s = some t.barred := by
  rw [ReadsAs, meaning]
  cases parseChars s with
  | error e => simp [Except.toOption]
  | ok u => simp [Except.toOption]

theorem readsAs_trim {s : List Char} {t : TypeExpr} : ReadsAs (trim s) t ↔ ReadsAs s t := by
  rw [ReadsAs, parseChars_trim, ReadsAs]

theorem readsAs_spelling {t : TypeExpr} {s : List Char} (h : Spelling t s) : ReadsAs s t :=
  ⟨t, parseChars_spelling h, rfl⟩

theorem forall₂_readsAs_iff {ps : List (List Char)} {ts : List TypeExpr} :
    List.Forall₂ ReadsAs ps ts ↔ ∃ us, ps.mapM parseChars = .ok us ∧
      barredAll us = barredAll ts := by
  induction ps generalizing ts with
  | nil =>
    rw [List.forall₂_nil_left_iff]
    constructor
    · rintro rfl
      exact ⟨[], rfl, rfl⟩
    · rintro ⟨us, hus, heq⟩
      cases hus
      cases ts with
      | nil => rfl
      | cons t ts => simp [barredAll] at heq
  | cons p ps ih =>
    rw [List.mapM_cons, List.forall₂_cons_left_iff]
    constructor
    · rintro ⟨t, ts, ⟨u, hu, heq⟩, hps, rfl⟩
      obtain ⟨us, hus, hall⟩ := ih.1 hps
      exact ⟨u :: us, by rw [hu, hus]; rfl, by rw [barredAll, barredAll, heq, hall]⟩
    · rintro ⟨us, hus, heq⟩
      obtain ⟨u, hu, hus⟩ := bind_eq_ok hus
      obtain ⟨vs, hvs, hok⟩ := bind_eq_ok hus
      cases hok
      cases ts with
      | nil => simp [barredAll] at heq
      | cons t ts =>
        rw [barredAll, barredAll, List.cons.injEq] at heq
        exact ⟨t, ts, ⟨u, hu, heq.1⟩, ih.2 ⟨vs, hvs, heq.2⟩, rfl⟩

section Shape

variable {s : List Char} {t : TypeExpr} {ts : List TypeExpr}

theorem readsAs_of_shape {sh : Shape} (mk : List TypeExpr → TypeExpr) (hs : shape (trim s) = sh)
    (hb : ∀ us, build (trim s) us sh = .ok (mk us)) (hm : ∀ us, (mk us).barred = t.barred ↔
      barredAll us = barredAll ts) :
    ReadsAs s t ↔ List.Forall₂ ReadsAs sh.parts ts := by
  rw [forall₂_readsAs_iff, ReadsAs, parseChars_eq, hs]
  constructor
  · rintro ⟨u, hu, heq⟩
    obtain ⟨us, hus, hok⟩ := bind_eq_ok hu
    rw [hb, Except.ok.injEq] at hok
    exact ⟨us, hus, (hm us).1 (hok ▸ heq)⟩
  · rintro ⟨us, hus, heq⟩
    exact ⟨mk us, by rw [hus]; exact hb us, (hm us).2 heq⟩

theorem readsAs_bars_iff {raw : String} {style : UnionStyle} (h : bar <:+: trim s) :
    ReadsAs s (.union raw style ts) ↔ List.Forall₂ ReadsAs (pieces bar (trim s)) ts :=
  readsAs_of_shape (.union (String.ofList (trim s)) .pipe) (shape_bars h) (fun _ => rfl)
    (fun us => by simp [barred])

theorem readsAs_parts_iff {xs : List (List Char)} {raw : String} {style : UnionStyle}
    (hlen : 2 ≤ xs.length) (ht : Trimmed (bar.intercalate xs)) (hx : ∀ x ∈ xs, '|' ∉ x) :
    ReadsAs (bar.intercalate xs) (.union raw style ts) ↔ List.Forall₂ ReadsAs xs ts := by
  have hne : xs ≠ [] := by
    rintro rfl
    simp at hlen
  rw [readsAs_bars_iff (by rw [trim_eq_self ht]; exact bar_infix_intercalate hlen), trim_eq_self ht,
    pieces_bars hne hx]

theorem exists_union_of_readsAs (hbar : bar <:+: trim s) (h : ReadsAs s t) :
    ∃ raw style ms, t = .union raw style ms := by
  obtain ⟨u, hu, heq⟩ := h
  rw [parseChars_eq, shape_bars hbar] at hu
  obtain ⟨us, -, hok⟩ := bind_eq_ok hu
  cases hok
  cases t with
  | union raw style ms => exact ⟨raw, style, ms, rfl⟩
  | _ => simp [barred] at heq

variable {base inner : List Char}

theorem readsAs_generic_iff {inner' : List Char} (hb : Base base) (hu : base ≠ unionName)
    (ho : base ≠ optionalName)
    (hc : isCallable (trim base) = false) (hbar : ¬ bar <:+: bracketed base inner) :
    ReadsAs (bracketed base inner) (ofGeneric base inner' ts) ↔
      List.Forall₂ ReadsAs (splitArgs inner) ts := by
  have hs := shape_bracketed hb.bracket_not_mem hbar
  rw [if_neg hu, if_neg ho, hc, if_neg Bool.false_ne_true, splitArgs_trim,
    ← trim_eq_self (trimmed_bracketed hb.start inner)] at hs
  refine readsAs_of_shape (.generic _ (splitName (trim base)).2 (splitName (trim base)).1) hs
    (fun _ => rfl) (fun us => by simp [barred, ofGeneric])

theorem readsAs_union_iff {raw : String} {style : UnionStyle}
    (hbar : ¬ bar <:+: bracketed unionName inner) :
    ReadsAs (bracketed unionName inner) (.union raw style ts) ↔
      List.Forall₂ ReadsAs (splitArgs inner) ts := by
  have hs := @shape_bracketed unionName inner (by decide) hbar
  rw [if_pos rfl, splitArgs_trim, ← trim_eq_self (@trimmed_bracketed unionName (by decide) inner)]
    at hs
  exact readsAs_of_shape (.union _ _) hs (fun _ => rfl) (fun us => by simp [barred])

theorem readsAs_optional_iff {raw : String} {style : UnionStyle}
    (hbar : ¬ bar <:+: bracketed optionalName inner) :
    ReadsAs (bracketed optionalName inner) (.union raw style [t, noneType]) ↔ ReadsAs inner t := by
  have hs := @shape_bracketed optionalName inner (by decide) hbar
  rw [if_neg (by decide), if_pos rfl,
    ← trim_eq_self (@trimmed_bracketed optionalName (by decide) inner)] at hs
  have hm (us : List TypeExpr) : barredAll (us ++ [noneType]) = barredAll [t, noneType] ↔
    barredAll us = barredAll [t] := by
    rw [barredAll_eq_map, barredAll_eq_map, barredAll_eq_map, barredAll_eq_map, List.map_append]
    exact @List.append_left_inj _ _ [t.barred] [noneType.barred]
  rw [@readsAs_of_shape _ _ [t] _ (fun us => .union _ _ (us ++ [noneType])) hs (fun _ => rfl)
    (fun us => by simp [barred, hm])]
  simp [Shape.parts, readsAs_trim]

theorem callableParts_of_readsAs (hb : Base base) (hc : isCallable (trim base) = true)
    (hbar : ¬ bar <:+: bracketed base inner) (h : ReadsAs (bracketed base inner) t) :
    ∃ (as : List Arg) (r : List Char), callableParts? (trim inner) = some (as.map Arg.text, r) ∧
      ∀ a ∈ as, ReadsAs a.text a.type := by
  have hs := shape_callable hb.bracket_not_mem hc hbar
  obtain ⟨u, hu, -⟩ := h
  rw [parseChars_eq, trim_eq_self (trimmed_bracketed hb.start inner), hs] at hu
  obtain ⟨us, hus, hok⟩ := bind_eq_ok hu
  cases hp : callableParts? (trim inner) with
  | none =>
    rw [hp] at hok
    cases hok
  | some p =>
    obtain ⟨ps, r⟩ := p
    rw [hp] at hus
    obtain ⟨as, htexts, -, has⟩ := args_of_mapM hus
    obtain ⟨init, last, rfl, rfl, -⟩ := List.map_eq_append_iff.1 htexts
    exact ⟨init, r, rfl, fun a ha => ⟨a.type, has a (by simp [ha]), rfl⟩⟩

end Shape

end TypedTemplate.TypeExpr
