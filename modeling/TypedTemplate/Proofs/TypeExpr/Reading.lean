import TypedTemplate.Proofs.TypeExpr.Spelling

/-! Reading what is written. The reader looks at the whole text first, so each lemma on the outer
shape says that no test made before the right one succeeds. -/
namespace TypedTemplate.TypeExpr
open Text

theorem parseChars_eq (text : List Char) :
    parseChars text =
      ((shape (trim text)).parts.mapM parseChars >>=
        fun ts => build (trim text) ts (shape (trim text))) := by
  rw [parseChars]
  simp

theorem parseChars_trim (text : List Char) : parseChars (trim text) = parseChars text := by
  rw [parseChars_eq, trim_trim, ← parseChars_eq]

theorem mapM_eq_ok {α β ε : Type} {f : α → Except ε β} {g : α → β} {l : List α}
    (h : ∀ x ∈ l, f x = .ok (g x)) :
    l.mapM f = .ok (l.map g) := by
  induction l with
  | nil => rfl
  | cons x l ih =>
    rw [List.mapM_cons, h x (by simp), ih fun y hy => h y (by simp [hy])]
    rfl

theorem bind_eq_ok {ε α β : Type} {x : Except ε α} {f : α → Except ε β} {b : β}
    (h : x >>= f = .ok b) :
    ∃ a, x = .ok a ∧ f a = .ok b := by
  cases x with
  | error e => cases h
  | ok a => exact ⟨a, rfl, h⟩

theorem args_of_mapM {ps : List (List Char)} {ts : List TypeExpr}
    (h : ps.mapM parseChars = .ok ts) :
    ∃ as : List Arg, as.map Arg.text = ps ∧ as.map Arg.type = ts ∧
      ∀ a ∈ as, parseChars a.text = .ok a.type := by
  induction ps generalizing ts with
  | nil =>
    cases h
    exact ⟨[], rfl, rfl, by simp⟩
  | cons p ps ih =>
    rw [List.mapM_cons] at h
    cases hp : parseChars p with
    | error e =>
      rw [hp] at h
      cases h
    | ok t =>
      cases hps : ps.mapM parseChars with
      | error e =>
        rw [hp, hps] at h
        cases h
      | ok us =>
        rw [hp, hps] at h
        cases h
        obtain ⟨as, rfl, rfl, ha⟩ := ih hps
        exact ⟨⟨t, p⟩ :: as, rfl, rfl, by simpa using ⟨hp, ha⟩⟩

theorem bar_absent {s : List Char} (h : '|' ∉ s) :
    ¬ bar <:+: s := fun hb => h (hb.subset (by decide))

theorem startsWith_bracket {base head rest : List Char} (hb : '[' ∉ base) (hh : '[' ∉ head) :
    startsWith (base ++ '[' :: rest) (head ++ ['[']) = true ↔ base = head := by
  rw [startsWith, List.isPrefixOf_iff_prefix]
  constructor
  · rintro ⟨t, ht⟩
    have h1 := cut?_single (b := t) hh
    have h2 := cut?_single (b := rest) hb
    rw [List.append_assoc, List.singleton_append] at ht
    rw [ht, h2] at h1
    simpa using congrArg (Option.map Prod.fst) h1
  · rintro rfl
    exact ⟨rest, by simp⟩

theorem endsWith_bracket (s : List Char) : endsWith (s ++ [']']) [']'] = true := by
  rw [endsWith, List.isSuffixOf_iff_suffix]
  exact List.suffix_append _ _

theorem inside_bracket (head inner : List Char) :
    inside head.length (head ++ (inner ++ [']'])) = trim inner := by
  rw [inside, List.drop_left, List.dropLast_concat]

section Shape

variable {base inner : List Char}

theorem shape_bracketed (hb : '[' ∉ base) (hbar : ¬ bar <:+: bracketed base inner) :
    shape (bracketed base inner) =
      if base = unionName then .union .union (splitArgs (trim inner))
      else if base = optionalName then .union .optional [trim inner]
      else if isCallable (trim base) then
        match callableParts? (trim inner) with
        | some (params, result) => .generic (trim base) (params ++ [result])
        | none => .invalid .callable
      else .generic (trim base) (splitArgs (trim inner)) := by
  have hu : startsWith (bracketed base inner) unionStart = true ↔ base = unionName :=
    @startsWith_bracket base unionName _ hb (by decide)
  have ho : startsWith (bracketed base inner) optionalStart = true ↔ base = optionalName :=
    @startsWith_bracket base optionalName _ hb (by decide)
  have hclose : endsWith (bracketed base inner) [']'] = true := by
    simpa [bracketed] using endsWith_bracket (base ++ '[' :: inner)
  have hinside : inside (base.length + 1) (bracketed base inner) = trim inner := by
    simpa [bracketed] using inside_bracket (base ++ ['[']) inner
  have hcut : cut? ['['] (bracketed base inner) = some (base, inner ++ [']']) := cut?_single hb
  rw [shape, occurs_eq_false_iff.2 hbar]
  simp only [Bool.false_eq_true, if_false, hu, ho, hclose, if_true, hcut, hinside]
  split
  · next h =>
    subst h
    rw [← hinside]
    rfl
  · split
    · next h =>
      subst h
      rw [← hinside]
      rfl
    · rfl

theorem shape_callable (hb : '[' ∉ base) (hc : isCallable (trim base) = true)
    (hbar : ¬ bar <:+: bracketed base inner) :
    shape (bracketed base inner) =
      match callableParts? (trim inner) with
      | some (params, result) => .generic (trim base) (params ++ [result])
      | none => .invalid .callable := by
  have hu : base ≠ unionName := by
    rintro rfl
    exact absurd hc (by decide)
  have ho : base ≠ optionalName := by
    rintro rfl
    exact absurd hc (by decide)
  rw [shape_bracketed hb hbar, if_neg hu, if_neg ho, if_pos hc]

theorem shape_name (hb : '[' ∉ base) (hbar : ¬ bar <:+: base) : shape base = .name := by
  have h1 : ¬ startsWith base unionStart = true := fun h =>
    hb ((List.isPrefixOf_iff_prefix.1 h).subset (by decide))
  have h2 : ¬ startsWith base optionalStart = true := fun h =>
    hb ((List.isPrefixOf_iff_prefix.1 h).subset (by decide))
  have h3 : cut? ['['] base = none := cut?_eq_none_iff.2 fun h => hb (h.subset (by simp))
  rw [shape, occurs_eq_false_iff.2 hbar]
  simp only [Bool.false_eq_true, if_false, h1, h2, h3]

theorem shape_bars {s : List Char} (h : bar <:+: s) : shape s = .union .pipe (pieces bar s) := by
  rw [shape, occurs_iff.2 h, if_pos rfl]

end Shape

theorem cut?_bar {a b : List Char} (h : '|' ∉ a) : cut? bar (a ++ (bar ++ b)) = some (a, b) := by
  refine cut?_eq_some (by decide) fun u hu hs hp => ?_
  obtain ⟨t, ht⟩ := hp
  match u, hu with
  | [c], _ => simp [bar] at ht
  | c :: d :: u, _ =>
    simp only [bar, List.cons_append, List.cons.injEq] at ht
    obtain ⟨-, rfl, -⟩ := ht
    exact h (hs.subset (by simp))

theorem pieces_bars {ps : List (List Char)} (hne : ps ≠ []) (h : ∀ p ∈ ps, '|' ∉ p) :
    pieces bar (bar.intercalate ps) = ps := by
  induction ps with
  | nil => exact absurd rfl hne
  | cons p ps ih =>
    have hp := h p (by simp)
    cases ps with
    | nil => simpa using pieces_of_absent (bar_absent hp)
    | cons q ps =>
      rw [List.intercalate_cons_of_ne_nil (by simp), List.append_assoc,
        pieces_of_cut? (by decide) (cut?_bar hp), ih (by simp) fun r hr => h r (by simp [hr])]

theorem bar_infix_intercalate {ps : List (List Char)} (h : 2 ≤ ps.length) :
    bar <:+: bar.intercalate ps := by
  match ps, h with
  | p :: q :: ps, _ =>
    rw [List.intercalate_cons_of_ne_nil (by simp), List.append_assoc]
    exact ((List.prefix_append _ _).isInfix).trans (List.suffix_append _ _).isInfix

theorem parseChars_of_shape {s : List Char} {sh : Shape} {ts : List TypeExpr} (ht : Trimmed s)
    (hs : shape s = sh)
    (hp : sh.parts.mapM parseChars = .ok ts) : parseChars s = build s ts sh := by
  rw [parseChars_eq, trim_eq_self ht, hs, hp]
  rfl

theorem mapM_args {as : List Arg} (h : ∀ a ∈ as, parseChars (trim a.text) = .ok a.type) :
    (as.map fun a => trim a.text).mapM parseChars = .ok (as.map Arg.type) := by
  rw [List.mapM_map]
  exact mapM_eq_ok h

theorem cut?_paramsEnd {a b : List Char} (h : ¬ paramsEnd <:+: a) :
    cut? paramsEnd (a ++ (paramsEnd ++ b)) = some (a, b) := by
  refine cut?_eq_some (by decide) fun u hu hs hp => h ?_
  rcases prefix_append_cases hp with hin | ⟨v, hv, -⟩
  · exact hin.isInfix.trans hs.isInfix
  · -- a place that begins in `a` and ends behind it would have its own first character again as
    -- its second or third
    obtain ⟨t, ht⟩ := hp
    match u, hu with
    | [c], _ => simp [paramsEnd] at ht
    | [c, d], _ => simp [paramsEnd] at ht
    | [c, d, e], _ =>
      have : paramsEnd = [c, d, e] := by simpa [paramsEnd] using congrArg (List.take 3) ht
      rw [this]
      exact hs.isInfix
    | c :: d :: e :: f :: u, _ =>
      have := congrArg List.length hv
      simp [paramsEnd] at this

theorem trimmed_signature {ps : List Arg} {r : Arg} (hr : Trimmed r.text) (hne : r.text ≠ []) :
    Trimmed (signature ps r) := by
  refine ⟨by simp [signature]; decide, fun c hc => hr.2 c ?_⟩
  obtain ⟨u, e, hu⟩ := List.eq_nil_or_concat r.text |>.resolve_left hne
  simpa [signature, hu, List.getLast?_append, List.getLast?_cons] using hc

theorem callableParts?_cut {x y : List Char} (h : ¬ paramsEnd <:+: x) :
    callableParts? ('[' :: (x ++ (paramsEnd ++ y))) = some (splitArgs x, y) := by
  have hcut : cut? paramsEnd ('[' :: (x ++ (paramsEnd ++ y))) = some ('[' :: x, y) := by
    refine @cut?_paramsEnd ('[' :: x) y fun hin => ?_
    rcases List.infix_cons_iff.1 hin with hin | hin
    · simp [paramsEnd] at hin
    · exact h hin
  have hafter : after? ['['] ('[' :: trimEnd x) = some (trimEnd x) := after?_append ['['] _
  have hargs : splitArgs (trim (trimEnd x)) = splitArgs x := by rw [trim_trimEnd, splitArgs_trim]
  rw [callableParts?, hcut]
  simp only [Option.bind_eq_bind, Option.bind_some, trim_cons (show isBlank '[' = false by decide),
    hafter, hargs]
  rfl

theorem callableParts?_signature {ps : List Arg} {r : Arg} (hend : ¬ paramsEnd <:+: joined ps)
    (hps : ∀ a ∈ ps, Spelled a.type (trim a.text)) :
    callableParts? (signature ps r) = some (ps.map fun a => trim a.text, r.text) := by
  rw [signature, callableParts?_cut hend, ← splitArgs_trim, splitArgs_joined hps]

theorem Base.bracket_not_mem {base : List Char} (h : Base base) : '[' ∉ base := fun hm =>
  absurd (h.plain '[' hm) (by decide)

theorem parseChars_spelled {t : TypeExpr} {s : List Char} (h : Spelled t s) :
    parseChars s = .ok t := by
  have hbar {t : TypeExpr} {s : List Char} (h : Spelled t s) : ¬ bar <:+: s :=
    bar_absent (h.not_mem (by decide))
  induction h with
  | @name s hp ht hne =>
    have hs := shape_name (fun hm => absurd (hp '[' hm) (by decide)) (hbar (.name hp ht hne))
    rw [parseChars_of_shape ht hs rfl]
    rfl
  | @generic base as hb hu ho hc hne ha ih =>
    have hw := Spelled.generic hb hu ho hc hne ha
    have hs := shape_bracketed hb.bracket_not_mem (hbar hw)
    rw [if_neg hu, if_neg ho, hc, if_neg Bool.false_ne_true, splitArgs_joined ha] at hs
    rw [parseChars_of_shape hw.trimmed hs (mapM_args ih)]
    rfl
  | @callable base ps r hb hc hend hps hr ihp ihr =>
    have hw := Spelled.callable hb hc hend hps hr
    have hs := shape_callable hb.bracket_not_mem hc (hbar hw)
    rw [trim_eq_self (trimmed_signature hr.trimmed hr.ne_nil), callableParts?_signature hend hps]
      at hs
    have hparts : ((ps.map fun a => trim a.text) ++ [r.text]).mapM parseChars = .ok
      (ps.map Arg.type ++ [r.type]) := by
      rw [List.mapM_append, mapM_args ihp, List.mapM_cons, ihr]
      rfl
    rw [parseChars_of_shape hw.trimmed hs hparts]
    rfl
  | @union as hne ha ih =>
    have hw := Spelled.union hne ha
    have hs := @shape_bracketed unionName _ (by decide) (hbar hw)
    rw [if_pos rfl, splitArgs_joined ha] at hs
    rw [parseChars_of_shape hw.trimmed hs (mapM_args ih)]
    rfl
  | @optional a ha ih =>
    have hw := Spelled.optional ha
    have hs := @shape_bracketed optionalName _ (by decide) (hbar hw)
    rw [if_neg (by decide), if_pos rfl] at hs
    rw [parseChars_of_shape hw.trimmed hs (@mapM_args [a] (by simpa using ih))]
    rfl

theorem parseChars_spelling {t : TypeExpr} {s : List Char} (h : Spelling t s) :
    parseChars s = .ok t := by
  cases h with
  | single h => exact parseChars_spelled h
  | @bars as hlen ht ha =>
    have hp : ∀ p ∈ as.map Arg.text, '|' ∉ p := by
      intro p hp
      obtain ⟨a, hm, rfl⟩ := List.mem_map.1 hp
      exact fun hc => absurd (isTypeChar_of_trim (ha a hm).isTypeChar '|' hc) (by decide)
    have hne : as.map Arg.text ≠ [] := by
      rintro h0
      simp [List.map_eq_nil_iff.1 h0] at hlen
    have hs := shape_bars (@bar_infix_intercalate (as.map Arg.text) (by simpa using hlen))
    rw [pieces_bars hne hp] at hs
    have hparts : (as.map Arg.text).mapM parseChars = .ok (as.map Arg.type) := by
      rw [List.mapM_map]
      refine mapM_eq_ok fun a hm => ?_
      change parseChars a.text = .ok a.type
      rw [← parseChars_trim, parseChars_spelled (ha a hm)]
    rw [parseChars_of_shape ht hs hparts]
    rfl

end TypedTemplate.TypeExpr
