import TypedTemplate.Proofs.TypeExpr.InnerBars

/-! The parameters of a callable. They end at the first closing bracket with a comma and a blank
behind it, so a callable can be read only if no parameter but the last closes a bracket at its end;
its arguments are then the parameters and the result in one list. -/
namespace TypedTemplate.TypeExpr
open Text

/-- A text that stands for itself between others: its brackets are square and match, and no comma is
outside of them. -/
structure Standalone (s : List Char) : Prop where
  trimmed : Trimmed s
  part : Part s
  nested : Nested s
  square : Square s

def callableName : List Char := ['C', 'a', 'l', 'l', 'a', 'b', 'l', 'e']

def signatureText (ps : List (List Char)) (r : List Char) : List Char :=
  '[' :: ([','].intercalate ps ++ (paramsEnd ++ r))

/-- What stands between the brackets of a callable: the list of its parameters and, behind a comma,
its result. -/
def listed (lead : List Char) (ps : List (List Char)) (gap r : List Char) : List Char :=
  lead ++ '[' :: ([','].intercalate ps ++ ']' :: (gap ++ ',' :: r))

def Marked (ps : List (List Char)) (rest : List Char) : Prop :=
  ¬ paramsEnd <:+: [','].intercalate ps ∧ [',', ' '] <+: rest

section Listed

theorem square_of_trim {s : List Char} (h : Square (trim s)) : Square s :=
  forall_mem_of_trim (fun c hc => by
    obtain ⟨ho, hcl, -⟩ := isPlain_iff.1 hc
    simp [ho, hcl]) h

theorem square_blank {b : List Char} (h : ∀ c ∈ b, isBlank c = true) : Square b := fun c hc => by
  obtain ⟨ho, hcl, -⟩ := isBracket_of_isBlank (h c hc)
  simp [ho, hcl]

theorem nested_blank {b : List Char} (h : ∀ c ∈ b, isBlank c = true) : Nested b :=
  nested_of_plain fun c hc => isPlain_of_isBlank (h c hc)

theorem nested_comma : Nested [','] := nested_plain (by decide)

theorem nested_listed {lead gap r : List Char} {ps : List (List Char)}
    (hl : ∀ c ∈ lead, isBlank c = true)
    (hg : ∀ c ∈ gap, isBlank c = true) (hps : ∀ p ∈ ps, Nested (trim p)) (hr : Nested (trim r)) :
    Nested (listed lead ps gap r) := by
  have heq :
      listed lead ps gap r = lead ++
        ('[' :: ([','].intercalate ps ++ [']']) ++ (gap ++ ([','] ++ r))) := by
    simp [listed]
  rw [heq]
  exact (nested_blank hl).append ((nested_between nested_comma hps).bracket.append
    ((nested_blank hg).append (nested_comma.append (nested_of_trim hr))))

variable {lead gap r : List Char} {ps : List (List Char)}

theorem square_listed (hl : ∀ c ∈ lead, isBlank c = true) (hg : ∀ c ∈ gap, isBlank c = true)
    (hps : ∀ p ∈ ps, Standalone (trim p)) (hr : Standalone (trim r)) :
    Square (listed lead ps gap r) := by
  have hjoined : Square ([','].intercalate ps) := by
    intro c hc
    rcases mem_intercalate hc with hc | ⟨p, hp, hc⟩
    · rw [List.mem_singleton.1 hc]
      decide
    · exact square_of_trim (hps p hp).square c hc
  simp only [Square, listed, List.forall_mem_append, List.forall_mem_cons]
  exact ⟨square_blank hl, by decide, hjoined, by decide, square_blank hg, by decide,
    square_of_trim hr.square⟩

/-- A cut at the mark of the end that leaves at most one bracket open before it is one behind the
list: a bracket inside the list would be the second one, and no comma follows a bracket of the
result. -/
theorem eq_list_of_cut {x gap r before result : List Char} (hx : Nested x)
    (hg : ∀ c ∈ gap, isBlank c = true) (hr : Nested r) (hs : Sealed ',' 0 r)
    (h : '[' :: x ++ ']' :: (gap ++ ',' :: r) = before ++ (paramsEnd ++ result))
    (hd : depthOf 0 before ≤ 1) :
    before = '[' :: x ∧ gap ++ ',' :: r = ',' :: ' ' :: result := by
  rcases List.append_eq_append_iff.1 h with ⟨z, hbefore, hz⟩ | ⟨z, hx', hz⟩
  · cases z with
    | nil => exact ⟨by simpa using hbefore, by simpa [paramsEnd] using hz⟩
    | cons c z =>
      obtain ⟨rfl, hrest⟩ := List.cons.inj hz
      have hdepth : depthOf 0 before = depthOf 0 z := by
        rw [hbefore, depthOf_append, depthOf_cons, depthOf_cons, hx.depthOf_eq]
        rfl
      rcases List.append_eq_append_iff.1 hrest with ⟨y, rfl, hy⟩ | ⟨y, rfl, hy⟩
      · cases y with
        | nil => simp [paramsEnd] at hy
        | cons d y =>
          obtain ⟨rfl, rfl⟩ := List.cons.inj hy
          rw [depthOf_append, (nested_blank hg).depthOf_eq, depthOf_cons] at hdepth
          have hpos := @Nested.depthOf_pos y _ [] hr List.nil_prefix
          rw [List.append_nil] at hpos
          have hclose := (sealed_append.1 hs).2
          simp only [paramsEnd, List.cons_append, Sealed] at hclose
          have hne : depthAfter (depthOf 0 y) ']' ≠ 0 := fun h0 => hclose.2.1 ⟨trivial, h0⟩
          change depthOf 0 before = depthOf 0 y at hdepth
          change depthOf 0 y - 1 ≠ 0 at hne
          omega
      · cases y with
        | nil => simp [paramsEnd] at hy
        | cons d y =>
          obtain ⟨rfl, -⟩ := List.cons.inj hy
          exact absurd (hg ']' (by simp)) (by decide)
  · cases z with
    | nil => exact ⟨by simpa using hx'.symm, by simpa [paramsEnd, eq_comm] using hz⟩
    | cons c z =>
      obtain ⟨rfl, -⟩ := List.cons.inj hz
      cases before with
      | nil => simp at hx'
      | cons d before =>
        obtain ⟨rfl, rfl⟩ := List.cons.inj hx'
        have hpos := @Nested.depthOf_pos before _ [] hx List.nil_prefix
        have hlead : depthOf 0 ('[' :: before) = 1 + depthOf 0 before := depthOf_add 1 0 before
        rw [List.append_nil] at hpos
        omega

theorem trim_listed {lead : List Char} (hl : ∀ c ∈ lead, isBlank c = true) (ps : List (List Char))
    (gap r : List Char) :
    trim (listed lead ps gap r) = '[' :: [','].intercalate ps ++ ']' ::
      (gap ++ ',' :: trimEnd r) := by
  rw [listed, trim_blank_append hl, trim_cons (by decide), trimEnd_append_cons (by decide),
    trimEnd_append_cons (by decide)]
  rfl

theorem count_le_of_mapM {x : List Char} {ts : List TypeExpr}
    (h : (splitArgs x).mapM parseChars = .ok ts)
    (hbar : ¬ bar <:+: x) : x.count '[' ≤ x.count ']' := by
  obtain ⟨as, has, -, hread⟩ := args_of_mapM h
  have hbalanced : ∀ a ∈ as, Balanced (trim a.text) a.type := fun a ha => by
    have hmem : a.text ∈ splitArgs x := has ▸ List.mem_map_of_mem ha
    refine (reads_of_parseChars (hread a ha)).balanced.1 fun hin => hbar ?_
    exact (hin.trans (trim_isInfix _)).trans (infix_of_mem_splitArgs hmem)
  have hle := (weightAll_args hbalanced).2
  rwa [has, sum_count_splitArgs (by decide) (by decide),
    sum_count_splitArgs (by decide) (by decide)] at hle

theorem marked_of_parts {result : List Char} {params : List (List Char)} {us : List TypeExpr}
    (hl : ∀ c ∈ lead, isBlank c = true) (hg : ∀ c ∈ gap, isBlank c = true)
    (hps : ∀ p ∈ ps, Standalone (trim p))
    (hr : Standalone (trim r)) (hbar : ¬ bar <:+: listed lead ps gap r)
    (hparts : callableParts? (trim (listed lead ps gap r)) = some (params, result))
    (hus : params.mapM parseChars = .ok us) : Marked ps (gap ++ ',' :: r) := by
  obtain ⟨before, q, hcut, hbefore, rfl, hend⟩ := callableParts?_eq_some hparts
  have hwithin : before <:+: listed lead ps gap r :=
    List.IsInfix.trans ⟨[], _, by rw [List.nil_append, ← hcut]⟩ (trim_isInfix _)
  have hdepth : depthOf 0 before ≤ 1 := by
    have hq : q <:+: before := (List.suffix_cons _ _).isInfix.trans (hbefore ▸ trim_isInfix before)
    have hle := count_le_of_mapM hus fun hin => hbar (hin.trans (hq.trans hwithin))
    have hsquare : Square before := fun c hc => square_listed hl hg hps hr c (hwithin.subset hc)
    have hopen := count_trim (show isBlank '[' = false by decide) before
    have hclose := count_trim (show isBlank ']' = false by decide) before
    rw [hbefore] at hopen hclose
    rw [hsquare.depthOf_eq]
    simp at hopen hclose
    omega
  have hpart : Part (trimEnd r) := part_of_trim (by rw [trim_trimEnd]; exact hr.part)
  have hnested : Nested (trimEnd r) := nested_of_trim (by rw [trim_trimEnd]; exact hr.nested)
  rw [trim_listed hl] at hcut
  obtain ⟨rfl, hrest⟩ := eq_list_of_cut (nested_between nested_comma fun p hp => (hps p hp).nested)
    hg hnested hpart.isSealed hcut hdepth
  refine ⟨fun hin => hend (hin.trans (List.suffix_cons _ _).isInfix), ?_⟩
  have hpre : gap ++ ',' :: trimEnd r <+: gap ++ ',' :: r :=
    (List.prefix_append_right_inj gap).2 (List.cons_prefix_cons.2 ⟨rfl, trimEnd_isPrefix r⟩)
  rw [hrest] at hpre
  exact (List.prefix_append [',', ' '] result).trans hpre

end Listed

section Signature

variable {ps : List (List Char)} {r : List Char}

theorem standalone_space (hr : Standalone r) : Standalone (trim (' ' :: r)) := by
  rw [trim_space, trim_eq_self hr.trimmed]
  exact hr

theorem nested_signatureText (h : ∀ p ∈ ps, Standalone (trim p)) (hr : Standalone r) :
    Nested (signatureText ps r) :=
  @nested_listed [] [] _ _ (by simp) (by simp) (fun p hp => (h p hp).nested)
    (standalone_space hr).nested

theorem square_signatureText (h : ∀ p ∈ ps, Standalone (trim p)) (hr : Standalone r) :
    Square (signatureText ps r) :=
  @square_listed [] [] _ _ (by simp) (by simp) h (standalone_space hr)

theorem trimmed_signatureText (hr : Standalone r) : Trimmed (signatureText ps r) := by
  refine ⟨by simp [signatureText]; decide, fun c hc => hr.trimmed.2 c ?_⟩
  obtain ⟨u, e, rfl⟩ := (List.eq_nil_or_concat r).resolve_left hr.part.ne_nil
  simpa [signatureText, List.getLast?_append, List.getLast?_cons] using hc

theorem bar_absent_of_callable (h : ∀ p ∈ ps, Standalone (trim p)) (hr : Standalone r)
    {t : TypeExpr} (ht : parseChars (bracketed callableName (signatureText ps r)) = .ok t) :
    ¬ bar <:+: bracketed callableName (signatureText ps r) := by
  have hsquare : Square (bracketed callableName (signatureText ps r)) := by
    simp only [Square, bracketed, List.forall_mem_append, List.forall_mem_cons]
    exact ⟨by decide, by decide, square_signatureText h hr, by decide, by simp⟩
  have hinner : ¬ bar <:+: signatureText ps r := fun hin => by
    obtain ⟨e, he⟩ :=
      parseChars_bar_inside ⟨by decide, by decide⟩ (nested_signatureText h hr) hsquare hin
    rw [ht] at he
    cases he
  intro hin
  rcases infix_append_cons (by decide) hin with hin | hin
  · exact absurd (hin.subset (show '|' ∈ bar by decide)) (by decide)
  · rcases infix_append_cons (by decide) hin with hin | hin
    · exact hinner hin
    · exact absurd hin (by decide)

theorem exists_callableParts (h : ∀ p ∈ ps, Standalone (trim p)) (hr : Standalone r) {t : TypeExpr}
    (ht : parseChars (bracketed callableName (signatureText ps r)) = .ok t) :
    ∃ params result, callableParts? (signatureText ps r) = some (params, result) ∧
      ∃ ts, (params ++ [result]).mapM parseChars = .ok ts ∧
        t = .generic (String.ofList (bracketed callableName (signatureText ps r))) "Callable" none
          ts := by
  have htrim : Trimmed (bracketed callableName (signatureText ps r)) :=
    trimmed_bracketed (by decide) _
  have hshape :=
    shape_callable (show '[' ∉ callableName by decide) (by decide) (bar_absent_of_callable h hr ht)
  rw [trim_eq_self (trimmed_signatureText hr)] at hshape
  rw [parseChars_eq, trim_eq_self htrim, hshape] at ht
  obtain ⟨ts, hts, hbuild⟩ := bind_eq_ok ht
  cases hparts : callableParts? (signatureText ps r) with
  | none =>
    rw [hparts] at hbuild
    cases hbuild
  | some found =>
    obtain ⟨params, result⟩ := found
    rw [hparts] at hts hbuild
    refine ⟨params, result, rfl, ts, hts, ?_⟩
    cases hbuild
    rfl

theorem paramsEnd_absent (h : ∀ p ∈ ps, Standalone (trim p)) (hr : Standalone r) {t : TypeExpr}
    (ht : parseChars (bracketed callableName (signatureText ps r)) = .ok t) :
    ¬ paramsEnd <:+: [','].intercalate ps := by
  obtain ⟨params, result, hparts, ts, hts, -⟩ := exists_callableParts h hr ht
  rw [List.mapM_append] at hts
  obtain ⟨us, hus, -⟩ := bind_eq_ok hts
  have hbar : ¬ bar <:+: signatureText ps r := fun hin =>
    bar_absent_of_callable h hr ht (hin.trans (infix_bracketed _ _))
  rw [← trim_eq_self (@trimmed_signatureText ps r hr)] at hparts
  exact (@marked_of_parts [] [] _ _ _ _ _ (by simp) (by simp) h (standalone_space hr) hbar hparts
    hus).1

theorem parseChars_callable (h : ∀ p ∈ ps, Standalone (trim p)) (hr : Standalone r) {t : TypeExpr}
    (ht : parseChars (bracketed callableName (signatureText ps r)) = .ok t) :
    ∃ us v, List.Forall₂ (fun p u => parseChars p = .ok u) ps us ∧ parseChars r = .ok v ∧
      t = .generic (String.ofList (bracketed callableName (signatureText ps r))) "Callable" none
        (us ++ [v]) := by
  obtain ⟨params, result, hparts, ts, hts, rfl⟩ := exists_callableParts h hr ht
  rw [signatureText, callableParts?_cut (paramsEnd_absent h hr ht)] at hparts
  have hargs : splitArgs ([','].intercalate ps) = ps.map trim :=
    splitArgs_intercalate fun p hp => part_of_trim (h p hp).part
  rw [hargs] at hparts
  cases hparts
  obtain ⟨as, htexts, rfl, hread⟩ := args_of_mapM hts
  obtain ⟨bs, cs, rfl, hbs, hcs⟩ := List.map_eq_append_iff.1 htexts
  obtain ⟨c, rfl, rfl⟩ := List.map_eq_singleton_iff.1 hcs
  refine ⟨bs.map Arg.type, c.type, ?_, hread c (by simp), by simp⟩
  have hforall :
      List.Forall₂ (fun p u => parseChars p = .ok u) (ps.map trim) (bs.map Arg.type) := by
    rw [← hbs, List.forall₂_map_left_iff, List.forall₂_map_right_iff, List.forall₂_same]
    exact fun b hb => hread b (by simp [hb])
  simpa only [List.forall₂_map_left_iff, parseChars_trim] using hforall

end Signature

theorem Reads.bracket_of_args {s : List Char} {t : TypeExpr} (h : Reads s t) (hargs : t.args ≠ []) :
    ∃ x, s = x ++ [']'] := by
  cases h with
  | name => exact absurd rfl hargs
  | bars => exact absurd rfl hargs
  | union => exact absurd rfl hargs
  | optional => exact absurd rfl hargs
  | @generic base inner => exact ⟨base ++ '[' :: inner, by simp [bracketed]⟩
  | @callable base inner => exact ⟨base ++ '[' :: inner, by simp [bracketed]⟩

def callableText (ts : List String) (r : String) : String :=
  "Callable[[" ++ joinWith ", " ts ++ "], " ++ r ++ "]"

section Text

variable {ts : List String} {r : String}

theorem toList_callableText (ts : List String) (r : String) :
    (callableText ts r).toList = bracketed callableName
    (signatureText (spaced (ts.map String.toList)) r.toList) := by
  simp [callableText, bracketed, signatureText, joinWith, String.toList_intercalate,
    intercalate_spaced, paramsEnd, callableName]

theorem parse_callableText (hts : ∀ s ∈ ts, Standalone s.toList) (hr : Standalone r.toList)
    {t : TypeExpr} (ht : parse (callableText ts r) = .ok t) :
    ∃ us v, List.Forall₂ (fun s u => parse s = .ok u) ts us ∧ parse r = .ok v ∧
      t = .generic (callableText ts r) "Callable" none (us ++ [v]) ∧
      ∀ u us', us = u :: us' → us' ≠ [] → u.args = [] := by
  have hps : ∀ p ∈ spaced (ts.map String.toList), Standalone (trim p) :=
    forall_mem_spaced.2 (List.forall_mem_map.2 fun s hs => by
      rw [trim_eq_self (hts s hs).trimmed]; exact hts s hs)
  rw [parse, toList_callableText] at ht
  obtain ⟨us, v, hus, hv, rfl⟩ := parseChars_callable hps hr ht
  rw [forall₂_parseChars_spaced, List.forall₂_map_left_iff] at hus
  have habsent := paramsEnd_absent hps hr ht
  refine ⟨us, v, hus, hv, by rw [← toList_callableText, String.ofList_toList],
    fun u us' hu hne => ?_⟩
  subst hu
  -- a first parameter with a bracket at its end would end the list
  by_contra hargs
  obtain ⟨s, ss, hs, hss, rfl⟩ := List.forall₂_cons_right_iff.1 hus
  have hreads := reads_of_parseChars hs
  rw [trim_eq_self (hts s (by simp)).trimmed] at hreads
  obtain ⟨x, hx⟩ := hreads.bracket_of_args hargs
  obtain ⟨s', ss', rfl⟩ :=
    List.exists_cons_of_ne_nil (fun h0 : ss = [] => by subst h0; cases hss; exact hne rfl)
  refine habsent ⟨x, [',', ' '].intercalate ((s' :: ss').map String.toList), ?_⟩
  rw [intercalate_spaced, @List.map_cons _ _ _ s, List.intercalate_cons_of_ne_nil (by simp), hx]
  simp [paramsEnd]

end Text

end TypedTemplate.TypeExpr
