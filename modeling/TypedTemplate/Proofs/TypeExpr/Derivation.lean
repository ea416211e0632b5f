import TypedTemplate.Proofs.TypeExpr.Reading

/-! All ways to read a type, for any text: each type that is read has a derivation, whose cases are
the outer shapes of a text. -/
namespace TypedTemplate.TypeExpr
open Text

/-- A text, trimmed, and the type that is read from it. -/
inductive Reads : List Char → TypeExpr → Prop
  | name {s : List Char} (hb : '[' ∉ s) (hbar : ¬ bar <:+: s) : Reads s (ofName s)
  | bars {s : List Char} {as : List Arg} (hbar : bar <:+: s) (hp : as.map Arg.text = pieces bar s)
      (ha : ∀ a ∈ as, Reads (trim a.text) a.type) :
      Reads s (.union (String.ofList s) .pipe (as.map Arg.type))
  | union {inner : List Char} {as : List Arg} (hbar : ¬ bar <:+: bracketed unionName inner)
      (hp : as.map Arg.text = splitArgs (trim inner)) (ha : ∀ a ∈ as, Reads (trim a.text) a.type) :
      Reads (bracketed unionName inner)
        (.union (String.ofList (bracketed unionName inner)) .union (as.map Arg.type))
  | optional {inner : List Char} {t : TypeExpr} (hbar : ¬ bar <:+: bracketed optionalName inner)
      (ht : Reads (trim inner) t) :
      Reads (bracketed optionalName inner)
        (.union (String.ofList (bracketed optionalName inner)) .optional [t, noneType])
  | generic {base inner : List Char} {as : List Arg} (hb : '[' ∉ base)
    (hbar : ¬ bar <:+: bracketed base inner)
      (hc : isCallable (trim base) = false) (hp : as.map Arg.text = splitArgs (trim inner))
      (ha : ∀ a ∈ as, Reads (trim a.text) a.type) :
      Reads (bracketed base inner) (ofGeneric base inner (as.map Arg.type))
  | callable {base inner : List Char} {ps : List Arg} {r : Arg} (hb : '[' ∉ base)
      (hbar : ¬ bar <:+: bracketed base inner) (hc : isCallable (trim base) = true)
      (hp : callableParts? (trim inner) = some (ps.map Arg.text, r.text))
      (ha : ∀ a ∈ ps, Reads (trim a.text) a.type) (hr : Reads (trim r.text) r.type) :
      Reads (bracketed base inner) (ofGeneric base inner (ps.map Arg.type ++ [r.type]))

theorem shape_cases (s : List Char) :
    bar <:+: s ∨ (¬ bar <:+: s ∧ '[' ∉ s) ∨
      (¬ bar <:+: s ∧ ∃ base inner, '[' ∉ base ∧ s = bracketed base inner) ∨
        ∃ cause, shape s = .invalid cause := by
  by_cases hbar : bar <:+: s
  · exact .inl hbar
  refine .inr ?_
  cases hc : cut? ['['] s with
  | none =>
    refine .inl ⟨hbar, fun hm => cut?_eq_none_iff.1 hc ?_⟩
    obtain ⟨a, b, rfl⟩ := List.append_of_mem hm
    exact ⟨a, b, by simp⟩
  | some p =>
    obtain ⟨base, rest⟩ := p
    refine .inr ?_
    have hs : s = base ++ '[' :: rest := by simpa using cut?_eq_append hc
    have hb : '[' ∉ base := fun hm => not_infix_of_cut? hc (by simp) (by
      obtain ⟨a, b, rfl⟩ := List.append_of_mem hm
      exact ⟨a, b, by simp⟩)
    cases hend : endsWith s [']'] with
    | true =>
      refine .inl ⟨hbar, base, rest.dropLast, hb, ?_⟩
      obtain ⟨t, ht⟩ := List.isSuffixOf_iff_suffix.1 hend
      obtain rfl | ⟨init, e, rfl⟩ := List.eq_nil_or_concat rest
      · have := congrArg List.getLast? (ht.trans hs)
        simp [List.getLast?_append] at this
      · have := congrArg List.getLast? (ht.trans hs)
        have he : e = ']' := by simpa [List.getLast?_append, List.getLast?_cons, eq_comm] using this
        rw [hs, he]
        simp [bracketed]
    | false =>
      refine .inr ?_
      rw [shape, occurs_eq_false_iff.2 hbar]
      simp only [Bool.false_eq_true, if_false, hend, hc]
      split
      · exact ⟨_, rfl⟩
      · split
        · exact ⟨_, rfl⟩
        · exact ⟨_, rfl⟩

theorem reads_of_parseChars {s : List Char} {t : TypeExpr} (h : parseChars s = .ok t) :
    Reads (trim s) t := by
  induction hn : s.length using Nat.strongRecOn generalizing s t with
  | _ n ih =>
    rw [parseChars_eq] at h
    obtain ⟨ts, hts, hbuild⟩ := bind_eq_ok h
    obtain ⟨as, htexts, rfl, has⟩ := args_of_mapM hts
    have hreads : ∀ a ∈ as, Reads (trim a.text) a.type := by
      intro a ha
      have hmem : a.text ∈ (shape (trim s)).parts := htexts ▸ List.mem_map.2 ⟨a, ha, rfl⟩
      have hlt := Nat.lt_of_lt_of_le (length_lt_of_mem_parts hmem) (length_trim_le s)
      exact ih a.text.length (hn ▸ hlt) (has a ha) rfl
    rcases shape_cases (trim s) with hbar | ⟨hbar, hb⟩ | ⟨hbar, base, inner, hb, hs⟩ | ⟨cause, hs⟩
    · rw [shape_bars hbar] at hbuild htexts
      cases hbuild
      exact .bars hbar htexts hreads
    · have hname : shape (trim s) = .name := shape_name hb hbar
      rw [hname] at hbuild
      cases hbuild
      exact .name hb hbar
    · rw [hs] at hbuild htexts hbar ⊢
      rw [shape_bracketed hb hbar] at hbuild htexts
      split at hbuild
      · next hu =>
        subst hu
        rw [if_pos rfl] at htexts
        cases hbuild
        exact .union hbar htexts hreads
      · next hu =>
        rw [if_neg hu] at htexts
        split at hbuild
        · next ho =>
          subst ho
          rw [if_pos rfl] at htexts
          obtain ⟨a, rfl⟩ : ∃ a, as = [a] :=
            List.length_eq_one_iff.1 (by simpa [Shape.parts] using congrArg List.length htexts)
          cases hbuild
          have ha : a.text = trim inner := by simpa [Shape.parts] using htexts
          have hr := hreads a (by simp)
          rw [ha, trim_trim] at hr
          exact .optional hbar hr
        · next ho =>
          rw [if_neg ho] at htexts
          split at hbuild
          · next hc =>
            rw [if_pos hc] at htexts
            split at hbuild
            · next params result hp =>
              rw [hp] at htexts
              obtain ⟨ps, r, rfl⟩ : ∃ ps r, as = ps ++ [r] := by
                obtain rfl | ⟨ps, r, rfl⟩ := List.eq_nil_or_concat as
                · simp [Shape.parts] at htexts
                · exact ⟨ps, r, by simp⟩
              cases hbuild
              have hsplit : ps.map Arg.text = params ∧ r.text = result := by simpa [Shape.parts]
                using htexts
              obtain ⟨rfl, rfl⟩ := hsplit
              rw [List.map_append]
              exact .callable hb hbar hc hp (fun a ha => hreads a (by simp [ha]))
                (hreads r (by simp))
            · cases hbuild
          · next hc =>
            rw [if_neg hc] at htexts
            cases hbuild
            exact .generic hb hbar (by simpa using hc) htexts hreads
    · rw [hs] at hbuild
      cases hbuild

end TypedTemplate.TypeExpr
