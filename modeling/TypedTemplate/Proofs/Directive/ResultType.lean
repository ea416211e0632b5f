import TypedTemplate.Proofs.Directive.RoundTrip
import TypedTemplate.Proofs.TypeExpr.Nodes

/-! The result type of a macro. Whether there is one is seen behind the parameters, but its text
begins behind the first arrow of the whole signature. So an arrow in a default takes the rest of the
parameters into the type, and the type that is declared is read exactly if the parameters hold no
arrow. -/
namespace TypedTemplate.Directive
open Text TypeExpr Style

def signatureBody (name params result : String) : String :=
  "macro " ++ name ++ "(" ++ params ++ ") -> " ++ result

theorem toList_signatureBody (name params result : String) :
    (signatureBody name params result).toList =
      macroWord ++
        (name.toList ++ '(' ::
          (params.toList ++ ')' :: ([' '] ++ (arrow ++ ' ' :: result.toList)))) := by
  simp [signatureBody, macroWord, arrow]

section Read

variable {name params result : String} {ps : List Parameter}

theorem parse_signatureBody (hn : isIdentifier name.toList = true)
    (hps : (splitArgs params.toList).mapM parseParameter = .ok ps) (hclose : ')' ∉ result.toList)
    {x b : List Char}
    (hcut :
      cut? arrow
        (name.toList ++ '(' ::
          (params.toList ++ ')' :: ([' '] ++ (arrow ++ trimEnd (' ' :: result.toList))))) =
      some (x, b)) (hb : trim b ≠ []) :
    parse (signatureBody name params result).toList = (fun t => macroSignature ⟨name, ps, t⟩) <$>
      parseType b := by
  have hword := Word.of_isIdentifier hn
  have hstart : trimStart name.toList = name.toList := dropWhile_eq_self hword.trimmed.1
  have hread := @parseMacro_of_cut name.toList params.toList [' '] (' ' :: result.toList)
    hword.plain (by decide) (by simpa using hclose) x b (by rw [hstart]; exact hcut)
  rw [if_neg (by simpa using hb), hps, parseType_congr (trim_trim b), trim_eq_self hword.trimmed,
    String.ofList_toList] at hread
  rw [toList_signatureBody, parse_macro, hread]
  cases parseType b <;> rfl

theorem parse_of_arrow_absent (hn : isIdentifier name.toList = true)
    (hps : (splitArgs params.toList).mapM parseParameter = .ok ps) (hclose : ')' ∉ result.toList)
    (hne : trim result.toList ≠ []) (harrow : ¬ arrow <:+: params.toList) :
    parse (signatureBody name params result).toList =
      (fun t => macroSignature ⟨name, ps, t⟩) <$> parseType result.toList := by
  have hword := Word.of_isIdentifier hn
  have hsigned : Signed name.toList params.toList [' '] (' ' :: result.toList) :=
    ⟨hword.plain, harrow, by decide, by simpa using hclose⟩
  have htrim : trim (trimEnd (' ' :: result.toList)) = trim result.toList := by
    rw [trim_trimEnd, trim_space]
  have hcut := hsigned.cut?_arrow
  rw [show trimStart name.toList = name.toList from dropWhile_eq_self hword.trimmed.1] at hcut
  rw [parse_signatureBody hn hps hclose hcut (htrim ▸ hne), parseType_congr htrim]

theorem parse_of_arrow (hn : isIdentifier name.toList = true)
    (hps : (splitArgs params.toList).mapM parseParameter = .ok ps) (hclose : ')' ∉ result.toList)
    {a b : List Char}
    (hcut : cut? arrow params.toList = some (a, b)) :
    parse (signatureBody name params result).toList =
      (fun t => macroSignature ⟨name, ps, t⟩) <$> parseType (b ++ (") -> " ++ result).toList) := by
  have hword := Word.of_isIdentifier hn
  have hno : ¬ arrow <:+: name.toList ++ '(' :: a := fun hin => by
    rcases infix_append_cons (by decide) hin with hin | hin
    · exact absurd (hword.plain '>' (hin.subset (by decide))) (by decide)
    · exact not_infix_of_cut? hcut (by decide) hin
  have hfirst :=
    Directive.cut?_arrow (b := b ++ ')' :: ([' '] ++ (arrow ++ trimEnd (' ' :: result.toList)))) hno
  have hbehind : trim (b ++ ')' :: ([' '] ++ (arrow ++ trimEnd (' ' :: result.toList)))) =
      trim (b ++ (") -> " ++ result).toList) := by
    rw [← trimEnd_signature, trim_trimEnd]
    simp [arrow]
  have hfilled : trim (b ++ (") -> " ++ result).toList) ≠ [] :=
    trim_ne_nil_of_mem (c := ')') (by decide) (by simp)
  rw [parse_signatureBody hn hps hclose (by rw [cut?_eq_append hcut]; simpa using hfirst)
    (hbehind ▸ hfilled), parseType_congr hbehind]

/-- The result of a macro is the type that is declared exactly if no arrow stands in its parameters.
Without one the signature is read in all its places; with one the type is read from all that follows
it. -/
theorem parse_result_iff (hn : isIdentifier name.toList = true)
    (hps : (splitArgs params.toList).mapM parseParameter = .ok ps) (hclose : ')' ∉ result.toList)
    (hne : trim result.toList ≠ []) :
    (∀ t, TypeExpr.parse result = .ok t →
      ((∃ m, parse (signatureBody name params result).toList = .ok (.macroSignature m) ∧
        m.result = t) ↔ ¬ arrow <:+: params.toList)) ∧
      (¬ arrow <:+: params.toList → parse (signatureBody name params result).toList =
        (fun t => macroSignature ⟨name, ps, t⟩) <$> parseType result.toList) ∧
      ∀ a b, cut? arrow params.toList = some (a, b) →
        parse (signatureBody name params result).toList =
        (fun t => macroSignature ⟨name, ps, t⟩) <$> parseType
          (b ++ (") -> " ++ result).toList) := by
  refine ⟨fun t ht => ⟨?_, fun harrow => ?_⟩, parse_of_arrow_absent hn hps hclose hne,
    fun a b hcut => parse_of_arrow hn hps hclose hcut⟩
  · rintro ⟨m, hm, rfl⟩ harrow
    obtain ⟨⟨a, b⟩, hcut⟩ := Option.isSome_iff_exists.1 (occurs_iff.2 harrow)
    rw [parse_of_arrow hn hps hclose hcut, parseType] at hm
    -- the root of the type that is read has the text with the parenthesis in it, and the declared
    -- one has not
    cases hread : parseChars (b ++ (") -> " ++ result).toList) with
    | error e =>
      rw [hread] at hm
      cases hm
    | ok u =>
      rw [hread] at hm
      cases hm
      have hraw := (reads_of_parseChars hread).raw_eq.symm.trans (reads_of_parseChars ht).raw_eq
      have htext : trim (b ++ (") -> " ++ result).toList) = trim result.toList :=
        String.ofList_injective hraw
      have hmem : ')' ∈ trim (b ++ (") -> " ++ result).toList) := by
        rw [← List.count_pos_iff, count_trim (by decide), List.count_pos_iff]
        simp
      exact hclose ((trim_isInfix _).subset (htext ▸ hmem))
  · refine ⟨⟨name, ps, t⟩, ?_, rfl⟩
    rw [parse_of_arrow_absent hn hps hclose hne harrow, parseType,
      show parseChars result.toList = .ok t from ht]
    rfl

theorem parse_result_iff_pick :
    ∃ m, parse (signatureBody "tag" "kind: str = pick(a, b), sizes: list[int]" "ui.Markup").toList =
      .ok (.macroSignature m) ∧ TypeExpr.parse "ui.Markup" = .ok m.result := by
  have hparams :
      ((splitArgs "kind: str = pick(a, b), sizes: list[int]".toList).mapM
        parseParameter).toOption.isSome = true :=
    by decide +kernel
  have htype : (TypeExpr.parse "ui.Markup").toOption.isSome = true := by decide +kernel
  obtain ⟨ps, hps⟩ := Option.isSome_iff_exists.1 hparams
  obtain ⟨t, ht⟩ := Option.isSome_iff_exists.1 htype
  have harrow : ¬ arrow <:+: "kind: str = pick(a, b), sizes: list[int]".toList :=
    occurs_eq_false_iff.1 (by decide)
  obtain ⟨m, hm, rfl⟩ :=
    ((@parse_result_iff "tag" _ _ _ (by decide) (ok_of_toOption hps) (by decide) (by decide)).1 t
    (ok_of_toOption ht)).2 harrow
  exact ⟨m, hm, ok_of_toOption ht⟩

def resultOf? : Except Error Directive → Option TypeExpr
  | .ok (.macroSignature m) => some m.result
  | _ => none

theorem parse_result_arrow_in_default :
    ((splitArgs "sign: str = '->'".toList).mapM parseParameter).toOption.isSome = true ∧
      (TypeExpr.parse "int").toOption.map TypeExpr.render = some "int" ∧
      (resultOf? (parse (signatureBody "f" "sign: str = '->'" "int").toList)).map TypeExpr.render =
        some "') -> int" := by
  decide +kernel

end Read

end TypedTemplate.Directive
