import TypedTemplate.Text.Normal.Basic

/-! The composed form of a text without a dot has none: no table brings one in. -/
namespace TypedTemplate.Text.Normal

section Tables

theorem undotted_cons {s : String} {l : List Char} {lines : List String} (hs : s = String.ofList l)
    (hl : l.all (· != '.') = true) (hlines : ∀ s ∈ lines, '.' ∉ s.toList) :
    ∀ s' ∈ s :: lines, '.' ∉ s'.toList := by
  refine List.forall_mem_cons.2 ⟨?_, hlines⟩
  rw [hs, String.toList_ofList]
  intro hmem
  simpa using List.all_eq_true.1 hl '.' hmem

set_option maxRecDepth 20000 in
theorem undotted_decompositionEntries : ∀ s ∈ decompositionEntries, '.' ∉ s.toList := by
  unfold decompositionEntries
  repeat' first
    | refine undotted_cons (by with_reducible rfl) (by decide +kernel) ?_
    | exact List.forall_mem_nil _

set_option maxRecDepth 20000 in
theorem undotted_compositionEntries : ∀ s ∈ compositionEntries, '.' ∉ s.toList := by
  unfold compositionEntries
  repeat' first
    | refine undotted_cons (by with_reducible rfl) (by decide +kernel) ?_
    | exact List.forall_mem_nil _

theorem undotted_of_mem_lines {lines : List String} (h : ∀ s ∈ lines, '.' ∉ s.toList)
    {entry : List Char}
    (he : entry ∈ lines.flatMap fun line => pieces [' '] line.toList) : '.' ∉ entry := by
  obtain ⟨line, hline, hmem⟩ := List.mem_flatMap.1 he
  exact fun hdot => h line hline ((infix_of_mem_pieces hmem).subset hdot)

theorem undotted_decomposition {c : Char} {s : List Char} (h : decompositions.lookup c = some s) :
    '.' ∉ s := by
  obtain ⟨front, back, heq, -⟩ := List.lookup_eq_some_iff.1 h
  have hmem : (c, s) ∈ decompositions := by simp [heq]
  obtain ⟨entry, hentry, hread⟩ := List.mem_flatMap.1 hmem
  have hdot := undotted_of_mem_lines undotted_decompositionEntries hentry
  split at hread
  · obtain ⟨p, hp, hcs⟩ := List.mem_map.1 hread
    cases hcs
    exact fun hs => hdot
      (List.mem_cons_of_mem _ ((infix_of_mem_pieces (List.fst_mem_of_mem_zipIdx hp)).subset hs))
  · cases hread

theorem composition_ne_dot {p : Char × Char} {c : Char} (h : compositions.lookup p = some c) :
    c ≠ '.' := by
  obtain ⟨front, back, heq, -⟩ := List.lookup_eq_some_iff.1 h
  have hmem : (p, c) ∈ compositions := by simp [heq]
  obtain ⟨entry, hentry, hread⟩ := List.mem_filterMap.1 hmem
  have hdot := undotted_of_mem_lines undotted_compositionEntries hentry
  split at hread
  · cases hread
    rintro rfl
    exact hdot (by simp)
  · cases hread

end Tables

theorem ofNat_ne_dot {n : Nat} (h : 46 < n) : Char.ofNat n ≠ '.' := by
  intro heq
  unfold Char.ofNat at heq
  by_cases hn : n.isValidChar
  · rw [dif_pos hn] at heq
    exact absurd (congrArg Char.toNat heq) (show n ≠ 46 by omega)
  · rw [dif_neg hn] at heq
    exact absurd heq (by decide)

theorem undotted_expandSyllable (i : Nat) : '.' ∉ expandSyllable i := by
  have hlead := @ofNat_ne_dot (lead + i / 588) (by simp only [lead]; omega)
  have hvowel := @ofNat_ne_dot (vowel + i % 588 / 28) (by simp only [vowel]; omega)
  have htrail := @ofNat_ne_dot (trail + i % 28) (by simp only [trail]; omega)
  simp only [expandSyllable]
  split <;> simp [hlead.symm, hvowel.symm, htrail.symm]

theorem undotted_expand {c : Char} (h : c ≠ '.') : '.' ∉ expand c := by
  simp only [expand]
  split
  · simpa using h.symm
  · split
    · exact undotted_expandSyllable _
    · cases hs : decompositions.lookup c with
      | none => simpa using h.symm
      | some s => exact undotted_decomposition hs

theorem mem_placeMark {x c : Char} {s : List Char} (h : x ∈ placeMark c s) : x = c ∨ x ∈ s := by
  induction s with
  | nil => simpa [placeMark] using h
  | cons d s ih =>
    rw [placeMark] at h
    split at h
    · rcases List.mem_cons.1 h with rfl | h
      · simp
      · exact (ih h).imp_right (List.mem_cons_of_mem _)
    · simpa using h

theorem mem_of_mem_arrange {x : Char} {s : List Char} (h : x ∈ arrange s) : x ∈ s := by
  rw [arrange, List.mem_reverse] at h
  refine List.foldlRecOn (motive := fun out => x ∈ out → x ∈ s) s _ (by simp)
    (fun out hout c hc hx => ?_) h
  split at hx
  · exact (List.mem_cons.1 hx).elim (fun hxc => hxc ▸ hc) hout
  · exact (mem_placeMark hx).elim (fun hxc => hxc ▸ hc) hout

theorem composePair?_ne_dot {a b c : Char} (h : composePair? a b = some c) : c ≠ '.' := by
  simp only [composePair?] at h
  split at h
  · rw [← Option.some.inj h]
    exact ofNat_ne_dot (by simp only [syllable]; omega)
  · split at h
    · next hsyllable =>
      rw [← Option.some.inj h]
      simp only [Bool.and_eq_true] at hsyllable
      have ha : 0xac00 ≤ a.toNat := of_decide_eq_true hsyllable.1.1.1.1
      exact ofNat_ne_dot (by omega)
    · exact composition_ne_dot h

theorem Composing.undotted_add {st : Composing} {c : Char} (h : '.' ∉ st.text) (hc : '.' ≠ c) :
    '.' ∉ (st.add c).text := by
  obtain ⟨done, base, marks⟩ := st
  simp only [text, List.mem_reverse, List.mem_append, Option.mem_toList, not_or] at h ⊢
  obtain ⟨⟨hmarks, hbase⟩, hdone⟩ := h
  cases base with
  | none =>
    simp only [add]
    split <;> simp [hmarks, hdone, hc, hc.symm]
  | some b =>
    simp only [add]
    split
    · next d hd =>
        exact ⟨⟨hmarks, by simpa using composePair?_ne_dot (Option.ite_none_left_eq_some.1 hd).2⟩,
          hdone⟩
    · split
      · have hb : '.' ≠ b := fun hb => hbase (congrArg some hb.symm)
        exact ⟨⟨by simp, by simpa using hc.symm⟩, by simp [hmarks, hb, hdone]⟩
      · exact ⟨⟨by simp [hc, hmarks], hbase⟩, hdone⟩

theorem undotted_form {s : List Char} (h : '.' ∉ s) : '.' ∉ form s := by
  rw [form]
  split
  · exact h
  · have hexpand : ∀ c ∈ arrange (s.flatMap expand), c ≠ '.' := by
      rintro c hc rfl
      obtain ⟨d, hd, hdot⟩ := List.mem_flatMap.1 (mem_of_mem_arrange hc)
      exact undotted_expand (fun hdd => h (hdd ▸ hd)) hdot
    exact List.foldlRecOn (motive := fun st : Composing => '.' ∉ st.text) _ _
      (by simp [Composing.text]) fun st hst c hc => Composing.undotted_add hst (hexpand c hc).symm

end TypedTemplate.Text.Normal
