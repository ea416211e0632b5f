import TypedTemplate.Proofs.Directive.Places

/-! The text outside the comments of a template, and what a change of the template does to it. A
change is given character by character. Where no changed character opens or closes a comment and
every changed character is replaced by something lighter, the text outside the comments stays the
same exactly if all changes are within comments that stay comments. -/
namespace TypedTemplate.Comment
open Text

/-- The parts of a text between its comments, from a place at which so many characters of a comment
are left. -/
def outsideFrom : Nat → List Char → List (List Char)
  | _, [] => [[]]
  | n + 1, _ :: s => outsideFrom n s
  | 0, c :: s =>
    match atStart? (c :: s) with
    | some (raw, _) => [] :: outsideFrom (raw.length - 1) s
    | none => extendHead c (outsideFrom 0 s)

def outside (s : List Char) : List (List Char) := outsideFrom 0 s

def weave : List (List Char) → List (List Char) → List Char
  | [], _ => []
  | p :: ps, [] => p ++ weave ps []
  | p :: ps, r :: rs => p ++ (r ++ weave ps rs)

def prose : List Char → List Char
  | [] => []
  | c :: s => if (atStart? (c :: s)).isSome then [] else c :: prose s

section Parts

variable {c : Char} {s w b rest : List Char}

theorem outsideFrom_append (u s : List Char) : outsideFrom u.length (u ++ s) = outsideFrom 0 s := by
  induction u with
  | nil => rfl
  | cons c u ih => exact ih

theorem outside_cons (h : atStart? (c :: s) = none) :
    outside (c :: s) = extendHead c (outside s) := by
  rw [outside, outsideFrom, h]
  rfl

theorem Begins.outside_eq (h : Begins s w b rest) : outside s = [] :: outside rest := by
  have hat := h.atStart?_eq
  obtain ⟨raw, hraw⟩ : ∃ raw, written w b = '{' :: raw := ⟨_, rfl⟩
  rw [h.eq, hraw] at hat ⊢
  rw [List.cons_append] at hat ⊢
  rw [outside, outsideFrom, hat]
  simp only [List.length_cons, Nat.add_sub_cancel, outsideFrom_append, outside]

theorem atStart?_cons (h : c ≠ '{') (s : List Char) : atStart? (c :: s) = none := by
  cases hat : atStart? (c :: s) with
  | none => rfl
  | some found =>
    obtain ⟨w, rest, -, hbegin⟩ := atStart?_eq_some hat
    exact absurd (List.cons.inj hbegin.eq).1 h

theorem exists_outside_eq (s : List Char) : ∃ more, outside s = prose s :: more := by
  induction s with
  | nil => exact ⟨[], rfl⟩
  | cons c s ih =>
    rw [prose]
    cases hat : atStart? (c :: s) with
    | none =>
      obtain ⟨more, hmore⟩ := ih
      exact ⟨more, by rw [outside_cons hat, hmore]; rfl⟩
    | some found =>
      obtain ⟨w, rest, -, hbegin⟩ := atStart?_eq_some hat
      exact ⟨outside rest, hbegin.outside_eq⟩

theorem weave_extendHead (s : List Char) (rs : List (List Char)) :
    weave (extendHead c (outside s)) rs = c :: weave (outside s) rs := by
  obtain ⟨more, hmore⟩ := exists_outside_eq s
  rw [hmore, extendHead]
  cases rs <;> rfl

theorem weave_outside (p : Position) (s : List Char) :
    weave (outside s) ((scan p s).map fun found => found.2.1) = s := by
  induction s using scan_induction generalizing p with
  | nil => rfl
  | plain c s hat ih => rw [outside_cons hat, scan_cons_of_none hat, weave_extendHead, ih]
  | comment s w b rest hbegin ih =>
    rw [hbegin.outside_eq, hbegin.scan_eq_cons, List.map_cons, weave, ih, List.nil_append,
      ← hbegin.eq]

theorem prose_eq_of_outside {s t : List Char} (h : outside s = outside t) : prose s = prose t := by
  obtain ⟨_, hs⟩ := exists_outside_eq s
  obtain ⟨_, ht⟩ := exists_outside_eq t
  rw [hs, ht] at h
  exact (List.cons.inj h).1

theorem extendHead_inj {x y : List Char} (h : extendHead c (outside x) = extendHead c (outside y)) :
    outside x = outside y := by
  obtain ⟨_, hx⟩ := exists_outside_eq x
  obtain ⟨_, hy⟩ := exists_outside_eq y
  rw [hx, hy] at h ⊢
  simpa [extendHead] using h

theorem prose_append {u : List Char} (h : '{' ∉ u) (s : List Char) :
    prose (u ++ s) = u ++ prose s := by
  induction u with
  | nil => rfl
  | cons c u ih =>
    have hc : c ≠ '{' := fun hc => h (by simp [hc])
    rw [List.cons_append, prose, atStart?_cons hc, ih fun hm => h (by simp [hm])]
    rfl

theorem Begins.hash_not_mem (h : Begins s w b rest) : '#' ∉ w ++ (keyword ++ b) := by
  simp only [List.mem_append, not_or]
  exact ⟨fun hm => absurd (h.blank '#' hm) (by decide), by decide, h.unclosed⟩

end Parts

/-- A character and what becomes of it. -/
structure Stroke where
  char : Char
  text : List Char
deriving DecidableEq

def Stroke.kept (c : Char) : Stroke := ⟨c, [c]⟩

def before (S : List Stroke) : List Char := S.map Stroke.char

def after (S : List Stroke) : List Char := S.flatMap Stroke.text

@[simp] theorem before_nil : before [] = [] := rfl

@[simp] theorem before_cons (s : Stroke) (S : List Stroke) : before (s :: S) = s.char :: before S :=
  rfl

@[simp] theorem before_append (S T : List Stroke) : before (S ++ T) = before S ++ before T :=
  List.map_append

@[simp] theorem after_nil : after [] = [] := rfl

@[simp] theorem after_cons (s : Stroke) (S : List Stroke) : after (s :: S) = s.text ++ after S :=
  rfl

theorem before_kept (c : Char) (S : List Stroke) : before (.kept c :: S) = c :: before S := rfl

theorem after_kept (c : Char) (S : List Stroke) : after (.kept c :: S) = c :: after S := rfl

@[simp] theorem after_append (S T : List Stroke) : after (S ++ T) = after S ++ after T :=
  List.flatMap_append

def isMark (c : Char) : Bool := c == '{' || c == '#' || c == '}'

theorem isMark_eq_false {p : Char → Bool} {c : Char} (h : p c = true)
    (hp : p '{' = false ∧ p '#' = false ∧ p '}' = false) :
    isMark c = false := by
  by_contra hmark
  simp only [isMark, Bool.not_eq_false, Bool.or_eq_true, beq_iff_eq] at hmark
  rcases hmark with (rfl | rfl) | rfl
  · exact absurd h (by simp [hp.1])
  · exact absurd h (by simp [hp.2.1])
  · exact absurd h (by simp [hp.2.2])

def weigh (weight : Char → Nat) : List Char → Nat
  | [] => 0
  | c :: s => weight c + weigh weight s

theorem weigh_append (weight : Char → Nat) (s t : List Char) :
    weigh weight (s ++ t) = weigh weight s + weigh weight t := by
  induction s with
  | nil => simp [weigh]
  | cons c s ih => rw [List.cons_append, weigh, weigh, ih, Nat.add_assoc]

/-- No mark is touched, and the new text is lighter than the character. -/
structure Stroke.Lightens (weight : Char → Nat) (s : Stroke) : Prop where
  char_plain : isMark s.char = false
  text_plain : ∀ c ∈ s.text, isMark c = false
  lighter : weigh weight s.text < weight s.char

def Stroke.Sound (weight : Char → Nat) (s : Stroke) : Prop := s.text = [s.char] ∨ s.Lightens weight

def IsComment (s : List Char) : Prop := ∃ w b, Begins s w b []

/-- All changes are within comments that stay comments. -/
inductive Confined : List Stroke → Prop
  | done : Confined []
  | prose {c : Char} {S : List Stroke} : atStart? (c :: before S) = none → Confined S →
    Confined (.kept c :: S)
  | comment {T S : List Stroke} : IsComment (before T) → IsComment (after T) → Confined S →
    Confined (T ++ S)

section Kept

variable {c : Char} {s w b rest : List Char} {S : List Stroke}

theorem Begins.append (h : Begins s w b []) (t : List Char) : Begins (s ++ t) w b t :=
  ⟨by rw [h.eq, List.append_nil], h.blank, h.unclosed, h.filled⟩

theorem IsComment.eq_cons (h : IsComment s) : ∃ d t, s = '{' :: '#' :: d :: t ∧ d ≠ '}' := by
  obtain ⟨w, b, h⟩ := h
  rw [h.eq, List.append_nil]
  cases w with
  | nil => exact ⟨'t', _, rfl, by decide⟩
  | cons d w =>
    refine ⟨d, _, rfl, ?_⟩
    rintro rfl
    exact absurd (h.blank '}' (by simp)) (by decide)

theorem Confined.exists_kept (h : Confined S) (hc : c ≠ '{') (hafter : after S = c :: s) :
    ∃ T, S = .kept c :: T ∧ Confined T ∧ after T = s := by
  cases h with
  | done => cases hafter
  | @prose d T _ hT =>
    obtain ⟨rfl, rfl⟩ := List.cons.inj hafter
    exact ⟨T, rfl, hT, rfl⟩
  | comment _ hcomment _ =>
    obtain ⟨_, _, heq, -⟩ := hcomment.eq_cons
    rw [after_append, heq] at hafter
    exact absurd (List.cons.inj hafter).1.symm hc

theorem Confined.before_eq_of_after (h : Confined S) (hs : '#' ∉ s)
    (hafter : after S = s ++ '#' :: '}' :: rest) :
    ∃ rest', before S = s ++ '#' :: '}' :: rest' := by
  induction s generalizing S with
  | nil =>
    obtain ⟨T, rfl, hT, hafter⟩ := h.exists_kept (by decide) hafter
    obtain ⟨U, rfl, -, -⟩ := hT.exists_kept (by decide) hafter
    exact ⟨before U, rfl⟩
  | cons c s ih =>
    have hs' : '#' ∉ s := fun hm => hs (by simp [hm])
    cases h with
    | done => cases hafter
    | prose _ hT =>
      obtain ⟨rfl, htail⟩ := List.cons.inj hafter
      obtain ⟨rest', hbefore⟩ := ih hT hs' htail
      exact ⟨rest', by rw [before_cons, hbefore]; rfl⟩
    | comment _ hcomment _ =>
      obtain ⟨d, t, heq, hd⟩ := hcomment.eq_cons
      rw [after_append, heq] at hafter
      have hafter := (List.cons.inj hafter).2
      cases s with
      | nil => exact absurd (List.cons.inj (List.cons.inj hafter).2).1 hd
      | cons e s => exact absurd (by rw [← (List.cons.inj hafter).1]; simp) hs'

theorem Confined.atStart?_after (h : Confined S) (hbefore : atStart? (c :: before S) = none) :
    atStart? (c :: after S) = none := by
  cases hat : atStart? (c :: after S) with
  | none => rfl
  | some found =>
    obtain ⟨w, rest, -, hbegin⟩ := atStart?_eq_some hat
    have heq := hbegin.eq
    rw [written_eq] at heq
    obtain ⟨rfl, htail⟩ := List.cons.inj heq
    obtain ⟨T, rfl, hT, hafter⟩ := h.exists_kept (by decide) htail
    have hclose : after T = w ++ (keyword ++ found.2) ++ '#' :: '}' :: rest :=
      hafter.trans (by simp)
    obtain ⟨rest', hrest⟩ := hT.before_eq_of_after hbegin.hash_not_mem hclose
    have hbegin' : Begins ('{' :: before (.kept '#' :: T)) w found.2 rest' :=
      ⟨by rw [before_cons, hrest, written_eq]; simp [Stroke.kept], hbegin.blank, hbegin.unclosed,
        hbegin.filled⟩
    rw [hbegin'.atStart?_eq] at hbefore
    cases hbefore

theorem Confined.outside_eq (h : Confined S) : outside (after S) = outside (before S) := by
  induction h with
  | done => rfl
  | prose hat hS ih =>
    rw [before_kept, after_kept, outside_cons hat, outside_cons (hS.atStart?_after hat), ih]
  | comment hbefore hafter _ ih =>
    obtain ⟨_, _, hbefore⟩ := hbefore
    obtain ⟨_, _, hafter⟩ := hafter
    rw [before_append, after_append, (hbefore.append _).outside_eq, (hafter.append _).outside_eq,
      ih]

end Kept

section Changed

variable {weight : Char → Nat} {S : List Stroke}

theorem Stroke.Sound.eq_kept {s : Stroke} (h : s.Sound weight) (hmark : isMark s.char = true) :
    s = .kept s.char := by
  rcases h with h | h
  · obtain ⟨c, _⟩ := s
    exact congrArg (Stroke.mk c) h
  · rw [h.char_plain] at hmark
    cases hmark

theorem ne_of_isMark {c m : Char} (hm : isMark m = true) (hc : isMark c = false) : c ≠ m := by
  rintro rfl
  rw [hm] at hc
  cases hc

theorem exists_cut {m : Char} (hm : isMark m = true) {u v r t : List Char}
    (hS : ∀ s ∈ S, s.Sound weight)
    (hbefore : before S = u ++ m :: r) (hafter : after S = v ++ m :: t) (hu : m ∉ u) (hv : m ∉ v) :
    ∃ T U, S = T ++ .kept m :: U ∧ before T = u ∧ after T = v ∧ before U = r ∧ after U = t := by
  induction S generalizing u v with
  | nil => simp at hbefore
  | cons s S ih =>
    have hrest : ∀ s ∈ S, s.Sound weight := fun s hs => hS s (by simp [hs])
    by_cases hs : s.char = m
    · obtain rfl : s = .kept m := hs ▸ (hS s (by simp)).eq_kept (hs ▸ hm)
      obtain rfl : u = [] := by
        cases u with
        | nil => rfl
        | cons c u => exact absurd (by simp [(List.cons.inj hbefore).1.symm, Stroke.kept]) hu
      obtain rfl : v = [] := by
        cases v with
        | nil => rfl
        | cons c v => exact absurd (by simp [(List.cons.inj hafter).1.symm]) hv
      exact ⟨[], S, rfl, rfl, rfl, (List.cons.inj hbefore).2, (List.cons.inj hafter).2⟩
    · have htext : m ∉ s.text := by
        rcases hS s (by simp) with htext | hlight
        · rw [htext]
          simpa using fun h => hs h.symm
        · exact fun hmem => ne_of_isMark hm (hlight.text_plain m hmem) rfl
      obtain ⟨u', rfl⟩ : ∃ u', u = s.char :: u' := by
        cases u with
        | nil => exact absurd (List.cons.inj hbefore).1 hs
        | cons c u => exact ⟨u, by rw [(List.cons.inj hbefore).1]⟩
      obtain ⟨v', rfl⟩ : ∃ v', v = s.text ++ v' := by
        rcases List.append_eq_append_iff.1 hafter with ⟨v', hv', -⟩ | ⟨x, hx, hmr⟩
        · exact ⟨v', hv'⟩
        · cases x with
          | nil => exact ⟨[], by simpa using hx.symm⟩
          | cons d x => exact absurd (by rw [hx, (List.cons.inj hmr).1]; simp) htext
      rw [after_cons, List.append_assoc, List.append_cancel_left_eq] at hafter
      obtain ⟨T, U, rfl, rfl, rfl, hr, ht⟩ :=
        ih hrest (List.cons.inj hbefore).2 hafter (fun h => hu (by simp [h])) fun h =>
          hv (by simp [h])
      exact ⟨s :: T, U, rfl, rfl, rfl, hr, ht⟩

theorem exists_comment {w b w' b' r t : List Char} (hS : ∀ s ∈ S, s.Sound weight)
    (hbefore : Begins (before S) w b r) (hafter : Begins (after S) w' b' t) :
    ∃ T U, S = T ++ U ∧ T ≠ [] ∧ IsComment (before T) ∧ IsComment (after T) ∧ before U = r ∧
      after U = t := by
  have hx : before S = ['{'] ++ '#' :: ((w ++ (keyword ++ b)) ++ '#' :: '}' :: r) := by
    rw [hbefore.eq, written_eq]
    simp
  have hy : after S = ['{'] ++ '#' :: ((w' ++ (keyword ++ b')) ++ '#' :: '}' :: t) := by
    rw [hafter.eq, written_eq]
    simp
  obtain ⟨T₁, S₁, rfl, hx₁, hy₁, hx, hy⟩ := exists_cut (by decide) hS hx hy (by decide) (by decide)
  have hS : ∀ s ∈ S₁, s.Sound weight := fun s hs => hS s (by simp [hs])
  obtain ⟨T₂, S₂, rfl, hx₂, hy₂, hx, hy⟩ :=
    exists_cut (by decide) hS hx hy hbefore.hash_not_mem hafter.hash_not_mem
  have hS : ∀ s ∈ S₂, s.Sound weight := fun s hs => hS s (by simp [hs])
  obtain ⟨T₃, S₃, rfl, hx₃, hy₃, hx, hy⟩ :=
    @exists_cut _ _ _ (by decide) [] [] _ _ hS hx hy (by simp) (by simp)
  refine ⟨T₁ ++ .kept '#' :: (T₂ ++ .kept '#' :: (T₃ ++ [.kept '}'])), S₃, by simp, by simp,
    ⟨w, b, ?_, hbefore.blank, hbefore.unclosed, hbefore.filled⟩,
    ⟨w', b', ?_, hafter.blank, hafter.unclosed, hafter.filled⟩, hx, hy⟩
  · simp [hx₁, hx₂, hx₃, written_eq, Stroke.kept]
  · simp [hy₁, hy₂, hy₃, written_eq, Stroke.kept]

theorem Stroke.Lightens.prose_eq {s : Stroke} (h : s.Lightens weight) (x y : List Char) :
    prose (s.char :: x) = s.char :: prose x ∧ prose (s.text ++ y) = s.text ++ prose y := by
  have hchar : '{' ∉ [s.char] := by simpa using (ne_of_isMark (by decide) h.char_plain).symm
  exact ⟨prose_append hchar x,
    prose_append (fun hm => ne_of_isMark (by decide) (h.text_plain _ hm) rfl) y⟩

theorem Stroke.Lightens.count_eq {s : Stroke} (h : s.Lightens weight) (x y : List Char) :
    (s.char :: x).count '#' = x.count '#' ∧ (s.text ++ y).count '#' = y.count '#' := by
  have htext : s.text.count '#' = 0 :=
    List.count_eq_zero.2 fun hm => ne_of_isMark (by decide) (h.text_plain _ hm) rfl
  exact ⟨List.count_cons_of_ne (ne_of_isMark (by decide) h.char_plain), by
    rw [List.count_append, htext, Nat.zero_add]⟩

theorem weigh_prose_le (hS : ∀ s ∈ S, s.Sound weight)
    (h : (prose (after S)).count '#' = (prose (before S)).count '#') :
    weigh weight (prose (after S)) ≤ weigh weight (prose (before S)) := by
  induction S with
  | nil => exact Nat.le_refl _
  | cons s S ih =>
    have hrest : ∀ s ∈ S, s.Sound weight := fun s hs => hS s (by simp [hs])
    rw [before_cons, after_cons] at h ⊢
    rcases hS s (by simp) with htext | hlight
    · rw [htext, List.singleton_append, prose, prose] at h ⊢
      cases hafter : atStart? (s.char :: after S) with
      | some => exact Nat.zero_le _
      | none =>
        cases hbefore : atStart? (s.char :: before S) with
        | none =>
          simp only [hafter, hbefore, Option.isSome_none, Bool.false_eq_true, if_false,
            List.count_cons] at h ⊢
          have := ih hrest (by omega)
          simp only [weigh]
          omega
        | some found =>
          -- the second mark of the comment is kept as well and counts on one side only
          obtain ⟨w, rest, -, hbegin⟩ := atStart?_eq_some hbefore
          obtain ⟨T, rfl⟩ : ∃ T, S = .kept '#' :: T := by
            have heq := (List.cons.inj hbegin.eq).2
            cases S with
            | nil => cases heq
            | cons d T =>
              have hd : d.char = '#' := (List.cons.inj heq).1
              exact ⟨T, by rw [(hrest d (by simp)).eq_kept (by rw [hd]; decide), hd]⟩
          have hhash : prose (after (.kept '#' :: T)) = '#' :: prose (after T) :=
            @prose_append ['#'] (by decide) _
          rw [hafter, hbefore, hhash] at h
          have hzero : (s.char :: '#' :: prose (after T)).count '#' = 0 := h
          exact absurd hzero (by simp [List.count_eq_zero])
    · obtain ⟨hx, hy⟩ := hlight.prose_eq (before S) (after S)
      obtain ⟨hx', hy'⟩ := hlight.count_eq (prose (before S)) (prose (after S))
      rw [hx, hy, hx', hy'] at h
      have := ih hrest h
      have := hlight.lighter
      rw [hx, hy, weigh_append, weigh]
      omega

theorem confined_of_outside_eq (hS : ∀ s ∈ S, s.Sound weight)
    (h : outside (after S) = outside (before S)) :
    Confined S := by
  induction hn : S.length using Nat.strongRecOn generalizing S with
  | _ n ih =>
    cases S with
    | nil => exact .done
    | cons s S =>
      have hrest : ∀ s ∈ S, s.Sound weight := fun s hs => hS s (by simp [hs])
      rcases hS s (by simp) with htext | hlight
      · obtain ⟨c, text⟩ := s
        obtain rfl : text = [c] := htext
        change outside (c :: after S) = outside (c :: before S) at h
        cases hbefore : atStart? (c :: before S) with
        | none =>
          cases hafter : atStart? (c :: after S) with
          | none =>
            rw [outside_cons hbefore, outside_cons hafter] at h
            exact .prose hbefore (ih S.length (by rw [← hn]; simp) hrest (extendHead_inj h) rfl)
          | some found =>
            have hprose := prose_eq_of_outside h
            rw [prose, prose, hbefore, hafter] at hprose
            simp at hprose
        | some found =>
          cases hafter : atStart? (c :: after S) with
          | none =>
            have hprose := prose_eq_of_outside h
            rw [prose, prose, hbefore, hafter] at hprose
            simp at hprose
          | some found' =>
            obtain ⟨w, r, -, hbegin⟩ := atStart?_eq_some hbefore
            obtain ⟨w', t, -, hbegin'⟩ := atStart?_eq_some hafter
            rw [hbegin.outside_eq, hbegin'.outside_eq] at h
            obtain ⟨T, U, hsplit, hT, hcomment, hcomment', rfl, rfl⟩ :=
              exists_comment hS hbegin hbegin'
            rw [hsplit] at hS hn ⊢
            have hlt : U.length < n := by
              have := List.length_pos_iff.2 hT
              rw [← hn, List.length_append]
              omega
            exact .comment hcomment hcomment'
              (ih U.length hlt (fun s hs => hS s (by simp [hs])) (List.cons.inj h).2 rfl)
      · -- a change outside the comments makes the first part lighter
        have hprose := prose_eq_of_outside h
        obtain ⟨hx, hy⟩ := hlight.prose_eq (before S) (after S)
        obtain ⟨hx', hy'⟩ := hlight.count_eq (prose (before S)) (prose (after S))
        rw [before_cons, after_cons, hx, hy] at hprose
        have hcount := congrArg (List.count '#') hprose
        have hweigh := congrArg (weigh weight) hprose
        rw [hx', hy'] at hcount
        rw [weigh_append, weigh] at hweigh
        have := weigh_prose_le hrest hcount
        have := hlight.lighter
        omega

theorem Confined.getLast?_eq_kept (h : Confined S) (hS : ∀ s ∈ S, s.Sound weight) {s : Stroke}
    (hs : S.getLast? = some s) : s = .kept s.char := by
  induction h with
  | done => cases hs
  | @prose c S _ _ ih =>
    rw [List.getLast?_cons] at hs
    cases hl : S.getLast? with
    | none =>
      rw [hl] at hs
      obtain rfl := Option.some.inj hs
      rfl
    | some t =>
      rw [hl] at hs
      obtain rfl := Option.some.inj hs
      exact ih (fun x hx => hS x (by simp [hx])) hl
  | @comment T S hbefore _ _ ih =>
    rw [List.getLast?_append] at hs
    cases hl : S.getLast? with
    | some t =>
      rw [hl] at hs
      obtain rfl := Option.some.inj hs
      exact ih (fun x hx => hS x (by simp [hx])) hl
    | none =>
      rw [hl, Option.none_or] at hs
      refine (hS s (List.mem_append_left _ (List.mem_of_getLast? hs))).eq_kept ?_
      obtain ⟨w, b, hbegin⟩ := hbefore
      have hwritten : written w b = ('{' :: '#' :: (w ++ (keyword ++ b) ++ ['#'])) ++ ['}'] := by
        simp [written_eq]
      have hclose : (before T).getLast? = some '}' := by
        rw [hbegin.eq, List.append_nil, hwritten, List.getLast?_concat]
      rw [before, List.getLast?_map, hs] at hclose
      rw [Option.some.inj hclose]
      rfl

theorem outside_eq_iff (hS : ∀ s ∈ S, s.Sound weight) :
    outside (after S) = outside (before S) ↔ Confined S :=
  ⟨confined_of_outside_eq hS, Confined.outside_eq⟩

end Changed

end TypedTemplate.Comment
