import Mathlib.Data.List.Basic
import TypedTemplate.Toml.Quote

/-! Quoted text on one line or on many, and when a text that is put between quotes as it is reads
back. What is read is never longer than what was read for it, and as long only where no escape is
met. -/
namespace TypedTemplate.Toml

variable {lines : Bool} {n : Nat} {c : Char} {s q text rest skipped : List Char}

/-- A text holds no quote, no backslash and no control character but tabs. -/
def Plain (s : List Char) : Prop := ∀ c ∈ s, c ≠ '"' ∧ c ≠ '\\' ∧ isIllegal c = false

instance (s : List Char) : Decidable (Plain s) := inferInstanceAs (Decidable (∀ c ∈ s, _))

theorem plain_cons : Plain (c :: s) ↔ (c ≠ '"' ∧ c ≠ '\\' ∧ isIllegal c = false) ∧ Plain s :=
  List.forall_mem_cons

section Escapes

theorem exists_digits_of_readHex {width value number : Nat}
    (h : Text.readHex width value s = some (number, rest)) :
    ∃ digits, s = digits ++ rest ∧ digits.length = width ∧ '\n' ∉ digits := by
  induction width generalizing value s with
  | zero =>
    cases h
    exact ⟨[], rfl, rfl, List.not_mem_nil⟩
  | succ w ih =>
    cases s with
    | nil => cases h
    | cons c s =>
      rw [Text.readHex] at h
      split at h
      · next d hd =>
        obtain ⟨digits, rfl, hlength, hbreak⟩ := ih h
        refine ⟨c :: digits, rfl, by rw [List.length_cons, hlength], ?_⟩
        rw [List.mem_cons, not_or]
        refine ⟨?_, hbreak⟩
        rintro rfl
        cases hd
      · cases h

theorem exists_skipped_of_hexChar {width : Nat} {cs : List Char}
    (h : hexChar (width + 1) s = .ok (cs, rest)) :
    ∃ skipped, s = skipped ++ rest ∧ cs.length ≤ skipped.length ∧ '\n' ∉ skipped := by
  rw [hexChar] at h
  split at h
  · cases h
  · next number rest' hread =>
    split at h
    · cases h
      obtain ⟨digits, rfl, hlength, hbreak⟩ := exists_digits_of_readHex hread
      exact ⟨digits, rfl, by simp [hlength], hbreak⟩
    · cases h

theorem exists_skipped_of_escape {cs : List Char} (h : escape lines s = .ok (cs, rest)) :
    ∃ skipped, s = skipped ++ rest ∧ cs.length ≤ skipped.length ∧
      (lines = false → '\n' ∉ skipped) := by
  have hdropped (hlines : lines = true) (hrest : rest <:+ s) : ∃ skipped, s = skipped ++ rest ∧
      0 ≤ skipped.length ∧ (lines = false → '\n' ∉ skipped) := by
    obtain ⟨skipped, rfl⟩ := hrest
    exact ⟨skipped, rfl, Nat.zero_le _, fun hone => by rw [hone] at hlines; cases hlines⟩
  cases s with
  | nil => cases h
  | cons c s =>
    rw [escape] at h
    split at h
    · next hbreak =>
      cases h
      exact hdropped (Bool.and_eq_true_iff.1 hbreak).1
        ((List.dropWhile_suffix _).trans (List.suffix_cons c s))
    split at h
    · next hblank =>
      have hskip : skipBlanks s <:+ c :: s := (List.dropWhile_suffix _).trans (List.suffix_cons c s)
      split at h
      · cases h
        exact hdropped (Bool.and_eq_true_iff.1 hblank).1 (List.nil_suffix)
      · next s' hs =>
        cases h
        rw [hs] at hskip
        exact hdropped (Bool.and_eq_true_iff.1 hblank).1
          ((List.dropWhile_suffix _).trans ((List.suffix_cons _ s').trans hskip))
      · cases h
    have hhex {width : Nat} (hc : c ≠ '\n') (h : hexChar (width + 1) s = .ok (cs, rest)) :
        ∃ skipped, c :: s = skipped ++ rest ∧ cs.length ≤ skipped.length ∧
          (lines = false → '\n' ∉ skipped) := by
      obtain ⟨skipped, rfl, hlength, hbreak⟩ := exists_skipped_of_hexChar h
      refine ⟨c :: skipped, rfl, Nat.le_succ_of_le hlength, fun _ => ?_⟩
      rw [List.mem_cons, not_or]
      exact ⟨Ne.symm hc, hbreak⟩
    split at h
    · next hc => exact hhex (by rw [eq_of_beq hc]; decide) h
    split at h
    · next hc => exact hhex (by rw [eq_of_beq hc]; decide) h
    split at h
    · next c' hc =>
      cases h
      refine ⟨[c], rfl, Nat.le_refl _, fun _ hbreak => ?_⟩
      rw [← List.mem_singleton.1 hbreak] at hc
      cases hc
    · cases h

end Escapes

section Reading

/-- The quotes that close a text. -/
def closing (lines : Bool) : List Char := if lines then ['"', '"', '"'] else ['"']

theorem exists_of_bind_ok {r : Except Fault (List Char × List Char)} {g : List Char → List Char}
    (h : (r >>= fun p => pure (g p.1, p.2)) = .ok (text, rest)) :
    ∃ out, r = .ok (out, rest) ∧ text = g out := by
  cases r with
  | error e => cases h
  | ok p =>
    cases h
    exact ⟨p.1, rfl, rfl⟩

/-- What was read up to the closing quotes. On one line there is no line break in it, and where
nothing was left out it is the text itself. -/
theorem exists_front_of_basicFrom (h : basicFrom lines n s = .ok (text, rest)) :
    ∃ front, s = front ++ (closing lines ++ rest) ∧ text.length ≤ front.length ∧
      (lines = false → '\n' ∉ front ∧
        (text.length = front.length → text = front ∧ Plain front)) := by
  induction n generalizing s text rest with
  | zero => cases h
  | succ n ih =>
    cases s with
    | nil => cases h
    | cons c s =>
      rw [basicFrom.eq_def] at h
      dsimp only at h
      split at h
      · next hc =>
        obtain rfl : c = '"' := eq_of_beq hc
        cases lines with
        | false =>
          cases h
          exact ⟨[], rfl, Nat.le_refl _,
            fun _ => ⟨List.not_mem_nil, fun _ => ⟨rfl, by simp [Plain]⟩⟩⟩
        | true =>
          rw [if_neg (by decide)] at h
          split at h
          · cases h
            exact ⟨[], rfl, Nat.le_refl _, by simp⟩
          · obtain ⟨out, hout, rfl⟩ := exists_of_bind_ok h
            obtain ⟨front, rfl, hlength, -⟩ := ih hout
            exact ⟨'"' :: front, rfl, Nat.succ_le_succ hlength, by simp⟩
      · next hquote =>
        have hquote : c ≠ '"' := by simpa using hquote
        split at h
        · next hc =>
          obtain rfl : c = '\\' := eq_of_beq hc
          cases hesc : escape lines s with
          | error e =>
            rw [hesc] at h
            cases h
          | ok p =>
            obtain ⟨cs, s'⟩ := p
            rw [hesc] at h
            obtain ⟨out, hout, rfl⟩ := exists_of_bind_ok h
            obtain ⟨skipped, rfl, hskipped, hbreak⟩ := exists_skipped_of_escape hesc
            obtain ⟨front, rfl, hlength, hone⟩ := ih hout
            refine ⟨'\\' :: (skipped ++ front), by simp, by simp; omega,
              fun hlines => ⟨?_, fun heq => ?_⟩⟩
            · simp [hbreak hlines, (hone hlines).1]
            · simp at heq
              omega
        · next hslash =>
          have hslash : c ≠ '\\' := by simpa using hslash
          by_cases hillegal : (if lines then isIllegalInLines c else isIllegal c) = true
          · rw [if_pos hillegal] at h
            cases h
          · rw [if_neg hillegal] at h
            obtain ⟨out, hout, rfl⟩ := exists_of_bind_ok h
            obtain ⟨front, rfl, hlength, hone⟩ := ih hout
            refine ⟨c :: front, rfl, Nat.succ_le_succ hlength, fun hlines => ?_⟩
            subst hlines
            have hillegal : isIllegal c = false := by simpa using hillegal
            obtain ⟨hbreak, hsame⟩ := hone rfl
            refine ⟨?_, fun heq => ?_⟩
            · rw [List.mem_cons, not_or]
              refine ⟨?_, hbreak⟩
              rintro rfl
              cases hillegal
            · obtain ⟨rfl, hplain⟩ := hsame (Nat.succ.inj heq)
              exact ⟨rfl, plain_cons.2 ⟨⟨hquote, hslash, hillegal⟩, hplain⟩⟩

theorem basicFrom_plain (h : Plain s) (hn : s.length < n) :
    basicFrom false n (s ++ '"' :: rest) = .ok (s, rest) := by
  induction s generalizing n with
  | nil =>
    obtain ⟨n, rfl⟩ := Nat.exists_eq_add_one.2 hn
    rw [List.nil_append, basicFrom.eq_def]
    rfl
  | cons c s ih =>
    obtain ⟨n, rfl⟩ := Nat.exists_eq_add_one.2 (Nat.zero_lt_of_lt hn)
    obtain ⟨⟨hquote, hslash, hillegal⟩, hs⟩ := plain_cons.1 h
    rw [List.cons_append, basicFrom.eq_def]
    dsimp only
    rw [if_neg (by simpa using hquote), if_neg (by simpa using hslash),
      if_neg (by simpa using hillegal), ih hs (by simpa using hn)]
    rfl

end Reading

section Interpolation

theorem quotedText?_line (h : ¬ ['"', '"'] <+: s) :
    quotedText? ('"' :: s) = some (basic false s) := by
  rw [quotedText?.eq_def]
  split
  · next s' hs =>
    obtain rfl := (List.cons.inj hs).2
    exact absurd (List.prefix_append ['"', '"'] s') h
  · next s' _ hs => rw [(List.cons.inj hs).2]
  · next hs => cases hs
  · next hs => cases hs
  · next hs _ _ => exact absurd rfl (hs s)

theorem quotedText?_plain (h : Plain s) :
    quotedText? ('"' :: (s ++ '"' :: '\n' :: q)) = some (.ok (s, '\n' :: q)) := by
  rw [quotedText?_line, basic,
    basicFrom_plain h (by simp only [List.length_append, List.length_cons]; omega)]
  cases s with
  | nil => simp
  | cons c s =>
    rw [List.cons_append, List.cons_prefix_cons]
    exact fun hc => (plain_cons.1 h).1.1 hc.1.symm

theorem length_extraQuotes_le (c : Char) (text rest : List Char) :
    (extraQuotes c text rest).1.length ≤ text.length + 2 := by
  rw [extraQuotes.eq_def]
  split
  · split
    · simp
    · split
      · split <;> simp
      · simp
  · simp

theorem dropBreak_suffix (s : List Char) : dropBreak s <:+ s := by
  rw [dropBreak.eq_def]
  split
  · exact List.suffix_cons _ _
  · exact List.suffix_refl _

theorem length_add_two_le {a : List Char} (h : a ++ (closing true ++ rest) = s ++ '"' :: '\n' :: q)
    (hq : ¬ ['"', '"'] <:+: q) : a.length + 2 ≤ s.length := by
  rw [List.append_cons s] at h
  rcases List.append_eq_append_iff.1 h with ⟨m, hm, hclose⟩ | ⟨m, -, hclose⟩
  · have hthree : 3 ≤ m.length := by
      rcases m with _ | ⟨c₁, _ | ⟨c₂, _ | ⟨c₃, m⟩⟩⟩
      · simp [closing] at hclose
      · simp [closing] at hclose
      · simp [closing] at hclose
      · simp
    have hlength := congrArg List.length hm
    simp only [List.length_append, List.length_singleton] at hlength
    omega
  · cases m with
    | nil => cases hclose
    | cons c m =>
      rw [List.cons_append, List.cons.injEq] at hclose
      exact absurd ⟨m, '"' :: rest, by simp [hclose.2, closing]⟩ hq

theorem exists_append_of_line {front : List Char}
    (h : s ++ '"' :: '\n' :: q = front ++ (closing false ++ rest))
    (hbreak : '\n' ∉ front) : ∃ m, s = front ++ m := by
  rcases List.append_eq_append_iff.1 h with ⟨m, rfl, hclose⟩ | ⟨m, hm, -⟩
  · cases m with
    | nil => exact ⟨[], by simp⟩
    | cons c m =>
      rw [List.cons_append, List.cons.injEq] at hclose
      cases m with
      | nil => cases hclose.2
      | cons c' m =>
        rw [List.cons_append, List.cons.injEq] at hclose
        exact absurd (by simp [← hclose.2.1]) hbreak
  · exact ⟨m, hm⟩

theorem plain_of_quotedText?
    (h : quotedText? ('"' :: (s ++ '"' :: '\n' :: q)) = some (.ok (text, rest)))
    (hq : ¬ ['"', '"'] <:+: q) (hlength : s.length ≤ text.length) : text = s ∧ Plain s := by
  by_cases hline : ['"', '"'] <+: s ++ '"' :: '\n' :: q
  · obtain ⟨u, hu⟩ := hline
    rw [← hu] at h
    obtain ⟨p, hp, hextra⟩ : ∃ p, basic true (dropBreak u) = .ok p ∧
      extraQuotes '"' p.1 p.2 = (text, rest) := by
      cases hb : basic true (dropBreak u) with
      | error e => simp [quotedText?, hb, bind, Except.bind] at h
      | ok p =>
        exact ⟨p, rfl, by simpa [quotedText?, hb, bind, Except.bind, pure, Except.pure] using h⟩
    obtain ⟨front, hfront, hle, -⟩ := exists_front_of_basicFrom hp
    obtain ⟨dropped, hdropped⟩ := dropBreak_suffix u
    rw [← hdropped, hfront] at hu
    have htwo : ('"' :: '"' :: (dropped ++ front)).length + 2 ≤ s.length :=
      length_add_two_le (by simpa using hu) hq
    have hquotes := length_extraQuotes_le '"' p.1 p.2
    rw [hextra] at hquotes
    dsimp only at hquotes
    simp only [List.length_cons, List.length_append] at htwo
    omega
  · rw [quotedText?_line hline] at h
    obtain ⟨front, hfront, hle, hone⟩ := exists_front_of_basicFrom (Option.some.inj h)
    obtain ⟨hbreak, hsame⟩ := hone rfl
    obtain ⟨m, rfl⟩ := exists_append_of_line hfront hbreak
    rw [List.length_append] at hlength
    obtain rfl : m = [] := List.length_eq_zero_iff.1 (by omega)
    rw [List.append_nil]
    exact hsame (by omega)

end Interpolation

end TypedTemplate.Toml
