import Mathlib.Data.List.TakeDrop
import TypedTemplate.Proofs.Console.Markup
import TypedTemplate.Proofs.Text.Search

/-! Texts that a console prints as they are. What it takes out of a text, be it a tag or a
backslash, costs a bracket or a backslash, and nothing that it puts in has one; so a text that comes
out whole had no tag. -/
namespace TypedTemplate.Console

/-- A code point that stands for no more than itself: no bracket, no backslash and none of the
control characters up to the carriage return but the first. -/
def isSignCode (n : Nat) : Bool := (n == 0 || decide (13 < n)) && n != 91 && n != 92

def isSign (c : Char) : Bool := isSignCode c.toNat

def isMark (c : Char) : Bool := c == '[' || c == '\\'

section Emoji

theorem isSignCode_of_lt {n : Nat} (h : 127 < n) : isSignCode n = true := by
  simp only [isSignCode, Bool.and_eq_true, Bool.or_eq_true, beq_iff_eq, decide_eq_true_eq,
    bne_iff_ne]
  omega

theorem le_of_mem_utf8EncodeChar {c : Char} (h : 127 < c.toNat) :
    ∀ b ∈ String.utf8EncodeChar c, 128 ≤ b.toNat := by
  rw [String.utf8EncodeChar, if_neg (show ¬c.val.toNat ≤ 127 from Nat.not_le.2 h)]
  split_ifs <;> simp only [List.forall_mem_cons, UInt8.toNat_ofNat', List.not_mem_nil,
    false_implies, implies_true, and_true] <;> omega

theorem utf8EncodeChar_of_le {c : Char} (h : c.toNat ≤ 127) :
    ∃ b : UInt8, String.utf8EncodeChar c = [b] ∧ b.toNat = c.toNat :=
  ⟨UInt8.ofNat c.toNat, if_pos h, by rw [UInt8.toNat_ofNat']; omega⟩

/-- The characters in front of the first blank are signs if the bytes in front of it are. -/
theorem sign_of_bytes {s : List Char}
    (h : ∀ b ∈ (s.flatMap String.utf8EncodeChar).takeWhile (· != 32), isSignCode b.toNat = true) :
    ∀ c ∈ s.takeWhile (· != ' '), isSign c = true := by
  induction s with
  | nil => simp
  | cons c s ih =>
    by_cases hblank : c = ' '
    · simp [hblank]
    -- a character is its own byte, or all of its bytes are above the blank
    have hchar : (∀ b ∈ String.utf8EncodeChar c, (b != 32) = true) ∧
        ((∀ b ∈ String.utf8EncodeChar c, isSignCode b.toNat = true) → isSign c = true) := by
      by_cases hn : c.toNat ≤ 127
      · obtain ⟨b, heq, hb⟩ := utf8EncodeChar_of_le hn
        simp only [heq, List.mem_singleton, forall_eq, bne_iff_ne, isSign, hb, imp_self, and_true]
        rintro rfl
        exact hblank (Char.toNat_inj.1 hb.symm)
      · refine ⟨fun b hb => bne_iff_ne.2 fun heq => ?_, fun _ => isSignCode_of_lt (by omega)⟩
        simpa [heq] using le_of_mem_utf8EncodeChar (Nat.lt_of_not_le hn) b hb
    rw [List.flatMap_cons, List.takeWhile_append_of_pos hchar.1, List.forall_mem_append] at h
    rw [List.takeWhile_cons_of_pos (p := (· != ' ')) (bne_iff_ne.2 hblank), List.forall_mem_cons]
    exact ⟨hchar.2 h.1, ih h.2⟩

theorem sign_emojiListing :
    (emojiListing.all fun entry =>
      (entry.toByteArray.data.toList.takeWhile (· != 32)).all fun b => isSignCode b.toNat) =
      true := by
  decide +kernel

theorem sign_of_lookup {name : String} {e : List Char} (h : emojiNames.lookup name = some e) :
    ∀ c ∈ e, isSign c = true := by
  obtain ⟨front, back, heq, -⟩ := List.lookup_eq_some_iff.1 h
  have hmem : (name, e) ∈ emojiNames := by
    rw [heq]
    simp
  obtain ⟨p, hp, hnamed⟩ := List.mem_map.1 hmem
  obtain ⟨-, rfl⟩ := Prod.mk.inj hnamed
  obtain ⟨entry, hentry, hp⟩ := List.mem_flatMap.1 hp
  rw [List.span_eq_takeWhile_dropWhile] at hp
  obtain ⟨name', -, rfl⟩ := List.mem_map.1 hp
  refine sign_of_bytes ?_
  have hall := List.all_eq_true.1 (List.all_eq_true.1 sign_emojiListing entry hentry)
  rwa [← String.ofList_toList (s := entry), String.toByteArray_ofList, List.utf8Encode,
    List.toList_data_toByteArray] at hall

theorem sign_ofNat {n : Nat} (h : 127 < n) : isSign (Char.ofNat n) = true := by
  by_cases hn : n.isValidChar
  · rw [show Char.ofNat n = Char.ofNatAux n hn from dif_pos hn]
    exact isSignCode_of_lt h
  · rw [show Char.ofNat n = '\x00' from dif_neg hn]
    rfl

theorem sign_of_tonedNamed? {name e : List Char} (h : tonedNamed? name = some e) :
    ∀ c ∈ e, isSign c = true := by
  have htones : ∀ p ∈ skinTones, isSign p.2 = true := by decide
  obtain ⟨p, hp, he⟩ := List.exists_of_findSome?_eq_some h
  simp only [Option.ite_none_right_eq_some, Option.map_eq_some_iff] at he
  obtain ⟨-, e', hlookup, rfl⟩ := he
  have hplain := sign_of_lookup hlookup
  cases e' with
  | nil => simp [withTone]
  | cons c s =>
    rw [List.forall_mem_cons] at hplain
    refine List.forall_mem_cons.2
      ⟨hplain.1, List.forall_mem_cons.2 ⟨htones p hp, fun d hd => hplain.2 d ?_⟩⟩
    split at hd
    · exact List.mem_of_mem_tail hd
    · exact hd

theorem sign_of_emojiOf? {code e : List Char} (h : emojiOf? code = some e) :
    ∀ c ∈ e, isSign c = true := by
  have hforms : ∀ form ∈ [[], ['\uFE0F'], ['\uFE0E']], ∀ c ∈ form, isSign c = true := by decide
  have hform : (splitForm code).2 ∈ [[], ['\uFE0F'], ['\uFE0E']] := by
    rw [splitForm]
    split
    · split
      · simp
      · split <;> simp
    · simp
  rw [emojiOf?] at h
  obtain ⟨e', he, rfl⟩ := Option.map_eq_some_iff.1 h
  refine List.forall_mem_append.2 ⟨?_, hforms _ hform⟩
  simp only [emojiNamed?, Option.or_eq_some_iff] at he
  rcases he with hlookup | ⟨-, hflag | ⟨-, htoned⟩⟩
  · exact sign_of_lookup hlookup
  · obtain ⟨letters, -, rfl⟩ := Option.map_eq_some_iff.1 hflag
    intro c hc
    obtain ⟨d, -, rfl⟩ := List.mem_map.1 hc
    exact sign_ofNat (by omega)
  · exact sign_of_tonedNamed? htoned

end Emoji

section Count

theorem takeWhile_append_drop (p : Char → Bool) (s : List Char) :
    s.takeWhile p ++ s.drop (s.takeWhile p).length = s :=
  List.prefix_iff_eq_append.1 (List.takeWhile_prefix p)

theorem code?_eq_some {s code rest : List Char} (h : code? s = some (code, rest)) :
    s = code ++ ':' :: rest := by
  rw [code?] at h
  split at h
  · next heq =>
    cases h
    rw [← heq, takeWhile_append_drop]
  · cases h

variable {p : Char → Bool} (hp : ∀ c, isSign c = true → p c = false)
include hp

theorem countP_withEmojiFrom_le (n : Nat) (s : List Char) :
    (withEmojiFrom n s).countP p ≤ s.countP p := by
  fun_induction withEmojiFrom n s with
  | case1 s => exact Nat.le_refl _
  | case2 => exact Nat.le_refl _
  | case3 n c s hc code rest hcode ih =>
    obtain rfl : c = ':' := by simpa using hc
    have hshown : ((emojiOf? code).getD (':' :: code ++ [':'])).countP p ≤
      (':' :: code ++ [':']).countP p := by
      cases he : emojiOf? code with
      | none => exact Nat.le_refl _
      | some e =>
        rw [Option.getD_some, List.countP_eq_zero.2 fun c hc => by
          simp [hp c (sign_of_emojiOf? he c hc)]]
        exact Nat.zero_le _
    rw [code?_eq_some hcode, List.countP_append]
    simp only [List.countP_append, List.countP_cons, List.countP_nil] at hshown ⊢
    omega
  | case4 n c s hc hcode ih =>
    simp only [List.countP_cons]
    omega
  | case5 n c s hc ih =>
    simp only [List.countP_cons]
    omega

theorem countP_withEmoji_le (s : List Char) : (withEmoji s).countP p ≤ s.countP p := by
  rw [withEmoji]
  split
  · exact countP_withEmojiFrom_le hp _ s
  · exact Nat.le_refl _

theorem countP_printed_le (s : List Char) : (printed s).countP p ≤ s.countP p :=
  Nat.le_trans List.filter_sublist.countP_le (countP_withEmoji_le hp s)

end Count

theorem mem_of_countP_le {c : Char} (hc : isSign c = false) {s t : List Char}
    (h : ∀ p : Char → Bool, (∀ c, isSign c = true → p c = false) → s.countP p ≤ t.countP p)
    (hs : c ∈ s) : c ∈ t := by
  have hcount : s.count c ≤ t.count c := h (· == c) fun d hd => by
    rw [beq_eq_false_iff_ne]
    rintro rfl
    rw [hc] at hd
    cases hd
  exact List.count_pos_iff.1 (Nat.lt_of_lt_of_le (List.count_pos_iff.2 hs) hcount)

theorem isMark_of_isSign (c : Char) (h : isSign c = true) : isMark c = false := by
  rw [isMark, Bool.or_eq_false_iff, beq_eq_false_iff_ne, beq_eq_false_iff_ne]
  constructor <;> (rintro rfl; cases h)

section Brackets

theorem unescapeBrackets_sublist (s : List Char) : (unescapeBrackets s).Sublist s := by
  fun_induction unescapeBrackets s with
  | case1 s ih => exact (ih.cons_cons _).cons _
  | case2 c s hc ih => exact ih.cons_cons _
  | case3 => exact .refl _

theorem unescapeBrackets_cases (s : List Char) :
    unescapeBrackets s = s ∨ (unescapeBrackets s).countP isMark < s.countP isMark := by
  fun_induction unescapeBrackets s with
  | case1 s ih =>
    have hle := (unescapeBrackets_sublist s).countP_le (p := isMark)
    have hslash : isMark '\\' = true := rfl
    rw [List.countP_cons, List.countP_cons, List.countP_cons]
    exact .inr (by simp only [hslash, if_true]; omega)
  | case2 c s hc ih =>
    rw [List.countP_cons, List.countP_cons]
    exact ih.imp (congrArg _) fun h => by omega
  | case3 => exact .inl rfl

end Brackets

section Tags

variable {s body rest : List Char} {n : Nat}

theorem tagBody?_eq_some (h : tagBody? s = some (body, rest)) : s = body ++ ']' :: rest := by
  rw [tagBody?.eq_def] at h
  split at h
  · split at h
    · dsimp only at h
      split at h
      · next heq =>
        cases h
        rw [← heq, takeWhile_append_drop]
      · cases h
    · cases h
  · cases h

theorem tagHere?_eq_some {k : Nat} (h : tagHere? s = some (k, body, rest)) :
    ∃ v, s = List.replicate k '\\' ++ '[' :: v ∧ tagBody? v = some (body, rest) := by
  rw [tagHere?] at h
  split at h
  · next v heq =>
    obtain ⟨p, hp, hk⟩ := Option.map_eq_some_iff.1 h
    cases hk
    refine ⟨v, ?_, hp⟩
    have hslashes :
        s.takeWhile (· == '\\') = List.replicate (s.takeWhile (· == '\\')).length '\\' :=
      List.eq_replicate_of_mem fun c hc => by simpa using List.all_eq_true.1 List.all_takeWhile c hc
    rw [← hslashes, ← heq, takeWhile_append_drop]
  · cases h

theorem countP_of_tagHere? {p : Char → Bool} (hp : p ']' = false) {k : Nat}
    (h : tagHere? s = some (k, body, rest)) :
    s.countP p = (List.replicate k '\\').countP p + ('[' :: body).countP p + rest.countP p := by
  obtain ⟨v, rfl, hbody⟩ := tagHere?_eq_some h
  have hclose : (']' :: rest).countP p = rest.countP p := List.countP_cons_of_neg (by simp [hp])
  rw [tagBody?_eq_some hbody, ← List.cons_append, List.countP_append, List.countP_append, hclose,
    Nat.add_assoc]

def Tagless (s : List Char) : Prop := ∀ v, '[' :: v <:+ s → tagBody? v = none

theorem tagless_cons {c : Char} : Tagless (c :: s) ↔ tagHere? (c :: s) = none ∧ Tagless s := by
  constructor
  · refine fun h => ⟨Option.eq_none_iff_forall_ne_some.2 fun p hp => ?_,
      fun v hv => h v (hv.trans (List.suffix_cons c s))⟩
    obtain ⟨v, heq, hbody⟩ := tagHere?_eq_some hp
    rw [h v (heq ▸ List.suffix_append ..)] at hbody
    cases hbody
  · rintro ⟨hhere, h⟩ v hv
    rcases List.suffix_cons_iff.1 hv with heq | hv
    · cases heq
      exact Option.map_eq_none_iff.1 hhere
    · exact h v hv

theorem piecesFrom_tagless (h : Tagless s) (hn : s.length < n) (position : Nat)
    (reversed : List Char) :
    piecesFrom n position reversed s = textPiece (s.reverse ++ reversed) := by
  induction s generalizing n position reversed with
  | nil => cases n <;> rfl
  | cons c s ih =>
    obtain ⟨hhere, h⟩ := tagless_cons.1 h
    obtain ⟨n, rfl⟩ : ∃ k, n = k + 1 := ⟨n - 1, by omega⟩
    rw [piecesFrom, hhere]
    dsimp only
    rw [ih h (Nat.lt_of_succ_lt_succ hn)]
    simp

def shownOf (ps : List Piece) : List Char :=
  ps.flatMap fun p =>
    match p with
    | .text s => printed (unescapeBrackets s)
    | .tag .. => []

theorem eq_shownOf {opened : List OpenTag} {ps : List Piece} {out : List Char}
    (h : plainFrom opened ps = .ok out) :
    out = shownOf ps := by
  induction ps generalizing opened out with
  | nil => exact (Except.ok.inj h).symm
  | cons p ps ih =>
    cases p with
    | text s =>
      rw [plainFrom] at h
      cases hrest : plainFrom opened ps with
      | error e => simp [hrest, bind, Except.bind] at h
      | ok out' =>
        rw [hrest] at h
        rw [← Except.ok.inj h, ih hrest]
        rfl
    | tag position t =>
      rw [plainFrom] at h
      cases ht : applyTag position t opened with
      | error e => simp [ht, bind, Except.bind] at h
      | ok opened' =>
        rw [ht] at h
        exact ih h

theorem shownOf_append (ps qs : List Piece) : shownOf (ps ++ qs) = shownOf ps ++ shownOf qs :=
  List.flatMap_append

section Shown

variable {p : Char → Bool} (hp : ∀ c, isSign c = true → p c = false)
include hp

theorem countP_text_le (s : List Char) : (shownOf [.text s]).countP p ≤ s.countP p := by
  rw [shownOf, List.flatMap_singleton]
  exact Nat.le_trans (countP_printed_le hp _) (unescapeBrackets_sublist s).countP_le

theorem countP_textPiece_le (reversed : List Char) :
    (shownOf (textPiece reversed)).countP p ≤ reversed.countP p := by
  cases reversed with
  | nil => exact Nat.le_refl 0
  | cons c s =>
    have h := countP_text_le hp (c :: s).reverse
    rwa [List.countP_reverse] at h

theorem countP_tagPieces_le (position k : Nat) (body : List Char) :
    (shownOf (tagPieces position k body)).countP p ≤
      (List.replicate (k / 2) '\\').countP p + if k % 2 = 1 then ('[' :: body).countP p else 0 := by
  have hfront :
      (shownOf (if (List.replicate (k / 2) '\\').isEmpty then []
        else [.text (List.replicate (k / 2) '\\')])).countP p ≤
      (List.replicate (k / 2) '\\').countP p := by
    split
    · exact Nat.zero_le _
    · exact countP_text_le hp _
  have hbody := countP_text_le hp ('[' :: body ++ [']'])
  rw [List.countP_append, show [']'].countP p = 0 by simp [hp ']' rfl], Nat.add_zero] at hbody
  rw [tagPieces]
  by_cases hk : k % 2 = 1
  · rw [if_pos (by simpa using hk), if_pos hk, shownOf_append, List.countP_append]
    exact Nat.add_le_add hfront hbody
  · rw [if_neg (by simpa using hk), if_neg hk, shownOf_append, List.countP_append]
    exact Nat.add_le_add hfront (Nat.zero_le _)

theorem countP_piecesFrom_le (n position : Nat) (reversed s : List Char) :
    (shownOf (piecesFrom n position reversed s)).countP p ≤ reversed.countP p + s.countP p := by
  fun_induction piecesFrom n position reversed s with
  | case1 => exact Nat.le_trans (countP_textPiece_le hp _) (Nat.le_add_right ..)
  | case2 => exact countP_textPiece_le hp _
  | case3 n position reversed c s k body rest hhere ih =>
    have htext := countP_textPiece_le hp reversed
    have htag := countP_tagPieces_le hp position k body
    have hslashes : (List.replicate (k / 2) '\\').countP p ≤ (List.replicate k '\\').countP p :=
      (List.replicate_sublist_replicate _ |>.2 (Nat.div_le_self k 2)).countP_le
    rw [countP_of_tagHere? (hp _ rfl) hhere, shownOf_append, shownOf_append, List.countP_append,
      List.countP_append]
    rw [List.countP_nil] at ih
    split at htag <;> omega
  | case4 n position reversed c s hhere ih =>
    rw [List.countP_cons] at ih ⊢
    omega

end Shown

theorem tagless_or_lt (hn : s.length < n) (position : Nat) (reversed : List Char) :
    Tagless s ∨
      (shownOf (piecesFrom n position reversed s)).countP isMark < reversed.countP isMark + s.countP
        isMark := by
  induction s generalizing n position reversed with
  | nil => exact .inl fun v hv => by simp at hv
  | cons c s ih =>
    obtain ⟨n, rfl⟩ : ∃ k, n = k + 1 := ⟨n - 1, by omega⟩
    rw [piecesFrom]
    cases hhere : tagHere? (c :: s) with
    | some t =>
      obtain ⟨k, body, rest⟩ := t
      have htext := countP_textPiece_le isMark_of_isSign reversed
      have htag := countP_tagPieces_le isMark_of_isSign position k body
      have hrest := countP_piecesFrom_le isMark_of_isSign n (position + k + body.length + 2) [] rest
      have hslashes (k : Nat) : (List.replicate k '\\').countP isMark = k := by
        rw [List.countP_replicate, if_pos (show isMark '\\' = true from rfl)]
      have hopen : ('[' :: body).countP isMark = body.countP isMark + 1 :=
        List.countP_cons_of_pos rfl
      dsimp only
      rw [countP_of_tagHere? rfl hhere, shownOf_append, shownOf_append, List.countP_append,
        List.countP_append, hslashes, hopen]
      rw [hslashes, hopen] at htag
      rw [List.countP_nil] at hrest
      exact .inr (by split at htag <;> omega)
    | none =>
      refine (ih (Nat.lt_of_succ_lt_succ hn) (position + 1) (c :: reversed)).imp
        (fun h => tagless_cons.2 ⟨hhere, h⟩) ?_
      rw [List.countP_cons, List.countP_cons]
      intro hlt
      dsimp only
      omega

end Tags

theorem sign_of_isUnprinted {c : Char} (h : isUnprinted c = true) : isSign c = false := by
  simp only [isUnprinted, Bool.or_eq_true, beq_iff_eq] at h
  rcases h with (((h | h) | h) | h) | h <;> simp [isSign, isSignCode, h]

/-- A text in which nothing stands for anything else. -/
structure Literal (m : List Char) : Prop where
  tagless : Tagless m
  unescaped : unescapeBrackets m = m
  emojiless : withEmoji m = m
  printable : ∀ c ∈ m, isUnprinted c = false
  untabbed : '\t' ∉ m

section Literal

variable {m : List Char}

theorem Literal.printed_eq (h : Literal m) : printed (unescapeBrackets m) = m := by
  rw [h.unescaped, printed, h.emojiless, List.filter_eq_self]
  exact fun c hc => by simp [h.printable c hc]

theorem plainFrom_piecesFrom_iff {n : Nat} (hn : m.length < n) (position : Nat) :
    plainFrom [] (piecesFrom n position [] m) = .ok m ∧ '\t' ∉ m ↔ Literal m := by
  have hshown (h : Tagless m) :
      plainFrom [] (piecesFrom n position [] m) = .ok (printed (unescapeBrackets m)) := by
    have htext := plainFrom_textPiece [] m.reverse []
    rw [List.append_nil, List.reverse_reverse] at htext
    rw [piecesFrom_tagless h hn, List.append_nil, htext, plainFrom, Except.map, List.append_nil]
  constructor
  · rintro ⟨h, htab⟩
    have htagless : Tagless m := by
      rcases tagless_or_lt hn position [] with htagless | hlt
      · exact htagless
      · rw [← eq_shownOf h] at hlt
        simp at hlt
    have hm : printed (unescapeBrackets m) = m := Except.ok.inj ((hshown htagless).symm.trans h)
    have hunescaped : unescapeBrackets m = m := by
      refine (unescapeBrackets_cases m).resolve_right fun hlt => ?_
      have hle := countP_printed_le isMark_of_isSign (unescapeBrackets m)
      rw [hm] at hle
      omega
    rw [hunescaped, printed] at hm
    have hprintable : ∀ c ∈ m, isUnprinted c = false := fun c hc => by
      rw [← hm] at hc
      simpa using (List.mem_filter.1 hc).2
    -- the control characters are no signs, so that no emoji has brought one
    have hemoji : (withEmoji m).filter (fun c => !isUnprinted c) = withEmoji m := by
      refine List.filter_eq_self.2 fun c hc => ?_
      cases hc' : isUnprinted c with
      | false => rfl
      | true =>
        rw [hprintable c (mem_of_countP_le (sign_of_isUnprinted hc')
          (fun _ hp => countP_withEmoji_le hp m) hc)] at hc'
        cases hc'
    exact ⟨htagless, hunescaped, hemoji.symm.trans hm, hprintable, htab⟩
  · intro h
    exact ⟨by rw [hshown h.tagless, h.printed_eq], h.untabbed⟩

theorem literal_blank_cons : Literal (' ' :: m) ↔ Literal m := by
  have htags : Tagless (' ' :: m) ↔ Tagless m := by
    rw [tagless_cons, tagHere?_cons (by decide)]
    simp
  have hbrackets : unescapeBrackets (' ' :: m) = ' ' :: unescapeBrackets m := rfl
  have hemoji : withEmoji (' ' :: m) = ' ' :: withEmoji m := by
    rw [withEmoji, withEmoji, List.contains_cons, show (':' == ' ') = false from rfl, Bool.false_or]
    split <;> rfl
  constructor
  · intro h
    have hprintable := List.forall_mem_cons.1 h.printable
    exact ⟨htags.1 h.tagless, (List.cons.inj (hbrackets ▸ h.unescaped)).2,
      (List.cons.inj (hemoji ▸ h.emojiless)).2, hprintable.2, fun htab => h.untabbed (.tail _ htab)⟩
  · intro h
    exact ⟨htags.2 h.tagless, by rw [hbrackets, h.unescaped], by rw [hemoji, h.emojiless],
      List.forall_mem_cons.2 ⟨rfl, h.printable⟩, by simp [h.untabbed]⟩

theorem withEmoji_of_count_le (h : m.count ':' ≤ 1) : withEmoji m = m := by
  have hfrom (n : Nat) : withEmojiFrom n m = m := by
    fun_induction withEmojiFrom n m with
    | case1 => rfl
    | case2 => rfl
    | case3 n c s hc code rest hcode ih =>
      rw [beq_iff_eq] at hc
      rw [hc, code?_eq_some hcode] at h
      simp at h
    | case4 n c s hc hcode ih =>
      rw [List.count_cons] at h
      rw [ih (by omega)]
    | case5 n c s hc ih =>
      rw [List.count_cons] at h
      rw [ih (by omega)]
  rw [withEmoji, hfrom]
  split <;> rfl

def Smooth (m : List Char) : Prop := (∀ c ∈ m, isSign c = true) ∧ m.count ':' ≤ 1

theorem Smooth.untagged (h : Smooth m) : Untagged m := fun c hc => by
  have hsign := h.1 c hc
  constructor <;> (rintro rfl; cases hsign)

theorem Smooth.literal (h : Smooth m) : Literal m where
  tagless _ hv := absurd rfl (h.untagged '[' (hv.subset (.head _))).1
  unescaped := (unescapeBrackets_cases m).resolve_right fun hlt => by
    have hmark : m.countP isMark = 0 := List.countP_eq_zero.2 fun c hc => by
      simpa [isMark] using h.untagged c hc
    omega
  emojiless := withEmoji_of_count_le h.2
  printable c hc := Bool.eq_false_iff.2 fun hc' => by simpa [sign_of_isUnprinted hc'] using h.1 c hc
  untabbed htab := by cases h.1 _ htab

end Literal

section Line

variable {limit : Nat} {s m : List Char} {markup : String}

/-- A line takes up no more than a console has. -/
def Fits (limit : Nat) (s : List Char) : Prop :=
  (expandTabs s).length ≤ limit ∧ width (expandTabs s) ≤ limit
deriving Decidable

theorem expandTabs_of_not_mem (h : '\t' ∉ s) : expandTabs s = s := by
  rw [expandTabs, if_neg (by simpa using h)]

theorem not_mem_expandTabs (s : List Char) : '\t' ∉ expandTabs s := by
  have hfrom (column : Nat) : '\t' ∉ expandTabsFrom column s := by
    fun_induction expandTabsFrom column s with
    | case1 => exact List.not_mem_nil
    | case2 column c s hc size ih => simp [ih]
    | case3 column c s hc ih => simpa [ih] using Ne.symm (by simpa using hc)
  rw [expandTabs]
  split
  · exact hfrom 0
  · next h => simpa using h

theorem feed_of_mem_expandTabsFrom {column : Nat} (h : '\n' ∈ expandTabsFrom column s) :
    '\n' ∈ s := by
  fun_induction expandTabsFrom column s with
  | case1 => exact h
  | case2 column c s hc size ih =>
    rcases List.mem_append.1 h with h | h
    · exact absurd (List.eq_of_mem_replicate h) (by decide)
    · exact .tail _ (ih h)
  | case3 column c s hc ih =>
    rcases List.mem_cons.1 h with rfl | h
    · exact .head _
    · exact .tail _ (ih h)

theorem feed_of_mem_expandTabs (h : '\n' ∈ expandTabs s) : '\n' ∈ s := by
  rw [expandTabs] at h
  split at h
  · exact feed_of_mem_expandTabsFrom h
  · exact h

/-- The text that a line of markup shows. -/
def render (limit : Nat) (markup : String) : Except MarkupError (List Char) :=
  (plain markup.toList).map fun s => ended (wrap limit s)

theorem render_eq_ok_iff {out : List Char} :
    render limit markup = .ok out ↔ ∃ x, plain markup.toList = .ok x ∧
      ended (wrap limit x) = out := by
  rw [render]
  cases plain markup.toList <;> simp [Except.map]

theorem render_of_fits (h : plain markup.toList = .ok s) (hline : '\n' ∉ s) (hfits : Fits limit s) :
    render limit markup = .ok (expandTabs s ++ ['\n']) := by
  have hpieces : Text.pieces ['\n'] s = [s] :=
    Text.pieces_of_absent fun h => hline (h.subset (.head _))
  have hwrap : wrap limit s = [expandTabs s] := by
    rw [wrap, hpieces, List.flatMap_singleton, wrapLine]
    exact if_pos (by simpa [Fits] using hfits)
  rw [render, h, Except.map, hwrap]
  simp [ended]

theorem exists_plain_behind {style style' u v : List Char} {o o' : OpenTag} (h : Opens style o)
    (h' : Opens style' o')
    (hu : Smooth u) (hv : Smooth v) (m : List Char) : ∃ n position, m.length < n ∧
      plain ('[' ::
        (style ++ ']' :: (u ++ '[' :: '/' :: (style ++ ']' :: ([' '] ++ '[' :: (style' ++ ']' ::
        (v ++ '[' :: '/' :: (style' ++ ']' :: m)))))))) =
        (plainFrom [] (piecesFrom n position [] m)).map (u ++ ' ' :: v ++ ·) := by
  obtain ⟨n, hn⟩ :
      ∃ n, n = m.length + (style.length + style.length + style'.length + style'.length + 7) :=
        ⟨_, rfl⟩
  obtain ⟨position, hfirst⟩ := plainFrom_styled h hu.untagged ([' '].length + (v.length + n + 2)) 0
    [] ([' '] ++ '[' :: (style' ++ ']' :: (v ++ '[' :: '/' :: (style' ++ ']' :: m))))
  obtain ⟨position', hsecond⟩ :=
    plainFrom_styled h' hv.untagged n (position + [' '].length) ([' '].reverse ++ []) m
  refine ⟨n, position', by omega, ?_⟩
  have hlength :
      ('[' ::
        (style ++ ']' :: (u ++ '[' :: '/' :: (style ++ ']' :: ([' '] ++ '[' :: (style' ++ ']' ::
      (v ++ '[' :: '/' :: (style' ++ ']' :: m)))))))).length + 1 = u.length +
        ([' '].length + (v.length + n + 2)) + 2 := by
    simp only [List.length_append, List.length_cons, List.length_nil]
    omega
  rw [plain, if_pos (by simp), pieces, hlength, hfirst, piecesFrom_append (by decide), hsecond,
    hu.literal.printed_eq, hv.literal.printed_eq]
  cases plainFrom [] (piecesFrom n position' [] m) with
  | error e => rfl
  | ok out => exact congrArg Except.ok (by simp; rfl)

theorem mem_of_mem_shown {n position : Nat} {out : List Char}
    (h : plainFrom [] (piecesFrom n position [] m) = .ok out) {c : Char} (hc : isSign c = false)
    (hout : c ∈ out) :
    c ∈ m := by
  rw [eq_shownOf h] at hout
  refine mem_of_countP_le hc (fun p hp => ?_) hout
  simpa using countP_piecesFrom_le hp n position [] m

theorem render_eq_iff {front : List Char} {n position : Nat} (hn : (' ' :: m).length < n)
    (hplain : plain markup.toList = (plainFrom [] (piecesFrom n position [] (' ' :: m))).map
      (front ++ ·))
    (hfront : ∀ c ∈ front, isSign c = true) (hm : '\n' ∉ m)
    (hfits : ∀ s, plain markup.toList = .ok s → Fits limit s) :
    render limit markup = .ok (front ++ ' ' :: m ++ ['\n']) ↔ Literal m := by
  have hfront' {c : Char} (hc : isSign c = false) : c ∉ front := fun h => by
    rw [hfront c h] at hc
    cases hc
  rw [← literal_blank_cons, ← plainFrom_piecesFrom_iff hn position]
  cases hshown : plainFrom [] (piecesFrom n position [] (' ' :: m)) with
  | error e =>
    rw [hshown] at hplain
    simp [render, hplain, Except.map]
  | ok out =>
    rw [hshown] at hplain
    change plain markup.toList = .ok (front ++ out) at hplain
    have hmem {c : Char} (hc : isSign c = false) (hout : c ∈ out) : c ∈ ' ' :: m :=
      mem_of_mem_shown hshown hc hout
    have hline : '\n' ∉ front ++ out := by
      rw [List.mem_append, not_or]
      exact ⟨hfront' rfl, fun h => hm (by simpa using hmem rfl h)⟩
    rw [render_of_fits hplain hline (hfits _ hplain), Except.ok.injEq, Except.ok.injEq,
      List.append_left_inj]
    constructor
    · intro h
      have htab : '\t' ∉ ' ' :: m := fun htab =>
        not_mem_expandTabs (front ++ out) (h ▸ List.mem_append_right front htab)
      rw [expandTabs_of_not_mem
        (by simpa [hfront' (c := '\t') rfl] using fun h => htab (hmem rfl h))] at h
      exact ⟨List.append_cancel_left h, htab⟩
    · rintro ⟨rfl, htab⟩
      exact expandTabs_of_not_mem (by simpa [hfront' (c := '\t') rfl] using htab)

end Line

end TypedTemplate.Console
