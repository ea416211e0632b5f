import Mathlib.Data.List.Basic
import TypedTemplate.Text.Utf8

/-! Text that is written as bytes is read back. Each character is taken as it was written, whatever
follows it. -/
namespace TypedTemplate.Text.Utf8

section Bytes

theorem toList_loop (bytes : ByteArray) (i : Nat) (front : List UInt8) :
    ByteArray.toList.loop bytes i front = front.reverse ++ bytes.data.toList.drop i := by
  induction i, front using ByteArray.toList.loop.induct bytes with
  | case1 i front hi ih =>
    have hdrop : bytes.data.toList.drop i = bytes.get! i :: bytes.data.toList.drop (i + 1) := by
      rw [List.drop_eq_getElem_cons (by simpa using hi)]
      simp [ByteArray.get!, hi]
    rw [ByteArray.toList.loop, if_pos hi, ih, hdrop, List.reverse_cons, List.append_assoc]
    rfl
  | case2 i front hi =>
    rw [ByteArray.toList.loop, if_neg hi, List.drop_of_length_le (by simpa using hi),
      List.append_nil]

theorem encode_ofList (s : List Char) :
    encode (String.ofList s) = s.flatMap String.utf8EncodeChar := by
  rw [encode, String.toUTF8, String.toByteArray_ofList, ByteArray.toList, toList_loop,
    List.utf8Encode, List.toList_data_toByteArray]
  rfl

variable {x : Nat}

theorem width?_ofNat (h : x < 256) :
    width? (UInt8.ofNat x) =
      if x < 0x80 then some 1
      else if x < 0xc2 then none
      else if x < 0xe0 then some 2
      else if x < 0xf0 then some 3
      else if x < 0xf5 then some 4
      else none := by
  simp [width?, UInt8.lt_iff_toNat_lt, Nat.mod_eq_of_lt h]

theorem isContinuation_ofNat (h : x < 64) : isContinuation (UInt8.ofNat (x + 128)) = true := by
  have hmod : (x + 128) % 256 = x + 128 := by omega
  simp [isContinuation, UInt8.lt_iff_toNat_lt, UInt8.le_iff_toNat_le, hmod]
  omega

theorem fits_ofNat {first : Nat} (hfirst : first < 256) (h : x < 64) (he0 : first = 0xe0 → 0x20 ≤ x)
    (hed : first = 0xed → x < 0x20) (hf0 : first = 0xf0 → 0x10 ≤ x)
    (hf4 : first = 0xf4 → x < 0x10) :
    fits (UInt8.ofNat first) (UInt8.ofNat (x + 128)) = true := by
  have hmod : (x + 128) % 256 = x + 128 := by omega
  rw [fits, isContinuation_ofNat h]
  simp only [beq_iff_eq, ← UInt8.toNat_inj, ge_iff_le, UInt8.lt_iff_toNat_lt, UInt8.le_iff_toNat_le,
    UInt8.toNat_ofNat', Nat.mod_eq_of_lt hfirst, hmod, UInt8.reduceToNat, Bool.true_and]
  grind

end Bytes

section Characters

variable {bs : List UInt8} {ts : List Nat} {first n pos : Nat}

def tailBytes (ts : List Nat) : List UInt8 := ts.map fun t => UInt8.ofNat (t + 128)

theorem tailBytes_cons (t : Nat) (ts : List Nat) :
    tailBytes (t :: ts) = UInt8.ofNat (t + 128) :: tailBytes ts := rfl

theorem length_tailBytes (ts : List Nat) : (tailBytes ts).length = ts.length := List.length_map ..

theorem continuations_tailBytes (b : UInt8) (h : ∀ t ∈ ts, t < 64) :
    continuations b ts.length false (tailBytes ts ++ bs) = (ts.length, none) := by
  induction ts with
  | nil => rw [List.length_nil, continuations]
  | cons t ts ih =>
    have ht := isContinuation_ofNat (h t List.mem_cons_self)
    rw [List.length_cons, tailBytes_cons, List.cons_append, continuations]
    simp only [Bool.false_eq_true, if_false, ht, if_true,
      ih fun t' ht' => h t' (List.mem_cons_of_mem _ ht')]

theorem foldl_tailBytes (h : ∀ t ∈ ts, t < 64) (start : Nat) :
    (tailBytes ts).foldl (fun n b => n * 0x40 + b.toNat % 0x40) start = ts.foldl
    (fun n t => n * 0x40 + t) start := by
  induction ts generalizing start with
  | nil => rfl
  | cons t ts ih =>
    have ht := h t List.mem_cons_self
    have hbits : (UInt8.ofNat (t + 128)).toNat % 0x40 = t := by
      rw [UInt8.toNat_ofNat']
      omega
    rw [tailBytes_cons, List.foldl_cons, List.foldl_cons, hbits,
      ih fun t' ht' => h t' (List.mem_cons_of_mem _ ht')]

theorem decodeFrom_bytes (first : Nat) (ts : List Nat) {v : Nat}
    (hw : width? (UInt8.ofNat first) = some (ts.length + 1))
    (hts : ∀ t ∈ ts, t < 64)
    (hfits : ∀ t ∈ ts.head?, fits (UInt8.ofNat first) (UInt8.ofNat (t + 128)) = true)
    (hv : ts.foldl (fun n t => n * 0x40 + t) (lead (ts.length + 1) (UInt8.ofNat first)) = v) :
    ∃ w, decodeFrom (n + 1) pos (UInt8.ofNat first :: (tailBytes ts ++ bs)) =
      (decodeFrom n (pos + w) bs).map (Char.ofNat v :: ·) := by
  have hcont : continuations (UInt8.ofNat first) ts.length true (tailBytes ts ++ bs) =
    (ts.length, none) := by
    cases ts with
    | nil => rw [List.length_nil, continuations]
    | cons t ts =>
      rw [List.length_cons, tailBytes_cons, List.cons_append, continuations, if_pos rfl,
        hfits t rfl, if_pos rfl,
        continuations_tailBytes _ fun t' ht' => hts t' (List.mem_cons_of_mem _ ht')]
  refine ⟨ts.length + 1, ?_⟩
  rw [decodeFrom, hw]
  simp only [Nat.add_sub_cancel, hcont]
  rw [← length_tailBytes, List.drop_left, List.take_left, assemble, foldl_tailBytes hts,
    length_tailBytes, hv]
  cases decodeFrom n (pos + (ts.length + 1)) bs <;> rfl

theorem decodeFrom_utf8EncodeChar (c : Char) :
    ∃ w, decodeFrom (n + 1) pos (String.utf8EncodeChar c ++ bs) = (decodeFrom n (pos + w) bs).map
      (c :: ·) := by
  have hc : c = Char.ofNat c.val.toNat := (Char.ofNat_toNat c).symm
  have hvalid : c.val.toNat.isValidChar := c.valid
  rw [String.utf8EncodeChar]
  generalize c.val.toNat = v at hc hvalid
  subst hc
  rw [Nat.isValidChar] at hvalid
  split
  · refine decodeFrom_bytes v [] ?_ (by simp) (by simp) ?_
    · rw [width?_ofNat (by omega)]
      grind
    · simp only [List.foldl_nil, List.length_nil, lead, UInt8.toNat_ofNat']
      omega
  split
  · refine decodeFrom_bytes (v / 64 % 32 + 192) [v % 64] ?_ ?_ ?_ ?_
    · rw [width?_ofNat (by omega)]
      grind
    · grind
    · simp only [List.head?_cons, Option.mem_some_iff, forall_eq']
      apply fits_ofNat <;> omega
    · simp only [List.foldl_cons, List.foldl_nil, List.length_cons, List.length_nil, lead,
        UInt8.toNat_ofNat']
      omega
  split
  · refine decodeFrom_bytes (v / 4096 % 16 + 224) [v / 64 % 64, v % 64] ?_ ?_ ?_ ?_
    · rw [width?_ofNat (by omega)]
      grind
    · grind
    · simp only [List.head?_cons, Option.mem_some_iff, forall_eq']
      apply fits_ofNat <;> omega
    · simp only [List.foldl_cons, List.foldl_nil, List.length_cons, List.length_nil, lead,
        UInt8.toNat_ofNat']
      omega
  · refine decodeFrom_bytes (v / 262144 % 8 + 240) [v / 4096 % 64, v / 64 % 64, v % 64] ?_ ?_ ?_ ?_
    · rw [width?_ofNat (by omega)]
      grind
    · grind
    · simp only [List.head?_cons, Option.mem_some_iff, forall_eq']
      apply fits_ofNat <;> omega
    · simp only [List.foldl_cons, List.foldl_nil, List.length_cons, List.length_nil, lead,
        UInt8.toNat_ofNat']
      omega

theorem decodeFrom_flatMap (s : List Char) (h : s.length ≤ n) :
    decodeFrom n pos (s.flatMap String.utf8EncodeChar) = .ok s := by
  induction s generalizing n pos with
  | nil => cases n <;> rfl
  | cons c s ih =>
    cases n with
    | zero => simp at h
    | succ n =>
      obtain ⟨w, hw⟩ := decodeFrom_utf8EncodeChar c
      rw [List.flatMap_cons, hw, ih (by simpa using h)]
      rfl

theorem length_le_length_flatMap (s : List Char) :
    s.length ≤ (s.flatMap String.utf8EncodeChar).length := by
  induction s with
  | nil => exact Nat.le_refl _
  | cons c s ih =>
    have := c.utf8Size_pos
    rw [List.flatMap_cons, List.length_append, String.length_utf8EncodeChar, List.length_cons]
    omega

theorem decode_encode (s : String) : decode (encode s) = .ok s.toList := by
  obtain ⟨s, rfl⟩ : ∃ l, s = String.ofList l := ⟨s.toList, String.ofList_toList.symm⟩
  rw [encode_ofList, String.toList_ofList, decode]
  exact decodeFrom_flatMap s (length_le_length_flatMap s)

end Characters

end TypedTemplate.Text.Utf8
