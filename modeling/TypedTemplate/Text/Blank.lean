/-! White space and trimming. A blank is any character that Unicode counts as white space, together
with the four information separators. -/
namespace TypedTemplate.Text

def isBlank (c : Char) : Bool :=
  let n := c.toNat
  (9 ≤ n && n ≤ 13) || (28 ≤ n && n ≤ 32) || n == 0x85 || n == 0xa0 || n == 0x1680 ||
    (0x2000 ≤ n && n ≤ 0x200a) || n == 0x2028 || n == 0x2029 || n == 0x202f || n == 0x205f ||
      n == 0x3000

def trimStart (s : List Char) : List Char := s.dropWhile isBlank

def trimEnd (s : List Char) : List Char := (s.reverse.dropWhile isBlank).reverse

def trim (s : List Char) : List Char := trimEnd (trimStart s)

theorem length_dropWhile_le (p : Char → Bool) (s : List Char) : (s.dropWhile p).length ≤ s.length :=
  (List.dropWhile_sublist p).length_le

theorem length_trimStart_le (s : List Char) : (trimStart s).length ≤ s.length :=
  length_dropWhile_le isBlank s

theorem length_trimEnd_le (s : List Char) : (trimEnd s).length ≤ s.length := by
  simpa [trimEnd] using length_dropWhile_le isBlank s.reverse

theorem length_trim_le (s : List Char) : (trim s).length ≤ s.length :=
  Nat.le_trans (length_trimEnd_le _) (length_trimStart_le s)

def trimmed (s : String) : String := String.ofList (trim s.toList)

end TypedTemplate.Text
