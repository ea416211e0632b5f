import TypedTemplate.Text.Search

/-! Lines of a text. A line ends at a line feed, a carriage return with or without a line feed, a
vertical tab, a form feed, an information separator, a next-line mark, or a line or paragraph
separator. -/
namespace TypedTemplate.Text

def isLineEnd (c : Char) : Bool :=
  let n := c.toNat
  (10 ≤ n && n ≤ 13) || (28 ≤ n && n ≤ 30) || n == 0x85 || n == 0x2028 || n == 0x2029

def extendHead (c : Char) : List (List Char) → List (List Char)
  | [] => [[c]]
  | l :: ls => (c :: l) :: ls

/-- The lines without their ends. A text that ends with a line end has no empty last line. -/
def lines : List Char → List (List Char)
  | [] => []
  | '\r' :: '\n' :: s => [] :: lines s
  | c :: s => if isLineEnd c then [] :: lines s else extendHead c (lines s)

def unifyNewlines : List Char → List Char
  | [] => []
  | '\r' :: '\n' :: s => '\n' :: unifyNewlines s
  | '\r' :: s => '\n' :: unifyNewlines s
  | c :: s => c :: unifyNewlines s

def unlines (ls : List (List Char)) : List Char := ['\n'].intercalate ls

end TypedTemplate.Text
