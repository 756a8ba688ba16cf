namespace ClassDiagram.Text

/-- The blanks: tab to carriage return, the four information separators, the space, the next-line control, and
the Unicode spaces and line separators. Texts are compared and stored without them (`dropBlanks`) or without
those at their ends (`strip`). -/
def isBlank (c : Char) : Bool :=
  let n := c.toNat
  (9 ≤ n && n ≤ 13) || (28 ≤ n && n ≤ 32) || n == 0x85 || n == 0xA0 || n == 0x1680 ||
    (0x2000 ≤ n && n ≤ 0x200A) || n == 0x2028 || n == 0x2029 || n == 0x202F || n == 0x205F ||
    n == 0x3000

/-- The characters without the blanks at the front. -/
def dropLeadingBlanks (cs : List Char) : List Char :=
  cs.dropWhile isBlank

/-- The characters without the blanks at either end. -/
def stripChars (cs : List Char) : List Char :=
  (dropLeadingBlanks (dropLeadingBlanks cs).reverse).reverse

/-- The text without the blanks at either end. -/
def strip (s : String) : String :=
  String.ofList (stripChars s.toList)

/-- The text without any blank. -/
def dropBlanks (s : String) : String :=
  String.ofList (s.toList.filter fun c => !isBlank c)

end ClassDiagram.Text
