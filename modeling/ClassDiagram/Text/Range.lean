namespace ClassDiagram.Text

/-- Halves the window `lo … hi` of a table until it is empty or holds `n`; `fuel` bounds the halvings. -/
def searchRanges (table : Array (Nat × Nat)) (n : Nat) : Nat → Nat → Nat → Bool
  | 0, _, _ => false
  | fuel + 1, lo, hi =>
    if hi ≤ lo then false
    else
      let mid := (lo + hi) / 2
      match table[mid]? with
      | none => false
      | some (first, last) =>
        if n < first then searchRanges table n fuel lo mid
        else if last < n then searchRanges table n fuel (mid + 1) hi
        else true

/-- Is the code point of `c` in one of the ranges? The table is in ascending order and is searched by halving. -/
def inRanges (table : Array (Nat × Nat)) (c : Char) : Bool :=
  searchRanges table c.toNat (table.size + 1) 0 table.size

end ClassDiagram.Text
