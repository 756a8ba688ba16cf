import ClassDiagram.Text.CaseTable

namespace ClassDiagram.Text

/-- Finds the run of capitals that a code point belongs to. -/
def searchCaseRuns (n : Nat) : Nat → Nat → Nat → Option CaseRun
  | 0, _, _ => none
  | fuel + 1, lo, hi =>
    if hi ≤ lo then none
    else
      let mid := (lo + hi) / 2
      match caseRuns[mid]? with
      | none => none
      | some run =>
        if n < run.first then searchCaseRuns n fuel lo mid
        else if run.last < n then searchCaseRuns n fuel (mid + 1) hi
        else if (n - run.first) % run.stride = 0 then some run
        else none

/-- The small form of one character, its neighbours aside. -/
def lowerChar (c : Char) : List Char :=
  if c.toNat < 128 then [if 'A' ≤ c && c ≤ 'Z' then Char.ofNat (c.toNat + 32) else c]
  else if c.toNat = 0x130 then ['i', Char.ofNat 0x307]
  else
    match searchCaseRuns c.toNat (caseRuns.size + 1) 0 caseRuns.size with
    | none => [c]
    | some run => [Char.ofNat (c.toNat + run.offset).toNat]

/-- Does the nearest character that counts have case? -/
def casedNext (cs : List Char) : Bool :=
  match cs.dropWhile (inRanges caseIgnorableRanges) with
  | [] => false
  | c :: _ => inRanges casedRanges c

/-- Lower-cases a text; `before` holds the characters already passed, the last one first. -/
def lowerFrom (before : List Char) : List Char → List Char
  | [] => []
  | c :: rest =>
    let small :=
      if c.toNat = 0x3A3 then
        [Char.ofNat (if casedNext before && !casedNext rest then 0x3C2 else 0x3C3)]
      else lowerChar c
    small ++ lowerFrom (c :: before) rest

/-- The text in small letters: every capital by its small letter, the dotted capital I by two characters, and
sigma by its final form at the end of a word. -/
def lower (s : String) : String :=
  String.ofList (lowerFrom [] s.toList)

end ClassDiagram.Text
