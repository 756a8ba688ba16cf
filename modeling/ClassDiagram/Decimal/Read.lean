import ClassDiagram.Decimal.Written

namespace ClassDiagram.Decimal

/-- The number that a digit string spells. -/
def digitsValue (cs : List Char) : Nat :=
  cs.foldl (fun n c => 10 * n + (c.toNat - '0'.toNat)) 0

/-- Takes a sign off the front; `true` for a minus. -/
def takeSign : List Char → Bool × List Char
  | '-' :: rest => (true, rest)
  | '+' :: rest => (false, rest)
  | cs => (false, cs)

/-- The value of an exponent part: nothing, or a letter `e` with a signed digit string. -/
def readExponent? : List Char → Option Int
  | [] => some 0
  | c :: rest =>
    let (isNegative, digits) := takeSign rest
    if (c = 'e' || c = 'E') && !digits.isEmpty && digits.all Char.isDigit then
      let n : Int := digitsValue digits
      some (if isNegative then -n else n)
    else none

/-- The double nearest to a written decimal; at least one digit stands beside the point. -/
def read? (cs : List Char) : Option Float :=
  let (isNegative, cs) := takeSign cs
  let whole := cs.takeWhile Char.isDigit
  let cs := cs.dropWhile Char.isDigit
  let (fraction, cs) :=
    match cs with
    | '.' :: rest => (rest.takeWhile Char.isDigit, rest.dropWhile Char.isDigit)
    | _ => ([], cs)
  if whole.isEmpty && fraction.isEmpty then none
  else
    (readExponent? cs).map fun e =>
      let x := nearest (digitsValue (whole ++ fraction)) (e - fraction.length)
      if isNegative then -x else x

end ClassDiagram.Decimal
