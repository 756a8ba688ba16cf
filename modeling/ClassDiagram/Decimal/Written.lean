import ClassDiagram.Decimal.Shortest

namespace ClassDiagram.Decimal

/-- A digit string cut so that `point` digits stand before the decimal point, zeros filled in. -/
def positional (digits : List Char) (point : Int) : List Char :=
  if point ≤ 0 then '0' :: '.' :: List.replicate (-point).toNat '0' ++ digits
  else
    let n := point.toNat
    if digits.length ≤ n then
      digits ++ List.replicate (n - digits.length) '0' ++ ['.', '0']
    else digits.take n ++ '.' :: digits.drop n

/-- The exponent with its sign and at least two digits. -/
def exponentText (e : Int) : List Char :=
  let digits := Nat.toDigits 10 e.natAbs
  (if e < 0 then '-' else '+') :: (List.replicate (2 - digits.length) '0' ++ digits)

/-- A digit string with one digit before the point, if there is a point at all, and an exponent. -/
def scientific (digits : List Char) (e : Int) : List Char :=
  match digits with
  | [] => []
  | [d] => d :: 'e' :: exponentText e
  | d :: rest => d :: '.' :: rest ++ 'e' :: exponentText e

/-- The written form of a positive decimal: positional while the decimal exponent lies from -4 to 15, and with
an exponent elsewhere. -/
def Numeral.write (d : Numeral) : List Char :=
  let digits := Nat.toDigits 10 d.digits
  let point := d.exponent + digits.length
  if -4 < point && point ≤ 16 then positional digits point else scientific digits (point - 1)

/-- The written form of a double. -/
def write (x : Float) : String :=
  let bits := x.toBits.toNat
  let isNegative := bits / Nat.pow 2 63 = 1
  let biased : Nat := bits / Nat.pow 2 52 % Nat.pow 2 11
  let fraction : Nat := bits % Nat.pow 2 52
  let sign := if isNegative then "-" else ""
  if biased = 2047 then (if fraction = 0 then sign ++ "inf" else "nan")
  else if biased = 0 && fraction = 0 then sign ++ "0.0"
  else
    let b : Binary :=
      if biased = 0 then ⟨fraction, -1074⟩ else ⟨Nat.pow 2 52 + fraction, (biased : Int) - 1075⟩
    sign ++ String.ofList b.shortest.write

/-- The double nearest to `digits · 10^exponent`; far beyond the range it is zero or infinity at once. -/
def nearest (digits : Nat) (exponent : Int) : Float :=
  let size := (Nat.toDigits 10 digits).length
  if digits = 0 then 0.0
  else if exponent + size > 400 then 1.0 / 0.0
  else if exponent + size < -400 then 0.0
  else if exponent < 0 then Float.ofScientific digits true exponent.natAbs
  else Float.ofScientific digits false exponent.natAbs

end ClassDiagram.Decimal
