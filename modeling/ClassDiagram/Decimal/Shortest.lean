namespace ClassDiagram.Decimal

/-- A finite positive double, `mantissa · 2^exponent`. -/
structure Binary where
  mantissa : Nat
  exponent : Int
deriving Repr

/-- A positive decimal, `digits · 10^exponent`. -/
structure Numeral where
  digits : Nat
  exponent : Int
deriving Repr

/-- The interval of reals that round to a double, and the double itself, over one denominator. -/
structure Interval where
  low : Nat
  value : Nat
  high : Nat
  scale : Nat
  closed : Bool

/-- The interval of reals that round to `b`: half the distance to either neighbour, where the one below
is nearer at a power of two. Its ends belong to it when the mantissa is even. -/
def Binary.interval (b : Binary) : Interval :=
  let isPower := b.mantissa = Nat.pow 2 52 && b.exponent ≠ -1074
  let up := Nat.pow 2 b.exponent.toNat
  let down := Nat.pow 2 (-b.exponent).toNat
  let value := 4 * b.mantissa * up
  { low := value - (if isPower then up else 2 * up)
    value := value
    high := value + 2 * up
    scale := 4 * down
    closed := b.mantissa % 2 = 0 }

/-- Does `digits · 10^exponent` lie in the interval? -/
def Interval.holds (i : Interval) (d : Numeral) : Bool :=
  let point := d.digits * Nat.pow 10 d.exponent.toNat * i.scale
  let unit := Nat.pow 10 (-d.exponent).toNat
  if i.closed then i.low * unit ≤ point && point ≤ i.high * unit
  else i.low * unit < point && point < i.high * unit

/-- The two multiples of `10^exponent` next to the value, the nearer one first; of two equally near ones
the even one. -/
def Interval.neighbours (i : Interval) (exponent : Int) : Numeral × Numeral :=
  let num := i.value * Nat.pow 10 (-exponent).toNat
  let den := i.scale * Nat.pow 10 exponent.toNat
  let below : Numeral := ⟨num / den, exponent⟩
  let above : Numeral := ⟨num / den + 1, exponent⟩
  let twice := 2 * (num % den)
  if twice < den || (twice = den && below.digits % 2 = 0) then (below, above) else (above, below)

/-- Tries the grids from the coarse exponent `exponent` downwards; `fuel` bounds the tries. -/
def Interval.search (i : Interval) : Nat → Int → Option Numeral
  | 0, _ => none
  | fuel + 1, exponent =>
    let (near, far) := i.neighbours exponent
    if near.digits ≠ 0 && i.holds near then some near
    else if far.digits ≠ 0 && i.holds far then some far
    else i.search fuel (exponent - 1)

/-- Takes trailing zeros off the digits. -/
def Numeral.trim : Nat → Numeral → Numeral
  | 0, d => d
  | fuel + 1, d =>
    if d.digits ≠ 0 && d.digits % 10 = 0 then trim fuel ⟨d.digits / 10, d.exponent + 1⟩ else d

/-- The shortest decimal that rounds to `b`: of the decimals inside its interval the one with the fewest digits,
the nearer one where two qualify. All arithmetic is exact. The search starts above every double. -/
def Binary.shortest (b : Binary) : Numeral :=
  ((b.interval.search 700 310).getD ⟨b.mantissa, 0⟩).trim 400

end ClassDiagram.Decimal
