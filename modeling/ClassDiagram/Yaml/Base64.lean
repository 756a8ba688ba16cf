namespace ClassDiagram.Yaml

/-- The six bits that a character stands for. -/
def sixBits? (c : Char) : Option Nat :=
  if 'A' ≤ c && c ≤ 'Z' then some (c.toNat - 'A'.toNat)
  else if 'a' ≤ c && c ≤ 'z' then some (c.toNat - 'a'.toNat + 26)
  else if c.isDigit then some (c.toNat - '0'.toNat + 52)
  else if c = '+' then some 62
  else if c = '/' then some 63
  else none

/-- The bytes of the rest of a text. `seen` characters of the present group of four have come, `left` holds
the bits of them that are in no byte yet, and `pads` counts the padding since. -/
def base64Rest? (seen left pads : Nat) : List Char → Option (List Nat)
  | [] => if seen = 0 then some [] else none
  | c :: cs =>
    if c = '=' then
      if seen < 2 then base64Rest? seen left pads cs
      else if 4 ≤ seen + pads + 1 then some []
      else base64Rest? seen left (pads + 1) cs
    else
      match sixBits? c with
      | none => base64Rest? seen left pads cs
      | some bits =>
        match seen with
        | 0 => base64Rest? 1 bits 0 cs
        | 1 => (base64Rest? 2 (bits % 16) 0 cs).map ((left * 4 + bits / 16) :: ·)
        | 2 => (base64Rest? 3 (bits % 4) 0 cs).map ((left * 16 + bits / 4) :: ·)
        | _ => (base64Rest? 0 0 0 cs).map ((left * 64 + bits) :: ·)

/-- The bytes of a text in base64, where four characters stand for three bytes. Characters outside the alphabet
are passed over, and a padding that completes a group of four ends the data. -/
def base64? (cs : List Char) : Option (List Nat) :=
  base64Rest? 0 0 0 cs

end ClassDiagram.Yaml
