/-!
# The text of a double

A finite nonzero double is `m · 2 ^ q`.  The reals that round to it form an interval around it,
and `shortest` gives the decimal in that interval with the fewest digits, of two such decimals
the nearer one.  It tries one digit, two digits and so on up to seventeen, and on each grid of
decimals looks at the two neighbours of the value; all arithmetic is exact.

A `FloatStyle` says how these digits are written: which magnitudes positionally, whether a whole
number gets a fraction, and the sign of a positive exponent.
-/

namespace ClusterReady.Decimal

/-- The decimal number `digits · 10 ^ exponent`. -/
structure Numeral where
  digits : Nat
  exponent : Int
deriving DecidableEq, Repr

/-- A positive double with the interval of reals that round to it, as numbers of quarters of the
unit `2 ^ q`: the value is `value / scale`, and so are the two ends. -/
structure Rounded where
  value : Nat
  lower : Nat
  upper : Nat
  scale : Nat
  /-- Whether the ends themselves round to the value. -/
  closed : Bool

/-- The interval of the double `m · 2 ^ q`; below a power of two the neighbours are twice as
close, which `narrow` says. -/
def Rounded.ofParts (m : Nat) (q : Int) (narrow : Bool) : Rounded :=
  let up := Nat.pow 2 (q - 2).toNat
  { value := 4 * m * up
    lower := (if narrow then 4 * m - 1 else 4 * m - 2) * up
    upper := (4 * m + 2) * up
    scale := Nat.pow 2 (2 - q).toNat
    closed := m % 2 == 0 }

/-- Whether `num / den` lies in the interval. -/
def Rounded.contains (r : Rounded) (num den : Nat) : Bool :=
  let mid := num * r.scale
  if r.closed then r.lower * den ≤ mid && mid ≤ r.upper * den
  else r.lower * den < mid && mid < r.upper * den

/-- The power of ten of the first digit of `num / den`, for numbers not below `10 ^ (-limit)`. -/
def leadingPower (num den : Nat) : (limit : Nat) → Int
  | 0 => 0
  | limit + 1 =>
    if den ≤ num then ((Nat.toDigits 10 (num / den)).length : Int) - 1
    else leadingPower (num * 10) den limit - 1

/-- The decimal on the grid `10 ^ e` that lies in the interval and is nearest to the value. -/
def onGrid (r : Rounded) (e : Int) : Option Numeral :=
  let tenNum := Nat.pow 10 e.toNat
  let tenDen := Nat.pow 10 (-e).toNat
  let below := r.value * tenDen / (r.scale * tenNum)
  let inside (n : Nat) : Bool := r.contains (n * tenNum) tenDen
  let twice := 2 * r.value * tenDen
  let middle := (2 * below + 1) * r.scale * tenNum
  let upFirst : Bool := middle < twice || (middle == twice && below % 2 == 1)
  let (near, far) := if upFirst then (below + 1, below) else (below, below + 1)
  if 0 < near && inside near then some ⟨near, e⟩
  else if 0 < far && inside far then some ⟨far, e⟩
  else none

/-- Drops the zeros at the end of a digit string. -/
def dropZeros (d : Numeral) : (limit : Nat) → Numeral
  | 0 => d
  | limit + 1 =>
    if d.digits % 10 = 0 && d.digits ≠ 0 then dropZeros ⟨d.digits / 10, d.exponent + 1⟩ limit
    else d

/-- The first grid, from `count` digits on, with a decimal in the interval. -/
def searchGrids (r : Rounded) (power : Int) (count : Nat) : (tries : Nat) → Numeral
  | 0 => ⟨r.value / r.scale, 0⟩
  | tries + 1 =>
    match onGrid r (power - (count : Int)) with
    | some d => d
    | none => searchGrids r power (count + 1) tries

/-- The shortest decimal that reads back as `m · 2 ^ q`. -/
def shortest (m : Nat) (q : Int) (narrow : Bool) : Numeral :=
  let r := Rounded.ofParts m q narrow
  dropZeros (searchGrids r (leadingPower r.value r.scale 400) 0 18) 20

/-- What one step of the exponent of a double is worth in its bits: the 52 bits below hold the
fraction. -/
def unitOfExponent : Nat := Nat.pow 2 52

/-- The number of exponents, of which the last stands for the infinities and for no number. -/
def countOfExponents : Nat := Nat.pow 2 11

/-- What the sign of a double is worth in its bits. -/
def unitOfSign : Nat := unitOfExponent * countOfExponents

/-- The sign, the mantissa, the exponent and the narrow side of the finite double with these
bits; a zero mantissa is zero. -/
def parts (bits : UInt64) : Bool × Nat × Int × Bool :=
  let n := bits.toNat
  let negative := n / unitOfSign == 1
  let exponent : Nat := n / unitOfExponent % countOfExponents
  let fraction : Nat := n % unitOfExponent
  if exponent = 0 then (negative, fraction, -1074, false)
  else (negative, fraction + unitOfExponent, (exponent : Int) - 1075, fraction == 0 && exponent ≠ 1)

/-- How the shortest digits of a double are written. -/
structure FloatStyle where
  /-- The powers of ten, first to last, whose numbers are written positionally; all when `none`. -/
  positional : Option (Int × Int)
  /-- Whether a whole number is written with `.0`. -/
  pointed : Bool

/-- Digits without an exponent, the point `power + 1` places after the first digit's left. -/
def positionalText (digits : List Char) (power : Int) (pointed : Bool) : String :=
  if power < 0 then
    "0." ++ String.ofList (List.replicate (-power - 1).toNat '0' ++ digits)
  else
    let whole := (power + 1).toNat
    if digits.length ≤ whole then
      String.ofList (digits ++ List.replicate (whole - digits.length) '0') ++
        (if pointed then ".0" else "")
    else String.ofList (digits.take whole) ++ "." ++ String.ofList (digits.drop whole)

/-- One digit, the others after a point, and a signed exponent. -/
def exponentText (digits : List Char) (power : Int) : String :=
  String.ofList (digits.take 1) ++
    (if digits.length ≤ 1 then "" else "." ++ String.ofList (digits.drop 1)) ++
    (if power < 0 then s!"e-{(-power).toNat}" else s!"e+{power.toNat}")

/-- The text of the double with these bits. -/
def FloatStyle.text (style : FloatStyle) (bits : UInt64) : String :=
  let n := bits.toNat
  if n / unitOfExponent % countOfExponents = countOfExponents - 1 then
    if n % unitOfExponent = 0 then (if n / unitOfSign = 1 then "-inf" else "inf") else "NaN"
  else
    let (negative, m, q, narrow) := parts bits
    let sign := if negative then "-" else ""
    if m = 0 then sign ++ (if style.pointed then "0.0" else "0")
    else
      let d := shortest m q narrow
      let digits := Nat.toDigits 10 d.digits
      let power := d.exponent + (digits.length : Int) - 1
      let inRange := match style.positional with
        | some (first, last) => first ≤ power && power ≤ last
        | none => true
      sign ++ (if inRange then positionalText digits power style.pointed
        else exponentText digits power)

/-- Always positional, and a whole number without a fraction. -/
def plain : FloatStyle := ⟨none, false⟩

/-- Always positional, and a whole number with `.0`. -/
def plainPointed : FloatStyle := ⟨none, true⟩

/-- Positional from `10 ^ -5` up to `10 ^ 16`, with `.0` on a whole number. -/
def scientific : FloatStyle := ⟨some (-5, 15), true⟩

end ClusterReady.Decimal
