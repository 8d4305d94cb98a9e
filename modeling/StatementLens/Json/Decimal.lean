/-!
# Decimal numbers

A number with a fraction or an exponent is kept as it is written. What counts is the nearest number
of binary floating point in 64 bits, and it is shown with the fewest digits that read back as it.
-/

namespace StatementLens

/-- The number `digits * 10 ^ exponent`, negated if `negative`. -/
structure Decimal where
  negative : Bool
  digits : Nat
  exponent : Int
  deriving DecidableEq, Repr, Inhabited

namespace Decimal

/-- The number `mantissa * 2 ^ exponent` with a mantissa below `2 ^ 53`. -/
structure Binary where
  mantissa : Nat
  exponent : Int
  deriving DecidableEq, Repr

/-- A positive quotient of natural numbers. -/
structure Ratio where
  num : Nat
  den : Nat

/-- The quotient `n * 10 ^ e`. -/
def Ratio.ofScaled (n : Nat) (base : Nat) (e : Int) : Ratio :=
  if e < 0 then ⟨n, Nat.pow base e.natAbs⟩ else ⟨n * Nat.pow base e.natAbs, 1⟩

/-- Rounds a quotient to the nearest natural number, a half to the even neighbour. -/
def roundQuotient (num den : Nat) : Nat :=
  let q := num / den
  let twice := 2 * (num % den)
  if twice < den then q else if den < twice then q + 1 else q + q % 2

/-- The nearest 64-bit floating point number, or none if it is too large. -/
def nearest (d : Decimal) : Option Binary :=
  let size : Int := (Nat.toDigits 10 d.digits).length + d.exponent
  if d.digits = 0 || size < -330 then some ⟨0, -1074⟩
  else if 310 < size then none
  else
    let r := Ratio.ofScaled d.digits 10 d.exponent
    let guess : Int := (Nat.log2 r.num : Int) - (Nat.log2 r.den : Int) - 53
    let fit (e : Int) : Nat :=
      if e < 0 then roundQuotient (r.num * Nat.pow 2 e.natAbs) r.den
      else roundQuotient r.num (r.den * Nat.pow 2 e.natAbs)
    let exponents := [guess, guess + 1, guess + 2].map (max (-1074))
    match exponents.find? (fun e => fit e < Nat.pow 2 53) with
    | none => none
    | some e => if 971 < e then none else some ⟨fit e, e⟩

/-- Whether `n * 10 ^ e` reads back as `b`, that is, lies between the points half way to the two
neighbours of `b`. -/
def readsBack (b : Binary) (n : Nat) (e : Int) : Bool :=
  let lowerGap : Nat := if b.mantissa = Nat.pow 2 52 && -1074 < b.exponent then 1 else 2
  let quarter := b.exponent - 2
  let low := Ratio.ofScaled (4 * b.mantissa - lowerGap) 2 quarter
  let high := Ratio.ofScaled (4 * b.mantissa + 2) 2 quarter
  let v := Ratio.ofScaled n 10 e
  let (a, c) := (low.num * v.den, v.num * low.den)
  let (p, q) := (v.num * high.den, high.num * v.den)
  if b.mantissa % 2 = 0 then a ≤ c && p ≤ q else a < c && p < q

/-- The decimal of at most `count` digits next to `b`, with its exponent, if one reads back as `b`.
-/
def shortestOf (b : Binary) (magnitude : Int) (count : Nat) : Option (Nat × Int) :=
  let e := magnitude - count
  let v := Ratio.ofScaled b.mantissa 2 b.exponent
  let scale := Nat.pow 10 e.natAbs
  let (num, den) := if e < 0 then (v.num * scale, v.den) else (v.num, v.den * scale)
  let nearer := roundQuotient num den
  let other := if nearer = num / den then nearer + 1 else nearer - 1
  [nearer, other].findSome? fun n => if readsBack b n e then some (n, e) else none

/-- The fewest digits that read back as `b`, with their exponent. -/
def shortest (b : Binary) : Nat × Int :=
  if b.mantissa = 0 then (0, 0)
  else
    let v := Ratio.ofScaled b.mantissa 2 b.exponent
    let magnitude : Int :=
      if v.den ≤ v.num then (Nat.toDigits 10 (v.num / v.den)).length
      else
        let zeros := (Nat.toDigits 10 (v.den / v.num)).length - 1
        if v.den ≤ v.num * Nat.pow 10 zeros then 1 - zeros else -zeros
    ((List.range 17).findSome? fun i => shortestOf b magnitude (i + 1)).getD (0, 0)

/-- Removes the zeros at the end of a number, counting them into the exponent. -/
def stripZeros : Nat → Nat → Int → Nat × Int
  | 0, n, e => (n, e)
  | fuel + 1, n, e => if n ≠ 0 && n % 10 = 0 then stripZeros fuel (n / 10) (e + 1) else (n, e)

/-- Writes digits with a point if the number is between one in a hundred thousand and `10 ^ 16`, and
with an exponent otherwise. -/
def layOut (n : Nat) (e : Int) : String :=
  let (n, e) := stripZeros 20 n e
  let ds := Nat.toDigits 10 n
  let power : Int := ds.length - 1 + e
  if n = 0 then "0.0"
  else if 0 ≤ power && power < 16 then
    let whole := (power + 1).toNat
    let padded := ds ++ List.replicate (whole - ds.length) '0'
    let fraction := padded.drop whole
    String.ofList (padded.take whole ++ '.' :: (if fraction.isEmpty then ['0'] else fraction))
  else if -5 ≤ power && power < 0 then
    String.ofList ('0' :: '.' :: List.replicate (power.natAbs - 1) '0' ++ ds)
  else
    let mark := if 0 ≤ power then ['e', '+'] else ['e', '-']
    let head := ds.take 1 ++ (if ds.length = 1 then [] else '.' :: ds.drop 1)
    String.ofList (head ++ mark ++ Nat.toDigits 10 power.natAbs)

/-- The text of a decimal, as the nearest 64-bit floating point number. -/
def render (d : Decimal) : String :=
  let sign := if d.negative then "-" else ""
  match d.nearest with
  | none => sign ++ "inf"
  | some b =>
    let (n, e) := shortest b
    sign ++ layOut n e

end Decimal

end StatementLens
