import HotReload.Text.Numeral
/-!
Double precision numbers as their sixty-four bits, and their decimal text.

* `Double.mantissa` and `Double.exponent` give the magnitude `m · 2^q` of a finite
  number.
* `Double.ofDecimal` is the number nearest to a decimal, a tie going to the even
  neighbour.
* `Double.shortest` is the decimal with the fewest digits that reads back as the
  number, and of those the nearest one.
* `Double.text` writes it, positionally if the point falls near the digits and with
  an exponent otherwise; `Double.ofText?` reads such a text.
-/

namespace HotReload

/-- A power of two. -/
def powerOfTwo (n : Nat) : Nat := Nat.pow 2 n

/-- A power of ten. -/
def powerOfTen (n : Nat) : Nat := Nat.pow 10 n

/-- A double precision number: sign, eleven bits of exponent, fifty-two of fraction. -/
structure Double where
  bits : UInt64
  deriving DecidableEq, Repr, Inhabited

namespace Double

/-! ### Parts of a number -/

/-- Whether the sign bit is set. -/
def isNegative (x : Double) : Bool := powerOfTwo 63 ≤ x.bits.toNat

/-- The exponent field. -/
def exponentField (x : Double) : Nat := x.bits.toNat / powerOfTwo 52 % powerOfTwo 11

/-- The fraction field. -/
def fractionField (x : Double) : Nat := x.bits.toNat % powerOfTwo 52

/-- Whether the number is neither infinite nor undefined. -/
def isFinite (x : Double) : Bool := x.exponentField != 2047

/-- Whether the bits stand for no number. -/
def isNaN (x : Double) : Bool := !x.isFinite && x.fractionField != 0

/-- Whether the number is one of the two zeros. -/
def isZero (x : Double) : Bool := x.exponentField == 0 && x.fractionField == 0

/-- The integer `m` of the magnitude `m · 2^q`. -/
def mantissa (x : Double) : Nat :=
  if x.exponentField = 0 then x.fractionField else powerOfTwo 52 + x.fractionField

/-- The power `q` of the magnitude `m · 2^q`. -/
def exponent (x : Double) : Int :=
  if x.exponentField = 0 then -1074 else (x.exponentField : Int) - 1075

/-- The number with these bits but for the sign. -/
def withSign (negative : Bool) (magnitude : Nat) : Double :=
  ⟨((if negative then powerOfTwo 63 else 0) + magnitude).toUInt64⟩

/-- The magnitude bits of infinity. -/
def infinityBits : Nat := 2047 * powerOfTwo 52

/-- Infinity of either sign. -/
def infinity (negative : Bool) : Double := withSign negative infinityBits

/-- The undefined number. -/
def nan : Double := withSign false (infinityBits + powerOfTwo 51)

/-! ### From decimals -/

/-- The quotient rounded to the nearest integer, a tie going to the even one. -/
def roundedQuotient (num den : Nat) : Nat :=
  let quotient := num / den
  let rest := 2 * (num % den)
  if den < rest ∨ (rest = den ∧ quotient % 2 = 1) then quotient + 1 else quotient

/-- `num / den · 2^(-q)` as a fraction of naturals. -/
def scaled (num den : Nat) (q : Int) : Nat × Nat :=
  if 0 ≤ q then (num, den * powerOfTwo q.toNat) else (num * powerOfTwo (-q).toNat, den)

/-- The magnitude bits of the double nearest to the positive fraction `num / den`. -/
def nearestBits (num den : Nat) : Nat :=
  let guess := (Nat.log2 num : Int) - Nat.log2 den - 53
  let (n, d) := scaled num den guess
  let q := max (if n / d < powerOfTwo 53 then guess else guess + 1) (-1074)
  let (n, d) := scaled num den q
  let m := roundedQuotient n d
  let bits :=
    if m < powerOfTwo 52 then m
    else (q + 1075).toNat * powerOfTwo 52 + (m - powerOfTwo 52)
  min bits infinityBits

/-- The double nearest to `m · 10^e`. Numbers far outside the range are settled by
their number of digits alone. -/
def ofDecimal (negative : Bool) (m : Nat) (e : Int) : Double :=
  let size := ((decimal m).length : Int) + e
  if m = 0 ∨ size < -330 then withSign negative 0
  else if 310 < size then infinity negative
  else if 0 ≤ e then withSign negative (nearestBits (m * powerOfTen e.toNat) 1)
  else withSign negative (nearestBits m (powerOfTen (-e).toNat))

/-! ### The shortest decimal -/

/-- The reals that round to a positive double, as a fraction of naturals: the value,
the two ends, the denominator they share, and whether the ends belong to it. -/
structure Interval where
  value : Nat
  low : Nat
  high : Nat
  den : Nat
  closed : Bool

/-- The interval of a finite number other than zero. The lower end is nearer where
the number below has a smaller exponent. -/
def interval (x : Double) : Interval :=
  let m := x.mantissa
  let q := x.exponent - 2
  let below := if x.fractionField = 0 ∧ 1 < x.exponentField then 1 else 2
  let scale := if 0 ≤ q then powerOfTwo q.toNat else 1
  ⟨4 * m * scale, (4 * m - below) * scale, (4 * m + 2) * scale,
    if 0 ≤ q then 1 else powerOfTwo (-q).toNat, m % 2 == 0⟩

/-- Whether `c · 10^p` lies in the interval. -/
def Interval.holds (i : Interval) (c : Nat) (p : Int) : Bool :=
  let here := if 0 ≤ p then c * powerOfTen p.toNat * i.den else c * i.den
  let unit := if 0 ≤ p then 1 else powerOfTen (-p).toNat
  let low := i.low * unit
  let high := i.high * unit
  if i.closed then low ≤ here && here ≤ high else low < here && here < high

/-- The number of leading zeros after the point of a fraction below one. -/
def leadingZeros (num den : Nat) : Nat → Nat
  | 0 => 0
  | fuel + 1 => if den ≤ num * 10 then 0 else leadingZeros (num * 10) den fuel + 1

/-- The place `k` of the first digit of the value: it lies from `10^(k-1)` up to, and
not including, `10^k`. -/
def Interval.place (i : Interval) : Int :=
  if i.den ≤ i.value then ((decimal (i.value / i.den)).length : Int)
  else -(leadingZeros i.value i.den 400 : Int)

/-- Of the multiples of `10^p` next to the value, the nearest one in the interval; of
two at the same distance the even one. -/
def Interval.onGrid? (i : Interval) (p : Int) : Option Nat :=
  let num := if 0 ≤ p then i.value else i.value * powerOfTen (-p).toNat
  let den := if 0 ≤ p then i.den * powerOfTen p.toNat else i.den
  let lower := num / den
  let rest := 2 * (num % den)
  let upperFirst := den < rest ∨ (rest = den ∧ lower % 2 = 1)
  let candidates := if upperFirst then [lower + 1, lower] else [lower, lower + 1]
  candidates.find? fun c => i.holds c p

/-- Tries one digit, two digits, and so on: the first grid that meets the interval. -/
def Interval.search (i : Interval) (place : Int) (digits : Nat) : Nat → Nat × Int
  | 0 => (i.value / i.den, 0)
  | fuel + 1 =>
      match i.onGrid? (place - digits) with
      | some c => (c, place - digits)
      | none => i.search place (digits + 1) fuel

/-- Takes the zeros off the end of a decimal. -/
def withoutZeros (m : Nat) (e : Int) : Nat → Nat × Int
  | 0 => (m, e)
  | fuel + 1 => if m % 10 = 0 ∧ m ≠ 0 then withoutZeros (m / 10) (e + 1) fuel else (m, e)

/-- The decimal `m · 10^e` with the fewest digits that reads back as the magnitude of
a finite number other than zero. -/
def shortest (x : Double) : Nat × Int :=
  let i := x.interval
  let (m, e) := i.search i.place 1 17
  withoutZeros m e 20

/-! ### Text -/

/-- Digits with the point `point` places after their start: positionally if the point
falls from four places before the digits to sixteen after their start. -/
def placed (digits : Text) (point : Int) : Text :=
  if -4 < point ∧ point ≤ 16 then
    if point ≤ 0 then "0." ++ List.replicate (-point).toNat '0' ++ digits
    else if digits.length ≤ point.toNat then
      digits ++ List.replicate (point.toNat - digits.length) '0' ++ ".0"
    else digits.take point.toNat ++ ['.'] ++ digits.drop point.toNat
  else
    let power := point - 1
    let fraction := if digits.length = 1 then [] else '.' :: digits.drop 1
    digits.take 1 ++ fraction ++ ['e', if power < 0 then '-' else '+'] ++
      padded 10 2 power.natAbs

/-- The text of a finite number. -/
def finiteText (x : Double) : Text :=
  (if x.isNegative then ['-'] else []) ++
    if x.isZero then ("0.0" : Text)
    else
      let (m, e) := x.shortest
      let digits := decimal m
      placed digits (e + digits.length)

/-- The text of a number, with `nan`, `inf` and `-inf` for those that are not finite. -/
def text (x : Double) : Text :=
  if x.isNaN then "nan"
  else if x.isFinite then x.finiteText
  else if x.isNegative then "-inf" else "inf"

/-- The number of a sign, an integer part, a fraction part and an exponent. -/
def ofParts (negative : Bool) (whole fraction : List Nat) (power : Int) : Double :=
  ofDecimal negative (numeralValue 10 (whole ++ fraction)) (power - fraction.length)

/-- Reads a sign that may be left out: whether it is a minus, and what is behind it. -/
def readSign : Text → Bool × Text
  | '-' :: rest => (true, rest)
  | '+' :: rest => (false, rest)
  | rest => (false, rest)

/-- Reads an exponent part, if there is one: a letter, a sign that may be left out, and
digits. -/
def readPower : Text → Option (Int × Text)
  | c :: rest =>
      if c = 'e' ∨ c = 'E' then
        let (negative, after) := readSign rest
        match spanDigits decimalDigit? after with
        | ([], _) => none
        | (ds, after) =>
            let n : Int := numeralValue 10 ds
            some (if negative then -n else n, after)
      else none
  | [] => none

/-- Reads the text of a number. -/
def ofText? (text : Text) : Option Double :=
  let (negative, rest) := readSign text
  if rest = "inf" then some (infinity negative)
  else if rest = "nan" then some nan
  else
    let (whole, rest) := spanDigits decimalDigit? rest
    let (fraction, rest) :=
      match rest with
      | '.' :: r => spanDigits decimalDigit? r
      | r => ([], r)
    if whole = [] ∧ fraction = [] then none
    else
      match rest, readPower rest with
      | [], _ => some (ofParts negative whole fraction 0)
      | _, some (power, []) => some (ofParts negative whole fraction power)
      | _, _ => none

/-! ### Comparison -/

/-- Equality of numbers: the two zeros are equal and `nan` equals nothing. -/
def equals (x y : Double) : Bool :=
  !x.isNaN && !y.isNaN && (x == y || (x.isZero && y.isZero))

/-- Whether the number is the integer `n`. -/
def equalsInt (x : Double) (n : Int) : Bool :=
  let sameSize :=
    if 0 ≤ x.exponent then x.mantissa * powerOfTwo x.exponent.toNat == n.natAbs
    else x.mantissa == n.natAbs * powerOfTwo (-x.exponent).toNat
  x.isFinite && sameSize && (n == 0 || x.isNegative == decide (n < 0))

end Double

end HotReload
