import HotReload.Text
/-!
Numerals of natural numbers in any base up to thirty-six.

* `numeral` writes a number, `numeralValue` reads one.
* `decimal` and `signedDecimal` are the numerals of base ten, `padded` fills them
  with leading zeros.
-/

namespace HotReload

/-- The digit of value `d`: `0` to `9`, then `a` to `z`. -/
def digitChar (d : Nat) : Char :=
  if d < 10 then Char.ofNat (48 + d) else Char.ofNat (87 + d)

/-- The value of a digit or lowercase letter. -/
def digitValue? (c : Char) : Option Nat :=
  if '0' ≤ c ∧ c ≤ '9' then some (c.toNat - 48)
  else if 'a' ≤ c ∧ c ≤ 'z' then some (c.toNat - 87)
  else none

/-- The numeral of `n` without leading zeros. -/
def numeral (base n : Nat) : Text :=
  if _h : base < 2 ∨ n < base then [digitChar n]
  else numeral base (n / base) ++ [digitChar (n % base)]
termination_by n
decreasing_by exact Nat.div_lt_self (by omega) (by omega)

/-- The number that a row of digits stands for. -/
def numeralValue (base : Nat) (digits : List Nat) : Nat :=
  digits.foldl (fun value d => value * base + d) 0

/-- The decimal numeral of a natural number. -/
def decimal (n : Nat) : Text := numeral 10 n

/-- The decimal numeral of an integer, with a minus sign if it is negative. -/
def signedDecimal : Int → Text
  | .ofNat n => decimal n
  | .negSucc n => '-' :: decimal (n + 1)

/-- The numeral of `n` with leading zeros up to `width` digits. -/
def padded (base width n : Nat) : Text :=
  let digits := numeral base n
  List.replicate (width - digits.length) '0' ++ digits

/-- The value of an ASCII decimal digit. -/
def decimalDigit? (c : Char) : Option Nat :=
  if '0' ≤ c ∧ c ≤ '9' then some (c.toNat - 48) else none

/-- The value of an ASCII hexadecimal digit of either case. -/
def hexDigit? (c : Char) : Option Nat :=
  if '0' ≤ c ∧ c ≤ '9' then some (c.toNat - 48)
  else if 'a' ≤ c ∧ c ≤ 'f' then some (c.toNat - 87)
  else if 'A' ≤ c ∧ c ≤ 'F' then some (c.toNat - 55)
  else none

/-- The longest row of digits of the base at the start of a text, and the rest. -/
def spanDigits (digit? : Char → Option Nat) : Text → List Nat × Text
  | [] => ([], [])
  | c :: rest =>
      match digit? c with
      | none => ([], c :: rest)
      | some d => let (ds, after) := spanDigits digit? rest; (d :: ds, after)

end HotReload
