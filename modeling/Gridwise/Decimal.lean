import Gridwise.Decimal.Digits

/-!
# Decimal text of unbounded integers

Writing is canonical: a sign only below zero, no leading zeros. Reading is wider: one
sign of either kind, leading zeros, and underscores between or around the digits are
accepted, so that many texts name one integer and each integer has one written form.
-/

namespace Gridwise

namespace Decimal

/-- The written form of an integer, most significant digit first. -/
def chars : Int → List Char
  | .ofNat n => digits n
  | .negSucc n => '-' :: digits (n + 1)

/-- The written form as a string. -/
def text (n : Int) : String := String.ofList (chars n)

/-- Why a text names no integer. -/
inductive ReadError where
  /-- Nothing follows the sign. -/
  | noDigits
  /-- Something other than a digit or an underscore follows the sign. -/
  | invalidDigit
  deriving DecidableEq

/-- The wording of a reading error. -/
def ReadError.message : ReadError → String
  | .noDigits => "no digits"
  | .invalidDigit => "invalid digit"

/-- Reads the part after the sign: zeros in front are skipped first, then underscores
    are dropped wherever they stand, and what is left must be digits. -/
def readMagnitude (cs : List Char) : Except ReadError Nat :=
  if cs.isEmpty then .error .noDigits
  else
    let digits := (cs.dropWhile (· == '0')).filter (· != '_')
    if digits.all Char.isDigit then .ok (Nat.ofDigitChars 10 digits 0)
    else .error .invalidDigit

/-- Reads an integer with an optional sign. -/
def readChars : List Char → Except ReadError Int
  | '-' :: rest => (readMagnitude rest).map fun n => -(n : Int)
  | '+' :: rest => (readMagnitude rest).map fun n => (n : Int)
  | rest => (readMagnitude rest).map fun n => (n : Int)

/-- Reads an integer from a string. -/
def read (s : String) : Except ReadError Int := readChars s.toList

theorem toList_text (n : Int) : (text n).toList = chars n := String.toList_ofList

end Decimal

end Gridwise
