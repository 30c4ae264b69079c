/-!
# Numbers in plain decimal text

Whole numbers in the strict form that allows digits after an optional sign and nothing
else, and floating-point numbers with a point and an exponent. A floating-point number is
shown by its bits, which tell apart what a rounded decimal would not.
-/

namespace Gridwise

namespace Plain

/-- A row of one or more digits. -/
def natural? (cs : List Char) : Option Nat :=
  if cs.isEmpty || !cs.all Char.isDigit then none else some (Nat.ofDigitChars 10 cs 0)

/-- Digits after an optional minus sign. -/
def whole? : List Char → Option Int
  | '-' :: rest => (natural? rest).map fun n => -(n : Int)
  | rest => (natural? rest).map fun n => (n : Int)

/-- Digits after an optional sign of either kind. -/
def signed? : List Char → Option Int
  | '+' :: rest => (natural? rest).map fun n => (n : Int)
  | rest => whole? rest

/-- The floating-point number nearest to digits with an optional point and exponent. -/
def magnitude? (cs : List Char) : Option Float := do
  let (whole, rest) := cs.span Char.isDigit
  let (fraction, rest) :=
    match rest with
    | '.' :: rest => rest.span Char.isDigit
    | rest => ([], rest)
  let exponent ←
    match rest with
    | [] => some 0
    | mark :: rest => if mark = 'e' || mark = 'E' then signed? rest else none
  let mantissa ← natural? (whole ++ fraction)
  let scale := exponent - fraction.length
  return Float.ofScientific mantissa (decide (scale < 0)) scale.natAbs

/-- The floating-point number nearest to a decimal with an optional minus sign. -/
def float? : List Char → Option Float
  | '-' :: rest => (magnitude? rest).map fun x => -x
  | rest => magnitude? rest

/-- The bits of a floating-point number in sixteen hexadecimal digits, or the word for what
    is no number. -/
def bits (x : Float) : String :=
  if x.isNaN then "nan"
  else
    let digits := Nat.toDigits 16 x.toBits.toNat
    String.ofList (List.replicate (16 - digits.length) '0' ++ digits)

end Plain

end Gridwise
