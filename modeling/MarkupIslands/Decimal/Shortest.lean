/-!
# Shortest decimals

The decimal with the fewest digits that reads back as a given binary64 number, and its text. A
binary64 number owns the interval of reals that round to it; the coarsest power of ten with a
multiple in that interval gives the fewest digits, and of several such multiples the one nearest to
the number is taken. All arithmetic is on natural numbers. Sizes from 0.00001 to below 10^16 are
written positionally, all others with an exponent.
-/

namespace MarkupIslands.Decimal

/-- A finite binary64 number: its sign, and the size as `significand * 2 ^ exponent`. -/
structure Binary where
  negative : Bool
  significand : Nat
  exponent : Int
  /-- Whether the next smaller size is only half as far away as the next larger one. -/
  closeBelow : Bool

/-- The number that 64 bits stand for; infinities and NaN are not told apart from finite numbers. -/
def Binary.ofBits (bits : UInt64) : Binary :=
  let word := bits.toNat
  let hidden : Nat := 1 <<< 52
  let negative : Bool := word >>> 63 == 1
  let fraction : Nat := word % hidden
  let biased : Nat := (word >>> 52) % (1 <<< 11)
  if biased = 0 then ⟨negative, fraction, -1074, false⟩
  else ⟨negative, hidden + fraction, (biased : Int) - 1075, fraction == 0 && biased != 1⟩

/-- A decimal size `digits * 10 ^ exponent`. -/
structure Size where
  digits : Nat
  exponent : Int

/-- The multiple of `10 ^ exponent` in the interval of `number` that is nearest to `number`. An end
of the interval belongs to it exactly when the significand is even. -/
def nearestMultiple? (number : Binary) (exponent : Int) : Option Nat :=
  -- quarters of the last binary place, over the grid's unit
  let shift := number.exponent - 2
  let scale := Nat.pow 10 (-exponent).toNat <<< shift.toNat
  let unit := Nat.pow 10 exponent.toNat <<< (-shift).toNat
  let value := 4 * number.significand * scale
  let low := (4 * number.significand - if number.closeBelow then 1 else 2) * scale
  let high := (4 * number.significand + 2) * scale
  let isInside (n : Nat) : Bool :=
    if number.significand % 2 = 0 then low ≤ n * unit && n * unit ≤ high
    else low < n * unit && n * unit < high
  let below := value / unit
  match isInside below && below != 0, isInside (below + 1) with
  | true, true =>
    let fromBelow := value - below * unit
    let toAbove := (below + 1) * unit - value
    if fromBelow < toAbove || (fromBelow = toAbove && below % 2 = 0) then some below
    else some (below + 1)
  | true, false => some below
  | false, true => some (below + 1)
  | false, false => none

/-- The first grid from `exponent` downwards that has a multiple in the interval. -/
def coarsest (number : Binary) (exponent : Int) : Nat → Size
  | 0 => ⟨0, 0⟩
  | steps + 1 =>
    match nearestMultiple? number exponent with
    | some digits => ⟨digits, exponent⟩
    | none => coarsest number (exponent - 1) steps

/-- The shortest decimal of a binary64 number. A binary digit is worth 1233/4096 decimal digits, so
the search starts just above the first digit, and it needs no more than 17 digits. -/
def shortest (number : Binary) : Size :=
  if number.significand = 0 then ⟨0, 0⟩
  else
    let digits := ((Nat.log2 number.significand : Int) + number.exponent) * 1233 / 4096
    coarsest number (digits + 2) 24

/-- The positional text of a size, with a point and at least one digit on both sides of it. -/
def Size.positional (size : Size) : String :=
  let digits := (Nat.repr size.digits).toList
  let text :=
    if 0 ≤ size.exponent then
      digits ++ List.replicate size.exponent.toNat '0' ++ ['.', '0']
    else
      let places := (-size.exponent).toNat
      let digits := List.replicate (places + 1 - digits.length) '0' ++ digits
      digits.take (digits.length - places) ++ '.' :: digits.drop (digits.length - places)
  String.ofList text

/-- The exponent of the first digit of a size. -/
def Size.order (size : Size) : Int := size.exponent + (Nat.repr size.digits).length - 1

/-- The text of a size with the point behind the first digit, if more digits follow, and the
exponent of that digit with its sign. -/
def Size.scientific (size : Size) : String :=
  let digits :=
    match (Nat.repr size.digits).toList with
    | first :: second :: rest => first :: '.' :: second :: rest
    | digits => digits
  let sign := if size.order < 0 then "-" else "+"
  String.ofList digits ++ "e" ++ sign ++ Nat.repr size.order.natAbs

def Size.text (size : Size) : String :=
  if -5 ≤ size.order && size.order < 16 then size.positional else size.scientific

/-- The shortest text that reads back as the given binary64 number. -/
def ofDouble (bits : UInt64) : String :=
  let number := Binary.ofBits bits
  (if number.negative then "-" else "") ++ (shortest number).text

example : ofDouble 0x4004000000000000 = "2.5" := by decide +kernel

example : ofDouble 0x8000000000000000 = "-0.0" := by decide +kernel

example : ofDouble 0x3FB999999999999A = "0.1" := by decide +kernel

example : ofDouble 0x4341C37937E08000 = "1e+16" := by decide +kernel

example : ofDouble 0x3EF4F8B588E368F1 = "0.00002" := by decide +kernel

example : ofDouble 0x0000000000000001 = "5e-324" := by decide +kernel

end MarkupIslands.Decimal
