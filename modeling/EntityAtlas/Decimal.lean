import EntityAtlas.Text.Blank
import EntityAtlas.Text.DecimalDigit

/-!
# Decimal numbers

Decimal numbers that keep the digits they were given: `1.50` is not written as `1.5`. A number is
written with its point in place, unless its last digit stands left of the units or its first digit
comes after five zeros behind the point; then it is written as a power of ten with one digit before
the point. What is infinite or no number at all has a word in place of digits. The digits of every
script are read.
-/

set_option autoImplicit false

namespace EntityAtlas

/-- What stands behind the sign of a decimal. -/
inductive Magnitude where
  /-- The number `digits * 10 ^ exponent`. -/
  | finite (digits : Nat) (exponent : Int)
  | infinite
  /-- No number, for a reason given as digits, zero for none. It may be one that signals. -/
  | undefined (signals : Bool) (reason : Nat)

/-- A decimal number, or what stands in the place of one. -/
structure Decimal where
  negative : Bool := false
  magnitude : Magnitude

namespace Decimal

/-- Whether a decimal is zero, whatever its sign and places. -/
def isZero (number : Decimal) : Bool :=
  match number.magnitude with
  | .finite digits _ => digits == 0
  | _ => false

/-! ## Writing -/

/-- Digits with a point after the first so many of them; a point before the first digit has a zero
in front. -/
def pointed (digits : List Char) (before : Int) : List Char :=
  if before ≤ 0 then '0' :: '.' :: List.replicate (-before).toNat '0' ++ digits
  else
    let whole := digits.take before.toNat
    match digits.drop before.toNat with
    | [] => whole
    | fraction => whole ++ '.' :: fraction

/-- The exponent of a power of ten with its sign. -/
def exponentText (exponent : Int) : List Char :=
  'E' :: (if exponent < 0 then '-' else '+') :: Nat.toDigits 10 exponent.natAbs

/-- Digits with the point in place, or with a power of ten. -/
def finiteText (digits : List Char) (exponent : Int) : List Char :=
  let before := exponent + digits.length
  if exponent ≤ 0 ∧ -6 < before then pointed digits before
  else pointed digits 1 ++ exponentText (before - 1)

/-- What stands behind a sign as a text. -/
def magnitudeText : Magnitude → List Char
  | .finite digits exponent => finiteText (Nat.toDigits 10 digits) exponent
  | .infinite => "Infinity".toList
  | .undefined signals reason =>
    (if signals then ['s'] else []) ++ "NaN".toList ++
      if reason = 0 then [] else Nat.toDigits 10 reason

/-- A decimal as a text. -/
def text (number : Decimal) : String :=
  String.ofList ((if number.negative then ['-'] else []) ++ magnitudeText number.magnitude)

/-! ## Reading -/

/-- Whether a text starts with a minus sign, and what follows the sign, if there is one. -/
def withoutSign : List Char → Bool × List Char
  | '-' :: rest => (true, rest)
  | '+' :: rest => (false, rest)
  | rest => (false, rest)

/-- The number that decimal digits make. -/
def valueOf (digits : List Char) : Nat :=
  digits.foldl (fun value digit => 10 * value + (digit.toNat - '0'.toNat)) 0

/-- The digits at the start of a text, and the rest. -/
def leadingDigits (text : List Char) : List Char × List Char :=
  (text.takeWhile Char.isDigit, text.dropWhile Char.isDigit)

/-- The digits behind a point at the start of a text, and the rest. -/
def fractionDigits : List Char → List Char × List Char
  | '.' :: rest => leadingDigits rest
  | rest => ([], rest)

/-- The exponent that a text consists of; nothing stands for zero. -/
def exponent? : List Char → Option Int
  | [] => some 0
  | letter :: rest =>
    let (negative, digits) := withoutSign rest
    if (letter = 'e' ∨ letter = 'E') ∧ !digits.isEmpty ∧ digits.all Char.isDigit then
      some (if negative then -(valueOf digits : Int) else valueOf digits)
    else none

/-- The finite magnitude that a text stands for. -/
def finite? (text : List Char) : Option Magnitude :=
  let (whole, behind) := leadingDigits text
  let (fraction, rest) := fractionDigits behind
  let digits := whole ++ fraction
  if digits.isEmpty then none
  else (exponent? rest).map fun exponent => .finite (valueOf digits) (exponent - fraction.length)

/-- What a text in small letters stands for without being a number. -/
def word? (text : List Char) : Option Magnitude :=
  if text = "inf".toList ∨ text = "infinity".toList then some .infinite
  else
    let signals := text.head? == some 's'
    let word := if signals then text.drop 1 else text
    let reason := word.drop 3
    if word.take 3 = "nan".toList ∧ reason.all Char.isDigit then
      some (.undefined signals (valueOf reason))
    else none

/-- The decimal that a text stands for. Blanks around it and underscores in it count for nothing,
and so does letter case. -/
def ofText? (text : String) : Option Decimal :=
  let plain := ((Text.trimBlanks text).toList.filter (· ≠ '_')).map Text.plainDigit
  let (negative, unsigned) := withoutSign plain
  ((finite? unsigned).or (word? (unsigned.map Char.toLower))).map fun magnitude =>
    { negative, magnitude }

end Decimal

end EntityAtlas
