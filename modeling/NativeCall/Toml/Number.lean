import NativeCall.Toml.Parser

/-!
# Reading TOML: numbers

Digits may be grouped by single underscores. Integers have 64 bits with a sign. A float
is refused when it is so large that the nearest double is positive infinity.
-/

namespace NativeCall
namespace Toml
namespace Parser

/-!
# Digits
-/

/-- Digits with single underscores between them. -/
def groupedDigits (test : Char -> Bool) : Parser (List Char) := do
  let first <- satisfy test
  let others <- many (firstOf [satisfy test, do char '_'; satisfy test])
  return first :: others

/-- A decimal integer part: zero, or digits that do not start with zero. -/
def decimalDigits : Parser (List Char) :=
  firstOf
    [do
      let first <- satisfy fun c => isDigit c && c != '0'
      let others <- many (firstOf [satisfy isDigit, do char '_'; satisfy isDigit])
      return first :: others,
     do return [<- satisfy isDigit]]

def sign : Parser Bool := do
  match <- optional (satisfy fun c => c == '+' || c == '-') with
  | some c => return c == '-'
  | none => return false

/-!
# Integers
-/

/-- The first number that is too large for an integer. A negative one may reach it. -/
def integerLimit : Nat := 0x8000_0000_0000_0000

def refuseUnless (ok : Bool) : Parser Unit :=
  if ok then pure () else fail

def markedInteger (marker : String) (base : Nat) (test : Char -> Bool) : Parser Unit := do
  text marker
  let n := numberOf base (<- groupedDigits test)
  refuseUnless (n < integerLimit)

def decimalInteger : Parser Unit := do
  let negative <- sign
  let n := numberOf 10 (<- decimalDigits)
  refuseUnless (if negative then n ≤ integerLimit else n < integerLimit)

def integer : Parser Unit :=
  firstOf
    [markedInteger "0x" 16 isHexDigit,
     markedInteger "0o" 8 fun c => isDigit c && c < '8',
     markedInteger "0b" 2 fun c => c == '0' || c == '1',
     decimalInteger]

/-!
# Floats
-/

/-- The least number that rounds to infinity: halfway between the largest double and the
power of two after it. -/
def infinityThreshold : Nat :=
  Nat.pow 2 1024 - Nat.pow 2 970

/-- Whether `digits` times a power of ten reaches the threshold. The place of the leading
digit settles all but a narrow band. -/
def roundsToInfinity (digits : List Char) (exponent : Int) : Bool :=
  let significant := digits.dropWhile (· == '0')
  let n := numberOf 10 significant
  let place := (significant.length : Int) + exponent
  if significant.isEmpty || place < 309 then false
  else if 310 < place then true
  else if 0 ≤ exponent then infinityThreshold ≤ n * Nat.pow 10 exponent.toNat
  else infinityThreshold * Nat.pow 10 (-exponent).toNat ≤ n

def fraction : Parser (List Char) := do
  char '.'
  groupedDigits isDigit

def exponentPart : Parser Int := do
  let _ <- satisfy fun c => c == 'e' || c == 'E'
  let negative <- sign
  let n := numberOf 10 (<- groupedDigits isDigit)
  return if negative then -(n : Int) else n

def finiteFloat : Parser Unit := do
  let negative <- sign
  let whole <- decimalDigits
  let (parts, exponent) <- firstOf
    [do return ([], <- exponentPart),
     do
      let parts <- fraction
      let exponent <- optional exponentPart
      return (parts, exponent.getD 0)]
  refuseUnless (negative || !roundsToInfinity (whole ++ parts) (exponent - parts.length))

def specialFloat : Parser Unit := do
  let _ <- sign
  firstOf [text "inf", text "nan"]

def float : Parser Unit :=
  firstOf [finiteFloat, specialFloat]

end Parser
end Toml
end NativeCall
