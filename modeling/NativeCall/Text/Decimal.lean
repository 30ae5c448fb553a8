/-!
# Decimal text

Numbers in decimal digits with an optional sign in front, also with a point and an exponent.
-/

namespace NativeCall
namespace Decimal

/-- At least one digit, and nothing else. -/
def digits? (text : List Char) : Option Nat :=
  if text.isEmpty || text.any (!·.isDigit) then none
  else some (text.foldl (fun n c => 10 * n + (c.toNat - '0'.toNat)) 0)

def unsigned? : List Char -> Option Nat
  | '+' :: digits => digits? digits
  | digits => digits? digits

def signed? : List Char -> Option Int
  | '-' :: digits => (digits? digits).map fun n => -(n : Int)
  | text => (unsigned? text).map fun n => (n : Int)

/-- Digits with a point at most, before or after which none need stand, and an exponent. -/
def isNumeral (text : List Char) : Bool :=
  let whole := text.takeWhile Char.isDigit
  let rest := text.dropWhile Char.isDigit
  let (fraction, rest) := match rest with
    | '.' :: after => (after.takeWhile Char.isDigit, after.dropWhile Char.isDigit)
    | _ => ([], rest)
  let exponentFits := match rest with
    | [] => true
    | c :: power => (c == 'e' || c == 'E') && (signed? power).isSome
  !(whole.isEmpty && fraction.isEmpty) && exponentFits

/-- A numeral, or one of the names for infinity and for no number in any case, after an
optional sign. -/
def isReal (text : List Char) : Bool :=
  let body := match text with
    | '+' :: rest | '-' :: rest => rest
    | _ => text
  isNumeral body || ["inf", "infinity", "nan"].contains (String.ofList body).toLower

end Decimal
end NativeCall
