import NativeCall.Word

/-!
# Hexadecimal text

Digits are written in lower case and read in either case. Bytes take two digits each,
numbers as few as they need.
-/

namespace NativeCall
namespace Hex

/-- A number without leading zeros. -/
def number (n : Nat) : String :=
  "0x" ++ String.ofList (Nat.toDigits 16 n)

def byteDigits (byte : Byte) : List Char :=
  [Nat.digitChar (byte.toNat / 16), Nat.digitChar (byte.toNat % 16)]

def encode (bytes : List Byte) : String :=
  String.ofList (bytes.flatMap byteDigits)

def digitValue? (c : Char) : Option Nat :=
  if '0' ≤ c ∧ c ≤ '9' then some (c.toNat - '0'.toNat)
  else if 'a' ≤ c ∧ c ≤ 'f' then some (c.toNat - 'a'.toNat + 10)
  else if 'A' ≤ c ∧ c ≤ 'F' then some (c.toNat - 'A'.toNat + 10)
  else none

def value? (digits : List Char) : Option Nat :=
  if digits.isEmpty then none
  else digits.foldlM (fun n c => (digitValue? c).map (16 * n + ·)) 0

def decodeChars : List Char -> Option (List Byte)
  | [] => some []
  | high :: low :: rest => do
      let h <- digitValue? high
      let l <- digitValue? low
      let bytes <- decodeChars rest
      return BitVec.ofNat 8 (16 * h + l) :: bytes
  | [_] => none

/-- Reads what `encode` writes. -/
def decode (text : String) : Option (List Byte) :=
  decodeChars text.toList

theorem digitValue?_digitChar {n : Nat} (h : n < 16) :
    digitValue? (Nat.digitChar n) = some n := by
  have all : ∀ m : Fin 16, digitValue? (Nat.digitChar m) = some m.val := by decide
  exact all ⟨n, h⟩

theorem decodeChars_flatMap (bytes : List Byte) :
    decodeChars (bytes.flatMap byteDigits) = some bytes := by
  induction bytes with
  | nil => rfl
  | cons byte rest ih =>
      have high := digitValue?_digitChar (n := byte.toNat / 16) (by omega)
      have low := digitValue?_digitChar (n := byte.toNat % 16) (by omega)
      have joined : BitVec.ofNat 8 (16 * (byte.toNat / 16) + byte.toNat % 16) = byte := by
        rw [Nat.div_add_mod]
        exact (BitVec.ofNat_toNat 8 byte).trans (BitVec.setWidth_eq byte)
      simp [byteDigits, decodeChars, high, low, ih, joined]

theorem decode_encode (bytes : List Byte) : decode (encode bytes) = some bytes := by
  simp [decode, encode, decodeChars_flatMap]

/-!
# Dumps
-/

/-- The pieces of a list, `size` long each but for the last. -/
def chunks {α : Type} (size : Nat) (items : List α) : List (List α) :=
  if items.isEmpty || size = 0 then [] else items.take size :: chunks size (items.drop size)
  termination_by items.length
  decreasing_by
    cases items <;> simp_all
    omega

/-- Bytes with a blank between them, sixteen on a line. -/
def dump (bytes : List Byte) : String :=
  String.intercalate "\n" <| (chunks 16 bytes).map fun line =>
    String.intercalate " " (line.map fun byte => String.ofList (byteDigits byte))

end Hex
end NativeCall
