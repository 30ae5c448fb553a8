/-!
# Host types

The primitive types of the managed caller, as they sit in the slots of its own
calling convention.
-/

namespace NativeCall

inductive HostType where
  | void
  | boolean
  | byte
  | short
  | char
  | int
  | long
  | float
  | double
  deriving DecidableEq, Repr

namespace HostType

def all : List HostType :=
  [.void, .boolean, .byte, .short, .char, .int, .long, .float, .double]

theorem mem_all (host : HostType) : host ∈ all := by
  cases host <;> decide

def name : HostType -> String
  | .void => "Void"
  | .boolean => "Boolean"
  | .byte => "Byte"
  | .short => "Short"
  | .char => "Char"
  | .int => "Int"
  | .long => "Long"
  | .float => "Float"
  | .double => "Double"

/-- Bytes of a slot when the convention passes values on the stack. -/
def slotSize : HostType -> Nat
  | .void => 0
  | .long | .double => 8
  | _ => 4

def isIntegral : HostType -> Bool
  | .boolean | .byte | .short | .char | .int | .long => true
  | _ => false

def isFloat : HostType -> Bool
  | .float | .double => true
  | _ => false

end HostType
end NativeCall
