import NativeCall.FloatWord
import NativeCall.NativeFunction
import NativeCall.Signature

/-!
# Probes

Native functions that show what a call puts into the registers and what it does with
results and error numbers. A probe answers in an integer register or in a float register,
and each has an address of its own.
-/

namespace NativeCall

inductive ResultFile where
  | integer
  | float
  deriving DecidableEq, Repr

inductive Probe where
  | int (index : Fin 6)
  /-- The sum of the integer registers, each weighted by its place. -/
  | sum
  /-- The bits of all float registers, mixed. -/
  | floatBits
  /-- Fail with the error number in the first integer register. -/
  | fail
  | firstFloat
  | secondFloat
  | lastFloat
  /-- The sum of the float registers, each weighted by its place. -/
  | floatSum
  /-- Half of the single in the first float register. -/
  | half
  /-- Fail with a fixed error number and answer twice the first float register. -/
  | floatFail
  deriving DecidableEq, Repr

namespace ResultFile

/-- A result that is no float, void included, is an integer. -/
def ofSlot (result : Slot) : ResultFile :=
  if result.floatClass?.isSome then .float else .integer

end ResultFile

namespace Probe

def all : List Probe :=
  [.int 0, .int 1, .int 2, .int 3, .int 4, .int 5, .sum, .floatBits, .fail, .firstFloat,
   .secondFloat, .lastFloat, .floatSum, .half, .floatFail]

def name : Probe -> String
  | .int index => "int" ++ index.val.repr
  | .sum => "sum"
  | .floatBits => "fbits"
  | .fail => "fail"
  | .firstFloat => "float0"
  | .secondFloat => "float1"
  | .lastFloat => "float7"
  | .floatSum => "fsum"
  | .half => "half"
  | .floatFail => "ffail"

def file : Probe -> ResultFile
  | .int _ | .sum | .floatBits | .fail => .integer
  | .firstFloat | .secondFloat | .lastFloat | .floatSum | .half | .floatFail => .float

def find? (file : ResultFile) (name : String) : Option Probe :=
  all.find? fun probe => probe.file == file && probe.name == name

/-!
# Addresses
-/

def address (probe : Probe) : Address :=
  0x00005E0B_00000000 + BitVec.ofNat 64 (16 * all.idxOf probe)

def ofAddress? (address : Address) : Option Probe :=
  all.find? fun probe => probe.address == address

/-!
# Functions
-/

def floatFailCode : Int := 77

def integers (registers : Registers) : List Word :=
  (List.finRange 6).map registers.int

def floats (registers : Registers) : List Word :=
  (List.finRange 8).map registers.float

def result (probe : Probe) (registers : Registers) : Word :=
  match probe with
  | .int index => registers.int index
  | .sum =>
      (integers registers).zipIdx.foldl
        (fun total (word, i) => total + BitVec.ofNat 64 (i + 1) * word) 0
  | .floatBits => (floats registers).foldl (fun mixed bits => mixed.rotateLeft 8 ^^^ bits) 0
  | .fail => -1
  | .firstFloat => registers.float 0
  | .secondFloat => registers.float 1
  | .lastFloat => registers.float 7
  | .floatSum =>
      (floats registers).zipIdx.foldl
        (fun total (bits, i) => Double.add total (Double.mul bits (Double.ofNat (i + 1)))) 0
  | .half => (Single.halve ((registers.float 0).setWidth 32)).setWidth 64
  | .floatFail => Double.mul (registers.float 0) (Double.ofNat 2)

def errorAfter (probe : Probe) (registers : Registers) (before : Int) : Int :=
  match probe with
  | .fail => ((registers.int 0).setWidth 32).toInt
  | .floatFail => floatFailCode
  | _ => before

def function (probe : Probe) : NativeFunction :=
  fun registers before => (probe.result registers, probe.errorAfter registers before)

end Probe
end NativeCall
