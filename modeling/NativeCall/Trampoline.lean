import NativeCall.Text.Hex
import NativeCall.Trampoline.Amd64
import NativeCall.Trampoline.I386
import NativeCall.Trampoline.Aarch64

/-!
# Trampolines

A trampoline is machine code that takes a call in the managed caller's convention, makes
the native call, and returns the result in the caller's form. `compile` writes one for a
signature, a target address and, where the error number is captured, a helper that the
code calls right after the target.
-/

namespace NativeCall

structure Trampoline where
  arch : Arch
  frame : Frame
  target : Address
  code : List Byte
  deriving DecidableEq, Repr

inductive CompileError where
  | unsupported (arch : Arch) (signature : String)
  | missingHelper
  | addressOutOfRange (address : Address)
  deriving DecidableEq, Repr

namespace CompileError

def name : CompileError -> String
  | .unsupported .. => "Unsupported"
  | .missingHelper => "MissingHelper"
  | .addressOutOfRange .. => "AddressOutOfRange"

def message : CompileError -> String
  | .unsupported arch signature =>
      "Signature " ++ signature ++ " not compilable for " ++ arch.name
  | .missingHelper => "Error capture requested but no helper address given"
  | .addressOutOfRange address =>
      "Address " ++ Hex.number address.toNat ++ " does not fit a 32-bit immediate"

end CompileError

namespace Trampoline

def size (trampoline : Trampoline) : Nat :=
  trampoline.code.length

def hexDump (trampoline : Trampoline) : String :=
  Hex.dump trampoline.code

/-- A signature is accepted on its own architecture when its values are primitives that
fit the registers. -/
def accepts (arch : Arch) (sig : Signature) : Bool :=
  sig.arch == arch && sig.isPrimitive && sig.fitsBudget arch

/-- The helper that the code is going to call: one is needed for capture, and a helper
without capture is left out. -/
def usedHelper (sig : Signature) (helper : Option Address) :
    Except CompileError (Option Address) :=
  match sig.capturesError, helper with
  | true, none => .error .missingHelper
  | true, some address => .ok (some address)
  | false, _ => .ok none

/-- The first address that 32-bit code cannot hold. -/
def unreachableAddress? (arch : Arch) (addresses : List Address) : Option Address :=
  match arch with
  | .i386 => addresses.find? fun address => halfWordCount ≤ address.toNat
  | .amd64 | .aarch64 => none

def bytes (arch : Arch) (sig : Signature) (target : Address) (helper : Option Address) :
    Except Fault (List Byte) :=
  match arch with
  | .i386 => do X86.assemble .bits32 (<- I386.code sig target helper)
  | .amd64 => X86.assemble .bits64 (Amd64.code sig target helper sig.frame)
  | .aarch64 => A64.assemble (Aarch64.code sig target helper sig.frame)

/-- Write the trampoline of a signature for an architecture. -/
def compile (arch : Arch) (sig : Signature) (target : Address) (helper : Option Address) :
    Outcome CompileError Trampoline :=
  if accepts arch sig then
    match usedHelper sig helper with
    | .error e => .error (.error e)
    | .ok helper =>
        match unreachableAddress? arch (target :: helper.toList) with
        | some address => .error (.error (.addressOutOfRange address))
        | none =>
            match bytes arch sig target helper with
            | .error fault => .error (.fault fault)
            | .ok code => .ok { arch, frame := sig.frame, target, code }
  else
    .error (.error (.unsupported arch sig.text))

end Trampoline
end NativeCall
