import NativeCall.Trampoline

/-!
# Strategies

The ways of making a call, from the fastest to the one that always works.
-/

namespace NativeCall

/-- Direct calls through a fixed set of registers. -/
inductive FastPath where
  | int32
  | int64
  | numeric
  deriving DecidableEq, Repr

inductive Strategy where
  | compiled (arch : Arch)
  | fast (path : FastPath)
  | buffer
  deriving DecidableEq, Repr

namespace FastPath

def all : List FastPath :=
  [.int32, .int64, .numeric]

theorem mem_all (path : FastPath) : path ∈ all := by
  cases path <;> decide

def name : FastPath -> String
  | .int32 => "Int32"
  | .int64 => "Int64"
  | .numeric => "Numeric"

def maxParams : Nat := 6

def supportsArch : FastPath -> Arch -> Bool
  | .int32, arch | .numeric, arch => arch == .i386 || arch == .amd64
  | .int64, arch => arch == .amd64

def supportsKind (path : FastPath) (arch : Arch) (kind : ValueClass) : Bool :=
  match path with
  | .int32 => kind.register == .integer && kind.width.bits ≤ 32
  | .int64 => kind.register == .integer && arch == .amd64
  | .numeric => true

def supportsSlot (path : FastPath) (arch : Arch) (slot : Slot) : Bool :=
  slot.kind.any (path.supportsKind arch)

def accepts (path : FastPath) (sig : Signature) : Bool :=
  path.supportsArch sig.arch
    && sig.params.length ≤ maxParams
    && sig.isPrimitive
    && (sig.result.isVoid || path.supportsSlot sig.arch sig.result)
    && sig.params.all (path.supportsSlot sig.arch)

end FastPath

namespace Strategy

def all : List Strategy :=
  Arch.all.map .compiled ++ FastPath.all.map .fast ++ [.buffer]

theorem mem_all (strategy : Strategy) : strategy ∈ all := by
  cases strategy with
  | compiled arch => cases arch <;> decide
  | fast path => cases path <;> decide
  | buffer => decide

def name : Strategy -> String
  | .compiled arch => "compiled-" ++ arch.name
  | .fast .int32 => "fast-int"
  | .fast .int64 => "fast-long"
  | .fast .numeric => "fast-numeric"
  | .buffer => "buffer"

/-- Whether a strategy can make a call of a signature at all, whatever the platform. -/
def accepts (strategy : Strategy) (sig : Signature) : Bool :=
  match strategy with
  | .compiled arch => Trampoline.accepts arch sig
  | .fast path => path.accepts sig
  | .buffer => true

end Strategy
end NativeCall
