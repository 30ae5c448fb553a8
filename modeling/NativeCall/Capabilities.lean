import NativeCall.Arch

/-!
# Capabilities

What a platform offers to calls: its architecture, if code can be generated for it, its
operating system, and two facilities that compiled calls rely on.
-/

namespace NativeCall

inductive OsFamily where
  | linux
  | macOs
  | windows
  | other
  deriving DecidableEq, Repr

namespace OsFamily

def all : List OsFamily :=
  [.linux, .macOs, .windows, .other]

theorem mem_all (os : OsFamily) : os ∈ all := by
  cases os <;> decide

def name : OsFamily -> String
  | .linux => "Linux"
  | .macOs => "MacOs"
  | .windows => "Windows"
  | .other => "Other"

end OsFamily

structure Capabilities where
  arch : Option Arch
  os : OsFamily
  /-- There is a helper that captures error numbers. -/
  helperPresent : Bool
  pageProtection : Bool
  deriving DecidableEq, Repr

namespace Capabilities

def full (arch : Arch) : Capabilities :=
  { arch := some arch, os := .linux, helperPresent := true, pageProtection := true }

def host : Capabilities :=
  full Arch.host

def archText : Arch -> String
  | .i386 => "X86_32"
  | .amd64 => "X86_64"
  | .aarch64 => "Aarch64"

def boolText (b : Bool) : String :=
  if b then "true" else "false"

def text (caps : Capabilities) : String :=
  let arch := match caps.arch with
    | none => "None"
    | some arch => "Some(" ++ archText arch ++ ")"
  "Capabilities \x7b arch: " ++ arch ++ ", os: " ++ caps.os.name ++ ", helper_present: "
    ++ boolText caps.helperPresent ++ ", page_protection: " ++ boolText caps.pageProtection
    ++ " \x7d"

def isWindows (caps : Capabilities) : Bool :=
  caps.os == .windows

end Capabilities
end NativeCall
