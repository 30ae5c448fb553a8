import Mathlib.Data.List.Find
import NativeCall.Selector
import NativeCall.Proofs.DeclaredTypes

/-!
# Selection by rank

The strategies have a fixed rank, and each has a rule that names the switches, the facilities
of the platform and the declared types it needs. On the platform's own architecture the first
strategy whose rule holds is selected.

The rules of the fast paths name one architecture, that of the signature. A platform is asked
only whether it knows a fast path at all, so a signature of one x86 architecture is given a
fast path on the other one; every other foreign signature goes through buffers.
-/

namespace NativeCall

/-!
# The written rules
-/

def Arch.IsX86 (arch : Arch) : Prop :=
  arch = .i386 ∨ arch = .amd64

instance (arch : Arch) : Decidable arch.IsX86 :=
  inferInstanceAs (Decidable (_ ∨ _))

/-- What a fast path needs of the architecture and the types of a signature. -/
def FastPath.Suits (path : FastPath) (sig : Signature) : Prop :=
  match path with
  | .int32 =>
      sig.arch.IsX86 ∧ forall native, native ∈ sig.natives ->
        native.isInteger = true ∧ native.isWithin sig.arch 4 = true
  | .int64 =>
      sig.arch = .amd64 ∧ forall native, native ∈ sig.natives -> native.isInteger = true
  | .numeric => sig.arch.IsX86

instance (path : FastPath) (sig : Signature) : Decidable (path.Suits sig) :=
  match path with
  | .int32 => inferInstanceAs (Decidable (_ ∧ _))
  | .int64 => inferInstanceAs (Decidable (_ ∧ _))
  | .numeric => inferInstanceAs (Decidable (Arch.IsX86 _))

def Settings.AllowsFast (settings : Settings) : FastPath -> Prop
  | .int32 => settings.fastIntEnabled = true
  | .int64 => settings.fastLongEnabled = true
  | .numeric => settings.fastNumericEnabled = true

instance (settings : Settings) (path : FastPath) : Decidable (settings.AllowsFast path) :=
  match path with
  | .int32 => inferInstanceAs (Decidable (_ = _))
  | .int64 => inferInstanceAs (Decidable (_ = _))
  | .numeric => inferInstanceAs (Decidable (_ = _))

namespace Strategy

/-- The strategies for signatures of an architecture, the preferred ones first. -/
def ranking (arch : Arch) : List Strategy :=
  [.compiled arch, .fast .int32, .fast .int64, .fast .numeric, .buffer]

end Strategy

namespace Selector

/-- The rule of each strategy. -/
def Permits (selector : Selector) (sig : Signature) : Strategy -> Prop
  | .compiled _ =>
      selector.settings.compileEnabled = true ∧ selector.caps.os ≠ .windows ∧
        selector.caps.pageProtection = true ∧
        (sig.capturesError = true -> selector.caps.helperPresent = true) ∧
        sig.HasPrimitiveTypes ∧ sig.TypesFitRegisters
  | .fast path =>
      selector.settings.AllowsFast path ∧ selector.caps.os ≠ .windows ∧ sig.params.length ≤ 6 ∧
        sig.HasPrimitiveTypes ∧ path.Suits sig
  | .buffer => True

instance (selector : Selector) (sig : Signature) (strategy : Strategy) :
    Decidable (selector.Permits sig strategy) :=
  match strategy with
  | .compiled _ => inferInstanceAs (Decidable (_ ∧ _))
  | .fast _ => inferInstanceAs (Decidable (_ ∧ _))
  | .buffer => inferInstanceAs (Decidable True)

end Selector

/-!
# Fast paths by declared types
-/

namespace FastPath

/-- The types of values that a fast path carries. -/
def carries (path : FastPath) (arch : Arch) (native : NativeType) : Bool :=
  match path with
  | .int32 => native.isInteger && native.isWithin arch 4
  | .int64 => native.isInteger && arch == .amd64
  | .numeric => native.isInteger || native.isFloat

theorem supportsSlot_eq {arch : Arch} {slot : Slot} (path : FastPath)
    (h : slot.IsClassified arch) : path.supportsSlot arch slot = path.carries arch slot.native := by
  rw [supportsSlot, h]
  cases path <;> cases arch <;> cases slot.native <;> rfl

theorem supportsArch_iff_isX86 {path : FastPath} {arch : Arch} (h : path ≠ .int64) :
    path.supportsArch arch = true <-> arch.IsX86 := by
  cases path with
  | int64 => exact absurd rfl h
  | int32 | numeric => simp [supportsArch, Arch.IsX86]

theorem supportsArch_int64 {arch : Arch} :
    FastPath.int64.supportsArch arch = true <-> arch = .amd64 := by
  simp [supportsArch]

theorem suits_iff {path : FastPath} {sig : Signature} (h : sig.HasPrimitiveTypes) :
    path.Suits sig <-> path.supportsArch sig.arch = true ∧
      forall native, native ∈ sig.natives -> path.carries sig.arch native = true := by
  cases path with
  | int32 =>
      rw [supportsArch_iff_isX86 (by decide)]
      simp only [Suits, carries, Bool.and_eq_true]
  | int64 =>
      rw [supportsArch_int64]
      apply and_congr_right
      intro harch
      simp only [carries, harch, beq_self_eq_true, Bool.and_true]
  | numeric =>
      rw [supportsArch_iff_isX86 (by decide)]
      apply (and_iff_left ?_).symm
      simp only [carries, Bool.or_eq_true]
      rw [Signature.forall_mem_natives]
      constructor
      · rcases h.right with hresult | hvoid
        · exact Or.inr (NativeType.isInteger_or_isFloat_of_fitsHost hresult)
        · exact Or.inl hvoid.left
      · intro slot hmem
        exact NativeType.isInteger_or_isFloat_of_fitsHost (h.left slot hmem)

theorem accepts_iff {sig : Signature} (hbuilt : sig.Built) (path : FastPath) :
    path.accepts sig = true <->
      sig.params.length ≤ 6 ∧ sig.HasPrimitiveTypes ∧ path.Suits sig := by
  rcases hbuilt.isClassified with ⟨hparams, hresult⟩
  have hslots : (forall slot, slot ∈ sig.params -> path.supportsSlot sig.arch slot = true) <->
      forall slot, slot ∈ sig.params -> path.carries sig.arch slot.native = true := by
    apply forall₂_congr
    intro slot hmem
    rw [path.supportsSlot_eq (hparams slot hmem)]
  have hcarries : path.accepts sig = true <->
      path.supportsArch sig.arch = true ∧ sig.params.length ≤ 6 ∧ sig.HasPrimitiveTypes ∧
        forall native, native ∈ sig.natives -> path.carries sig.arch native = true := by
    rw [Signature.forall_mem_natives, ← hslots, ← hbuilt.isPrimitive_iff,
      ← path.supportsSlot_eq hresult]
    simp only [accepts, Slot.isVoid, Bool.and_eq_true, Bool.or_eq_true, beq_iff_eq,
      decide_eq_true_eq, List.all_eq_true, and_assoc]
    exact Iff.rfl
  rw [hcarries, and_left_comm]
  apply and_congr_right
  intro _
  rw [and_left_comm]
  apply and_congr_right
  intro hprimitive
  exact (suits_iff hprimitive).symm

end FastPath

/-!
# Selection
-/

namespace Selector

variable {selector : Selector} {sig : Signature}

def offers (selector : Selector) (strategy : Strategy) : Bool :=
  match strategy with
  | .compiled arch => selector.compilerArch? == some arch
  | .fast path => selector.offersFast path
  | .buffer => true

theorem candidates_eq : selector.candidates = Strategy.all.filter selector.offers := by
  have hcompiled : (Arch.all.map Strategy.compiled).filter selector.offers =
      (selector.compilerArch?.map Strategy.compiled).toList := by
    rw [List.filter_map]
    show ((Arch.all.filter fun arch => selector.compilerArch? == some arch).map _) = _
    cases selector.compilerArch? with
    | none => rfl
    | some arch => cases arch <;> rfl
  have hfast : (FastPath.all.map Strategy.fast).filter selector.offers =
      (FastPath.all.filter selector.offersFast).map Strategy.fast := by
    rw [List.filter_map]
    rfl
  rw [Strategy.all, List.filter_append, List.filter_append, hcompiled, hfast]
  rfl

def takes (selector : Selector) (sig : Signature) (strategy : Strategy) : Bool :=
  selector.offers strategy && selector.admits sig strategy

theorem find?_takes : Strategy.all.find? (selector.takes sig) = some (selector.select sig) := by
  have hsome : (Strategy.all.find? (selector.takes sig)).isSome = true := by
    rw [List.find?_isSome]
    exact ⟨.buffer, by decide, rfl⟩
  rw [select, candidates_eq, List.find?_filter]
  have hsame : (fun strategy => decide (selector.offers strategy = true ∧
      selector.admits sig strategy = true)) = selector.takes sig := by
    funext strategy
    simp [takes]
  rw [hsame]
  cases hfind : Strategy.all.find? (selector.takes sig) with
  | none => simp [hfind] at hsome
  | some strategy => rfl

theorem compilerArch?_eq_some {arch : Arch} :
    selector.compilerArch? = some arch <->
      selector.settings.compileEnabled = true ∧ selector.caps.os ≠ .windows ∧
        selector.caps.pageProtection = true ∧ selector.caps.arch = some arch := by
  simp [compilerArch?, Capabilities.isWindows, and_assoc]

theorem offersFast_iff {path : FastPath} :
    selector.offersFast path = true <->
      selector.settings.AllowsFast path ∧ selector.caps.os ≠ .windows ∧
        selector.caps.arch.any path.supportsArch = true := by
  have henabled : fastEnabled selector.settings path = true <->
      selector.settings.AllowsFast path := by
    cases path <;> exact Iff.rfl
  rw [← henabled]
  simp [offersFast, Capabilities.isWindows, and_assoc, and_left_comm]

theorem takes_compiled (hbuilt : sig.Built) {arch : Arch} :
    selector.takes sig (.compiled arch) = true <->
      selector.caps.arch = some arch ∧ sig.arch = arch ∧ selector.Permits sig (.compiled arch) := by
  have hoffers : selector.offers (.compiled arch) = true <->
      selector.compilerArch? = some arch := beq_iff_eq
  have hadmits : selector.admits sig (.compiled arch) = true <->
      (sig.capturesError = true -> selector.caps.helperPresent = true) ∧
        Trampoline.accepts arch sig = true := by
    simp only [admits, Strategy.accepts, Bool.and_eq_true, Bool.or_eq_true, Bool.not_eq_true',
      ← Bool.not_eq_true, imp_iff_not_or]
  rw [takes, Bool.and_eq_true, hoffers, hadmits, compilerArch?_eq_some, hbuilt.accepts_iff]
  constructor
  · rintro ⟨⟨henabled, hos, hpages, hknown⟩, hhelper, harch, hprimitive, hfits⟩
    exact ⟨hknown, harch, henabled, hos, hpages, hhelper, hprimitive, hfits⟩
  · rintro ⟨hknown, harch, henabled, hos, hpages, hhelper, hprimitive, hfits⟩
    exact ⟨⟨henabled, hos, hpages, hknown⟩, hhelper, harch, hprimitive, hfits⟩

theorem takes_fast (hbuilt : sig.Built) {path : FastPath} :
    selector.takes sig (.fast path) = true <->
      selector.caps.arch.any path.supportsArch = true ∧ selector.Permits sig (.fast path) := by
  have hoffers : selector.offers (.fast path) = true <-> selector.offersFast path = true := Iff.rfl
  have hadmits : selector.admits sig (.fast path) = true <-> path.accepts sig = true := Iff.rfl
  rw [takes, Bool.and_eq_true, hoffers, hadmits, offersFast_iff, path.accepts_iff hbuilt]
  constructor
  · rintro ⟨⟨hallowed, hos, hknown⟩, hlength, hprimitive, hsuits⟩
    exact ⟨hknown, hallowed, hos, hlength, hprimitive, hsuits⟩
  · rintro ⟨hknown, hallowed, hos, hlength, hprimitive, hsuits⟩
    exact ⟨⟨hallowed, hos, hknown⟩, hlength, hprimitive, hsuits⟩

theorem takes_buffer : selector.takes sig .buffer = true :=
  rfl

theorem supportsArch_of_permits {path : FastPath} (h : selector.Permits sig (.fast path)) :
    path.supportsArch sig.arch = true := by
  rcases h with ⟨_, _, _, hprimitive, hsuits⟩
  exact ((FastPath.suits_iff hprimitive).mp hsuits).left

end Selector

theorem Strategy.find?_all {arch : Arch} {p : Strategy -> Bool}
    (h : forall other, p (.compiled other) = true -> other = arch) :
    Strategy.all.find? p = (Strategy.ranking arch).find? p := by
  have hother : forall other, other ≠ arch -> p (.compiled other) = false := by
    intro other hne
    rw [Bool.eq_false_iff]
    exact fun hp => hne (h other hp)
  cases arch <;>
    simp [Strategy.all, Strategy.ranking, Arch.all, FastPath.all, List.find?_cons, hother]

namespace Selector

variable {selector : Selector} {sig : Signature}

/-- On its own architecture the platform knows each strategy whose rule holds. -/
theorem takes_eq_permits (hbuilt : sig.Built) (harch : selector.caps.arch = some sig.arch)
    {strategy : Strategy} (hranked : strategy ∈ Strategy.ranking sig.arch) :
    selector.takes sig strategy = decide (selector.Permits sig strategy) := by
  have hfast : forall path, selector.takes sig (.fast path) = true <->
      selector.Permits sig (.fast path) := by
    intro path
    rw [takes_fast hbuilt]
    apply and_iff_right_of_imp
    intro hpermits
    rw [harch]
    exact supportsArch_of_permits hpermits
  apply Bool.eq_iff_iff.mpr
  rw [decide_eq_true_eq]
  cases strategy with
  | compiled arch =>
      have hsame : arch = sig.arch := by simpa [Strategy.ranking] using hranked
      rw [takes_compiled hbuilt, hsame, harch]
      simp
  | fast path => exact hfast path
  | buffer => exact iff_of_true takes_buffer trivial

/-- On the architecture of the platform, the first strategy whose rule holds is selected. -/
theorem select_eq_first_permitted (hbuilt : sig.Built)
    (harch : selector.caps.arch = some sig.arch) :
    (Strategy.ranking sig.arch).find? (fun strategy => decide (selector.Permits sig strategy)) =
      some (selector.select sig) := by
  have hcompiled : forall other, selector.takes sig (.compiled other) = true ->
      other = sig.arch := by
    intro other htakes
    exact ((takes_compiled hbuilt).mp htakes).right.left.symm
  rw [← find?_takes, Strategy.find?_all hcompiled]
  apply List.find?_congr
  intro strategy hranked
  exact (takes_eq_permits hbuilt harch hranked).symm

/-- Without a helper the capture of errors rules compiled code out, and a pointer of eight bytes
rules the first fast path out. -/
def samplePlatform : Selector :=
  { caps := { Capabilities.full .amd64 with helperPresent := false }, settings := .default }

def sampleCapture : Signature :=
  .ofTypes .amd64 [(.address, .long), (.uchar, .boolean)] (.void, .void) true

theorem select_eq_first_permitted_sample :
    sampleCapture.Built ∧ samplePlatform.caps.arch = some sampleCapture.arch ∧
      (Strategy.ranking sampleCapture.arch).find?
          (fun strategy => decide (samplePlatform.Permits sampleCapture strategy)) =
        some (samplePlatform.select sampleCapture) ∧
      samplePlatform.select sampleCapture = .fast .int64 := by
  have hbuilt : sampleCapture.Built := .ofTypes ..
  have harch : samplePlatform.caps.arch = some sampleCapture.arch := rfl
  exact ⟨hbuilt, harch, select_eq_first_permitted hbuilt harch, by decide⟩

/-!
# Foreign signatures
-/

def SharesX86 (selector : Selector) (sig : Signature) : Prop :=
  sig.arch.IsX86 ∧ exists arch, selector.caps.arch = some arch ∧ arch.IsX86

theorem any_supportsArch_iff {path : FastPath} (hpath : path ≠ .int64) :
    selector.caps.arch.any path.supportsArch = true <->
      exists arch, selector.caps.arch = some arch ∧ arch.IsX86 := by
  rw [Option.any_eq_true]
  apply exists_congr
  intro arch
  apply and_congr_right
  intro _
  exact FastPath.supportsArch_iff_isX86 hpath

section Foreign

variable (hbuilt : sig.Built) (hforeign : selector.caps.arch ≠ some sig.arch)

include hbuilt

theorem takes_fast_eq {path : FastPath} (hpath : path ≠ .int64) :
    selector.takes sig (.fast path) = true <->
      selector.SharesX86 sig ∧ selector.Permits sig (.fast path) := by
  rw [takes_fast hbuilt, any_supportsArch_iff hpath, SharesX86, and_assoc]
  apply (and_iff_right_of_imp ?_).symm
  rintro ⟨_, hpermits⟩
  exact (FastPath.supportsArch_iff_isX86 hpath).mp (supportsArch_of_permits hpermits)

include hforeign

theorem takes_compiled_eq_false (arch : Arch) : selector.takes sig (.compiled arch) = false := by
  rw [Bool.eq_false_iff]
  intro htakes
  rcases (takes_compiled hbuilt).mp htakes with ⟨hknown, harch, _⟩
  rw [← harch] at hknown
  exact hforeign hknown

theorem takes_int64_eq_false : selector.takes sig (.fast .int64) = false := by
  rw [Bool.eq_false_iff]
  intro htakes
  rcases (takes_fast hbuilt).mp htakes with ⟨hknown, hpermits⟩
  rcases (Option.any_eq_true _ _).mp hknown with ⟨arch, hcaps, harch⟩
  rw [FastPath.supportsArch_int64.mp harch] at hcaps
  rw [FastPath.supportsArch_int64.mp (supportsArch_of_permits hpermits)] at hforeign
  exact hforeign hcaps

theorem find?_takes_foreign :
    [Strategy.fast .int32, .fast .numeric, .buffer].find? (selector.takes sig) =
      some (selector.select sig) := by
  rw [← find?_takes]
  simp [Strategy.all, Arch.all, FastPath.all, List.find?_cons,
    takes_compiled_eq_false hbuilt hforeign, takes_int64_eq_false hbuilt hforeign]

/-- A foreign signature goes through buffers unless platform and signature are of the two x86
architectures. Between these it is given the first fast path for both whose rule holds, and
never compiled code. -/
theorem select_of_foreign :
    (¬selector.SharesX86 sig -> selector.select sig = .buffer) ∧
      (selector.SharesX86 sig ->
        [Strategy.fast .int32, .fast .numeric, .buffer].find?
            (fun strategy => decide (selector.Permits sig strategy)) =
          some (selector.select sig)) := by
  have hfound := find?_takes_foreign hbuilt hforeign
  constructor
  · intro hapart
    have hrefused : forall path, path ≠ .int64 -> selector.takes sig (.fast path) = false := by
      intro path hpath
      rw [Bool.eq_false_iff]
      exact fun htakes => hapart ((takes_fast_eq hbuilt hpath).mp htakes).left
    rw [List.find?_cons, hrefused .int32 (by decide), List.find?_cons,
      hrefused .numeric (by decide), List.find?_cons, takes_buffer] at hfound
    exact (Option.some.inj hfound).symm
  · intro hshares
    have hsame : forall path, path ≠ .int64 ->
        decide (selector.Permits sig (.fast path)) = selector.takes sig (.fast path) := by
      intro path hpath
      apply Bool.eq_iff_iff.mpr
      rw [decide_eq_true_eq, takes_fast_eq hbuilt hpath, and_iff_right hshares]
    rw [← hfound, List.find?_cons, List.find?_cons, List.find?_cons, List.find?_cons,
      List.find?_cons, hsame .int32 (by decide), hsame .numeric (by decide)]
    rfl

end Foreign

def sampleForeign : Signature :=
  .ofTypes .i386 [(.address, .int), (.double, .double)] (.void, .void) false

def foreignPlatform : Selector :=
  { caps := .full .amd64, settings := .default }

theorem select_of_foreign_sample :
    sampleForeign.Built ∧ foreignPlatform.caps.arch ≠ some sampleForeign.arch ∧
      foreignPlatform.SharesX86 sampleForeign ∧
      [Strategy.fast .int32, .fast .numeric, .buffer].find?
          (fun strategy => decide (foreignPlatform.Permits sampleForeign strategy)) =
        some (foreignPlatform.select sampleForeign) ∧
      foreignPlatform.select sampleForeign = .fast .numeric := by
  have hbuilt : sampleForeign.Built := .ofTypes ..
  have hforeign : foreignPlatform.caps.arch ≠ some sampleForeign.arch := by decide
  have hshares : foreignPlatform.SharesX86 sampleForeign := ⟨Or.inl rfl, .amd64, rfl, Or.inr rfl⟩
  exact ⟨hbuilt, hforeign, hshares, (select_of_foreign hbuilt hforeign).right hshares, by decide⟩

/-- Not every foreign signature goes through buffers. -/
theorem not_buffer_of_foreign :
    ¬forall (selector : Selector) (sig : Signature), sig.Built ->
      selector.caps.arch ≠ some sig.arch -> selector.select sig = .buffer := by
  intro h
  have hbuffer := h foreignPlatform sampleForeign (.ofTypes ..) (by decide)
  exact absurd hbuffer (by decide)

end Selector
end NativeCall
