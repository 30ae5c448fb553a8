import Mathlib.Data.List.Basic
import NativeCall.Proofs.Signature

/-!
# Outcomes of compilation

A compilation checks the signature, then the helper, then the addresses, and writes code after
that. Each outcome comes with the checks that led to it, and no two outcomes have the same.
-/

namespace NativeCall

/-!
# Far addresses
-/

/-- The first address of a target and a helper that a doubleword does not hold. -/
inductive IsFirstFar (target : Address) : Option Address -> Address -> Prop where
  | target {helper : Option Address} (hfar : halfWordCount ≤ target.toNat) :
      IsFirstFar target helper target
  | helper {address : Address} (hnear : target.toNat < halfWordCount)
      (hfar : halfWordCount ≤ address.toNat) : IsFirstFar target (some address) address

section Far

variable {arch : Arch} {target address : Address} {helper : Option Address}

theorem exists_isFirstFar_iff :
    (exists address, IsFirstFar target helper address) <->
      exists address, address ∈ target :: helper.toList ∧ halfWordCount ≤ address.toNat := by
  constructor
  · rintro ⟨address, hfar⟩
    cases hfar with
    | target hfar => exact ⟨target, List.mem_cons_self, hfar⟩
    | helper _ hfar => exact ⟨address, List.mem_pair.mpr (Or.inr rfl), hfar⟩
  · rintro ⟨address, hmem, hfar⟩
    by_cases hnear : target.toNat < halfWordCount
    · cases helper with
      | none =>
          rw [List.mem_singleton.mp hmem] at hfar
          exact absurd hnear (Nat.not_lt.mpr hfar)
      | some helper =>
          rcases List.mem_pair.mp hmem with rfl | rfl
          · exact absurd hnear (Nat.not_lt.mpr hfar)
          · exact ⟨address, .helper hnear hfar⟩
    · exact ⟨target, .target (Nat.not_lt.mp hnear)⟩

theorem find?_eq_some_iff_isFirstFar :
    (target :: helper.toList).find? (fun other => decide (halfWordCount ≤ other.toNat)) =
        some address <->
      IsFirstFar target helper address := by
  constructor
  · intro hfind
    rw [List.find?_cons] at hfind
    split at hfind
    next htarget =>
      cases hfind
      exact .target (of_decide_eq_true htarget)
    next htarget =>
      have hmem := List.mem_of_find?_eq_some hfind
      have hfar := List.find?_some hfind
      rw [Option.mem_toList.mp hmem]
      exact .helper (Nat.not_le.mp (of_decide_eq_false htarget)) (of_decide_eq_true hfar)
  · intro hfirst
    cases hfirst with
    | target hfar => simp [hfar]
    | helper hnear hfar => simp [Nat.not_le.mpr hnear, hfar]

theorem unreachableAddress?_eq_some :
    Trampoline.unreachableAddress? arch (target :: helper.toList) = some address <->
      arch = .i386 ∧ IsFirstFar target helper address := by
  cases arch with
  | i386 =>
      rw [← find?_eq_some_iff_isFirstFar, and_iff_right rfl]
      exact Iff.rfl
  | amd64 | aarch64 => simp [Trampoline.unreachableAddress?]

end Far

/-!
# One outcome for each case
-/

/-- The signature, the helper and the addresses pass the checks of a compilation. -/
structure Signature.IsChecked (sig : Signature) (arch : Arch) (target : Address)
    (helper : Option Address) : Prop where
  accepts : Trampoline.accepts arch sig = true
  helped : sig.capturesError = true -> helper.isSome = true
  reachable : arch = .i386 -> forall address, address ∈ target :: (sig.calledHelper helper).toList ->
    address.toNat < halfWordCount

/-- What a compilation comes to, and why. -/
inductive Compilation (arch : Arch) (sig : Signature) (target : Address)
    (helper : Option Address) : Outcome CompileError Trampoline -> Prop where
  | unsupported (hrefuses : Trampoline.accepts arch sig = false) :
      Compilation arch sig target helper (.error (.error (.unsupported arch sig.text)))
  | missingHelper (haccepts : Trampoline.accepts arch sig = true)
      (hcaptures : sig.capturesError = true) (hhelper : helper = none) :
      Compilation arch sig target helper (.error (.error .missingHelper))
  | outOfRange {address : Address} (haccepts : Trampoline.accepts arch sig = true)
      (hhelped : sig.capturesError = true -> helper.isSome = true) (harch : arch = .i386)
      (hfar : IsFirstFar target (sig.calledHelper helper) address) :
      Compilation arch sig target helper (.error (.error (.addressOutOfRange address)))
  | fault {fault : Fault} (hchecked : sig.IsChecked arch target helper)
      (hbytes : Trampoline.bytes arch sig target (sig.calledHelper helper) = .error fault) :
      Compilation arch sig target helper (.error (.fault fault))
  | done {code : List Byte} (hchecked : sig.IsChecked arch target helper)
      (hbytes : Trampoline.bytes arch sig target (sig.calledHelper helper) = .ok code) :
      Compilation arch sig target helper (.ok { arch, frame := sig.frame, target, code })

theorem compilation (arch : Arch) (sig : Signature) (target : Address)
    (helper : Option Address) :
    Compilation arch sig target helper (Trampoline.compile arch sig target helper) := by
  unfold Trampoline.compile
  split
  case isFalse hrefuses => exact .unsupported (Bool.eq_false_iff.mpr hrefuses)
  case isTrue haccepts =>
    by_cases hhelped : sig.capturesError = true -> helper.isSome = true
    · rw [sig.usedHelper_eq hhelped]
      simp only
      cases hreach : Trampoline.unreachableAddress? arch
          (target :: (sig.calledHelper helper).toList) with
      | some address =>
          rcases unreachableAddress?_eq_some.mp hreach with ⟨harch, hfar⟩
          exact .outOfRange haccepts hhelped harch hfar
      | none =>
          have hchecked : sig.IsChecked arch target helper :=
            { accepts := haccepts
              helped := hhelped
              reachable := by
                intro harch address hmem
                by_contra hfar
                rcases exists_isFirstFar_iff.mpr ⟨address, hmem, Nat.not_lt.mp hfar⟩ with
                  ⟨first, hfirst⟩
                rw [unreachableAddress?_eq_some.mpr ⟨harch, hfirst⟩] at hreach
                cases hreach }
          cases hbytes : Trampoline.bytes arch sig target (sig.calledHelper helper) with
          | error fault => exact .fault hchecked hbytes
          | ok code => exact .done hchecked hbytes
    · rcases Classical.not_imp.mp hhelped with ⟨hcaptures, hnone⟩
      rw [Option.not_isSome_iff_eq_none.mp hnone]
      simp only [Trampoline.usedHelper, hcaptures]
      exact .missingHelper haccepts hcaptures rfl

section Outcomes

variable {arch : Arch} {sig : Signature} {target : Address} {helper : Option Address}

theorem IsFirstFar.unique {first second : Address} (hfirst : IsFirstFar target helper first)
    (hsecond : IsFirstFar target helper second) : first = second := by
  have hfind := find?_eq_some_iff_isFirstFar.mpr hfirst
  rw [find?_eq_some_iff_isFirstFar.mpr hsecond] at hfind
  exact (Option.some.inj hfind).symm

theorem Signature.IsChecked.not_isFirstFar {address : Address}
    (hchecked : sig.IsChecked arch target helper) (harch : arch = .i386) :
    ¬IsFirstFar target (sig.calledHelper helper) address := by
  intro hfirst
  rcases exists_isFirstFar_iff.mp ⟨address, hfirst⟩ with ⟨other, hmem, hfar⟩
  exact Nat.not_lt.mpr hfar (hchecked.reachable harch other hmem)

theorem compile_eq_unsupported_iff :
    Trampoline.compile arch sig target helper = .error (.error (.unsupported arch sig.text)) <->
      Trampoline.accepts arch sig = false := by
  have hcase := compilation arch sig target helper
  generalize Trampoline.compile arch sig target helper = outcome at hcase
  cases hcase with
  | unsupported hrefuses => exact iff_of_true rfl hrefuses
  | missingHelper haccepts | outOfRange haccepts => simp [haccepts]
  | fault hchecked | done hchecked => simp [hchecked.accepts]

theorem compile_eq_missingHelper_iff :
    Trampoline.compile arch sig target helper = .error (.error .missingHelper) <->
      Trampoline.accepts arch sig = true ∧ sig.capturesError = true ∧ helper = none := by
  have hcase := compilation arch sig target helper
  generalize Trampoline.compile arch sig target helper = outcome at hcase
  have hclash : (sig.capturesError = true -> helper.isSome = true) ->
      ¬(sig.capturesError = true ∧ helper = none) := by
    rintro hhelped ⟨hcaptures, rfl⟩
    cases hhelped hcaptures
  cases hcase with
  | unsupported hrefuses => simp [hrefuses]
  | missingHelper haccepts hcaptures hnone =>
      exact iff_of_true rfl ⟨haccepts, hcaptures, hnone⟩
  | outOfRange _ hhelped => exact iff_of_false nofun fun h => hclash hhelped h.right
  | fault hchecked | done hchecked =>
      exact iff_of_false nofun fun h => hclash hchecked.helped h.right

theorem compile_eq_addressOutOfRange_iff {address : Address} :
    Trampoline.compile arch sig target helper = .error (.error (.addressOutOfRange address)) <->
      Trampoline.accepts arch sig = true ∧ (sig.capturesError = true -> helper.isSome = true) ∧
        arch = .i386 ∧ IsFirstFar target (sig.calledHelper helper) address := by
  have hcase := compilation arch sig target helper
  generalize Trampoline.compile arch sig target helper = outcome at hcase
  cases hcase with
  | unsupported hrefuses => simp [hrefuses]
  | missingHelper _ hcaptures hnone => simp [hcaptures, hnone]
  | outOfRange haccepts hhelped harch hfar =>
      constructor
      · intro heq
        cases heq
        exact ⟨haccepts, hhelped, harch, hfar⟩
      · rintro ⟨_, _, _, hother⟩
        rw [hfar.unique hother]
  | fault hchecked | done hchecked =>
      exact iff_of_false nofun fun h => hchecked.not_isFirstFar h.right.right.left h.right.right.right

theorem Signature.IsChecked.ok_or_fault (hchecked : sig.IsChecked arch target helper) :
    (exists trampoline, Trampoline.compile arch sig target helper = .ok trampoline) ∨
      exists fault, Trampoline.compile arch sig target helper = .error (.fault fault) := by
  have hcase := compilation arch sig target helper
  generalize Trampoline.compile arch sig target helper = outcome at hcase
  cases hcase with
  | unsupported hrefuses =>
      rw [hchecked.accepts] at hrefuses
      cases hrefuses
  | missingHelper _ hcaptures hnone =>
      have hhelper := hchecked.helped hcaptures
      rw [hnone] at hhelper
      cases hhelper
  | outOfRange _ _ harch hfar => exact absurd hfar (hchecked.not_isFirstFar harch)
  | fault => exact Or.inr ⟨_, rfl⟩
  | done => exact Or.inl ⟨_, rfl⟩

theorem Signature.IsChecked.compile_eq (hchecked : sig.IsChecked arch target helper)
    {code : List Byte}
    (hbytes : Trampoline.bytes arch sig target (sig.calledHelper helper) = .ok code) :
    Trampoline.compile arch sig target helper =
      .ok { arch, frame := sig.frame, target, code } := by
  have hreach : Trampoline.unreachableAddress? arch
      (target :: (sig.calledHelper helper).toList) = none := by
    apply Option.eq_none_iff_forall_ne_some.mpr
    intro address hsome
    rcases unreachableAddress?_eq_some.mp hsome with ⟨harch, hfirst⟩
    exact hchecked.not_isFirstFar harch hfirst
  rw [Trampoline.compile, if_pos hchecked.accepts, sig.usedHelper_eq hchecked.helped]
  simp only [hreach, hbytes]

theorem of_compile_eq_ok {trampoline : Trampoline}
    (hok : Trampoline.compile arch sig target helper = .ok trampoline) :
    sig.IsChecked arch target helper ∧
      Trampoline.bytes arch sig target (sig.calledHelper helper) = .ok trampoline.code ∧
      trampoline.arch = arch ∧ trampoline.frame = sig.frame ∧ trampoline.target = target := by
  have hcase := compilation arch sig target helper
  rw [hok] at hcase
  cases hcase with
  | done hchecked hbytes => exact ⟨hchecked, hbytes, rfl, rfl, rfl⟩

end Outcomes
end NativeCall
