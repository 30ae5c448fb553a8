import Mathlib.Data.List.Forall2
import NativeCall.Arena
import NativeCall.Proofs.Outcome

/-!
# Code in arenas

A piece of code that is written into an arena stays there whatever is written after it. The
places of several pieces are known beforehand: `offsetsFrom` computes them from the lengths
of the pieces alone, so they are the same in every arena.
-/

namespace NativeCall

/-!
# Aligned numbers
-/

theorem alignUp_le_of_dvd {align n bound : Nat} (hdvd : align ∣ bound) (hle : n ≤ bound) :
    alignUp align n ≤ bound := by
  rcases hdvd with ⟨k, rfl⟩
  rcases Nat.eq_zero_or_pos align with rfl | hpos
  · rw [alignUp, Nat.mul_zero]
    exact Nat.zero_le _
  · have hquotient : (n + align - 1) / align ≤ k := by
      apply Nat.le_of_lt_succ
      rw [Nat.div_lt_iff_lt_mul hpos, Nat.succ_mul, Nat.mul_comm k]
      omega
    rw [alignUp, Nat.mul_comm]
    exact Nat.mul_le_mul_left align hquotient

theorem alignUp_lt {align : Nat} (hpos : 0 < align) (n : Nat) : alignUp align n < n + align := by
  have hparts := Nat.div_mul_le_self (n + align - 1) align
  unfold alignUp
  omega

theorem alignUp_eq_self_iff {align n : Nat} (hpos : 0 < align) :
    alignUp align n = n <-> align ∣ n := by
  constructor
  · intro heq
    rw [← heq]
    exact dvd_alignUp align n
  · intro hdvd
    exact Nat.le_antisymm (alignUp_le_of_dvd hdvd (Nat.le_refl n)) (le_alignUp hpos n)

namespace Arena

/-!
# What an arena holds
-/

/-- The code stands at an offset, inside what was written. -/
structure Holds (arena : Arena) (offset : Nat) (code : List Byte) : Prop where
  inside : offset + code.length ≤ arena.used
  read : arena.read offset code.length = code

/-- An arena with more written to it, or with another state. -/
structure Extends (next arena : Arena) : Prop where
  base : next.base = arena.base
  capacity : next.capacity = arena.capacity
  image : arena.image <+: next.image

namespace Extends

theorem refl (arena : Arena) : arena.Extends arena :=
  ⟨rfl, rfl, List.prefix_refl _⟩

theorem trans {last next arena : Arena} (h : last.Extends next) (g : next.Extends arena) :
    last.Extends arena :=
  ⟨h.base.trans g.base, h.capacity.trans g.capacity, g.image.trans h.image⟩

theorem used_le {next arena : Arena} (h : next.Extends arena) : arena.used ≤ next.used :=
  h.image.length_le

end Extends

/-!
# Reading back
-/

theorem read_of_le {arena : Arena} {offset count : Nat} (h : offset + count ≤ arena.used) :
    arena.read offset count = (arena.image.drop offset).take count := by
  have whole : ((arena.image.drop offset).take count).length = count := by
    rw [List.length_take, List.length_drop]
    change offset + count ≤ arena.image.length at h
    omega
  simp only [read, whole, Nat.sub_self, List.replicate_zero, List.append_nil]

/-- What an arena holds, it holds for good. -/
theorem Holds.extend {arena next : Arena} {offset : Nat} {code : List Byte}
    (h : arena.Holds offset code) (more : next.Extends arena) : next.Holds offset code := by
  rcases more.image with ⟨suffix, himage⟩
  have hlength : next.used = arena.used + suffix.length := by
    rw [used, ← himage, List.length_append, used]
  have hinside : offset + code.length ≤ next.used := by
    have := h.inside
    omega
  refine ⟨hinside, ?_⟩
  have hoffset : offset ≤ arena.image.length :=
    Nat.le_trans (Nat.le_add_right _ _) h.inside
  have hrest : code.length ≤ (arena.image.drop offset).length := by
    have : offset + code.length ≤ arena.image.length := h.inside
    rw [List.length_drop]
    omega
  have hread := h.read
  rw [read_of_le h.inside] at hread
  rw [read_of_le hinside, ← himage, List.drop_append_of_le_length hoffset,
    List.take_append_of_le_length hrest]
  exact hread

/-!
# New arenas
-/

theorem toSystem_of_reserve {pages rest : Pages} {size : Nat}
    {base : Pages.Reservation pages.pageSize size} (h : pages.reserve size = some (base, rest)) :
    rest.toSystem = pages.toSystem := by
  unfold Pages.reserve at h
  simp only at h
  split at h <;> cases h
  rfl

/-- A new arena: blank and writable whole pages that were reserved for it. -/
structure IsNew (pages : Pages) (arena : Arena) (rest : Pages) : Prop where
  blank : arena.image = []
  state : arena.state = .writable
  positive : 0 < arena.capacity
  whole : pages.pageSize.bytes ∣ arena.capacity
  reserved : exists base, pages.reserve arena.capacity = some (base, rest) ∧
    base.val = arena.base
  system : rest.toSystem = pages.toSystem

theorem IsNew.codeAlign_dvd_capacity {pages rest : Pages} {arena : Arena}
    (h : IsNew pages arena rest) : codeAlign ∣ arena.capacity :=
  Nat.dvd_trans pages.pageSize.eight_dvd_bytes h.whole

theorem allocate_eq_ok {pages rest : Pages} {total : Nat} {arena : Arena}
    (h : allocate pages total = .ok (arena, rest)) : IsNew pages arena rest := by
  unfold allocate at h
  split at h
  case isTrue => cases h
  case isFalse hpositive =>
    split at h
    · cases h
    · simp only at h
      split at h
      · cases h
      case h_2 hreserve =>
        cases h
        have hle : total ≤ alignUp pages.pageSize.bytes total :=
          le_alignUp pages.pageSize.bytes_pos total
        constructor
        case blank => rfl
        case state => rfl
        case positive => exact Nat.lt_of_lt_of_le (Nat.pos_of_ne_zero hpositive) hle
        case whole => exact dvd_alignUp _ _
        case reserved => exact ⟨_, hreserve, rfl⟩
        case system => exact toSystem_of_reserve hreserve

/-!
# Writing
-/

theorem write_eq_ok {arena next : Arena} {code : List Byte} {offset : Nat}
    (h : arena.write code = .ok (next, offset)) :
    next.Extends arena ∧ offset = alignUp codeAlign arena.used ∧
      next.used = offset + code.length ∧ next.Holds offset code := by
  unfold write at h
  cases hstate : arena.state with
  | executable =>
      rw [hstate] at h
      cases h
  | writable =>
      simp only [hstate] at h
      split at h
      case isFalse => cases h
      case isTrue fits =>
        cases h
        have hle : arena.used ≤ alignUp codeAlign arena.used := le_alignUp (by decide) _
        generalize hoffset : alignUp codeAlign arena.used = offset at hle fits
        -- The padding ends at the offset, so the code is all that comes after it.
        have hpadded : (arena.image ++ List.replicate (offset - arena.used) 0).length = offset := by
          rw [List.length_append, List.length_replicate]
          change arena.used + _ = _
          omega
        have hused : (arena.image ++ List.replicate (offset - arena.used) 0 ++ code).length =
            offset + code.length := by
          rw [List.length_append, hpadded]
        refine ⟨⟨rfl, rfl, ?_⟩, rfl, hused, Nat.le_of_eq hused.symm, ?_⟩
        · exact ⟨_, (List.append_assoc _ _ _).symm⟩
        · rw [read_of_le (Nat.le_of_eq hused.symm)]
          simp only
          rw [List.drop_left' hpadded, List.take_length]

theorem state_of_write {arena next : Arena} {code : List Byte} {offset : Nat}
    (h : arena.write code = .ok (next, offset)) :
    arena.state = .writable ∧ next.state = .writable := by
  unfold write at h
  cases hstate : arena.state with
  | executable =>
      rw [hstate] at h
      cases h
  | writable =>
      simp only [hstate] at h
      split at h <;> cases h
      exact ⟨rfl, rfl⟩

theorem write_eq_error {arena : Arena} {code : List Byte} {e : ArenaError}
    (h : arena.write code = .error e) :
    (arena.state = .executable ∧ e = .alreadyFinalized) ∨
      (arena.state = .writable ∧ e = .capacity code.length arena.remaining) := by
  unfold write at h
  cases hstate : arena.state with
  | executable =>
      rw [hstate] at h
      cases h
      exact .inl ⟨rfl, rfl⟩
  | writable =>
      simp only [hstate] at h
      split at h <;> cases h
      exact .inr ⟨rfl, rfl⟩

/-- Where the pieces of a list are put, after some bytes are used. -/
def offsetsFrom : Nat -> List (List Byte) -> List Nat
  | _, [] => []
  | used, code :: rest =>
      let offset := alignUp codeAlign used
      offset :: offsetsFrom (offset + code.length) rest

theorem length_offsetsFrom (used : Nat) (codes : List (List Byte)) :
    (offsetsFrom used codes).length = codes.length := by
  induction codes generalizing used with
  | nil => rfl
  | cons code rest ih => rw [offsetsFrom, List.length_cons, ih, List.length_cons]

theorem codeAlign_dvd_offsetsFrom {used offset : Nat} {codes : List (List Byte)}
    (h : offset ∈ offsetsFrom used codes) : codeAlign ∣ offset := by
  induction codes generalizing used with
  | nil => cases h
  | cons code rest ih =>
      rcases List.mem_cons.mp h with rfl | h
      · exact dvd_alignUp _ _
      · exact ih h

theorem le_of_mem_offsetsFrom {used offset : Nat} {codes : List (List Byte)}
    (h : offset ∈ offsetsFrom used codes) : used ≤ offset := by
  induction codes generalizing used with
  | nil => cases h
  | cons code rest ih =>
      have hle : used ≤ alignUp codeAlign used := le_alignUp (by decide) _
      rcases List.mem_cons.mp h with rfl | h
      · exact hle
      · exact Nat.le_trans (Nat.le_trans hle (Nat.le_add_right _ _)) (ih h)

theorem pairwise_offsetsFrom (used : Nat) (codes : List (List Byte)) :
    ((offsetsFrom used codes).zip codes).Pairwise
      fun piece later => piece.1 + piece.2.length ≤ later.1 := by
  induction codes generalizing used with
  | nil => exact .nil
  | cons code rest ih =>
      refine List.pairwise_cons.mpr ⟨?_, ih _⟩
      intro later hmem
      exact le_of_mem_offsetsFrom (List.of_mem_zip hmem).1

theorem writeAll_eq_ok {arena final : Arena} {codes : List (List Byte)} {offsets : List Nat}
    (h : arena.writeAll codes = .ok (final, offsets)) :
    final.Extends arena ∧ offsets = offsetsFrom arena.used codes ∧
      List.Forall₂ final.Holds offsets codes := by
  induction codes generalizing arena offsets with
  | nil =>
      cases h
      exact ⟨.refl _, rfl, .nil⟩
  | cons code rest ih =>
      unfold writeAll at h
      rcases bind_eq_ok h with ⟨⟨next, offset⟩, hwrite, h⟩
      rcases bind_eq_ok h with ⟨⟨last, later⟩, hrest, h⟩
      cases h
      rcases write_eq_ok hwrite with ⟨hnext, hoffset, hused, hholds⟩
      rcases ih hrest with ⟨hlast, hlater, hothers⟩
      -- Later pieces only extend the arena, so the first one stays where it is.
      refine ⟨hlast.trans hnext, ?_, .cons (hholds.extend hlast) hothers⟩
      rw [offsetsFrom, hlater, hused, hoffset]

/-!
# Finalized arenas
-/

theorem finalize_eq_ok {arena final : Arena} {pages : Pages}
    (h : arena.finalize pages = .ok final) :
    final.Extends arena ∧ final.isExecutable = true := by
  unfold finalize at h
  cases hstate : arena.state with
  | executable =>
      rw [hstate] at h
      cases h
  | writable =>
      cases hrefusal : pages.refusal with
      | some code =>
          simp only [hstate, hrefusal] at h
          cases h
      | none =>
          simp only [hstate, hrefusal] at h
          cases h
          exact ⟨⟨rfl, rfl, List.prefix_refl _⟩, rfl⟩

theorem state_of_finalize {arena final : Arena} {pages : Pages}
    (h : arena.finalize pages = .ok final) : arena.state = .writable := by
  unfold finalize at h
  cases hstate : arena.state with
  | executable =>
      rw [hstate] at h
      cases h
  | writable => rfl

theorem finalize_eq_error {arena : Arena} {pages : Pages} {e : ArenaError}
    (h : arena.finalize pages = .error e) :
    (arena.state = .executable ∧ e = .alreadyFinalized) ∨
      (arena.state = .writable ∧
        exists code, pages.refusal = some code ∧ e = .protect (some code)) := by
  unfold finalize at h
  cases hstate : arena.state with
  | executable =>
      rw [hstate] at h
      cases h
      exact .inl ⟨rfl, rfl⟩
  | writable =>
      simp only [hstate] at h
      split at h
      case h_1 code hrefusal =>
        cases h
        exact .inr ⟨rfl, code, hrefusal, rfl⟩
      case h_2 => cases h

theorem entry_eq_ok {arena : Arena} {offset : Nat} {address : Address}
    (h : arena.entry offset = .ok address) :
    address = arena.base + BitVec.ofNat 64 offset := by
  unfold entry at h
  cases hstate : arena.state with
  | writable =>
      rw [hstate] at h
      cases h
  | executable =>
      simp only [hstate] at h
      split at h <;> cases h
      rfl

/-- Arenas lie below the end of the address space, so addresses inside do not wrap around. -/
theorem toNat_base_add {arena : Arena} {offset : Nat} (h : offset ≤ arena.used) :
    (arena.base + BitVec.ofNat 64 offset).toNat = arena.base.toNat + offset := by
  have hspace := arena.inside_userSpace
  have hused := arena.used_le_capacity
  simp only [userSpace] at hspace
  rw [BitVec.toNat_add, BitVec.toNat_ofNat, Nat.add_mod_mod]
  apply Nat.mod_eq_of_lt
  omega

theorem contains_of_entry {arena : Arena} {offset : Nat} {address : Address}
    (h : arena.entry offset = .ok address) : arena.contains address = true := by
  have hcapacity := arena.used_le_capacity
  have haddress := entry_eq_ok h
  unfold entry at h
  cases hstate : arena.state with
  | writable =>
      rw [hstate] at h
      cases h
  | executable =>
      simp only [hstate] at h
      split at h
      case isTrue => cases h
      case isFalse hinside =>
        simp only [contains, haddress, toNat_base_add (Nat.le_of_not_le hinside),
          Bool.and_eq_true, decide_eq_true_eq]
        omega

theorem codeAlign_dvd_address {arena : Arena} {offset : Nat} (h : offset ≤ arena.used)
    (aligned : codeAlign ∣ offset) :
    codeAlign ∣ (arena.base + BitVec.ofNat 64 offset).toNat := by
  rw [toNat_base_add h]
  exact Nat.dvd_add arena.codeAlign_dvd_base aligned

/-- The code stands at an address. -/
def HoldsAt (arena : Arena) (address : Address) (code : List Byte) : Prop :=
  arena.base.toNat ≤ address.toNat ∧ arena.Holds (address.toNat - arena.base.toNat) code

theorem Holds.offset_le_used {arena : Arena} {offset : Nat} {code : List Byte}
    (h : arena.Holds offset code) : offset ≤ arena.used :=
  Nat.le_trans (Nat.le_add_right _ _) h.inside

theorem Holds.holdsAt {arena : Arena} {offset : Nat} {code : List Byte}
    (h : arena.Holds offset code) : arena.HoldsAt (arena.base + BitVec.ofNat 64 offset) code := by
  unfold HoldsAt
  rw [toNat_base_add h.offset_le_used, Nat.add_sub_cancel_left]
  exact ⟨Nat.le_add_right _ _, h⟩

end Arena
end NativeCall
