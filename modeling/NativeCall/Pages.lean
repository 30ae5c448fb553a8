import NativeCall.Word

/-!
# Pages

The memory that arenas are reserved in, as a list of mapped extents in ascending order, and the
answers of the system that keeps it. Where the system looks for room and what it refuses are data,
so that nothing rests on them.
-/

namespace NativeCall

/-- The end of the addresses that a process can map. -/
def userSpace : Nat := 0x8000_0000_0000

/-!
# Aligned numbers
-/

/-- The least multiple of `align` that is not below `n`. -/
def alignUp (align n : Nat) : Nat :=
  (n + align - 1) / align * align

theorem le_alignUp {align : Nat} (h : 0 < align) (n : Nat) : n ≤ alignUp align n := by
  have parts := Nat.div_add_mod (n + align - 1) align
  have small := Nat.mod_lt (n + align - 1) h
  rw [Nat.mul_comm] at parts
  unfold alignUp
  omega

theorem dvd_alignUp (align n : Nat) : align ∣ alignUp align n :=
  Nat.dvd_mul_left _ _

/-!
# The system
-/

/-- Pages of a power of two bytes, of eight at least and of fewer than there are addresses. -/
structure PageSize where
  exponent : Nat
  three_le_exponent : 3 ≤ exponent
  exponent_lt : exponent < 64
  deriving DecidableEq, Repr

namespace PageSize

def bytes (page : PageSize) : Nat :=
  Nat.pow 2 page.exponent

theorem bytes_pos (page : PageSize) : 0 < page.bytes :=
  Nat.two_pow_pos page.exponent

theorem bytes_lt (page : PageSize) : page.bytes < wordCount :=
  Nat.pow_lt_pow_right (by decide) page.exponent_lt

theorem eight_dvd_bytes (page : PageSize) : 8 ∣ page.bytes :=
  Nat.pow_dvd_pow 2 page.three_le_exponent

end PageSize

/-- The answers of the system to those who ask for pages. -/
structure System where
  pageSize : PageSize
  /-- Where it begins to look for room. -/
  lowest : Nat
  /-- The error number with which it refuses to make pages executable, if it does. -/
  refusal : Option Int
  /-- The error number with which it refuses to release the pages from an address on. -/
  retention : Address -> Option Int

/-- A system that refuses nothing. -/
def System.usual : System :=
  { pageSize := { exponent := 12, three_le_exponent := by decide, exponent_lt := by decide }
    lowest := 0x10000
    refusal := none
    retention := fun _ => none }

/-!
# Mapped memory
-/

/-- A stretch of addresses. -/
structure Extent where
  base : Nat
  size : Nat
  deriving DecidableEq, Repr

structure Pages extends System where
  mapped : List Extent

namespace Pages

def empty : Pages :=
  { System.usual with mapped := [] }

/-- The start of the first gap of `size` bytes from `start` on, at a page. -/
def firstGap (page : PageSize) (size start : Nat) : List Extent -> Nat
  | [] => start
  | extent :: rest =>
      if start + size ≤ extent.base then start
      else firstGap page size (max start (alignUp page.bytes (extent.base + extent.size))) rest

theorem dvd_firstGap {page : PageSize} {start : Nat} (size : Nat) (extents : List Extent)
    (h : page.bytes ∣ start) : page.bytes ∣ firstGap page size start extents := by
  induction extents generalizing start with
  | nil => exact h
  | cons extent rest ih =>
      unfold firstGap
      split
      · exact h
      · apply ih
        rcases Nat.le_total start (alignUp page.bytes (extent.base + extent.size)) with hle | hle
        · rw [Nat.max_eq_right hle]
          exact dvd_alignUp _ _
        · rw [Nat.max_eq_left hle]
          exact h

theorem start_le_firstGap (page : PageSize) (size start : Nat) (extents : List Extent) :
    start ≤ firstGap page size start extents := by
  induction extents generalizing start with
  | nil => exact Nat.le_refl start
  | cons extent rest ih =>
      unfold firstGap
      split
      · exact Nat.le_refl start
      · exact Nat.le_trans (Nat.le_max_left _ _) (ih _)

def insertExtent (extent : Extent) : List Extent -> List Extent
  | [] => [extent]
  | first :: rest =>
      if extent.base ≤ first.base then extent :: first :: rest
      else first :: insertExtent extent rest

/-- The start of a page, but not of the first one, whose `size` bytes from there lie inside the
address space. -/
abbrev Reservation (page : PageSize) (size : Nat) :=
  { base : Address //
    0 < base.toNat ∧ base.toNat + size ≤ userSpace ∧ page.bytes ∣ base.toNat }

def reserve (pages : Pages) (size : Nat) : Option (Reservation pages.pageSize size × Pages) :=
  let start := alignUp pages.pageSize.bytes (max 1 pages.lowest)
  let base := firstGap pages.pageSize size start pages.mapped
  have positive : 0 < base :=
    calc 0 < max 1 pages.lowest := Nat.le_max_left _ _
      _ ≤ start := le_alignUp pages.pageSize.bytes_pos _
      _ ≤ base := start_le_firstGap _ _ _ _
  have aligned : pages.pageSize.bytes ∣ base := dvd_firstGap _ _ (dvd_alignUp _ _)
  if fits : base + size ≤ userSpace then
    let address : Address := BitVec.ofNat 64 base
    have same : address.toNat = base := by
      rw [BitVec.toNat_ofNat]
      apply Nat.mod_eq_of_lt
      simp only [userSpace] at fits
      omega
    some (⟨address, same ▸ positive, same ▸ fits, same ▸ aligned⟩,
      { pages with mapped := insertExtent { base, size } pages.mapped })
  else
    none

def release (pages : Pages) (base : Address) : Pages :=
  { pages with mapped := pages.mapped.filter fun extent => extent.base != base.toNat }

end Pages
end NativeCall
