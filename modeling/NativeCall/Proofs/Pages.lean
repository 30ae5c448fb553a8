import NativeCall.Process
import NativeCall.Proofs.Arena

/-!
# Mapped memory

Mapped extents are in ascending order and do not overlap. A reservation puts a new one into a gap
between them, and there is no gap that the system could not choose. Dropping arenas takes out the
extents that start where the arenas start, but for those that the system refuses to release.
-/

namespace NativeCall

namespace Extent

def contains (extent : Extent) (address : Address) : Bool :=
  extent.base ≤ address.toNat && address.toNat < extent.base + extent.size

def Apart (extent other : Extent) : Prop :=
  extent.base + extent.size ≤ other.base ∨ other.base + other.size ≤ extent.base

instance (extent other : Extent) : Decidable (extent.Apart other) :=
  inferInstanceAs (Decidable (_ ∨ _))

theorem Apart.symm {extent other : Extent} (h : extent.Apart other) : other.Apart extent :=
  Or.symm h

theorem Apart.base_ne {extent other : Extent} (h : extent.Apart other) (hsize : 0 < extent.size)
    (hother : 0 < other.size) : extent.base ≠ other.base := by
  rcases h with h | h <;> omega

theorem Apart.contains_eq_false {extent other : Extent} {address : Address}
    (h : extent.Apart other) (hinside : extent.contains address = true) :
    other.contains address = false := by
  simp only [contains, Bool.and_eq_true, decide_eq_true_eq, Bool.and_eq_false_iff,
    decide_eq_false_iff_not] at hinside ⊢
  rcases h with h | h <;> omega

end Extent

def Arena.extent (arena : Arena) : Extent :=
  { base := arena.base.toNat, size := arena.capacity }

theorem Arena.Extends.extent {next arena : Arena} (h : next.Extends arena) :
    next.extent = arena.extent := by
  rw [Arena.extent, h.base, h.capacity]
  rfl

theorem Arena.contains_eq (arena : Arena) (address : Address) :
    arena.contains address = arena.extent.contains address :=
  rfl

namespace Pages

/-!
# Layouts
-/

/-- Extents in ascending order that do not overlap. -/
structure IsLayout (extents : List Extent) : Prop where
  ascending : extents.Pairwise fun extent later => extent.base + extent.size ≤ later.base
  positive : forall extent, extent ∈ extents -> 0 < extent.size

namespace IsLayout

variable {extent : Extent} {extents : List Extent}

theorem nil : IsLayout [] where
  ascending := .nil
  positive := nofun

theorem tail (h : IsLayout (extent :: extents)) : IsLayout extents where
  ascending := h.ascending.tail
  positive := fun other hmem => h.positive other (List.mem_cons_of_mem _ hmem)

theorem head_le (h : IsLayout (extent :: extents)) :
    forall later, later ∈ extents -> extent.base + extent.size ≤ later.base :=
  fun _ hmem => List.rel_of_pairwise_cons h.ascending hmem

theorem filter (h : IsLayout extents) (keep : Extent -> Bool) :
    IsLayout (extents.filter keep) where
  ascending := h.ascending.filter keep
  positive := fun extent hmem => h.positive extent (List.mem_filter.mp hmem).1

theorem pairwise_apart (h : IsLayout extents) : extents.Pairwise Extent.Apart :=
  h.ascending.imp fun hbelow => Or.inl hbelow

theorem pairwise_base_ne (h : IsLayout extents) :
    extents.Pairwise fun extent other => extent.base ≠ other.base := by
  apply h.pairwise_apart.imp_of_mem
  intro extent other hextent hother hapart
  exact hapart.base_ne (h.positive extent hextent) (h.positive other hother)

end IsLayout

/-!
# Gaps
-/

theorem firstGap_apart {page : PageSize} {size start : Nat} {extents : List Extent}
    (h : IsLayout extents) {extent : Extent} (hmem : extent ∈ extents) :
    extent.Apart { base := firstGap page size start extents, size } := by
  induction extents generalizing start with
  | nil => cases hmem
  | cons first rest ih =>
      unfold firstGap
      split
      case isTrue hfits =>
        -- The gap is in front of the first extent, and so of all.
        right
        rcases List.mem_cons.mp hmem with rfl | hmem
        · exact hfits
        · exact Nat.le_trans (Nat.le_add_right_of_le hfits) (h.head_le extent hmem)
      case isFalse =>
        rcases List.mem_cons.mp hmem with rfl | hmem
        · left
          calc extent.base + extent.size
              ≤ alignUp page.bytes (extent.base + extent.size) := le_alignUp page.bytes_pos _
            _ ≤ max start (alignUp page.bytes (extent.base + extent.size)) := Nat.le_max_right _ _
            _ ≤ _ := start_le_firstGap _ _ _ _
        · exact ih h.tail hmem

theorem firstGap_of_apart {page : PageSize} {size base : Nat} {extents : List Extent}
    (haligned : page.bytes ∣ base)
    (h : forall extent, extent ∈ extents -> extent.Apart { base, size }) :
    firstGap page size base extents = base := by
  induction extents with
  | nil => rfl
  | cons first rest ih =>
      rw [firstGap]
      split
      case isTrue => rfl
      case isFalse hfull =>
        have hbehind : first.base + first.size ≤ base :=
          (h first List.mem_cons_self).resolve_right hfull
        rw [Nat.max_eq_left (alignUp_le_of_dvd haligned hbehind)]
        exact ih fun extent hmem => h extent (List.mem_cons_of_mem _ hmem)

/-!
# Insertion
-/

theorem exists_insertExtent_eq (extent : Extent) (extents : List Extent) :
    exists front back, extents = front ++ back ∧
      insertExtent extent extents = front ++ extent :: back := by
  induction extents with
  | nil => exact ⟨[], [], rfl, rfl⟩
  | cons first rest ih =>
      unfold insertExtent
      split
      case isTrue => exact ⟨[], first :: rest, rfl, rfl⟩
      case isFalse =>
        rcases ih with ⟨front, back, hrest, hinsert⟩
        exact ⟨first :: front, back, congrArg _ hrest, congrArg _ hinsert⟩

theorem insertExtent_perm (extent : Extent) (extents : List Extent) :
    (insertExtent extent extents).Perm (extent :: extents) := by
  rcases exists_insertExtent_eq extent extents with ⟨front, back, rfl, hinsert⟩
  rw [hinsert]
  exact List.perm_middle

theorem isLayout_insertExtent {extent : Extent} {extents : List Extent} (h : IsLayout extents)
    (hsize : 0 < extent.size) (hapart : forall other, other ∈ extents -> other.Apart extent) :
    IsLayout (insertExtent extent extents) := by
  constructor
  case positive =>
    intro other hmem
    rcases List.mem_cons.mp ((insertExtent_perm extent extents).mem_iff.mp hmem) with rfl | hmem
    · exact hsize
    · exact h.positive other hmem
  case ascending =>
    induction extents with
    | nil => exact List.pairwise_singleton _ extent
    | cons first rest ih =>
        have hfirst : first.base + first.size ≤ extent.base ∨
            extent.base + extent.size ≤ first.base := hapart first List.mem_cons_self
        have hpositive := h.positive first List.mem_cons_self
        unfold insertExtent
        split
        case isTrue hle =>
          have hbelow : extent.base + extent.size ≤ first.base := by omega
          apply List.Pairwise.cons _ h.ascending
          intro later hmem
          rcases List.mem_cons.mp hmem with rfl | hmem
          · exact hbelow
          · exact Nat.le_trans (Nat.le_add_right_of_le hbelow) (h.head_le later hmem)
        case isFalse hlt =>
          have hbelow : first.base + first.size ≤ extent.base := by omega
          have hrest := ih h.tail fun other hmem => hapart other (List.mem_cons_of_mem _ hmem)
          apply List.Pairwise.cons _ hrest
          intro later hmem
          rcases List.mem_cons.mp ((insertExtent_perm extent rest).mem_iff.mp hmem) with rfl | hmem
          · exact hbelow
          · exact h.head_le later hmem

theorem filter_insertExtent {extent : Extent} {extents : List Extent}
    (h : forall other, other ∈ extents -> other.base ≠ extent.base) :
    (insertExtent extent extents).filter (fun other => other.base != extent.base) = extents := by
  have hkept : extents.filter (fun other => other.base != extent.base) = extents :=
    List.filter_eq_self.mpr fun other hmem => bne_iff_ne.mpr (h other hmem)
  rcases exists_insertExtent_eq extent extents with ⟨front, back, rfl, hinsert⟩
  have hgone : (extent.base != extent.base) = false := bne_self_eq_false extent.base
  rw [List.filter_append] at hkept
  rw [hinsert, List.filter_append, List.filter_cons, hgone]
  exact hkept

/-!
# Reservations
-/

theorem reserve_eq_some {pages rest : Pages} {size : Nat}
    {base : Reservation pages.pageSize size} (h : pages.reserve size = some (base, rest)) :
    exists start, base.val.toNat = firstGap pages.pageSize size start pages.mapped ∧
      rest = { pages with mapped := insertExtent ⟨base.val.toNat, size⟩ pages.mapped } := by
  unfold reserve at h
  simp only at h
  split at h
  case isFalse => cases h
  case isTrue fits =>
    cases h
    refine ⟨alignUp pages.pageSize.bytes (max 1 pages.lowest), ?_, ?_⟩
    all_goals
      rw [BitVec.toNat_ofNat, Nat.mod_eq_of_lt]
      simp only [userSpace] at fits
      omega

/-- The system can choose any page with enough free memory behind it, but for the first page. -/
theorem exists_reserve_at {pages : Pages} {size : Nat} {base : Address}
    (hpositive : 0 < base.toNat) (hinside : base.toNat + size ≤ userSpace)
    (haligned : pages.pageSize.bytes ∣ base.toNat)
    (hfree : forall extent, extent ∈ pages.mapped ->
      extent.Apart { base := base.toNat, size }) :
    exists rest, Pages.reserve { pages with lowest := base.toNat } size =
      some (⟨base, hpositive, hinside, haligned⟩, rest) := by
  have hstart : alignUp pages.pageSize.bytes (max 1 base.toNat) = base.toNat := by
    rw [Nat.max_eq_right hpositive]
    exact (alignUp_eq_self_iff pages.pageSize.bytes_pos).mpr haligned
  have hgap : firstGap pages.pageSize size (alignUp pages.pageSize.bytes (max 1 base.toNat))
      pages.mapped = base.toNat := by
    rw [hstart]
    exact firstGap_of_apart haligned hfree
  unfold reserve
  simp only [hgap, hinside, ↓reduceDIte, BitVec.ofNat_toNat, BitVec.setWidth_eq]
  exact ⟨_, rfl⟩

/-- What a new arena does to the pages: it takes memory of its own, which a release would
give back. -/
structure Reserves (pages : Pages) (arena : Arena) (rest : Pages) : Prop where
  system : rest.toSystem = pages.toSystem
  layout : IsLayout rest.mapped
  mapped : rest.mapped.Perm (arena.extent :: pages.mapped)
  apart : forall extent, extent ∈ pages.mapped -> extent.Apart arena.extent
  positive : 0 < arena.capacity
  undone : (rest.release arena.base).mapped = pages.mapped

theorem reserves_of_allocate {pages rest : Pages} {arena : Arena} {total : Nat}
    (h : Arena.allocate pages total = .ok (arena, rest)) (hlayout : IsLayout pages.mapped) :
    pages.Reserves arena rest := by
  have hnew := Arena.allocate_eq_ok h
  rcases hnew.reserved with ⟨base, hreserve, hbase⟩
  rcases reserve_eq_some hreserve with ⟨start, hgap, hrest⟩
  rw [hbase] at hgap hrest
  have hmapped : rest.mapped = insertExtent arena.extent pages.mapped :=
    congrArg Pages.mapped hrest
  have hapart (other : Extent) (hmem : other ∈ pages.mapped) : other.Apart arena.extent := by
    rw [Arena.extent, hgap]
    exact firstGap_apart hlayout hmem
  constructor
  case system => exact hnew.system
  case layout =>
    rw [hmapped]
    exact isLayout_insertExtent hlayout hnew.positive hapart
  case mapped =>
    rw [hmapped]
    exact insertExtent_perm arena.extent pages.mapped
  case apart => exact hapart
  case positive => exact hnew.positive
  case undone =>
    have hrelease : (rest.release arena.base).mapped =
        (insertExtent arena.extent pages.mapped).filter
          fun extent => extent.base != arena.extent.base := by
      rw [← hmapped]
      rfl
    rw [hrelease]
    apply filter_insertExtent
    exact fun other hmem =>
      (hapart other hmem).base_ne (hlayout.positive other hmem) hnew.positive

/-!
# Dropped arenas
-/

/-- The system refuses to release the arena. -/
def keeps (pages : Pages) (arena : Arena) : Bool :=
  (pages.retention arena.base).isSome

end Pages

namespace Arena

variable {arena : Arena} {pages : Pages}

theorem discard_of_none (h : pages.retention arena.base = none) :
    arena.discard pages =
      { value := (), state := pages.release arena.base, events := [arena.reclaimedEvent] } := by
  simp only [discard, reclaim, h]

theorem discard_of_some {code : Int} (h : pages.retention arena.base = some code) :
    arena.discard pages =
      { value := (), state := pages
        events := [.releaseFailed (ArenaError.release (some code)).message] } := by
  simp only [discard, reclaim, h]

theorem toSystem_discard (arena : Arena) (pages : Pages) :
    (arena.discard pages).state.toSystem = pages.toSystem := by
  cases hretention : pages.retention arena.base with
  | none =>
      rw [discard_of_none hretention]
      rfl
  | some code => rw [discard_of_some hretention]

theorem mapped_discard (arena : Arena) (pages : Pages) :
    (arena.discard pages).state.mapped =
      pages.mapped.filter fun extent => pages.keeps arena || extent.base != arena.extent.base := by
  unfold Pages.keeps
  cases hretention : pages.retention arena.base with
  | none =>
      rw [discard_of_none hretention]
      rfl
  | some code =>
      rw [discard_of_some hretention]
      exact (List.filter_eq_self.mpr fun _ _ => rfl).symm

end Arena

namespace Pages

variable {pages : Pages} {gone : List Arena} {arena : Arena} {extent : Extent}

theorem keeps_congr {other : Pages} (h : other.toSystem = pages.toSystem) :
    other.keeps = pages.keeps := by
  funext arena
  rw [keeps, h]
  rfl

theorem keeps_of_base_eq {other : Arena} (h : arena.extent.base = other.extent.base) :
    pages.keeps arena = pages.keeps other := by
  have hbase : arena.base = other.base := BitVec.eq_of_toNat_eq h
  rw [keeps, keeps, hbase]

/-- An extent stays mapped when some arenas are dropped. -/
def survives (pages : Pages) (gone : List Arena) (extent : Extent) : Bool :=
  gone.all fun arena => pages.keeps arena || extent.base != arena.extent.base

theorem survives_of_base_ne
    (h : forall arena, arena ∈ gone -> extent.base ≠ arena.extent.base) :
    pages.survives gone extent = true := by
  apply List.all_eq_true.mpr
  intro arena hmem
  rw [bne_iff_ne.mpr (h arena hmem), Bool.or_true]

/-- An arena that is dropped stays mapped if and only if the system refuses to release it. -/
theorem survives_extent (h : arena ∈ gone) :
    pages.survives gone arena.extent = pages.keeps arena := by
  cases hkeeps : pages.keeps arena with
  | true =>
      apply List.all_eq_true.mpr
      intro other _
      by_cases hsame : arena.extent.base = other.extent.base
      · rw [← keeps_of_base_eq hsame, hkeeps]
        rfl
      · rw [bne_iff_ne.mpr hsame, Bool.or_true]
  | false =>
      apply List.all_eq_false.mpr
      exists arena
      constructor
      · exact h
      · rw [hkeeps, bne_self_eq_false]
        exact Bool.false_ne_true

end Pages

namespace Process

theorem mapped_discardAll (pages : Pages) (arenas : List Arena) :
    (discardAll pages arenas).state.mapped = pages.mapped.filter (pages.survives arenas) := by
  induction arenas generalizing pages with
  | nil => exact (List.filter_eq_self.mpr fun _ _ => rfl).symm
  | cons arena rest ih =>
      have hrest := Pages.keeps_congr (arena.toSystem_discard pages)
      rw [discardAll]
      simp only [ih, Arena.mapped_discard, List.filter_filter, Pages.survives, hrest]
      exact List.filter_congr fun _ _ => Bool.and_comm _ _

theorem isLayout_discardAll {pages : Pages} (h : Pages.IsLayout pages.mapped)
    (arenas : List Arena) : Pages.IsLayout (discardAll pages arenas).state.mapped := by
  rw [mapped_discardAll]
  exact h.filter _

theorem extent_mem_discardAll_iff {pages : Pages} {arenas : List Arena} {arena : Arena}
    (h : arena ∈ arenas) (hmapped : arena.extent ∈ pages.mapped) :
    arena.extent ∈ (discardAll pages arenas).state.mapped <-> pages.keeps arena = true := by
  rw [mapped_discardAll, List.mem_filter, Pages.survives_extent h]
  exact and_iff_right hmapped

/-- What is mapped beside some arenas does not start where one of them does. -/
theorem base_ne_of_mapped_perm {pages : Pages} {kept : List Extent} {gone : List Arena}
    (hlayout : Pages.IsLayout pages.mapped)
    (h : pages.mapped.Perm (kept ++ gone.map Arena.extent)) {extent : Extent} {arena : Arena}
    (hkept : extent ∈ kept) (hgone : arena ∈ gone) : extent.base ≠ arena.extent.base := by
  have hbases : (kept ++ gone.map Arena.extent).Pairwise fun extent other =>
      extent.base ≠ other.base :=
    (h.pairwise_iff Ne.symm).mp hlayout.pairwise_base_ne
  exact (List.pairwise_append.mp hbases).2.2 extent hkept _ (List.mem_map_of_mem hgone)

/-- Dropping some of the arenas leaves the memory of the others. -/
theorem mapped_discardAll_perm {pages : Pages} {kept : List Extent} {gone : List Arena}
    (hlayout : Pages.IsLayout pages.mapped)
    (h : pages.mapped.Perm (kept ++ gone.map Arena.extent)) :
    (discardAll pages gone).state.mapped.Perm
      (kept ++ (gone.filter pages.keeps).map Arena.extent) := by
  have hkept : kept.filter (pages.survives gone) = kept := by
    apply List.filter_eq_self.mpr
    intro extent hmem
    exact Pages.survives_of_base_ne fun arena harena =>
      base_ne_of_mapped_perm hlayout h hmem harena
  have hgone : (gone.map Arena.extent).filter (pages.survives gone) =
      (gone.filter pages.keeps).map Arena.extent := by
    rw [List.filter_map]
    exact congrArg _ (List.filter_congr fun arena harena => Pages.survives_extent harena)
  have hfiltered := h.filter (pages.survives gone)
  rw [List.filter_append, hkept, hgone] at hfiltered
  rw [mapped_discardAll]
  exact hfiltered

/-- A new arena that is dropped at once leaves the memory of the others. -/
theorem mapped_discard_perm {pages rest : Pages} {arena : Arena} (h : pages.Reserves arena rest) :
    (arena.discard rest).state.mapped.Perm
      (pages.mapped ++ ([arena].filter pages.keeps).map Arena.extent) := by
  have hfront : rest.mapped.Perm (pages.mapped ++ [arena].map Arena.extent) :=
    h.mapped.trans (List.perm_append_singleton _ _).symm
  rw [← Pages.keeps_congr h.system]
  exact mapped_discardAll_perm h.layout hfront

end Process
end NativeCall
