import Mathlib.Order.Bounds.Basic
import NativeCall.Proofs.Room

/-!
# Allocation

An allocation rounds the request up to whole pages before it asks for them. Rounding adds a page
first, so a request that ends less than a page before the last word has no answer, not even
if it is whole pages already.
-/

namespace NativeCall
namespace Arena

/-- Numbers of bytes that are whole pages and suffice for a request. -/
def wholePages (page : PageSize) (total : Nat) : Set Nat :=
  { size | page.bytes ∣ size ∧ total ≤ size }

theorem isLeast_alignUp (page : PageSize) (total : Nat) :
    IsLeast (wholePages page total) (alignUp page.bytes total) := by
  constructor
  · exact ⟨dvd_alignUp page.bytes total, le_alignUp page.bytes_pos total⟩
  · intro size hsize
    exact alignUp_le_of_dvd hsize.1 hsize.2

/-- Answers to a request: there is nothing to reserve, the least number of whole pages is reserved,
or no such pages are left. -/
inductive AnswersRequest (page : PageSize) (total : Nat) :
    Outcome ArenaError (Arena × Pages) -> Prop where
  | empty (hzero : total = 0) : AnswersRequest page total (.error (.error .empty))
  | reserved {arena : Arena} {rest : Pages} (hpositive : 0 < total)
      (hleast : IsLeast (wholePages page total) arena.capacity)
      (hstate : arena.state = .writable) (hused : arena.used = 0) :
      AnswersRequest page total (.ok (arena, rest))
  | outOfMemory {requested : Nat} {osCode : Option Int} (hpositive : 0 < total)
      (hle : total ≤ requested) :
      AnswersRequest page total (.error (.error (.outOfMemory requested osCode)))

namespace AnswersRequest

theorem not_fault {page : PageSize} {total : Nat} {fault : Fault} :
    ¬AnswersRequest page total (.error (.fault fault)) :=
  nofun

end AnswersRequest

section Allocate

variable {pages : Pages} {total : Nat}

theorem allocate_of_lt (pages : Pages) (hpositive : 0 < total)
    (hsmall : total + pages.pageSize.bytes < wordCount) :
    (exists arena rest, allocate pages total = .ok (arena, rest) ∧
        arena.capacity = alignUp pages.pageSize.bytes total) ∨
      (pages.reserve (alignUp pages.pageSize.bytes total) = none ∧
        allocate pages total =
          .error (.error (.outOfMemory (alignUp pages.pageSize.bytes total)
            (some outOfMemoryCode)))) := by
  unfold allocate
  rw [if_neg (Nat.ne_of_gt hpositive), if_neg (Nat.not_le.mpr hsmall)]
  simp only
  split
  next hnone => exact .inr ⟨hnone, rfl⟩
  next => exact .inl ⟨_, _, rfl, rfl⟩

theorem allocate_zero : allocate pages 0 = .error (.error .empty) :=
  rfl

theorem allocate_of_le (hlarge : wordCount ≤ total + pages.pageSize.bytes) :
    allocate pages total = .error (.fault .sizeOverflow) := by
  have hpositive : total ≠ 0 := by
    rintro rfl
    rw [Nat.zero_add] at hlarge
    exact absurd pages.pageSize.bytes_lt (Nat.not_lt.mpr hlarge)
  unfold allocate
  rw [if_neg hpositive, if_pos hlarge]

theorem answersRequest_allocate (pages : Pages)
    (hsmall : total + pages.pageSize.bytes < wordCount) :
    AnswersRequest pages.pageSize total (allocate pages total) := by
  rcases Nat.eq_zero_or_pos total with rfl | hpositive
  · exact .empty rfl
  · have hleast := isLeast_alignUp pages.pageSize total
    rcases allocate_of_lt pages hpositive hsmall with
      ⟨arena, rest, hallocate, hcapacity⟩ | ⟨_, hallocate⟩
    · have hnew := allocate_eq_ok hallocate
      rw [hallocate]
      refine .reserved hpositive (hcapacity ▸ hleast) hnew.state ?_
      rw [used, hnew.blank]
      rfl
    · rw [hallocate]
      exact .outOfMemory hpositive hleast.1.2

end Allocate

/-- A request is answered if and only if it ends more than a page before the words do. Any other
faults. A refused one was for the least number of whole pages, and they are not left. -/
theorem allocate_answers_below_last_page (pages : Pages) (total : Nat) :
    (AnswersRequest pages.pageSize total (allocate pages total) <->
        total + pages.pageSize.bytes < wordCount) ∧
      (allocate pages total = .error (.fault .sizeOverflow) <->
        wordCount ≤ total + pages.pageSize.bytes) ∧
      forall requested osCode,
        allocate pages total = .error (.error (.outOfMemory requested osCode)) ->
          IsLeast (wholePages pages.pageSize total) requested ∧ osCode = some outOfMemoryCode ∧
            pages.reserve requested = none := by
  refine ⟨⟨?_, answersRequest_allocate pages⟩, ⟨?_, allocate_of_le⟩, ?_⟩
  · intro hanswers
    by_contra hlarge
    rw [allocate_of_le (Nat.le_of_not_lt hlarge)] at hanswers
    exact AnswersRequest.not_fault hanswers
  · intro hfault
    by_contra hsmall
    have hanswers := answersRequest_allocate pages (Nat.lt_of_not_le hsmall)
    rw [hfault] at hanswers
    exact AnswersRequest.not_fault hanswers
  · intro requested osCode hrefused
    have hsmall : total + pages.pageSize.bytes < wordCount := by
      by_contra hlarge
      rw [allocate_of_le (Nat.le_of_not_lt hlarge)] at hrefused
      cases hrefused
    have hpositive : 0 < total := by
      apply Nat.pos_of_ne_zero
      rintro rfl
      cases allocate_zero.symm.trans hrefused
    rcases allocate_of_lt pages hpositive hsmall with
      ⟨_, _, hallocate, _⟩ | ⟨hnone, hallocate⟩
    · cases hallocate.symm.trans hrefused
    · cases hallocate.symm.trans hrefused
      exact ⟨isLeast_alignUp pages.pageSize total, rfl, hnone⟩

/-- All but the last page: whole pages, and yet no answer. -/
theorem not_allocate_answers :
    ¬forall (pages : Pages) (total : Nat), total < wordCount ->
      AnswersRequest pages.pageSize total (allocate pages total) := by
  intro hclaim
  have hanswers := hclaim .empty (wordCount - 4096) (by decide)
  rw [allocate_of_le (by decide)] at hanswers
  exact AnswersRequest.not_fault hanswers

end Arena
end NativeCall
