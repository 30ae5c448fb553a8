import NativeCall.Proofs.Bench

/-!
# Room in arenas

Code starts at an aligned offset, so the bytes up to that offset are lost to it. Whether a write
succeeds is decided by the room behind the offset. What an arena reports as remaining counts the
lost bytes too: a write that needs them is refused, with an error that says it needs no more than
what remains.
-/

namespace NativeCall
namespace Arena

theorem codeAlign_pos : 0 < codeAlign := by
  decide

/-!
# Room
-/

/-- Bytes behind the next aligned offset. -/
def room (arena : Arena) : Nat :=
  arena.capacity - alignUp codeAlign arena.used

section Room

variable {arena : Arena}

theorem alignUp_used_le (hwhole : codeAlign ∣ arena.capacity) :
    alignUp codeAlign arena.used ≤ arena.capacity :=
  alignUp_le_of_dvd hwhole arena.used_le_capacity

/-- What remains is the room and the bytes that are lost before it. -/
theorem remaining_eq (hwhole : codeAlign ∣ arena.capacity) :
    arena.remaining = arena.room + (alignUp codeAlign arena.used - arena.used) := by
  have hfits := alignUp_used_le hwhole
  have hle := le_alignUp codeAlign_pos arena.used
  unfold remaining room
  omega

theorem room_eq_remaining_iff (hwhole : codeAlign ∣ arena.capacity) :
    arena.room = arena.remaining <-> codeAlign ∣ arena.used := by
  have hle := le_alignUp codeAlign_pos arena.used
  rw [remaining_eq hwhole, ← alignUp_eq_self_iff codeAlign_pos]
  omega

theorem remaining_lt_room_add (hwhole : codeAlign ∣ arena.capacity) :
    arena.remaining < arena.room + codeAlign := by
  have hlost := alignUp_lt codeAlign_pos arena.used
  have hpos := codeAlign_pos
  rw [remaining_eq hwhole]
  omega

theorem length_written (arena : Arena) (code : List Byte) :
    (arena.image ++ List.replicate (alignUp codeAlign arena.used - arena.used) 0 ++ code).length =
      alignUp codeAlign arena.used + code.length := by
  have hle := le_alignUp codeAlign_pos arena.used
  have hused : arena.image.length = arena.used := rfl
  rw [List.length_append, List.length_append, List.length_replicate, hused]
  omega

/-- The room decides whether code can be written. -/
theorem write_cases (hstate : arena.state = .writable) (hwhole : codeAlign ∣ arena.capacity)
    (code : List Byte) :
    (code.length ≤ arena.room ∧ exists next,
        arena.write code = .ok (next, alignUp codeAlign arena.used)) ∨
      (arena.room < code.length ∧
        arena.write code = .error (.capacity code.length arena.remaining)) := by
  have hfits := alignUp_used_le hwhole
  have hroom : code.length ≤ arena.room <->
      alignUp codeAlign arena.used + code.length ≤ arena.capacity := by
    unfold room
    omega
  have hlength := length_written arena code
  unfold write
  simp only [hstate]
  split
  next fits =>
    rw [hlength] at fits
    exact .inl ⟨hroom.mpr fits, _, rfl⟩
  next full =>
    rw [hlength] at full
    exact .inr ⟨Nat.lt_of_not_le fun hle => full (hroom.mp hle), rfl⟩

end Room
end Arena

namespace Bench

/-- What a bench answers that is asked to write into its arena. -/
structure AnswersWrite (bench : Bench) (arena : Arena) (code : List Byte) : Prop where
  /-- The code is written if and only if there is room for it. -/
  wrote : (exists offset, (answer bench (.write code)).value = .wrote offset) <->
    code.length ≤ arena.room
  /-- A refusal reports what remains, and changes nothing. -/
  refused : forall e, (answer bench (.write code)).value = .refused e ->
    e = .capacity code.length arena.remaining ∧ arena.room < code.length ∧
      (answer bench (.write code)).state = bench
  /-- What remains is the room as long as the bytes used end at an aligned offset. -/
  aligned : arena.room = arena.remaining <-> Arena.codeAlign ∣ arena.used
  /-- Otherwise it is more, by less than the alignment. -/
  unaligned : arena.room ≤ arena.remaining ∧ arena.remaining < arena.room + Arena.codeAlign

theorem answersWrite {pages : Pages} {arena : Arena} (hstate : arena.state = .writable)
    (hwhole : Arena.codeAlign ∣ arena.capacity) (code : List Byte) :
    AnswersWrite ⟨pages, some arena⟩ arena code := by
  have hclose : arena.room ≤ arena.remaining := by
    rw [Arena.remaining_eq hwhole]
    exact Nat.le_add_right _ _
  refine ⟨?_, ?_, Arena.room_eq_remaining_iff hwhole, hclose, Arena.remaining_lt_room_add hwhole⟩
  · rcases Arena.write_cases hstate hwhole code with
      ⟨hfits, next, hwrite⟩ | ⟨hfull, hwrite⟩
    · simp only [answer, Bench.write, hwrite]
      exact iff_of_true ⟨_, rfl⟩ hfits
    · simp only [answer, Bench.write, hwrite]
      refine iff_of_false ?_ (Nat.not_le.mpr hfull)
      rintro ⟨offset, hvalue⟩
      cases hvalue
  · intro e hvalue
    rcases Arena.write_cases hstate hwhole code with ⟨_, next, hwrite⟩ | ⟨hfull, hwrite⟩
    · simp only [answer, Bench.write, hwrite] at hvalue
      cases hvalue
    · simp only [answer, Bench.write, hwrite] at hvalue ⊢
      cases hvalue
      exact ⟨rfl, hfull, rfl⟩

/-- However it was used since it was allocated, an arena takes the code that it has room for, and
no other. -/
theorem run_writes_into_room {bench : Bench} {total : Nat}
    (h : (bench.allocate total).value = .ok ()) (requests : List Request) :
    exists pages arena,
      finalState answer (bench.allocate total).state requests = ⟨pages, some arena⟩ ∧
        (arena.state = .writable -> forall code,
          AnswersWrite (finalState answer (bench.allocate total).state requests) arena code) := by
  rcases allocate_eq_ok h with ⟨arena, pages, hallocate, hstart⟩
  have hnew := Arena.allocate_eq_ok hallocate
  have hrun := isRun_turns answer (bench.allocate total).state requests
  rw [hstart] at hrun
  rcases exists_extension hrun with ⟨next, hfinal, hextends⟩
  rw [hstart, hfinal]
  refine ⟨pages, next, rfl, ?_⟩
  intro hstate code
  have hwhole : Arena.codeAlign ∣ next.capacity := by
    rw [hextends.capacity]
    exact hnew.codeAlign_dvd_capacity
  exact answersWrite hstate hwhole code

/-- All but the last six bytes of a page. -/
def crowdingRequests : List Request :=
  [.write (List.replicate 4090 0x90)]

/-- Six bytes remain in the page, and a write of one byte is refused. -/
theorem crowded : exists pages arena,
    finalState answer (empty.allocate 1).state crowdingRequests = ⟨pages, some arena⟩ ∧
      arena.state = .writable ∧ arena.remaining = 6 ∧ arena.room = 0 ∧
      (answer ⟨pages, some arena⟩ (.write [0xC3])).value = .refused (.capacity 1 6) := by
  have hseen : ((finalState answer (empty.allocate 1).state crowdingRequests).arena.map
      fun arena => (arena.state, arena.remaining, arena.room)) = some (.writable, 6, 0) := by
    decide +kernel
  have hrefused : (answer (finalState answer (empty.allocate 1).state crowdingRequests)
      (.write [0xC3])).value = .refused (.capacity 1 6) := by
    decide +kernel
  generalize finalState answer (empty.allocate 1).state crowdingRequests = bench at hseen hrefused ⊢
  rcases bench with ⟨pages, _ | arena⟩
  · cases hseen
  · rcases Prod.mk.inj (Option.some.inj hseen) with ⟨hstate, hcounts⟩
    rcases Prod.mk.inj hcounts with ⟨hremaining, hroom⟩
    exact ⟨pages, arena, rfl, hstate, hremaining, hroom, hrefused⟩

theorem run_writes_into_room_crowded :
    (empty.allocate 1).value = .ok () ∧
      exists pages arena,
        finalState answer (empty.allocate 1).state crowdingRequests = ⟨pages, some arena⟩ ∧
          arena.state = .writable ∧ arena.remaining = 6 ∧
          AnswersWrite (finalState answer (empty.allocate 1).state crowdingRequests) arena [0xC3] ∧
          ¬exists offset, (answer (finalState answer (empty.allocate 1).state crowdingRequests)
            (.write [0xC3])).value = .wrote offset := by
  have h : (empty.allocate 1).value = .ok () := by decide +kernel
  rcases run_writes_into_room h crowdingRequests with ⟨pages, arena, hfinal, hwrites⟩
  rcases crowded with ⟨_, _, hsame, hstate, hremaining, hroom, _⟩
  rw [hfinal] at hsame
  cases hsame
  refine ⟨h, pages, arena, hfinal, hstate, hremaining, hwrites hstate [0xC3], ?_⟩
  rw [(hwrites hstate [0xC3]).wrote, hroom]
  decide

/-- What remains does not decide whether code can be written, and a refusal can report that more
remains than is needed. -/
theorem not_writes_into_remaining :
    ¬forall (bench : Bench) (total : Nat) (requests : List Request) (code : List Byte)
        (pages : Pages) (arena : Arena),
      (bench.allocate total).value = .ok () ->
        finalState answer (bench.allocate total).state requests = ⟨pages, some arena⟩ ->
          arena.state = .writable ->
            ((exists offset, (answer ⟨pages, some arena⟩ (.write code)).value = .wrote offset) <->
                code.length ≤ arena.remaining) ∧
              forall needed remaining,
                (answer ⟨pages, some arena⟩ (.write code)).value =
                    .refused (.capacity needed remaining) ->
                  remaining < needed := by
  intro hclaim
  rcases crowded with ⟨pages, arena, hfinal, hstate, _, _, hrefused⟩
  rcases hclaim empty 1 crowdingRequests [0xC3] pages arena (by decide +kernel) hfinal hstate with
    ⟨_, hmessage⟩
  exact absurd (hmessage 1 6 hrefused) (by decide)

end Bench
end NativeCall
