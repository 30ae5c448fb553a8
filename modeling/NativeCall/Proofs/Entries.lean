import NativeCall.Proofs.Room

/-!
# Entries of finalized arenas

An entry is an offset in front of the end of the written bytes. A write answers with the offset
of its code, and that is an entry as soon as this write, or a later one, wrote a byte. Code without
a byte that nothing follows has the end of the written bytes as its offset, which is no entry.
-/

namespace NativeCall
namespace Arena

section Entries

variable {arena : Arena} {offset : Nat}

theorem entry_of_lt_used (hstate : arena.state = .executable) (h : offset < arena.used) :
    arena.entry offset = .ok (arena.base + BitVec.ofNat 64 offset) := by
  unfold entry
  rw [hstate]
  exact if_neg (Nat.not_le.mpr h)

theorem entry_of_used_le (hstate : arena.state = .executable) (h : arena.used ≤ offset) :
    arena.entry offset = .error (.outOfBounds offset arena.used) := by
  unfold entry
  rw [hstate]
  exact if_pos h

theorem used_of_finalize {final : Arena} {pages : Pages} (h : arena.finalize pages = .ok final) :
    final.used = arena.used := by
  unfold finalize at h
  cases hstate : arena.state with
  | executable =>
      rw [hstate] at h
      cases h
  | writable =>
      simp only [hstate] at h
      split at h <;> cases h
      rfl

end Entries
end Arena

namespace Bench

def Turn.Fills (turn : Turn) : Prop :=
  exists offset code, turn.Writes offset code ∧ code ≠ []

/-!
# Bytes taken
-/

section Used

variable {pages : Pages} {arena last : Arena} {final : Bench} {run past later : List Turn}
  {turn : Turn}

/-- A write that succeeds takes the bytes up to the end of its code. -/
theorem write_takes (pages : Pages) (arena : Arena) (code : List Byte) :
    (exists next, (answer ⟨pages, some arena⟩ (.write code)).state = ⟨pages, some next⟩ ∧
        (answer ⟨pages, some arena⟩ (.write code)).value =
          .wrote (alignUp Arena.codeAlign arena.used) ∧
        next.used = alignUp Arena.codeAlign arena.used + code.length) ∨
      exists e, (answer ⟨pages, some arena⟩ (.write code)).state = ⟨pages, some arena⟩ ∧
        (answer ⟨pages, some arena⟩ (.write code)).value = .refused e := by
  simp only [answer, Bench.write, Bench.change, Step.map]
  cases hwrite : arena.write code with
  | error e => exact .inr ⟨e, rfl, rfl⟩
  | ok wrote =>
      rcases wrote with ⟨next, offset⟩
      rcases Arena.write_eq_ok hwrite with ⟨_, rfl, hused, _⟩
      exact .inl ⟨next, rfl, rfl, hused⟩

theorem used_answer {request : Request} (h : forall code, request ≠ .write code) :
    exists next, (answer ⟨pages, some arena⟩ request).state = ⟨pages, some next⟩ ∧
      next.used = arena.used := by
  cases request with
  | write code => exact absurd rfl (h code)
  | finalize =>
      simp only [answer, Bench.finalize, Bench.change, Step.map]
      cases hfinalize : arena.finalize pages with
      | error e => exact ⟨arena, rfl, rfl⟩
      | ok next => exact ⟨next, rfl, Arena.used_of_finalize hfinalize⟩
  | entry offset => exact ⟨arena, rfl, rfl⟩
  | contains address => exact ⟨arena, rfl, rfl⟩

theorem Turn.Writes.used {before : Arena} {offset : Nat} {code : List Byte}
    (h : turn.Writes offset code) (hbefore : turn.before = ⟨pages, some before⟩)
    (hstep : turn.step = answer turn.before turn.request) :
    exists next, turn.after = ⟨pages, some next⟩ ∧
      offset = alignUp Arena.codeAlign before.used ∧ next.used = offset + code.length := by
  rcases h with ⟨hrequest, hvalue⟩
  rw [hbefore, hrequest] at hstep
  rw [Turn.value, hstep] at hvalue
  rw [Turn.after, hstep]
  rcases write_takes pages before code with ⟨next, hstate, hwrote, hused⟩ | ⟨e, _, hrefused⟩
  · rw [hwrote] at hvalue
    cases hvalue
    exact ⟨next, hstate, rfl, hused⟩
  · rw [hrefused] at hvalue
    cases hvalue

theorem used_lt_of_fills (h : IsRun answer ⟨pages, some arena⟩ run ⟨pages, some last⟩)
    (hmem : turn ∈ run) (hfills : turn.Fills) : arena.used < last.used := by
  rcases hfills with ⟨offset, code, hwrites, hcode⟩
  rcases List.append_of_mem hmem with ⟨past, later, rfl⟩
  rcases h.split with ⟨hpast, hstep, hlater⟩
  rcases exists_extension hpast with ⟨before, hbefore, hgrown⟩
  rcases hwrites.used hbefore hstep with ⟨next, hafter, hoffset, hused⟩
  rw [hafter] at hlater
  rcases exists_extension hlater with ⟨_, hlast, hextends⟩
  cases hlast
  calc arena.used ≤ before.used := hgrown.used_le
    _ ≤ offset := hoffset ▸ le_alignUp Arena.codeAlign_pos before.used
    _ < offset + code.length := Nat.lt_add_of_pos_right (List.length_pos_of_ne_nil hcode)
    _ = next.used := hused.symm
    _ ≤ last.used := hextends.used_le

/-- Behind an aligned end, code without a byte takes nothing. -/
theorem used_eq_of_not_fills (h : IsRun answer ⟨pages, some arena⟩ run ⟨pages, some last⟩)
    (haligned : Arena.codeAlign ∣ arena.used)
    (hrun : forall turn, turn ∈ run -> ¬turn.Fills) : last.used = arena.used := by
  induction run generalizing arena with
  | nil =>
      cases h
      rfl
  | cons turn rest ih =>
      rcases h with _ | ⟨request, hrest⟩
      have hnext : exists next, (answer ⟨pages, some arena⟩ request).state = ⟨pages, some next⟩ ∧
          next.used = arena.used := by
        by_cases hwrite : exists code, request = .write code
        · rcases hwrite with ⟨code, rfl⟩
          rcases write_takes pages arena code with ⟨next, hstate, hvalue, hused⟩ | ⟨e, hstate, _⟩
          · have hempty : code = [] := by
              by_contra hcode
              exact hrun _ List.mem_cons_self ⟨_, code, ⟨rfl, hvalue⟩, hcode⟩
            rw [(alignUp_eq_self_iff Arena.codeAlign_pos).mpr haligned, hempty] at hused
            exact ⟨next, hstate, hused⟩
          · exact ⟨arena, hstate, rfl⟩
        · exact used_answer fun code heq => hwrite ⟨code, heq⟩
      rcases hnext with ⟨next, hstate, hused⟩
      rw [hstate] at hrest
      rw [← hused] at haligned ⊢
      exact ih hrest haligned fun other hmem => hrun other (List.mem_cons_of_mem _ hmem)

/-- The offset of a write lies in front of the end of the written bytes if this write or a later
one wrote a byte, and else it is that end. -/
theorem used_of_writes {offset : Nat} {code : List Byte}
    (h : IsRun answer ⟨pages, some arena⟩ (past ++ turn :: later) ⟨pages, some last⟩)
    (hwrites : turn.Writes offset code) :
    ((exists other, other ∈ turn :: later ∧ other.Fills) -> offset < last.used) ∧
      ((¬exists other, other ∈ turn :: later ∧ other.Fills) -> last.used = offset) := by
  rcases h.split with ⟨hpast, hstep, hlater⟩
  rcases exists_extension hpast with ⟨before, hbefore, _⟩
  rcases hwrites.used hbefore hstep with ⟨next, hafter, hoffset, hused⟩
  rw [hafter] at hlater
  constructor
  · rintro ⟨other, hmem, hfills⟩
    rcases List.mem_cons.mp hmem with rfl | hmem
    · rcases exists_extension hlater with ⟨_, hlast, hextends⟩
      cases hlast
      rcases hfills with ⟨place, bytes, hbytes, hne⟩
      rcases hbytes.used hbefore hstep with ⟨same, hsame, hplace, hend⟩
      rw [hafter] at hsame
      cases hsame
      calc offset < offset + bytes.length := Nat.lt_add_of_pos_right (List.length_pos_of_ne_nil hne)
        _ = next.used := by rw [hend, hplace, hoffset]
        _ ≤ last.used := hextends.used_le
    · calc offset ≤ next.used := hused ▸ Nat.le_add_right _ _
        _ < last.used := used_lt_of_fills hlater hmem hfills
  · intro hnone
    have hempty : code = [] := by
      by_contra hcode
      exact hnone ⟨turn, List.mem_cons_self, offset, code, hwrites, hcode⟩
    have hend : next.used = offset := by
      rw [hused, hempty]
      rfl
    have haligned : Arena.codeAlign ∣ next.used := by
      rw [hend, hoffset]
      exact dvd_alignUp _ _
    rw [← hend]
    apply used_eq_of_not_fills hlater haligned
    exact fun other hmem hfills => hnone ⟨other, List.mem_cons_of_mem _ hmem, hfills⟩

end Used

/-!
# Written, then finalized
-/

/-- The bench after pieces of code were written into its arena, one after the other. -/
def written (bench : Bench) (codes : List (List Byte)) : Bench :=
  finalState answer bench (codes.map .write)

/-- The same bench after its arena was asked to finalize itself. -/
def closed (bench : Bench) (codes : List (List Byte)) : Bench :=
  (answer (bench.written codes) .finalize).state

/-- What a bench answers about an offset that a write into its arena answered with, where `filled`
says that this write or a later one wrote a byte. -/
structure KnowsOffset (bench : Bench) (arena : Arena) (offset : Nat) (filled : Prop) : Prop where
  entered : filled ->
    (answer bench (.entry offset)).value = .entered (arena.base + BitVec.ofNat 64 offset)
  contained : filled ->
    (answer bench (.contains (arena.base + BitVec.ofNat 64 offset))).value = .contained true
  /-- The offset is the end of the written bytes. -/
  refused : ¬filled -> (answer bench (.entry offset)).value = .refused (.outOfBounds offset offset)
  /-- The end of the written bytes lies inside as long as the arena is not full. -/
  ending : ¬filled -> (answer bench (.contains (arena.base + BitVec.ofNat 64 offset))).value =
    .contained (offset < arena.capacity)

theorem exists_closed {pages : Pages} {last : Arena}
    (h : (answer ⟨pages, some last⟩ .finalize).value = .finalized) :
    exists final, (answer ⟨pages, some last⟩ .finalize).state = ⟨pages, some final⟩ ∧
      final.Extends last ∧ final.state = .executable ∧ final.used = last.used := by
  simp only [answer, Bench.finalize, Bench.change, Step.map] at h ⊢
  cases hfinalize : last.finalize pages with
  | error e =>
      rw [hfinalize] at h
      cases h
  | ok final =>
      rcases Arena.finalize_eq_ok hfinalize with ⟨hextends, hexecutable⟩
      exact ⟨final, rfl, hextends, eq_of_beq hexecutable, Arena.used_of_finalize hfinalize⟩

theorem knowsOffset {pages : Pages} {final : Arena} {offset : Nat} {filled : Prop}
    (hstate : final.state = .executable) (hinside : filled -> offset < final.used)
    (hend : ¬filled -> final.used = offset) :
    KnowsOffset ⟨pages, some final⟩ final offset filled where
  entered := by
    intro hfilled
    simp only [answer, Arena.entry_of_lt_used hstate (hinside hfilled)]
    rfl
  contained := by
    intro hfilled
    have hcontains := Arena.contains_of_entry (Arena.entry_of_lt_used hstate (hinside hfilled))
    exact congrArg Answer.contained hcontains
  refused := by
    intro hblank
    have hused := hend hblank
    simp only [answer, Arena.entry_of_used_le hstate (Nat.le_of_eq hused), hused]
    rfl
  ending := by
    intro hblank
    have hle : offset ≤ final.used := Nat.le_of_eq (hend hblank).symm
    simp only [answer, Step.silent, Arena.contains, Arena.toNat_base_add hle, Nat.le_add_right,
      Nat.add_lt_add_iff_left, decide_true, Bool.true_and]

theorem KnowsOffset.congr {bench : Bench} {arena other : Arena} {offset : Nat} {filled : Prop}
    (h : KnowsOffset bench arena offset filled) (more : arena.Extends other) :
    KnowsOffset bench other offset filled := by
  rcases h with ⟨hentered, hcontained, hrefused, hending⟩
  rw [more.base] at hentered hcontained hending
  rw [more.capacity] at hending
  exact ⟨hentered, hcontained, hrefused, hending⟩

/-- Once pieces of code are written and the arena is finalized, the offset of each write is an
entry, unless neither this write nor a later one wrote a byte. -/
theorem closed_knows_offsets {bench : Bench} {arena : Arena} {codes : List (List Byte)}
    (harena : bench.arena = some arena)
    (hfinalized : (answer (bench.written codes) .finalize).value = .finalized)
    {past later : List Turn} {turn : Turn} {offset : Nat} {code : List Byte}
    (hturns : turns answer bench (codes.map .write) = past ++ turn :: later)
    (hwrites : turn.Writes offset code) :
    KnowsOffset (bench.closed codes) arena offset
      (exists other, other ∈ turn :: later ∧ other.Fills) := by
  rcases bench with ⟨pages, _⟩
  cases harena
  have hrun := isRun_turns answer ⟨pages, some arena⟩ (codes.map .write)
  rcases exists_extension hrun with ⟨last, hlast, hgrown⟩
  rw [written, hlast] at hfinalized
  rcases exists_closed hfinalized with ⟨final, hfinal, hextends, hstate, hused⟩
  rw [hlast, hturns] at hrun
  rcases used_of_writes hrun hwrites with ⟨hinside, hend⟩
  rw [← hused] at hinside hend
  rw [closed, written, hlast, hfinal]
  exact (knowsOffset hstate hinside hend).congr (hextends.trans hgrown)

/-- A byte between two pieces of code without any. -/
def sparseCodes : List (List Byte) :=
  [[], [0xC3], []]

/-- The first piece has its offset in common with the byte that comes after it. -/
theorem closed_knows_offsets_sparse :
    let bench := (empty.allocate 1).state
    (answer (bench.written sparseCodes) .finalize).value = .finalized ∧
      (turns answer bench (sparseCodes.map .write)).map (·.value) =
        [.wrote 0, .wrote 0, .wrote 8] ∧
      (answer (bench.closed sparseCodes) (.entry 0)).value = .entered 0x10000 ∧
      (answer (bench.closed sparseCodes) (.contains 0x10000)).value = .contained true ∧
      (answer (bench.closed sparseCodes) (.entry 8)).value = .refused (.outOfBounds 8 8) := by
  intro bench
  have hfinalized : (answer (bench.written sparseCodes) .finalize).value = .finalized := by
    decide +kernel
  have hbase : bench.arena.map (·.base) = some 0x10000 := by decide +kernel
  rcases Option.map_eq_some_iff.mp hbase with ⟨arena, harena, hstart⟩
  let turnOf (state : Bench) (code : List Byte) : Turn :=
    { before := state, request := .write code, step := answer state (.write code) }
  let first := turnOf bench []
  let second := turnOf first.after [0xC3]
  let third := turnOf second.after []
  let asked := turns answer bench (sparseCodes.map .write)
  have hopening : asked = [] ++ first :: [second, third] := rfl
  have hclosing : asked = [first, second] ++ third :: [] := rfl
  have hfills : second.Fills := ⟨0, [0xC3], ⟨rfl, by decide +kernel⟩, by decide⟩
  have hblank : ¬exists other, other ∈ [third] ∧ other.Fills := by
    rintro ⟨other, hmem, offset, code, ⟨hrequest, _⟩, hcode⟩
    rw [List.mem_singleton.mp hmem] at hrequest
    cases hrequest
    exact hcode rfl
  have hfirst : first.Writes 0 [] := ⟨rfl, by decide +kernel⟩
  have hthird : third.Writes 8 [] := ⟨rfl, by decide +kernel⟩
  have hopen := closed_knows_offsets harena hfinalized hopening hfirst
  have hshut := closed_knows_offsets harena hfinalized hclosing hthird
  have hfilled : exists other, other ∈ [first, second, third] ∧ other.Fills :=
    ⟨second, by simp, hfills⟩
  have hentered := hopen.entered hfilled
  have hcontained := hopen.contained hfilled
  rw [hstart] at hentered hcontained
  exact ⟨hfinalized, by decide +kernel, hentered, hcontained, hshut.refused hblank⟩

/-- Code without a byte is written, and its offset is no entry. -/
theorem not_closed_enters_offsets :
    ¬forall (bench : Bench) (arena : Arena) (codes : List (List Byte)),
      bench.arena = some arena ->
        (answer (bench.written codes) .finalize).value = .finalized ->
          forall turn, turn ∈ turns answer bench (codes.map .write) ->
            forall offset code, Turn.Writes turn offset code ->
              (answer (bench.closed codes) (.entry offset)).value =
                  .entered (arena.base + BitVec.ofNat 64 offset) ∧
                (answer (bench.closed codes)
                  (.contains (arena.base + BitVec.ofNat 64 offset))).value = .contained true := by
  intro hclaim
  have hsome : (empty.allocate 1).state.arena.isSome = true := by decide +kernel
  rcases Option.isSome_iff_exists.mp hsome with ⟨arena, harena⟩
  have hentered := (hclaim _ arena [[]] harena (by decide +kernel) _ List.mem_cons_self 0 []
    ⟨rfl, by decide +kernel⟩).left
  have hrefused : (answer ((empty.allocate 1).state.closed [[]]) (.entry 0)).value =
      .refused (.outOfBounds 0 0) := by
    decide +kernel
  rw [hrefused] at hentered
  cases hentered

end Bench
end NativeCall
