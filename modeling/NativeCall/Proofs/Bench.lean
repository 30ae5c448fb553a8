import NativeCall.Bench
import NativeCall.Proofs.Arena
import NativeCall.Proofs.Run

/-!
# Arenas over a whole run

An arena on a bench is asked to write, to finalize itself, and for entries and addresses, in
any order. `Answers` says what each request comes to. From that follows, for whole runs, that
written code is never overwritten or moved and that nothing changes in a finalized arena.
-/

namespace NativeCall
namespace Bench

inductive Request where
  | write (code : List Byte)
  | finalize
  | entry (offset : Nat)
  | contains (address : Address)

inductive Answer where
  | wrote (offset : Nat)
  | finalized
  | entered (address : Address)
  | contained (inside : Bool)
  | refused (e : ArenaError)
  | absent
  deriving DecidableEq

def Answer.ofResult {α : Type} (success : α -> Answer) : Except ArenaError α -> Answer
  | .ok value => success value
  | .error e => .refused e

def answer (bench : Bench) (request : Request) : Step Bench Answer :=
  match bench.arena with
  | none => .silent .absent bench
  | some arena =>
      match request with
      | .write code => (bench.write arena code).map (.ofResult .wrote)
      | .finalize => (bench.finalize arena).map (.ofResult fun _ => .finalized)
      | .entry offset => .silent (.ofResult .entered (arena.entry offset)) bench
      | .contains address => .silent (.contained (arena.contains address)) bench

abbrev Turn := NativeCall.Turn Bench Request Answer

def Turn.Writes (turn : Turn) (offset : Nat) (code : List Byte) : Prop :=
  turn.request = .write code ∧ turn.value = .wrote offset

/-!
# One request
-/

/-- What a request to an arena comes to: its answer, and the arena after it. -/
inductive Answers (pages : Pages) (arena : Arena) : Request -> Answer -> Arena -> Prop where
  | wrote {code : List Byte} {offset : Nat} {next : Arena} (hstate : arena.state = .writable)
      (hnext : next.state = .writable) (hextends : next.Extends arena)
      (haligned : Arena.codeAlign ∣ offset) (hbehind : arena.used ≤ offset)
      (hholds : next.Holds offset code) : Answers pages arena (.write code) (.wrote offset) next
  | full {code : List Byte} (hstate : arena.state = .writable) :
      Answers pages arena (.write code)
        (.refused (.capacity code.length arena.remaining)) arena
  | finalized {next : Arena} (hstate : arena.state = .writable) (hextends : next.Extends arena)
      (hnext : next.state = .executable) : Answers pages arena .finalize .finalized next
  | prevented {code : Int} (hstate : arena.state = .writable)
      (hrefusal : pages.refusal = some code) :
      Answers pages arena .finalize (.refused (.protect (some code))) arena
  | early {offset : Nat} (hstate : arena.state = .writable) :
      Answers pages arena (.entry offset) (.refused .notFinalized) arena
  | rewrites {code : List Byte} (hstate : arena.state = .executable) :
      Answers pages arena (.write code) (.refused .alreadyFinalized) arena
  | refinalizes (hstate : arena.state = .executable) :
      Answers pages arena .finalize (.refused .alreadyFinalized) arena
  | entered {offset : Nat} (hstate : arena.state = .executable) (hused : offset < arena.used) :
      Answers pages arena (.entry offset) (.entered (arena.base + BitVec.ofNat 64 offset)) arena
  | outside {offset : Nat} (hstate : arena.state = .executable) (hused : arena.used ≤ offset) :
      Answers pages arena (.entry offset) (.refused (.outOfBounds offset arena.used)) arena
  | contained {address : Address} :
      Answers pages arena (.contains address) (.contained (arena.contains address)) arena

section Requests

variable {pages : Pages} {arena : Arena}

theorem answers_write (code : List Byte) :
    exists next, (answer ⟨pages, some arena⟩ (.write code)).state = ⟨pages, some next⟩ ∧
      Answers pages arena (.write code) (answer ⟨pages, some arena⟩ (.write code)).value next := by
  simp only [answer, Bench.write, Bench.change, Step.map]
  cases hwrite : arena.write code with
  | ok written =>
      rcases written with ⟨next, offset⟩
      rcases Arena.write_eq_ok hwrite with ⟨hextends, hoffset, _, hholds⟩
      rcases Arena.state_of_write hwrite with ⟨hstate, hnext⟩
      have hbehind : arena.used ≤ offset := by
        rw [hoffset]
        exact le_alignUp (by decide) arena.used
      have haligned : Arena.codeAlign ∣ offset := by
        rw [hoffset]
        exact dvd_alignUp _ _
      exact ⟨next, rfl, .wrote hstate hnext hextends haligned hbehind hholds⟩
  | error e =>
      exists arena
      constructor
      · rfl
      · rcases Arena.write_eq_error hwrite with ⟨hstate, rfl⟩ | ⟨hstate, rfl⟩
        · exact .rewrites hstate
        · exact .full hstate

theorem answers_finalize :
    exists next, (answer ⟨pages, some arena⟩ .finalize).state = ⟨pages, some next⟩ ∧
      Answers pages arena .finalize (answer ⟨pages, some arena⟩ .finalize).value next := by
  simp only [answer, Bench.finalize, Bench.change, Step.map]
  cases hfinalize : arena.finalize pages with
  | ok next =>
      rcases Arena.finalize_eq_ok hfinalize with ⟨hextends, hexecutable⟩
      have hnext : next.state = .executable := eq_of_beq hexecutable
      exact ⟨next, rfl, .finalized (Arena.state_of_finalize hfinalize) hextends hnext⟩
  | error e =>
      exists arena
      constructor
      · rfl
      · rcases Arena.finalize_eq_error hfinalize with ⟨hstate, rfl⟩ | ⟨hstate, code, hrefusal, rfl⟩
        · exact .refinalizes hstate
        · exact .prevented hstate hrefusal

theorem answers_entry (offset : Nat) :
    Answers pages arena (.entry offset) (.ofResult .entered (arena.entry offset)) arena := by
  unfold Arena.entry
  cases hstate : arena.state with
  | writable => exact .early hstate
  | executable =>
      simp only
      split
      case isTrue hused => exact .outside hstate hused
      case isFalse hused => exact .entered hstate (Nat.lt_of_not_le hused)

theorem answers_answer (pages : Pages) (arena : Arena) (request : Request) :
    exists next, (answer ⟨pages, some arena⟩ request).state = ⟨pages, some next⟩ ∧
      Answers pages arena request (answer ⟨pages, some arena⟩ request).value next := by
  cases request with
  | write code => exact answers_write code
  | finalize => exact answers_finalize
  | entry offset => exact ⟨arena, rfl, answers_entry offset⟩
  | contains address => exact ⟨arena, rfl, .contained⟩

end Requests

namespace Answers

variable {pages : Pages} {arena next : Arena} {request : Request} {value : Answer}

theorem extend (h : Answers pages arena request value next) : next.Extends arena := by
  cases h with
  | wrote _ _ hextends _ _ _ => exact hextends
  | finalized _ hextends _ => exact hextends
  | _ => exact .refl arena

theorem eq_of_refused {e : ArenaError} (h : Answers pages arena request (.refused e) next) :
    next = arena := by
  cases h <;> rfl

theorem state_eq (h : Answers pages arena request value next) (hvalue : value ≠ .finalized) :
    next.state = arena.state := by
  cases h with
  | wrote hstate hnext _ _ _ _ => rw [hstate, hnext]
  | finalized _ _ _ => exact absurd rfl hvalue
  | _ => rfl

/-- An executable arena refuses whatever would change it. -/
theorem of_executable (h : Answers pages arena request value next)
    (hstate : arena.state = .executable) :
    next = arena ∧ value ≠ .finalized ∧
      (forall code, request = .write code -> value = .refused .alreadyFinalized) ∧
      (request = .finalize -> value = .refused .alreadyFinalized) := by
  cases h with
  | wrote hwritable | full hwritable | finalized hwritable | prevented hwritable
  | early hwritable =>
      rw [hstate] at hwritable
      cases hwritable
  | rewrites _ => exact ⟨rfl, nofun, fun _ _ => rfl, nofun⟩
  | refinalizes _ => exact ⟨rfl, nofun, nofun, fun _ => rfl⟩
  | entered _ _ | outside _ _ | contained => exact ⟨rfl, nofun, nofun, nofun⟩

theorem executable_of_finalized (h : Answers pages arena request .finalized next) :
    next.state = .executable := by
  cases h with
  | finalized _ _ hnext => exact hnext

theorem notFinalized_of_writable {offset : Nat}
    (h : Answers pages arena (.entry offset) value next) (hstate : arena.state = .writable) :
    value = .refused .notFinalized := by
  cases h with
  | early _ => rfl
  | entered hexecutable _ | outside hexecutable _ =>
      rw [hstate] at hexecutable
      cases hexecutable

theorem finalized_of_writable (h : Answers pages arena .finalize value next)
    (hstate : arena.state = .writable) (hrefusal : pages.refusal = none) : value = .finalized := by
  cases h with
  | finalized _ _ _ => rfl
  | prevented _ hrefused =>
      rw [hrefusal] at hrefused
      cases hrefused
  | refinalizes hexecutable =>
      rw [hstate] at hexecutable
      cases hexecutable

end Answers

/-!
# Whole runs
-/

section Runs

variable {pages : Pages} {arena : Arena} {final : Bench} {past later run : List Turn} {turn : Turn}

/-- The arena on a bench is never exchanged, and only grows. -/
theorem exists_extension (h : IsRun answer ⟨pages, some arena⟩ run final) :
    exists next, final = ⟨pages, some next⟩ ∧ next.Extends arena := by
  induction run generalizing arena with
  | nil =>
      rcases h with _ | _
      exact ⟨arena, rfl, .refl arena⟩
  | cons turn rest ih =>
      rcases h with _ | ⟨request, hrest⟩
      rcases answers_answer pages arena request with
        ⟨next, hstate, hanswers⟩
      rw [hstate] at hrest
      rcases ih hrest with ⟨last, hfinal, hextends⟩
      exact ⟨last, hfinal, hextends.trans hanswers.extend⟩

theorem answers_of_run (h : IsRun answer ⟨pages, some arena⟩ (past ++ turn :: later) final) :
    exists before next, turn.before = ⟨pages, some before⟩ ∧ turn.after = ⟨pages, some next⟩ ∧
      before.Extends arena ∧ Answers pages before turn.request turn.value next := by
  rcases h.split with ⟨hpast, hstep, _⟩
  rcases exists_extension hpast with ⟨before, hbefore, hextends⟩
  rcases answers_answer pages before turn.request with
    ⟨next, hstate, hanswers⟩
  rw [← hbefore, ← hstep] at hstate hanswers
  exact ⟨before, next, hbefore, hstate, hextends, hanswers⟩

theorem answers_of_mem (h : IsRun answer ⟨pages, some arena⟩ run final) (hmem : turn ∈ run) :
    exists before next, turn.before = ⟨pages, some before⟩ ∧ turn.after = ⟨pages, some next⟩ ∧
      before.Extends arena ∧ Answers pages before turn.request turn.value next := by
  rcases List.append_of_mem hmem with ⟨past, later, rfl⟩
  exact answers_of_run h

theorem writable_of_run (h : IsRun answer ⟨pages, some arena⟩ run final)
    (hstate : arena.state = .writable)
    (hrun : forall turn, turn ∈ run -> turn.value ≠ .finalized) :
    exists next, final = ⟨pages, some next⟩ ∧ next.state = .writable := by
  induction run generalizing arena with
  | nil =>
      rcases h with _ | _
      exact ⟨arena, rfl, hstate⟩
  | cons turn rest ih =>
      rcases h with _ | ⟨request, hrest⟩
      rcases answers_answer pages arena request with
        ⟨next, hafter, hanswers⟩
      rw [hafter] at hrest
      apply ih hrest
      · rw [hanswers.state_eq (hrun _ List.mem_cons_self), hstate]
      · exact fun other hmem => hrun other (List.mem_cons_of_mem _ hmem)

theorem unchanged_of_run (h : IsRun answer ⟨pages, some arena⟩ run final)
    (hstate : arena.state = .executable) : final = ⟨pages, some arena⟩ := by
  induction run generalizing arena with
  | nil =>
      rcases h with _ | _
      rfl
  | cons turn rest ih =>
      rcases h with _ | ⟨request, hrest⟩
      rcases answers_answer pages arena request with
        ⟨next, hafter, hanswers⟩
      rcases hanswers.of_executable hstate with ⟨rfl, _⟩
      rw [hafter] at hrest
      exact ih hrest hstate

theorem executable_of_mem (h : IsRun answer ⟨pages, some arena⟩ run final)
    (hstate : arena.state = .executable) (hmem : turn ∈ run) :
    turn.after = ⟨pages, some arena⟩ ∧ turn.value ≠ .finalized ∧
      (forall code, turn.request = .write code -> turn.value = .refused .alreadyFinalized) ∧
      (turn.request = .finalize -> turn.value = .refused .alreadyFinalized) := by
  rcases List.append_of_mem hmem with ⟨past, later, rfl⟩
  rcases h.split with ⟨hpast, _, _⟩
  rcases answers_of_run h with ⟨before, next, hbefore, hafter, _, hanswers⟩
  rw [unchanged_of_run hpast hstate] at hbefore
  cases hbefore
  rcases hanswers.of_executable hstate with ⟨rfl, hvalue⟩
  exact ⟨hafter, hvalue⟩

end Runs

/-- A turn of a run, with the turns before and after it, of an arena that started as `start`
on a system that refuses to make pages executable or not. -/
structure KeepsArena (refusal : Option Int) (start : Arena) (past : List Turn) (turn : Turn)
    (later : List Turn) : Prop where
  fits : exists arena, turn.after.arena = some arena ∧ arena.capacity = start.capacity ∧
    arena.used ≤ arena.capacity
  aligned : forall offset code, turn.Writes offset code -> 8 ∣ offset
  /-- Later code lies behind earlier code. -/
  apart : forall offset code, turn.Writes offset code ->
    forall other, other ∈ later -> forall next more, other.Writes next more ->
      offset + code.length ≤ next
  /-- Written code stays inside what is used, byte for byte. -/
  held : forall offset code, turn.Writes offset code ->
    forall other, other ∈ turn :: later -> exists arena,
      other.after.arena = some arena ∧ offset + code.length ≤ arena.used ∧
        arena.read offset code.length = code
  /-- Nothing changes once the arena is finalized, which it is only once. -/
  closed : turn.value = .finalized -> forall other, other ∈ later ->
    other.after = turn.after ∧ other.value ≠ .finalized ∧
      (forall code, other.request = .write code -> other.value = .refused .alreadyFinalized) ∧
      (other.request = .finalize -> other.value = .refused .alreadyFinalized)
  early : (forall other, other ∈ past -> other.value ≠ .finalized) ->
    forall offset, turn.request = .entry offset -> turn.value = .refused .notFinalized
  granted : refusal = none -> (forall other, other ∈ past -> other.value ≠ .finalized) ->
    turn.request = .finalize -> turn.value = .finalized
  refused : forall e, turn.value = .refused e -> turn.after = turn.before

section Integrity

variable {pages : Pages} {arena : Arena} {final : Bench} {past later : List Turn} {turn : Turn}

theorem Turn.Writes.inversion {before next : Arena} {offset : Nat} {code : List Byte}
    (h : turn.Writes offset code) (hanswers : Answers pages before turn.request turn.value next) :
    Arena.codeAlign ∣ offset ∧ before.used ≤ offset ∧ next.Holds offset code := by
  rcases h with ⟨hrequest, hvalue⟩
  rw [hrequest, hvalue] at hanswers
  rcases hanswers with ⟨_, _, _, haligned, hbehind, hholds⟩
  exact ⟨haligned, hbehind, hholds⟩

theorem keepsArena_of_isRun (hstate : arena.state = .writable)
    (h : IsRun answer ⟨pages, some arena⟩ (past ++ turn :: later) final) :
    KeepsArena pages.refusal arena past turn later := by
  rcases answers_of_run h with ⟨before, next, hbefore, hafter, hextends, hanswers⟩
  rcases h.split with ⟨hpast, _, hlater⟩
  rw [hafter] at hlater
  have hwritable (hnever : forall other, other ∈ past -> other.value ≠ .finalized) :
      before.state = .writable := by
    rcases writable_of_run hpast hstate hnever with ⟨same, hsame, hwritable⟩
    rw [hbefore] at hsame
    cases hsame
    exact hwritable
  constructor
  case fits =>
    rw [hafter]
    exact ⟨next, rfl, hanswers.extend.capacity.trans hextends.capacity, next.used_le_capacity⟩
  case aligned =>
    intro offset code hwrites
    exact (hwrites.inversion hanswers).1
  case apart =>
    intro offset code hwrites other hmem place more hmore
    rcases answers_of_mem hlater hmem with ⟨earlier, last, _, _, hgrown, hothers⟩
    calc offset + code.length ≤ next.used := (hwrites.inversion hanswers).2.2.inside
      _ ≤ earlier.used := hgrown.used_le
      _ ≤ place := (hmore.inversion hothers).2.1
  case held =>
    intro offset code hwrites other hmem
    have hholds : next.Holds offset code := (hwrites.inversion hanswers).2.2
    rcases List.mem_cons.mp hmem with rfl | hmem
    · exact ⟨next, congrArg Bench.arena hafter, hholds.inside, hholds.read⟩
    · rcases answers_of_mem hlater hmem with ⟨earlier, last, _, hlast, hgrown, hothers⟩
      have hstays := hholds.extend (hothers.extend.trans hgrown)
      exact ⟨last, congrArg Bench.arena hlast, hstays.inside, hstays.read⟩
  case closed =>
    intro hvalue other hmem
    rw [hvalue] at hanswers
    rw [hafter]
    exact executable_of_mem hlater hanswers.executable_of_finalized hmem
  case early =>
    intro hnever offset hrequest
    rw [hrequest] at hanswers
    exact hanswers.notFinalized_of_writable (hwritable hnever)
  case granted =>
    intro hgranted hnever hrequest
    rw [hrequest] at hanswers
    exact hanswers.finalized_of_writable (hwritable hnever) hgranted
  case refused =>
    intro e hvalue
    rw [hvalue] at hanswers
    rw [hafter, hbefore, hanswers.eq_of_refused]

end Integrity

theorem allocate_eq_ok {bench : Bench} {total : Nat} (h : (bench.allocate total).value = .ok ()) :
    exists arena pages, Arena.allocate bench.clear.state.pages total = .ok (arena, pages) ∧
      (bench.allocate total).state = ⟨pages, some arena⟩ := by
  simp only [Bench.allocate] at h ⊢
  cases hallocate : Arena.allocate bench.clear.state.pages total with
  | error failure =>
      rw [hallocate] at h
      cases h
  | ok reserved =>
      rcases reserved with ⟨arena, pages⟩
      exact ⟨arena, pages, rfl, rfl⟩

/-- An arena keeps its code through every run of requests. -/
theorem run_keeps_arena {bench : Bench} {total : Nat} (h : (bench.allocate total).value = .ok ())
    (requests : List Request) :
    exists arena pages, (bench.allocate total).state = ⟨pages, some arena⟩ ∧
      0 < arena.capacity ∧ pages.pageSize.bytes ∣ arena.capacity ∧ arena.used = 0 ∧
      forall past turn later,
        turns answer (bench.allocate total).state requests = past ++ turn :: later ->
          KeepsArena pages.refusal arena past turn later := by
  rcases allocate_eq_ok h with ⟨arena, pages, hallocate, hstart⟩
  have hnew := Arena.allocate_eq_ok hallocate
  have hempty : arena.used = 0 := congrArg List.length hnew.blank
  have hwhole : pages.pageSize.bytes ∣ arena.capacity := by
    rw [hnew.system]
    exact hnew.whole
  refine ⟨arena, pages, hstart, hnew.positive, hwhole, hempty, ?_⟩
  intro past turn later hturns
  have hrun := isRun_turns answer (bench.allocate total).state requests
  rw [hturns, hstart] at hrun
  exact keepsArena_of_isRun hnew.state hrun

/-- Two pieces of code, one too many, and one too late. -/
def sampleRequests : List Request :=
  [ .write [0x11, 0x12, 0x13], .entry 0, .write [0x21, 0x22], .write (List.replicate 4090 0x31),
    .finalize, .write [0x41], .entry 8, .contains 0x10FFF ]

theorem run_keeps_arena_sample :
    (turns answer (empty.allocate 20).state sampleRequests).map (·.value) =
        [ .wrote 0, .refused .notFinalized, .wrote 8, .refused (.capacity 4090 4086), .finalized,
          .refused .alreadyFinalized, .entered 0x10008, .contained true ] ∧
      exists arena pages, (empty.allocate 20).state = ⟨pages, some arena⟩ ∧
        forall past turn later,
          turns answer (empty.allocate 20).state sampleRequests = past ++ turn :: later ->
            KeepsArena pages.refusal arena past turn later := by
  have h : (empty.allocate 20).value = .ok () := by decide +kernel
  rcases run_keeps_arena h sampleRequests with ⟨arena, pages, hstart, _, _, _, hkeeps⟩
  constructor
  · decide +kernel
  · exact ⟨arena, pages, hstart, hkeeps⟩

end Bench
end NativeCall
