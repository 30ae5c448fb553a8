import NativeCall.Linker
import NativeCall.Proofs.Arena
import NativeCall.Proofs.Ledger

/-!
# Attaching

All stubs of a linker go into one new arena. The methods that come out of it depend on the
stubs and on the base of the arena only. An attachment that fails leaves the registry alone.
-/

namespace NativeCall
namespace Linker

def codes (linker : Linker) : List (List Byte) :=
  linker.stubs.map (·.trampoline.code)

/-- The places of the stubs, counted from the base of an arena. -/
def offsets (linker : Linker) : List Nat :=
  Arena.offsetsFrom 0 linker.codes

def methodsAt (linker : Linker) (base : Address) : List NativeMethod :=
  List.zipWith
    (fun stub offset =>
      { name := stub.name, signature := stub.signature
        address := base + BitVec.ofNat 64 offset })
    linker.stubs linker.offsets

theorem length_codes (linker : Linker) : linker.codes.length = linker.stubs.length :=
  List.length_map _

theorem length_offsets (linker : Linker) : linker.offsets.length = linker.stubs.length := by
  rw [offsets, Arena.length_offsetsFrom, length_codes]

theorem fill_eq_ok {linker : Linker} {pages : Pages} {arena full : Arena} {offsets : List Nat}
    (h : linker.fill pages arena = .ok (full, offsets)) (fresh : arena.image = []) :
    full.Extends arena ∧ full.isExecutable = true ∧ offsets = linker.offsets ∧
      List.Forall₂ full.Holds linker.offsets linker.codes := by
  rcases bind_eq_ok h with ⟨⟨written, offsets⟩, hwritten, h⟩
  rcases bind_eq_ok h with ⟨final, hfinal, h⟩
  cases h
  rcases Arena.writeAll_eq_ok hwritten with ⟨hextends, hoffsets, hholds⟩
  rcases Arena.finalize_eq_ok hfinal with ⟨hfull, hexecutable⟩
  rw [Arena.used, fresh] at hoffsets
  have hsame : offsets = linker.offsets := hoffsets
  rw [← hsame]
  exact ⟨hfull.trans hextends, hexecutable, rfl, hholds.imp fun _ _ held => held.extend hfull⟩

theorem methods_eq_ok {linker : Linker} {arena : Arena} {methods : List NativeMethod}
    (h : linker.methods arena linker.offsets = .ok methods) :
    methods = linker.methodsAt arena.base := by
  unfold Linker.methods at h
  unfold methodsAt
  generalize linker.offsets = offsets at h ⊢
  generalize linker.stubs = stubs at h ⊢
  induction stubs generalizing offsets methods with
  | nil =>
      cases h
      rfl
  | cons stub rest ih =>
      cases offsets with
      | nil =>
          cases h
          rfl
      | cons offset later =>
          rw [List.zip_cons_cons, List.mapM_cons] at h
          rcases bind_eq_ok h with ⟨method, hmethod, h⟩
          rcases bind_eq_ok h with ⟨others, hothers, h⟩
          rcases bind_eq_ok hmethod with ⟨address, haddress, hmethod⟩
          cases h
          cases hmethod
          rw [List.zipWith_cons_cons, ih _ hothers, Arena.entry_eq_ok haddress]

theorem contains_of_methods {linker : Linker} {arena : Arena} {offsets : List Nat}
    {methods : List NativeMethod} (h : linker.methods arena offsets = .ok methods)
    {method : NativeMethod} (hmem : method ∈ methods) : arena.contains method.address = true := by
  unfold Linker.methods at h
  generalize linker.stubs.zip offsets = pieces at h
  induction pieces generalizing methods with
  | nil =>
      cases h
      cases hmem
  | cons piece rest ih =>
      rw [List.mapM_cons] at h
      rcases bind_eq_ok h with ⟨first, hfirst, h⟩
      rcases bind_eq_ok h with ⟨others, hothers, h⟩
      rcases bind_eq_ok hfirst with ⟨address, haddress, hfirst⟩
      cases h
      cases hfirst
      rcases List.mem_cons.mp hmem with rfl | hmem
      · exact Arena.contains_of_entry haddress
      · exact ih hmem hothers

/-!
# Methods in place
-/

/-- The code of a stub stands at the aligned address of a method. -/
def Stands (arena : Arena) (stub : PendingStub) (method : NativeMethod) : Prop :=
  8 ∣ method.address.toNat ∧ arena.HoldsAt method.address stub.trampoline.code

theorem length_methodsAt (linker : Linker) (base : Address) :
    (linker.methodsAt base).length = linker.stubs.length := by
  rw [methodsAt, List.length_zipWith, length_offsets, Nat.min_self]

theorem forall₂_methodsAt (linker : Linker) (base later : Address) :
    List.Forall₂ (fun method moved => moved.address = method.address + (later - base))
      (linker.methodsAt base) (linker.methodsAt later) := by
  unfold methodsAt
  generalize linker.offsets = offsets
  generalize linker.stubs = stubs
  induction stubs generalizing offsets with
  | nil => exact .nil
  | cons stub rest ih =>
      cases offsets with
      | nil => exact .nil
      | cons offset others =>
          refine .cons ?_ (ih others)
          simp only
          bv_omega

theorem stands_methodsAt {linker : Linker} {arena : Arena}
    (h : List.Forall₂ arena.Holds linker.offsets linker.codes) :
    List.Forall₂ (Stands arena) linker.stubs (linker.methodsAt arena.base) := by
  have haligned : forall offset, offset ∈ linker.offsets -> Arena.codeAlign ∣ offset :=
    fun offset hmem => Arena.codeAlign_dvd_offsetsFrom hmem
  unfold methodsAt
  unfold codes at h
  generalize linker.offsets = offsets at h haligned ⊢
  generalize linker.stubs = stubs at h ⊢
  induction stubs generalizing offsets with
  | nil => exact .nil
  | cons stub rest ih =>
      rcases h with _ | ⟨hfirst, hothers⟩
      refine .cons ⟨?_, hfirst.holdsAt⟩ (ih _ ?_ hothers)
      · exact Arena.codeAlign_dvd_address hfirst.offset_le_used (haligned _ List.mem_cons_self)
      · exact fun offset hmem => haligned offset (List.mem_cons_of_mem _ hmem)

theorem zipWith_methodsAt (linker : Linker) (base : Address) :
    List.zipWith (fun stub method => (method.address, stub.trampoline.code)) linker.stubs
        (linker.methodsAt base) =
      (linker.offsets.zip linker.codes).map
        fun piece => (base + BitVec.ofNat 64 piece.1, piece.2) := by
  unfold methodsAt codes
  generalize linker.offsets = offsets
  generalize linker.stubs = stubs
  induction stubs generalizing offsets with
  | nil => rw [List.map_nil, List.zip_nil_right, List.zipWith_nil_left, List.map_nil]
  | cons stub rest ih =>
      cases offsets with
      | nil => rfl
      | cons offset later =>
          rw [List.zipWith_cons_cons, List.zipWith_cons_cons, List.map_cons, List.zip_cons_cons,
            List.map_cons, ih]

theorem pairwise_methodsAt {linker : Linker} {arena : Arena}
    (h : List.Forall₂ arena.Holds linker.offsets linker.codes) :
    (List.zipWith (fun stub method => (method.address, stub.trampoline.code)) linker.stubs
        (linker.methodsAt arena.base)).Pairwise
      fun piece later => piece.1.toNat + piece.2.length ≤ later.1.toNat := by
  rw [zipWith_methodsAt, List.pairwise_map]
  have hholds (piece : Nat × List Byte) (hmem : piece ∈ linker.offsets.zip linker.codes) :
      arena.Holds piece.1 piece.2 :=
    (List.forall₂_iff_zip.mp h).2 hmem
  refine (Arena.pairwise_offsetsFrom 0 linker.codes).imp_of_mem ?_
  intro piece later hpiece hlater happart
  rw [Arena.toNat_base_add (hholds piece hpiece).offset_le_used,
    Arena.toNat_base_add (hholds later hlater).offset_le_used, Nat.add_assoc]
  exact Nat.add_le_add_left happart _

end Linker

namespace Process

variable {process : Process} {owner : ClassId} {linker : Linker}

/-- What attaching comes to. Without stubs nothing happens. Otherwise an arena is reserved, if
there is memory, and is either dropped at once or registered with all the code in it. -/
inductive Attaches (process : Process) (owner : ClassId) (linker : Linker) :
    Step Process (Outcome LinkError (List NativeMethod)) -> Prop where
  | empty (hstubs : linker.isEmpty = true) :
      Attaches process owner linker (.silent (.ok []) process)
  | unreserved {failure : Failure ArenaError} (hstubs : linker.isEmpty = false) :
      Attaches process owner linker (.silent (.error (failure.map .arena)) process)
  | abandoned {arena : Arena} {pages : Pages} {e : ArenaError} {events : List Event}
      (hstubs : linker.isEmpty = false)
      (hallocate : Arena.allocate process.pages linker.codeSize = .ok (arena, pages))
      (hevents : ledger events = []) :
      Attaches process owner linker
        { value := .error (.error (.arena e))
          state := { process with pages := (arena.discard pages).state }
          events := arena.allocatedEvent :: events ++ (arena.discard pages).events }
  | placed {arena full : Arena} {pages : Pages} {events : List Event}
      (hstubs : linker.isEmpty = false)
      (hallocate : Arena.allocate process.pages linker.codeSize = .ok (arena, pages))
      (hextends : full.Extends arena) (hexecutable : full.isExecutable = true)
      (hholds : List.Forall₂ full.Holds linker.offsets linker.codes)
      (hinside : forall method, method ∈ linker.methodsAt full.base ->
        full.contains method.address = true)
      (hevents : ledger events = []) :
      Attaches process owner linker
        { value := .ok (linker.methodsAt full.base)
          state := (Process.register { process with pages } owner full).state
          events := arena.allocatedEvent :: events ++
            (Process.register { process with pages } owner full).events }

theorem ledger_dumps (linker : Linker) : ledger linker.dumps = [] := by
  unfold Linker.dumps
  split
  case isTrue =>
    apply List.filterMap_eq_nil_iff.mpr
    intro event hmem
    rcases List.mem_map.mp hmem with ⟨stub, _, rfl⟩
    rfl
  case isFalse => rfl

theorem attach_of_isEmpty (h : linker.isEmpty = true) :
    process.attach owner linker = .silent (.ok []) process := by
  rw [attach, if_pos h]

theorem attaches (process : Process) (owner : ClassId) (linker : Linker) :
    process.Attaches owner linker (process.attach owner linker) := by
  cases hstubs : linker.isEmpty with
  | true =>
      rw [attach_of_isEmpty hstubs]
      exact .empty hstubs
  | false =>
      simp only [attach, hstubs, Bool.false_eq_true, ↓reduceIte]
      cases hallocate : Arena.allocate process.pages linker.codeSize with
      | error failure => exact .unreserved hstubs
      | ok reserved =>
          rcases reserved with ⟨arena, pages⟩
          simp only
          cases hfill : linker.fill pages arena with
          | error e => exact .abandoned hstubs hallocate rfl
          | ok filled =>
              rcases filled with ⟨full, offsets⟩
              rcases Linker.fill_eq_ok hfill (Arena.allocate_eq_ok hallocate).blank with
                ⟨hextends, hexecutable, rfl, hholds⟩
              simp only
              cases hmethods : linker.methods full linker.offsets with
              | error e => exact .abandoned hstubs hallocate rfl
              | ok methods =>
                  have hinside (method : NativeMethod) (hmem : method ∈ methods) :
                      full.contains method.address = true :=
                    Linker.contains_of_methods hmethods hmem
                  cases Linker.methods_eq_ok hmethods
                  exact .placed hstubs hallocate hextends hexecutable hholds hinside
                    (ledger_dumps linker)

/-- What a successful attachment of stubs leaves behind. -/
structure HasAttached (process : Process) (owner : ClassId) (linker : Linker) (arena : Arena)
    (methods : List NativeMethod) (state : Process) : Prop where
  executable : arena.isExecutable = true
  holds : List.Forall₂ arena.Holds linker.offsets linker.codes
  methods : methods = linker.methodsAt arena.base
  classes : state.classes = process.classes
  registry : state.registry = (process.registry.live process.classes).add owner arena

theorem attach_eq_ok {methods : List NativeMethod} (hstubs : linker.isEmpty = false)
    (h : (process.attach owner linker).value = .ok methods) :
    exists arena,
      process.HasAttached owner linker arena methods (process.attach owner linker).state := by
  have hattaches := attaches process owner linker
  generalize process.attach owner linker = step at h hattaches
  cases hattaches with
  | empty hempty =>
      rw [hstubs] at hempty
      cases hempty
  | unreserved => cases h
  | abandoned => cases h
  | @placed _ full _ _ _ _ _ hexecutable hholds _ _ =>
      cases h
      exact ⟨full, hexecutable, hholds, rfl, rfl, rfl⟩

theorem exists_methodsAt {methods : List NativeMethod}
    (h : (process.attach owner linker).value = .ok methods) :
    exists base, methods = linker.methodsAt base := by
  cases hstubs : linker.isEmpty with
  | true =>
      rw [attach_of_isEmpty hstubs] at h
      cases h
      refine ⟨0, ?_⟩
      rw [Linker.methodsAt, List.isEmpty_iff.mp hstubs, List.zipWith_nil_left]
  | false =>
      rcases attach_eq_ok hstubs h with ⟨arena, hattached⟩
      exact ⟨arena.base, hattached.methods⟩

theorem attach_eq_error {failure : Failure LinkError}
    (h : (process.attach owner linker).value = .error failure) :
    (process.attach owner linker).state.classes = process.classes ∧
      (process.attach owner linker).state.registry = process.registry ∧
      exists e, failure = Failure.map .arena e := by
  have hattaches := attaches process owner linker
  generalize process.attach owner linker = step at h hattaches ⊢
  cases hattaches with
  | empty => cases h
  | @unreserved e _ =>
      cases h
      exact ⟨rfl, rfl, e, rfl⟩
  | @abandoned _ _ e _ _ _ _ =>
      cases h
      exact ⟨rfl, rfl, .error e, rfl⟩
  | placed => cases h

end Process
end NativeCall
