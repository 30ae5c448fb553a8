import NativeCall.Proofs.Pages

/-!
# The ledger of a run

Events tell when memory is taken, when it is given back and when it cannot be. A balance of them
exists only if nothing is taken twice and nothing is given back that is not taken, so what is
given back is given back once.
-/

namespace NativeCall

inductive LedgerEntry where
  | opened (extent : Extent)
  | closed (extent : Extent)
  /-- Memory that could not be given back. The event does not tell which. -/
  | lost (error : String)
  deriving DecidableEq, Repr

def LedgerEntry.isLost : LedgerEntry -> Bool
  | .lost _ => true
  | .opened _ | .closed _ => false

def Event.booked? : Event -> Option LedgerEntry
  | .arenaAllocated size base => some (.opened { base := base.toNat, size })
  | .arenaReclaimed size base => some (.closed { base := base.toNat, size })
  | .releaseFailed error => some (.lost error)
  | _ => none

def ledger (events : List Event) : List LedgerEntry :=
  events.filterMap (·.booked?)

/-- The extents that are open after some entries. An extent is opened beside those that are
open, and only what is open is closed. -/
def balance : List Extent -> List LedgerEntry -> Option (List Extent)
  | extents, [] => some extents
  | extents, .opened extent :: rest =>
      if extents.all fun other => other.Apart extent then balance (extent :: extents) rest
      else none
  | extents, .closed extent :: rest =>
      if extent ∈ extents then balance (extents.erase extent) rest else none
  | extents, .lost _ :: rest => balance extents rest

theorem ledger_append (events more : List Event) :
    ledger (events ++ more) = ledger events ++ ledger more :=
  List.filterMap_append

theorem ledger_cons_opened (arena : Arena) (events : List Event) :
    ledger (arena.allocatedEvent :: events) = .opened arena.extent :: ledger events :=
  rfl

theorem closed_mem_ledger_iff {arena : Arena} {events : List Event} :
    .closed arena.extent ∈ ledger events <-> arena.reclaimedEvent ∈ events := by
  constructor
  · intro h
    rcases List.mem_filterMap.mp h with ⟨event, hmem, hentry⟩
    unfold Event.booked? at hentry
    split at hentry
    case h_2 size base =>
      injection hentry with hentry
      injection hentry with hextent
      injection hextent with hbase hsize
      rw [Arena.reclaimedEvent, ← hsize, ← BitVec.eq_of_toNat_eq hbase]
      exact hmem
    all_goals cases hentry
  · exact fun h => List.mem_filterMap.mpr ⟨_, h, rfl⟩

theorem lost_mem_ledger_iff {error : String} {events : List Event} :
    .lost error ∈ ledger events <-> .releaseFailed error ∈ events := by
  constructor
  · intro h
    rcases List.mem_filterMap.mp h with ⟨event, hmem, hentry⟩
    unfold Event.booked? at hentry
    split at hentry
    case h_3 =>
      cases hentry
      exact hmem
    all_goals cases hentry
  · exact fun h => List.mem_filterMap.mpr ⟨_, h, rfl⟩

theorem balance_append (extents : List Extent) (entries more : List LedgerEntry) :
    balance extents (entries ++ more) =
      (balance extents entries).bind fun left => balance left more := by
  induction entries generalizing extents with
  | nil => rfl
  | cons entry rest ih =>
      cases entry with
      | opened extent =>
          simp only [List.cons_append, balance]
          split
          · exact ih _
          · rfl
      | closed extent =>
          simp only [List.cons_append, balance]
          split
          · exact ih _
          · rfl
      | lost => exact ih _

theorem balance_opened {extents : List Extent} {extent : Extent} (entries : List LedgerEntry)
    (h : forall other, other ∈ extents -> other.Apart extent) :
    balance extents (.opened extent :: entries) = balance (extent :: extents) entries := by
  have hall : (extents.all fun other => other.Apart extent) = true :=
    List.all_eq_true.mpr fun other hmem => decide_eq_true (h other hmem)
  rw [balance, if_pos hall]

/-!
# Dropped arenas
-/

namespace Arena

/-- What the ledger says about an arena that is dropped. -/
def closing (arena : Arena) (pages : Pages) : LedgerEntry :=
  match pages.retention arena.base with
  | none => .closed arena.extent
  | some code => .lost (ArenaError.release (some code)).message

theorem ledger_discard (arena : Arena) (pages : Pages) :
    ledger (arena.discard pages).events = [arena.closing pages] := by
  unfold closing
  cases hretention : pages.retention arena.base with
  | none =>
      rw [discard_of_none hretention]
      rfl
  | some code =>
      rw [discard_of_some hretention]
      rfl

theorem closing_congr {pages other : Pages} (h : other.toSystem = pages.toSystem)
    (arena : Arena) : arena.closing other = arena.closing pages := by
  rw [closing, h]
  rfl

theorem closing_of_none {arena : Arena} {pages : Pages}
    (h : pages.retention arena.base = none) : arena.closing pages = .closed arena.extent := by
  simp only [closing, h]

theorem closing_of_some {arena : Arena} {pages : Pages} {code : Int}
    (h : pages.retention arena.base = some code) :
    arena.closing pages = .lost (ArenaError.release (some code)).message := by
  simp only [closing, h]

theorem of_closing_eq_closed {arena : Arena} {pages : Pages} {extent : Extent}
    (h : arena.closing pages = .closed extent) :
    pages.retention arena.base = none ∧ arena.extent = extent := by
  cases hretention : pages.retention arena.base with
  | none =>
      rw [closing_of_none hretention] at h
      cases h
      exact ⟨rfl, rfl⟩
  | some code =>
      rw [closing_of_some hretention] at h
      cases h

theorem isLost_closing (arena : Arena) (pages : Pages) :
    (arena.closing pages).isLost = pages.keeps arena := by
  unfold closing Pages.keeps
  cases pages.retention arena.base <;> rfl

end Arena

theorem Process.ledger_discardAll (pages : Pages) (arenas : List Arena) :
    ledger (discardAll pages arenas).events = arenas.map (·.closing pages) := by
  induction arenas generalizing pages with
  | nil => rfl
  | cons arena rest ih =>
      have hrest := Arena.closing_congr (arena.toSystem_discard pages)
      simp only [discardAll, ledger_append, Arena.ledger_discard, ih, hrest, List.map_cons]
      rfl

theorem countP_isLost_closings (pages : Pages) (arenas : List Arena) :
    (arenas.map (·.closing pages)).countP (·.isLost) = (arenas.filter pages.keeps).length := by
  rw [List.countP_map, ← List.countP_eq_length_filter]
  exact List.countP_congr fun arena _ => by rw [Function.comp_apply, arena.isLost_closing]

/-- Dropping arenas closes them, but for those that the system keeps. -/
theorem balance_closings (pages : Pages) {extents kept : List Extent} {gone : List Arena}
    (h : extents.Perm (kept ++ gone.map Arena.extent)) :
    exists left, balance extents (gone.map (·.closing pages)) = some left ∧
      left.Perm (kept ++ (gone.filter pages.keeps).map Arena.extent) := by
  induction gone generalizing extents kept with
  | nil => exact ⟨extents, rfl, h⟩
  | cons arena rest ih =>
      have hfront : extents.Perm (arena.extent :: kept ++ rest.map Arena.extent) :=
        h.trans List.perm_middle
      have hkeeps : pages.keeps arena = (pages.retention arena.base).isSome := rfl
      rw [List.map_cons, Arena.closing, List.filter_cons, hkeeps]
      cases pages.retention arena.base with
      | none =>
          have hmem : arena.extent ∈ extents := hfront.mem_iff.mpr List.mem_cons_self
          have herase := hfront.erase arena.extent
          rw [List.cons_append, List.erase_cons_head] at herase
          simp only [balance, hmem, ↓reduceIte]
          exact ih herase
      | some code =>
          rcases ih hfront with ⟨left, hbalance, hleft⟩
          exact ⟨left, hbalance, hleft.trans List.perm_middle.symm⟩

end NativeCall
