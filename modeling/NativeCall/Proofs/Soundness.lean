import NativeCall.Proofs.Request

/-!
# Sound processes

As long as handles are used only while they are held, the registry owns exactly the memory
that is mapped, but for what could not be given back, and the ledger of a run accounts for all
of it.
-/

namespace NativeCall
namespace Process

/-!
# The invariant
-/

/-- The registry owns what is mapped, but for what is lost, and refers only to classes that there
have been. -/
structure IsSound (process : Process) (lost : List Extent) : Prop where
  layout : Pages.IsLayout process.pages.mapped
  mapped : process.pages.mapped.Perm (process.registry.arenas.map Arena.extent ++ lost)
  grouped : process.registry.IsGrouped
  known : forall id, id ∈ process.registry.owners -> id.index < process.classes.handles.length

theorem isSound_initial : initial.IsSound [] where
  layout := .nil
  mapped := .refl _
  grouped := { distinct := .nil, inhabited := nofun }
  known := nofun

/-- What a sweep drops and cannot give back. -/
def leftovers (process : Process) : List Extent :=
  ((process.registry.stale process.classes).filter process.pages.keeps).map Arena.extent

section Soundness

variable {before after : Process} {lost : List Extent} {entries : List LedgerEntry}
  {code : List (Address × List Byte)} {visit : Visit}

theorem countP_isLost_closings_eq (process : Process) :
    process.closings.countP (·.isLost) = process.leftovers.length := by
  rw [closings, countP_isLost_closings, leftovers, List.length_map]

/-- What is mapped stays so in a sweep, or belongs to arenas that the sweep drops. -/
theorem IsSound.mapped_perm (h : before.IsSound lost) :
    before.pages.mapped.Perm
      ((before.registry.live before.classes).arenas.map Arena.extent ++ lost ++
        (before.registry.stale before.classes).map Arena.extent) := by
  have hparts := (before.registry.arenas_perm before.classes).map Arena.extent
  rw [List.map_append] at hparts
  apply (h.mapped.trans (hparts.append_right lost)).trans
  rw [List.append_assoc, List.append_assoc]
  exact List.Perm.append_left _ List.perm_append_comm

theorem IsSound.sweep (h : before.IsSound lost) :
    before.sweep.state.IsSound (lost ++ before.leftovers) where
  layout := isLayout_discardAll h.layout _
  mapped := by
    rw [← List.append_assoc]
    exact mapped_discardAll_perm h.layout h.mapped_perm
  grouped := h.grouped.live _
  known := fun id hmem => h.known id (Registry.mem_owners_live hmem).1

section Placed

variable {owner : ClassId} {arena full : Arena} {pages : Pages} {total : Nat}

theorem IsSound.mapped_allocate (h : before.IsSound lost)
    (hallocate : Arena.allocate before.pages total = .ok (arena, pages))
    (hextends : full.Extends arena) :
    pages.mapped.Perm
      (full.extent :: (before.registry.live before.classes).arenas.map Arena.extent ++ lost ++
        (before.registry.stale before.classes).map Arena.extent) := by
  have hreserves := Pages.reserves_of_allocate hallocate h.layout
  rw [hextends.extent]
  exact hreserves.mapped.trans (h.mapped_perm.cons _)

theorem IsSound.mapped_register (h : before.IsSound lost)
    (hallocate : Arena.allocate before.pages total = .ok (arena, pages))
    (hextends : full.Extends arena) :
    (register { before with pages } owner full).state.pages.mapped.Perm
      (full.extent :: (before.registry.live before.classes).arenas.map Arena.extent ++ lost ++
        before.leftovers) := by
  have hreserves := Pages.reserves_of_allocate hallocate h.layout
  rw [leftovers, ← Pages.keeps_congr hreserves.system]
  exact mapped_discardAll_perm hreserves.layout (h.mapped_allocate hallocate hextends)

theorem IsSound.register (h : before.IsSound lost)
    (hallocate : Arena.allocate before.pages total = .ok (arena, pages))
    (hextends : full.Extends arena) (howner : owner.index < before.classes.handles.length) :
    (register { before with pages } owner full).state.IsSound (lost ++ before.leftovers) where
  layout := isLayout_discardAll (Pages.reserves_of_allocate hallocate h.layout).layout _
  mapped := by
    have hadded := (Registry.arenas_add (before.registry.live before.classes) owner full).map
      Arena.extent
    apply (h.mapped_register hallocate hextends).trans
    rw [List.append_assoc]
    exact hadded.symm.append_right _
  grouped := (h.grouped.live _).add owner full
  known := by
    intro id hmem
    rcases Registry.mem_owners_add hmem with rfl | hmem
    · exact howner
    · exact h.known id (Registry.mem_owners_live hmem).1

end Placed

theorem IsSound.discard {arena : Arena} {pages : Pages} (h : before.IsSound lost)
    (hreserves : before.pages.Reserves arena pages) :
    IsSound { before with pages := (arena.discard pages).state }
      (lost ++ ([arena].filter before.pages.keeps).map Arena.extent) where
  layout := isLayout_discardAll hreserves.layout [arena]
  mapped := by
    rw [← List.append_assoc]
    exact (mapped_discard_perm hreserves).trans (h.mapped.append_right _)
  grouped := h.grouped
  known := h.known

/-- A process stays sound. What it loses in a turn is announced, entry by entry. -/
theorem Effect.isSound (h : Effect before after entries code visit) (hsound : before.IsSound lost)
    (howner : forall owner extent, visit = .placed owner extent ->
      owner.index < before.classes.handles.length) :
    exists more, after.IsSound (lost ++ more) ∧ more.length = entries.countP (·.isLost) := by
  cases h with
  | idle hregistry hmapped hclasses hentries _ =>
      exists []
      constructor
      · rw [List.append_nil]
        constructor
        case layout => exact hmapped ▸ hsound.layout
        case mapped =>
          rw [hmapped, hregistry]
          exact hsound.mapped
        case grouped => exact hregistry ▸ hsound.grouped
        case known =>
          rw [hregistry]
          exact fun id hmem => Nat.lt_of_lt_of_le (hsound.known id hmem) hclasses
      · rw [hentries]
        rfl
  | @abandoned arena _ _ hallocate hafter hentries _ =>
      have hreserves := Pages.reserves_of_allocate hallocate hsound.layout
      exists ([arena].filter before.pages.keeps).map Arena.extent
      constructor
      · exact hafter ▸ hsound.discard hreserves
      · have hcount := countP_isLost_closings before.pages [arena]
        rw [hentries, List.length_map, ← hcount]
        rfl
  | asked hafter hentries _ =>
      exists before.leftovers
      constructor
      · exact hafter ▸ hsound.sweep
      · rw [hentries, countP_isLost_closings_eq]
  | placed hallocate hextends hafter hentries _ =>
      exists before.leftovers
      constructor
      · exact hafter ▸ hsound.register hallocate hextends (howner _ _ rfl)
      · rw [hentries, ← countP_isLost_closings_eq]
        rfl

theorem Effect.balanced (h : Effect before after entries code visit) (hsound : before.IsSound lost)
    {extents : List Extent} (hextents : extents.Perm before.pages.mapped) :
    exists left, balance extents entries = some left ∧
      left.Perm after.pages.mapped := by
  cases h with
  | idle _ hmapped _ hentries _ =>
      rw [hentries, hmapped]
      exact ⟨extents, rfl, hextents⟩
  | @abandoned arena pages _ hallocate hafter hentries _ =>
      have hreserves := Pages.reserves_of_allocate hallocate hsound.layout
      have hopened : (arena.extent :: extents).Perm
          (before.pages.mapped ++ [arena].map Arena.extent) :=
        (hextents.cons _).trans (List.perm_append_singleton _ _).symm
      rcases balance_closings before.pages hopened with ⟨left, hbalance, hleft⟩
      exists left
      constructor
      · rw [hentries, balance_opened _ fun other hmem =>
          hreserves.apart other (hextents.mem_iff.mp hmem)]
        exact hbalance
      · rw [hafter]
        exact hleft.trans (mapped_discard_perm hreserves).symm
  | asked hafter hentries _ =>
      have hparts := hextents.trans hsound.mapped_perm
      rcases balance_closings before.pages hparts with ⟨left, hbalance, hleft⟩
      rw [hentries, hafter]
      exact ⟨left, hbalance,
        hleft.trans (mapped_discardAll_perm hsound.layout hsound.mapped_perm).symm⟩
  | @placed owner arena full pages _ hallocate hextends hafter hentries _ =>
      have hreserves := Pages.reserves_of_allocate hallocate hsound.layout
      have hopened : (full.extent :: extents).Perm
          (full.extent :: (before.registry.live before.classes).arenas.map Arena.extent ++ lost ++
            (before.registry.stale before.classes).map Arena.extent) :=
        (hextents.trans hsound.mapped_perm).cons _
      rcases balance_closings before.pages hopened with ⟨left, hbalance, hleft⟩
      exists left
      constructor
      · rw [hentries, balance_opened, closings, hbalance]
        intro other hmem
        rw [hextends.extent]
        exact hreserves.apart other (hextents.mem_iff.mp hmem)
      · rw [hafter]
        exact hleft.trans (hsound.mapped_register hallocate hextends).symm

theorem IsSound.pairwise_apart (h : before.IsSound lost) :
    before.registry.arenas.Pairwise fun arena other => arena.extent.Apart other.extent := by
  have hmapped : (before.registry.arenas.map Arena.extent ++ lost).Pairwise Extent.Apart :=
    (h.mapped.pairwise_iff Extent.Apart.symm).mp h.layout.pairwise_apart
  exact List.pairwise_map.mp (List.pairwise_append.mp hmapped).1

end Soundness

/-!
# Lawful runs
-/

def isLawful (run : List Turn) : Bool :=
  run.all fun turn => turn.before.permits turn.request

theorem permits_of_mem {run : List Turn} {turn : Turn} (h : isLawful run = true)
    (hmem : turn ∈ run) : turn.before.permits turn.request = true :=
  List.all_eq_true.mp h turn hmem

theorem isLawful_append {past later : List Turn} (h : isLawful (past ++ later) = true) :
    isLawful past = true ∧ isLawful later = true := by
  rw [isLawful, List.all_append, Bool.and_eq_true_iff] at h
  exact h

theorem index_lt_of_isLive {classes : Classes} {id : ClassId} (h : classes.isLive id = true) :
    id.index < classes.handles.length := by
  apply Nat.lt_of_not_le
  intro hle
  rw [Classes.isLive, Classes.count, List.getD_eq_getElem?_getD, List.getElem?_eq_none hle] at h
  exact absurd h (by decide)

theorem owner?_of_placed {turn : Turn} {owner : ClassId} {extent : Extent}
    (h : turn.visit = .placed owner extent) : turn.request.owner? = some owner := by
  rcases turn with ⟨before, request, step⟩
  cases request with
  | attach | link => exact congrArg some (Visit.eq_of_ofMethods h)
  | _ => cases h

theorem isLive_of_owner? {process : Process} {request : Request} {owner : ClassId}
    (h : process.permits request = true) (howner : request.owner? = some owner) :
    process.classes.isLive owner = true := by
  cases request with
  | attach | link =>
      cases howner
      exact h
  | _ => cases howner

theorem isSound_of_answer {turn : Turn} {lost : List Extent}
    (hstep : turn.step = answer turn.before turn.request)
    (hpermits : turn.before.permits turn.request = true) (hsound : turn.before.IsSound lost) :
    exists more, turn.after.IsSound (lost ++ more) ∧
      more.length = (ledger turn.events).countP (·.isLost) := by
  apply (effect_of_answer hstep).isSound hsound
  intro owner extent hvisit
  exact index_lt_of_isLive (isLive_of_owner? hpermits (owner?_of_placed hvisit))

section Runs

variable {start final : Process} {run : List Turn} {lost : List Extent}

/-- What a run loses, entry by entry, is beside what the registry owns in the end. -/
theorem isSound_of_run (h : IsRun answer start run final) (hlawful : isLawful run = true)
    (hstart : start.IsSound lost) :
    exists more, final.IsSound (lost ++ more) ∧
      more.length = (ledger (run.flatMap (·.events))).countP (·.isLost) := by
  induction run generalizing start lost with
  | nil =>
      rcases h with _ | _
      exact ⟨[], (List.append_nil lost).symm ▸ hstart, rfl⟩
  | cons turn rest ih =>
      rcases h.of_cons with ⟨rfl, hstep, hrest⟩
      have hpermits := permits_of_mem hlawful List.mem_cons_self
      have hlater : isLawful rest = true := (Bool.and_eq_true_iff.mp hlawful).2
      rcases isSound_of_answer hstep hpermits hstart with ⟨first, hfirst, hcount⟩
      rcases ih hrest hlater hfirst with ⟨others, hothers, hcounts⟩
      exists first ++ others
      constructor
      · rw [← List.append_assoc]
        exact hothers
      · rw [List.length_append, List.flatMap_cons, ledger_append, List.countP_append, hcount,
          hcounts]

/-- The ledger of a run accounts for all memory that is mapped in the end. -/
theorem balance_of_run (h : IsRun answer start run final) (hlawful : isLawful run = true)
    (hstart : start.IsSound lost) {extents : List Extent} (hextents : extents.Perm start.pages.mapped) :
    exists left, balance extents (ledger (run.flatMap (·.events))) = some left ∧
      left.Perm final.pages.mapped := by
  induction run generalizing start lost extents with
  | nil =>
      rcases h with _ | _
      exact ⟨extents, rfl, hextents⟩
  | cons turn rest ih =>
      rcases h.of_cons with ⟨rfl, hstep, hrest⟩
      have hpermits := permits_of_mem hlawful List.mem_cons_self
      rcases (effect_of_answer hstep).balanced hstart hextents with ⟨middle, hbalance, hmiddle⟩
      have hlater : isLawful rest = true := (Bool.and_eq_true_iff.mp hlawful).2
      rcases isSound_of_answer hstep hpermits hstart with ⟨_, hsound, _⟩
      rcases ih hrest hlater hsound hmiddle with ⟨left, hleft, hmapped⟩
      exists left
      constructor
      · rw [List.flatMap_cons, ledger_append, balance_append, hbalance]
        exact hleft
      · exact hmapped

end Runs

end Process
end NativeCall
