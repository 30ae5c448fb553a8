import Mathlib.Data.List.Pairwise
import NativeCall.Proofs.Soundness

/-!
# The lifetime of code

Code that was placed for a class stays where it is as long as a handle to the class is held.
After that the next visit to the registry drops it, and its memory is given back unless the
system refuses.
-/

namespace NativeCall
namespace Process

/-!
# One request
-/

section Requests

variable {before after : Process} {entries : List LedgerEntry}
  {code : List (Address × List Byte)} {visit : Visit} {owner : ClassId} {arena : Arena}
  {lost : List Extent}

theorem IsSound.extent_mem_mapped (h : before.IsSound lost)
    (hmem : (owner, arena) ∈ before.registry.owned) : arena.extent ∈ before.pages.mapped := by
  apply h.mapped.mem_iff.mpr
  exact List.mem_append_left lost (List.mem_map_of_mem (Registry.mem_arenas hmem))

theorem Effect.registry_of_none (h : Effect before after entries code .none) :
    after.registry = before.registry := by
  cases h with
  | idle hregistry _ _ _ _ => exact hregistry
  | abandoned _ hafter _ _ => rw [hafter]

theorem Effect.mem_owned (h : Effect before after entries code visit)
    (hmem : (owner, arena) ∈ before.registry.owned)
    (hlive : before.classes.isLive owner = true) : (owner, arena) ∈ after.registry.owned := by
  cases h with
  | idle hregistry _ _ _ _ =>
      rw [hregistry]
      exact hmem
  | abandoned _ hafter _ _ =>
      rw [hafter]
      exact hmem
  | asked hafter _ _ =>
      rw [hafter]
      exact Registry.mem_owned_live hmem hlive
  | placed _ _ hafter _ _ =>
      rw [hafter]
      apply (Registry.owned_add _ _ _).mem_iff.mpr
      exact List.mem_cons_of_mem _ (Registry.mem_owned_live hmem hlive)

theorem Effect.exists_arena {extent : Extent}
    (h : Effect before after entries code (.placed owner extent)) :
    exists arena, arena.extent = extent ∧ .opened extent ∈ entries ∧
      (owner, arena) ∈ after.registry.owned ∧
        forall address bytes, (address, bytes) ∈ code ->
          arena.contains address = true ∧ arena.HoldsAt address bytes := by
  cases h with
  | @placed _ _ full _ _ _ _ hafter hentries hcode =>
      rw [hafter, hentries]
      refine ⟨full, rfl, List.mem_cons_self, ?_, hcode⟩
      exact (Registry.owned_add _ owner full).mem_iff.mpr List.mem_cons_self

/-- What a failed request leaves of an arena that it began to fill. -/
inductive Abandons (before after : Pages) : List LedgerEntry -> Prop where
  | untouched (hmapped : after.mapped = before.mapped) : Abandons before after []
  | released {extent : Extent} (hmapped : after.mapped = before.mapped) :
      Abandons before after [.opened extent, .closed extent]
  | retained {arena : Arena} {code : Int} (hretention : before.retention arena.base = some code)
      (hmapped : after.mapped.Perm (arena.extent :: before.mapped)) :
      Abandons before after
        [.opened arena.extent, .lost (ArenaError.release (some code)).message]

theorem Effect.abandons (h : Effect before after entries code .none)
    (hsound : before.IsSound lost) : Abandons before.pages after.pages entries := by
  cases h with
  | idle _ hmapped _ hentries _ => exact hentries ▸ .untouched hmapped
  | @abandoned arena pages _ hallocate hafter hentries _ =>
      have hreserves := Pages.reserves_of_allocate hallocate hsound.layout
      have hsame : pages.retention = before.pages.retention :=
        congrArg System.retention hreserves.system
      rw [hentries, hafter]
      cases hretention : before.pages.retention arena.base with
      | none =>
          rw [Arena.closing_of_none hretention, Arena.discard_of_none (hsame ▸ hretention)]
          exact .released hreserves.undone
      | some code =>
          rw [Arena.closing_of_some hretention, Arena.discard_of_some (hsame ▸ hretention)]
          exact .retained hretention hreserves.mapped

theorem exists_of_closed_mem_closings {extent : Extent} (h : .closed extent ∈ before.closings) :
    exists arena, arena ∈ before.registry.stale before.classes ∧
      before.pages.retention arena.base = none ∧ arena.extent = extent := by
  rcases List.mem_map.mp h with ⟨arena, hstale, hclosing⟩
  exact ⟨arena, hstale, Arena.of_closing_eq_closed hclosing⟩

theorem IsSound.closed_notMem_closings (h : before.IsSound lost)
    (hmem : (owner, arena) ∈ before.registry.owned)
    (hlive : before.classes.isLive owner = true) : .closed arena.extent ∉ before.closings := by
  intro hclosed
  rcases exists_of_closed_mem_closings hclosed with ⟨other, hother, _, hsame⟩
  have hlives := Registry.mem_arenas (Registry.mem_owned_live hmem hlive)
  have hkept : arena.extent ∈
      (before.registry.live before.classes).arenas.map Arena.extent ++ lost :=
    List.mem_append_left lost (List.mem_map_of_mem hlives)
  exact base_ne_of_mapped_perm h.layout h.mapped_perm hkept hother
    (congrArg Extent.base hsame.symm)

theorem Effect.closed_notMem (h : Effect before after entries code visit)
    (hsound : before.IsSound lost) (hmem : (owner, arena) ∈ before.registry.owned)
    (hlive : before.classes.isLive owner = true) : .closed arena.extent ∉ entries := by
  cases h with
  | idle _ _ _ hentries _ =>
      rw [hentries]
      exact List.not_mem_nil
  | abandoned hallocate _ hentries _ =>
      have hreserves := Pages.reserves_of_allocate hallocate hsound.layout
      have hmapped := hsound.extent_mem_mapped hmem
      rw [hentries]
      intro hclosed
      rcases List.mem_cons.mp hclosed with hopened | hclosed
      · cases hopened
      · have hsame := (Arena.of_closing_eq_closed (List.mem_singleton.mp hclosed).symm).2
        have hpositive := hreserves.positive
        have hapart := hreserves.apart arena.extent hmapped
        rw [← hsame] at hapart
        exact hapart.base_ne hpositive hpositive rfl
  | asked _ hentries _ =>
      rw [hentries]
      exact hsound.closed_notMem_closings hmem hlive
  | placed _ _ _ hentries _ =>
      rw [hentries]
      intro hclosed
      rcases List.mem_cons.mp hclosed with hopened | hclosed
      · cases hopened
      · exact hsound.closed_notMem_closings hmem hlive hclosed

/-- What a visit to the registry does about an arena of a dead class. -/
structure Closes (before after : Process) (entries : List LedgerEntry) (arena : Arena) :
    Prop where
  closing : arena.closing before.pages ∈ entries
  mapped_iff : arena.extent ∈ after.pages.mapped <-> before.pages.keeps arena = true
  closed : .closed arena.extent ∈ entries -> before.pages.retention arena.base = none

theorem retention_of_closed_mem_closings (h : .closed arena.extent ∈ before.closings) :
    before.pages.retention arena.base = none := by
  rcases exists_of_closed_mem_closings h with ⟨other, _, hretention, hsame⟩
  have hbase : other.base = arena.base := BitVec.eq_of_toNat_eq (congrArg Extent.base hsame)
  rw [← hbase]
  exact hretention

theorem Effect.closes (h : Effect before after entries code visit) (hsound : before.IsSound lost)
    (hvisit : visit ≠ .none) (hmem : (owner, arena) ∈ before.registry.owned)
    (hdead : before.classes.isLive owner = false) : Closes before after entries arena := by
  have hstale : arena ∈ before.registry.stale before.classes := Registry.mem_stale hmem hdead
  have hclosing : arena.closing before.pages ∈ before.closings := List.mem_map_of_mem hstale
  have hmapped := hsound.extent_mem_mapped hmem
  cases h with
  | idle | abandoned => exact absurd rfl hvisit
  | asked hafter hentries _ =>
      rw [hafter, hentries]
      exact ⟨hclosing, extent_mem_discardAll_iff hstale hmapped, retention_of_closed_mem_closings⟩
  | placed hallocate _ hafter hentries _ =>
      have hreserves := Pages.reserves_of_allocate hallocate hsound.layout
      have hstill := hreserves.mapped.mem_iff.mpr (List.mem_cons_of_mem _ hmapped)
      rw [hafter, hentries]
      constructor
      case closing => exact List.mem_cons_of_mem _ hclosing
      case mapped_iff =>
        rw [← Pages.keeps_congr hreserves.system]
        exact extent_mem_discardAll_iff hstale hstill
      case closed =>
        intro hclosed
        rcases List.mem_cons.mp hclosed with hopened | hclosed
        · cases hopened
        · exact retention_of_closed_mem_closings hclosed

theorem exists_retention_of_closing {entry : LedgerEntry} (h : entry = arena.closing before.pages)
    (hlost : entry.isLost = true) : exists address, before.pages.retention address ≠ none := by
  rw [h, Arena.isLost_closing] at hlost
  exact ⟨arena.base, Option.isSome_iff_ne_none.mp hlost⟩

/-- Nothing is lost unless the system keeps it. -/
theorem Effect.exists_retention (h : Effect before after entries code visit)
    {entry : LedgerEntry} (hmem : entry ∈ entries) (hlost : entry.isLost = true) :
    exists address, before.pages.retention address ≠ none := by
  have hclosings (h : entry ∈ before.closings) :
      exists address, before.pages.retention address ≠ none := by
    rcases List.mem_map.mp h with ⟨arena, _, hclosing⟩
    exact exists_retention_of_closing hclosing.symm hlost
  cases h with
  | idle _ _ _ hentries _ =>
      rw [hentries] at hmem
      cases hmem
  | abandoned _ _ hentries _ =>
      rw [hentries] at hmem
      rcases List.mem_cons.mp hmem with rfl | hmem
      · cases hlost
      · exact exists_retention_of_closing (List.mem_singleton.mp hmem) hlost
  | asked _ hentries _ => exact hclosings (hentries ▸ hmem)
  | placed _ _ _ hentries _ =>
      rw [hentries] at hmem
      rcases List.mem_cons.mp hmem with rfl | hmem
      · cases hlost
      · exact hclosings hmem

theorem Effect.isLive_of_mem_owned (h : Effect before after entries code visit)
    (hvisit : visit ≠ .none)
    (hplaced : forall owner extent, visit = .placed owner extent ->
      before.classes.isLive owner = true)
    (hmem : (owner, arena) ∈ after.registry.owned) : before.classes.isLive owner = true := by
  cases h with
  | idle | abandoned => exact absurd rfl hvisit
  | asked hafter _ _ =>
      rw [hafter] at hmem
      exact Registry.isLive_of_mem_owned_live hmem
  | placed _ _ hafter _ _ =>
      rw [hafter] at hmem
      rcases List.mem_cons.mp ((Registry.owned_add _ _ _).mem_iff.mp hmem) with hnew | hmem
      · cases hnew
        exact hplaced _ _ rfl
      · exact Registry.isLive_of_mem_owned_live hmem

end Requests

/-!
# Reading code
-/

section Reading

variable {process : Process} {owner : ClassId} {arena : Arena} {address : Address}
  {lost : List Extent}

theorem ownsAddress_of_mem (hmem : (owner, arena) ∈ process.registry.owned)
    (hlive : process.classes.isLive owner = true) (hinside : arena.contains address = true) :
    (process.ownsAddress address).value = true :=
  List.any_eq_true.mpr ⟨arena, Registry.mem_arenas (Registry.mem_owned_live hmem hlive), hinside⟩

theorem IsSound.find?_contains (h : process.IsSound lost) (hmem : arena ∈ process.registry.arenas)
    (hinside : arena.contains address = true) :
    process.registry.arenas.find? (·.contains address) = some arena := by
  cases hfind : process.registry.arenas.find? (·.contains address) with
  | none => exact absurd hinside (List.find?_eq_none.mp hfind arena hmem)
  | some other =>
      have hother := List.find?_some hfind
      by_contra hne
      have hsymm : Std.Symm fun arena other : Arena => arena.extent.Apart other.extent :=
        ⟨fun _ _ => Extent.Apart.symm⟩
      have hapart := h.pairwise_apart.forall hmem (List.mem_of_find?_eq_some hfind)
        fun hsame => hne (congrArg some hsame.symm)
      rw [Arena.contains_eq, hapart.contains_eq_false hinside] at hother
      cases hother

theorem readCode_of_mem (h : process.IsSound lost) (hmem : (owner, arena) ∈ process.registry.owned)
    (hlive : process.classes.isLive owner = true) (hinside : arena.contains address = true)
    {bytes : List Byte} (hholds : arena.HoldsAt address bytes) :
    (process.readCode address bytes.length).value = some bytes := by
  have hkept : arena ∈ process.sweep.state.registry.arenas :=
    Registry.mem_arenas (Registry.mem_owned_live hmem hlive)
  have hfits : address.toNat - arena.base.toNat + bytes.length ≤ arena.capacity :=
    Nat.le_trans hholds.2.inside arena.used_le_capacity
  simp only [readCode, ask, h.sweep.find?_contains hkept hinside, Option.bind_eq_bind,
    Option.bind_some, hfits, ↓reduceIte, hholds.2.read]
  rfl

end Reading

/-!
# Placed code
-/

def Answer.failed : Answer -> Bool
  | .attached (.error _) | .linked { result := .error _, .. } => true
  | .attached (.ok _) | .linked { result := .ok _, .. } => false
  | .done | .created _ | .flag _ | .number _ => false

/-- The addresses that a turn answers with, or binds sites to. -/
def Turn.addresses (turn : Turn) : List Address :=
  match turn.request, turn.value with
  | .attach .., .attached result => (methodsOf result).map (·.address)
  | .link _ _ _ sites, .linked linked => newAddresses sites linked.sites
  | _, _ => []

theorem map_fst_placedCode {process : Process} {owner : ClassId} {linker : Linker}
    {attached : Step Process (Outcome LinkError (List NativeMethod))}
    (h : process.Attaches owner linker attached) :
    (placedCode linker (methodsOf attached.value)).map Prod.fst =
      (methodsOf attached.value).map (·.address) := by
  have hlength : (methodsOf attached.value).length ≤ linker.stubs.length := by
    cases h with
    | placed => exact Nat.le_of_eq (Linker.length_methodsAt _ _)
    | _ => exact Nat.zero_le _
  rw [placedCode, ← List.map_uncurry_zip_eq_zipWith, List.map_map]
  have hsnd := List.map_snd_zip hlength
  calc (linker.stubs.zip (methodsOf attached.value)).map (fun pair => pair.2.address)
      = ((linker.stubs.zip (methodsOf attached.value)).map Prod.snd).map (·.address) :=
        (List.map_map ..).symm
    _ = (methodsOf attached.value).map (·.address) := by rw [hsnd]

theorem Links.addresses {process : Process} {owner : ClassId} {selector : Selector}
    {helper : Address} {sites : List CallSite} {step : Step Process Linked}
    (h : process.Links owner selector helper sites step) :
    (newCode selector helper sites step.value.sites).map Prod.fst =
        newAddresses sites step.value.sites ∧
      newAddresses sites step.value.sites =
        (methodsOf step.value.result).map (·.address) := by
  cases h with
  | stopped hresult _ _ haddresses =>
      rw [newCode_eq_nil haddresses, haddresses, hresult]
      exact ⟨rfl, rfl⟩
  | attached hattaches hresult _ _ haddresses hcode =>
      rw [hcode, haddresses, hresult]
      exact ⟨map_fst_placedCode hattaches, rfl⟩

section Turns

variable {turn : Turn}

theorem addresses_of_answer (h : turn.step = answer turn.before turn.request) :
    turn.code.map Prod.fst = turn.addresses ∧
      turn.addresses = turn.value.methods.map (·.address) := by
  rcases turn with ⟨before, request, step⟩
  change step = answer before request at h
  subst h
  cases request with
  | attach owner linker => exact ⟨map_fst_placedCode (attaches before owner linker), rfl⟩
  | link owner selector helper sites =>
      exact (links before owner selector helper sites).addresses
  | _ => exact ⟨rfl, rfl⟩

theorem exists_placed (h : turn.step = answer turn.before turn.request)
    (hmethods : turn.value.methods ≠ []) :
    exists owner extent, turn.visit = .placed owner extent := by
  have hcode : turn.code ≠ [] := by
    rcases addresses_of_answer h with ⟨hcode, haddresses⟩
    intro hnil
    rw [← hcode, hnil] at haddresses
    exact hmethods (List.map_eq_nil_iff.mp haddresses.symm)
  have heffect := effect_of_answer h
  cases hvisit : turn.visit with
  | placed owner extent => exact ⟨owner, extent, rfl⟩
  | none =>
      rw [hvisit] at heffect
      cases heffect with
      | idle _ _ _ _ hnil => exact absurd hnil hcode
      | abandoned _ _ _ hnil => exact absurd hnil hcode
  | asked =>
      rw [hvisit] at heffect
      cases heffect with
      | asked _ _ hnil => exact absurd hnil hcode

theorem Answer.methods_of_failed {value : Answer} (h : value.failed = true) :
    value.methods = [] := by
  unfold Answer.failed at h
  split at h
  case h_1 | h_2 => rfl
  all_goals cases h

theorem visit_of_failed (h : turn.step = answer turn.before turn.request)
    (hfailed : turn.value.failed = true) : turn.visit = .none := by
  have hmethods := Answer.methods_of_failed hfailed
  rcases turn with ⟨before, request, step⟩
  change step = answer before request at h
  subst h
  cases request with
  | attach | link =>
      rw [Turn.visit]
      simp only [hmethods]
      rfl
  | newClass | reuse | retain | drop | vary => rfl
  | isRegistered | arenaCount | ownsAddress | registrySize | isEmpty | sweep => cases hfailed

end Turns

/-!
# Whole runs
-/

/-- The turn drops an arena of a dead class. Its memory is given back; if the system refuses
that, it stays mapped and a warning tells so. -/
structure Turn.Drops (turn : Turn) (owner : ClassId) (arena : Arena) : Prop where
  dead : turn.before.classes.isLive owner = false
  mapped : arena.extent ∈ turn.before.pages.mapped
  released : turn.before.pages.retention arena.base = none ->
    arena.reclaimedEvent ∈ turn.events ∧ arena.extent ∉ turn.after.pages.mapped
  retained : forall code, turn.before.pages.retention arena.base = some code ->
    .releaseFailed (ArenaError.release (some code)).message ∈ turn.events ∧
      arena.reclaimedEvent ∉ turn.events ∧ arena.extent ∈ turn.after.pages.mapped

section Runs

variable {start final : Process} {run between rest : List Turn} {turn access : Turn}
  {owner : ClassId} {arena : Arena} {lost : List Extent}

/-- An arena stays registered as long as its class is alive. -/
theorem mem_owned_of_run (h : IsRun answer start run final)
    (hmem : (owner, arena) ∈ start.registry.owned)
    (hlive : forall turn, turn ∈ run -> turn.before.classes.isLive owner = true) :
    (owner, arena) ∈ final.registry.owned := by
  apply h.preserves _ hmem
  intro turn hturn hstep howned
  exact (effect_of_answer hstep).mem_owned howned (hlive turn hturn)

theorem reclaimed_notMem_of_run (h : IsRun answer start run final) (hlawful : isLawful run = true)
    (hstart : start.IsSound lost) (hmem : (owner, arena) ∈ start.registry.owned)
    (hlive : forall turn, turn ∈ run -> turn.before.classes.isLive owner = true)
    (hturn : turn ∈ run) : arena.reclaimedEvent ∉ turn.events := by
  rcases List.append_of_mem hturn with ⟨past, later, rfl⟩
  rcases h.split with ⟨hpast, hstep, _⟩
  rcases isSound_of_run hpast (isLawful_append hlawful).1 hstart with ⟨_, hsound, _⟩
  have howned := mem_owned_of_run hpast hmem fun other hother =>
    hlive other (List.mem_append_left _ hother)
  rw [← closed_mem_ledger_iff]
  exact (effect_of_answer hstep).closed_notMem hsound howned (hlive turn hturn)

theorem drops_of_visit (hstep : turn.step = answer turn.before turn.request)
    (hsound : turn.before.IsSound lost) (hmem : (owner, arena) ∈ turn.before.registry.owned)
    (hvisit : turn.visit ≠ .none) (hdead : turn.before.classes.isLive owner = false) :
    turn.Drops owner arena := by
  have hcloses := (effect_of_answer hstep).closes hsound hvisit hmem hdead
  constructor
  case dead => exact hdead
  case mapped => exact hsound.extent_mem_mapped hmem
  case released =>
    intro hretention
    have hclosing := hcloses.closing
    rw [Arena.closing_of_none hretention] at hclosing
    refine ⟨closed_mem_ledger_iff.mp hclosing, ?_⟩
    rw [hcloses.mapped_iff, Pages.keeps, hretention]
    exact Bool.false_ne_true
  case retained =>
    intro code hretention
    have hclosing := hcloses.closing
    rw [Arena.closing_of_some hretention] at hclosing
    refine ⟨lost_mem_ledger_iff.mp hclosing, ?_, ?_⟩
    · intro hreclaimed
      have hnone := hcloses.closed (closed_mem_ledger_iff.mpr hreclaimed)
      rw [hretention] at hnone
      cases hnone
    · rw [hcloses.mapped_iff, Pages.keeps, hretention]
      rfl

/-- An arena leaves the registry only when it is dropped. -/
theorem mem_owned_or_drops (hstep : turn.step = answer turn.before turn.request)
    (hsound : turn.before.IsSound lost) (hmem : (owner, arena) ∈ turn.before.registry.owned) :
    (owner, arena) ∈ turn.after.registry.owned ∨ turn.Drops owner arena := by
  have heffect := effect_of_answer hstep
  cases hlive : turn.before.classes.isLive owner with
  | true => exact .inl (heffect.mem_owned hmem hlive)
  | false =>
      by_cases hvisit : turn.visit = .none
      case pos =>
        rw [hvisit] at heffect
        rw [heffect.registry_of_none]
        exact .inl hmem
      case neg => exact .inr (drops_of_visit hstep hsound hmem hvisit hlive)

/-- At the first visit to the registry after a class died, its arenas have been dropped. -/
theorem exists_drops (h : IsRun answer start (between ++ access :: rest) final)
    (hlawful : isLawful (between ++ access :: rest) = true) (hstart : start.IsSound lost)
    (hmem : (owner, arena) ∈ start.registry.owned) (hvisit : access.visit ≠ .none)
    (hdead : access.before.classes.isLive owner = false) :
    exists turn, turn ∈ between ++ [access] ∧ turn.Drops owner arena := by
  induction between generalizing start lost with
  | nil =>
      rcases h.of_cons with ⟨rfl, hstep, _⟩
      exact ⟨access, List.mem_cons_self, drops_of_visit hstep hstart hmem hvisit hdead⟩
  | cons first others ih =>
      rcases h.of_cons with ⟨rfl, hstep, hrest⟩
      rcases mem_owned_or_drops hstep hstart hmem with hstays | hdrops
      case inr => exact ⟨first, List.mem_cons_self, hdrops⟩
      case inl =>
        have hpermits := permits_of_mem hlawful List.mem_cons_self
        rcases isSound_of_answer hstep hpermits hstart with ⟨_, hsound, _⟩
        have hlater : isLawful (others ++ access :: rest) = true :=
          (Bool.and_eq_true_iff.mp hlawful).2
        rcases ih hrest hlater hsound hstays with ⟨turn, hturn, hdrops⟩
        exact ⟨turn, List.mem_cons_of_mem _ hturn, hdrops⟩

theorem notMem_owned_of_visit (hstep : turn.step = answer turn.before turn.request)
    (hpermits : turn.before.permits turn.request = true) (hvisit : turn.visit ≠ .none)
    (hdead : turn.before.classes.isLive owner = false) :
    (owner, arena) ∉ turn.after.registry.owned := by
  intro hmem
  have hlive : turn.before.classes.isLive owner = true := by
    apply (effect_of_answer hstep).isLive_of_mem_owned hvisit _ hmem
    intro id extent hplaced
    exact isLive_of_owner? hpermits (owner?_of_placed hplaced)
  rw [hdead] at hlive
  cases hlive

end Runs

/-!
# Code over a whole run
-/

/-- What becomes of an arena after it is registered. As long as its class lives, it stays
registered and mapped. When the class is gone, the next visit to the registry finds it dropped
or drops it, as all arenas of the class. -/
structure IsKept (owner : ClassId) (arena : Arena) (later : List Turn) (final : Process) :
    Prop where
  held : (forall turn, turn ∈ later -> turn.before.classes.isLive owner = true) ->
    (owner, arena) ∈ final.registry.owned ∧ arena.extent ∈ final.pages.mapped ∧
      forall turn, turn ∈ later -> arena.reclaimedEvent ∉ turn.events
  dropped : forall between access rest, later = between ++ access :: rest ->
    access.visit ≠ .none -> access.before.classes.isLive owner = false ->
      (forall other, (owner, other) ∉ access.after.registry.owned) ∧
        exists turn, turn ∈ between ++ [access] ∧ turn.Drops owner arena

/-- What a turn of a run does about code: it places all the code that it answers with in an
arena of a class that is alive, and later turns keep the arena; or it fails, drops its arena
at once and leaves the registry as it was. -/
structure KeepsCode (turn : Turn) (later : List Turn) (final : Process) : Prop where
  complete : turn.code.map Prod.fst = turn.addresses ∧
    turn.addresses = turn.value.methods.map (·.address)
  placed : turn.value.methods ≠ [] -> exists owner arena,
    turn.request.owner? = some owner ∧ turn.before.classes.isLive owner = true ∧
      turn.visit = .placed owner arena.extent ∧ .opened arena.extent ∈ ledger turn.events ∧
        (owner, arena) ∈ turn.after.registry.owned ∧
          forall address bytes, (address, bytes) ∈ turn.code ->
            arena.contains address = true ∧
              ((forall other, other ∈ later -> other.before.classes.isLive owner = true) ->
                final.classes.isLive owner = true ->
                  (final.ownsAddress address).value = true ∧
                    (final.readCode address bytes.length).value = some bytes)
  kept : forall owner arena, (owner, arena) ∈ turn.after.registry.owned ->
    IsKept owner arena later final
  failed : turn.value.failed = true ->
    turn.after.registry = turn.before.registry ∧
      Abandons turn.before.pages turn.after.pages (ledger turn.events)

/-- The ledger of a run balances, so that nothing is released twice, and what it leaves open is
what the registry owns, without overlaps, and what was lost. Nothing is lost as long as the system
keeps nothing. -/
structure IsAccounted (run : List Turn) (final : Process) : Prop where
  balanced : exists extents, balance [] (ledger (run.flatMap (·.events))) = some extents ∧
    extents.Perm final.pages.mapped
  owned : exists lost,
    final.pages.mapped.Perm (final.registry.arenas.map Arena.extent ++ lost) ∧
      lost.length = (ledger (run.flatMap (·.events))).countP (·.isLost)
  complete : (forall turn, turn ∈ run -> forall address,
      turn.before.pages.retention address = none) ->
    final.pages.mapped.Perm (final.registry.arenas.map Arena.extent)
  apart : final.registry.arenas.Pairwise fun arena other => arena.extent.Apart other.extent

section Guarantees

variable {start final : Process} {later : List Turn} {turn : Turn} {owner : ClassId}
  {arena : Arena} {lost : List Extent}

theorem isKept_of_isRun (h : IsRun answer start later final) (hlawful : isLawful later = true)
    (hstart : start.IsSound lost) (hmem : (owner, arena) ∈ start.registry.owned) :
    IsKept owner arena later final := by
  constructor
  case held =>
    intro hlive
    have hfinal := mem_owned_of_run h hmem hlive
    rcases isSound_of_run h hlawful hstart with ⟨_, hsound, _⟩
    refine ⟨hfinal, hsound.extent_mem_mapped hfinal, ?_⟩
    intro turn hturn
    exact reclaimed_notMem_of_run h hlawful hstart hmem hlive hturn
  case dropped =>
    rintro between access rest rfl hvisit hdead
    rcases h.split with ⟨_, hstep, _⟩
    have haccess : access ∈ between ++ access :: rest :=
      List.mem_append_right between List.mem_cons_self
    have hpermits := permits_of_mem hlawful haccess
    constructor
    · exact fun other => notMem_owned_of_visit hstep hpermits hvisit hdead
    · exact exists_drops h hlawful hstart hmem hvisit hdead

theorem keepsCode_of_isRun {past : List Turn} (h : IsRun answer start (past ++ turn :: later) final)
    (hlawful : isLawful (past ++ turn :: later) = true) (hstart : start.IsSound lost) :
    KeepsCode turn later final := by
  rcases h.split with ⟨hpast, hstep, hlater⟩
  rcases isLawful_append hlawful with ⟨hbefore, hrest⟩
  have hpermits := permits_of_mem hrest List.mem_cons_self
  have hafterwards : isLawful later = true := (Bool.and_eq_true_iff.mp hrest).2
  rcases isSound_of_run hpast hbefore hstart with ⟨_, hsound, _⟩
  rcases isSound_of_answer hstep hpermits hsound with ⟨_, hnext, _⟩
  constructor
  case complete => exact addresses_of_answer hstep
  case kept => exact fun owner arena hmem => isKept_of_isRun hlater hafterwards hnext hmem
  case failed =>
    intro hfailed
    have heffect := effect_of_answer hstep
    rw [visit_of_failed hstep hfailed] at heffect
    exact ⟨heffect.registry_of_none, heffect.abandons hsound⟩
  case placed =>
    intro hmethods
    rcases exists_placed hstep hmethods with ⟨owner, extent, hvisit⟩
    have howner := owner?_of_placed hvisit
    have heffect := effect_of_answer hstep
    rw [hvisit] at heffect
    rcases heffect.exists_arena with ⟨arena, rfl, hopened, hmem, hcode⟩
    have howner_live := isLive_of_owner? hpermits howner
    refine ⟨owner, arena, howner, howner_live, hvisit, hopened, hmem, ?_⟩
    intro address bytes hpiece
    rcases hcode address bytes hpiece with ⟨hinside, hholds⟩
    refine ⟨hinside, ?_⟩
    intro hlive hfinal
    have howned := mem_owned_of_run hlater hmem hlive
    rcases isSound_of_run hlater hafterwards hnext with ⟨_, hlast, _⟩
    constructor
    · exact ownsAddress_of_mem howned hfinal hinside
    · exact readCode_of_mem hlast howned hfinal hinside hholds

theorem countP_isLost_eq_zero {run : List Turn} (h : IsRun answer start run final)
    (hkept : forall turn, turn ∈ run -> forall address,
      turn.before.pages.retention address = none) :
    (ledger (run.flatMap (·.events))).countP (·.isLost) = 0 := by
  apply List.countP_eq_zero.mpr
  intro entry hentry hlost
  rcases List.mem_filterMap.mp hentry with ⟨event, hevent, hbooked⟩
  rcases List.mem_flatMap.mp hevent with ⟨turn, hturn, hevent⟩
  have hmem : entry ∈ ledger turn.events := List.mem_filterMap.mpr ⟨event, hevent, hbooked⟩
  rcases List.append_of_mem hturn with ⟨past, later, rfl⟩
  rcases h.split with ⟨_, hstep, _⟩
  rcases (effect_of_answer hstep).exists_retention hmem hlost with ⟨address, hretention⟩
  exact hretention (hkept turn hturn address)

theorem isAccounted_of_isRun {run : List Turn} (h : IsRun answer initial run final)
    (hlawful : isLawful run = true) : IsAccounted run final := by
  rcases isSound_of_run h hlawful isSound_initial with ⟨lost, hsound, hcount⟩
  constructor
  case balanced => exact balance_of_run h hlawful isSound_initial (.refl _)
  case owned => exact ⟨lost, hsound.mapped, hcount⟩
  case apart => exact hsound.pairwise_apart
  case complete =>
    intro hkept
    rw [countP_isLost_eq_zero h hkept] at hcount
    have hmapped := hsound.mapped
    rw [List.eq_nil_of_length_eq_zero hcount, List.append_nil, List.append_nil] at hmapped
    exact hmapped

end Guarantees

/-- In every run code stays as long as its class lives. After that it is released once, unless
the system refuses. -/
theorem run_keeps_code {requests : List Request}
    (h : isLawful (turns answer initial requests) = true) :
    IsAccounted (turns answer initial requests) (finalState answer initial requests) ∧
      forall past turn later, turns answer initial requests = past ++ turn :: later ->
        KeepsCode turn later (finalState answer initial requests) := by
  have hrun := isRun_turns answer initial requests
  constructor
  · exact isAccounted_of_isRun hrun h
  · intro past turn later hturns
    rw [hturns] at hrun h
    exact keepsCode_of_isRun hrun h isSound_initial

/-- Two classes with code. The second gets its code when the first is gone, after a failure. When
the second is gone too, the system keeps its code. -/
def sampleHistory : List Request :=
  [ .newClass, .link ⟨0⟩ sampleSelector 0x9000 sampleSites, .retain ⟨0⟩, .drop ⟨0⟩,
    .ownsAddress 0x10018, .drop ⟨0⟩, .newClass, .vary { System.usual with refusal := some 13 },
    .link ⟨1⟩ sampleSelector 0x9000 sampleSites, .vary System.usual,
    .link ⟨1⟩ sampleSelector 0x9000 sampleSites, .ownsAddress 0x10018, .reuse ⟨0⟩,
    .vary { System.usual with retention := fun _ => some 22 }, .drop ⟨1⟩, .sweep ]

theorem run_keeps_code_sample :
    let run : List Turn := turns answer initial sampleHistory
    isLawful run = true ∧ run.map (·.visit) =
        [ .none, .placed ⟨0⟩ ⟨0x10000, 0x1000⟩, .none, .none, .asked, .none, .none, .none, .none,
          .none, .placed ⟨1⟩ ⟨0x11000, 0x1000⟩, .asked, .none, .none, .none, .asked ] ∧
      (ledger (run.flatMap (·.events))).countP (·.isLost) = 1 ∧
        IsAccounted run (finalState answer initial sampleHistory) ∧
          forall past turn later, run = past ++ turn :: later ->
            KeepsCode turn later (finalState answer initial sampleHistory) := by
  intro run
  have h : isLawful run = true := by decide +kernel
  refine ⟨h, ?_, ?_, run_keeps_code h⟩
  · decide +kernel
  · decide +kernel

end Process
end NativeCall
