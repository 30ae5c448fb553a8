import NativeCall.Proofs.Soundness

/-!
# An eager registry

The registry forgets a class when it is visited next after the last handle is gone. One that
forgets a class at the moment its last handle is dropped gives the same answers.
-/

namespace NativeCall

/-!
# Handles
-/

namespace Classes

variable {classes : Classes} {id other : ClassId}

theorem index_ne (h : other ≠ id) : id.index ≠ other.index := by
  intro hsame
  rcases id with ⟨index⟩
  rcases other with ⟨otherIndex⟩
  exact h (congrArg ClassId.mk hsame.symm)

theorem isLive_create (h : id.index < classes.handles.length) :
    classes.create.2.isLive id = classes.isLive id := by
  simp only [isLive, count, create, List.getD_eq_getElem?_getD, List.getElem?_append_left h]

theorem isLive_retain_of_ne (h : other ≠ id) :
    (classes.retain id).isLive other = classes.isLive other := by
  simp only [isLive, count, retain, List.getD_eq_getElem?_getD,
    List.getElem?_modify_ne _ _ (index_ne h)]

theorem isLive_retain_of_isLive (h : classes.isLive id = true) (other : ClassId) :
    (classes.retain id).isLive other = classes.isLive other := by
  by_cases hsame : other = id
  case neg => exact isLive_retain_of_ne hsame
  case pos =>
    rw [hsame, h]
    simp only [isLive, count, retain, List.getD_eq_getElem?_getD, List.getElem?_modify_eq] at h ⊢
    cases hcount : classes.handles[id.index]? with
    | none =>
        rw [hcount] at h
        cases h
    | some count => exact decide_eq_true (Nat.succ_pos count)

theorem isLive_drop_of_ne (h : other ≠ id) :
    (classes.drop id).isLive other = classes.isLive other := by
  simp only [isLive, count, drop, List.getD_eq_getElem?_getD,
    List.getElem?_modify_ne _ _ (index_ne h)]

theorem isLive_drop_of_gone (h : (classes.drop id).isLive id = false) (other : ClassId) :
    (classes.drop id).isLive other = (classes.isLive other && other != id) := by
  by_cases hsame : other = id
  case pos => rw [hsame, h, bne_self_eq_false, Bool.and_false]
  case neg => rw [isLive_drop_of_ne hsame, bne_iff_ne.mpr hsame, Bool.and_true]

end Classes

namespace Registry

def without (registry : Registry) (id : ClassId) : Registry :=
  { holdings := registry.holdings.filter fun holding => holding.owner != id }

theorem owned_without (registry : Registry) (id : ClassId) :
    (registry.without id).owned = registry.owned.filter fun pair => pair.1 != id :=
  filter_owned registry.holdings fun owner => owner != id

theorem size_without {registry : Registry} (h : registry.IsGrouped) (id : ClassId) :
    (if id ∈ registry.owners then 1 else 0) + (registry.without id).size = registry.size := by
  have howners : (registry.without id).owners = registry.owners.erase id := by
    rw [h.distinct.erase_eq_filter, owners, owners, List.filter_map]
    rfl
  have hsize (others : Registry) : others.size = others.owners.length := (List.length_map _).symm
  rw [hsize, hsize, howners, List.length_erase]
  split
  case isTrue hmem => exact Nat.add_sub_cancel' (List.length_pos_of_mem hmem)
  case isFalse => exact Nat.zero_add _

theorem live_drop {classes : Classes} {id : ClassId} (registry : Registry)
    (h : (classes.drop id).isLive id = false) :
    registry.live (classes.drop id) = (registry.live classes).without id := by
  unfold live without
  rw [List.filter_filter]
  congr 1
  apply List.filter_congr
  intro holding _
  rw [Classes.isLive_drop_of_gone h, Bool.and_comm]

end Registry

/-!
# The eager registry
-/

namespace Process

/-- The classes, what was attached to those that live, and how many classes with code died
since the registry was visited. -/
structure Eager where
  classes : Classes
  attached : List (ClassId × Extent)
  expired : Nat

namespace Eager

def initial : Eager :=
  { classes := .empty, attached := [], expired := 0 }

def hasCode (eager : Eager) (id : ClassId) : Bool :=
  eager.attached.any fun pair => pair.1 = id

/-- Drop a handle, and forget the class if it was the last one. -/
def drop (eager : Eager) (id : ClassId) : Eager :=
  let classes := eager.classes.drop id
  if classes.isLive id then
    { eager with classes }
  else
    { classes
      attached := eager.attached.filter fun pair => pair.1 != id
      expired := eager.expired + if eager.hasCode id then 1 else 0 }

def visited (eager : Eager) : Visit -> Eager
  | .none => eager
  | .asked => { eager with expired := 0 }
  | .placed owner extent =>
      { eager with attached := eager.attached ++ [(owner, extent)], expired := 0 }

/-- What a turn changes, as seen from its request and its answer. -/
def next (eager : Eager) (turn : Turn) : Eager :=
  match turn.request with
  | .newClass => { eager with classes := eager.classes.create.2 }
  | .reuse id | .retain id => { eager with classes := eager.classes.retain id }
  | .drop id => eager.drop id
  | .attach .. | .link .. | .isRegistered _ | .arenaCount _ | .ownsAddress _ | .registrySize
  | .isEmpty | .sweep | .vary _ => eager.visited turn.visit

def after (turns : List Turn) : Eager :=
  turns.foldl next initial

def answer? (eager : Eager) : Request -> Option Answer
  | .isRegistered id => some (.flag (eager.hasCode id))
  | .arenaCount id => some (.number (eager.attached.countP fun pair => pair.1 = id))
  | .ownsAddress address =>
      some (.flag (eager.attached.any fun pair => pair.2.contains address))
  | .registrySize => some (.number (eager.attached.map Prod.fst).dedup.length)
  | .isEmpty => some (.flag eager.attached.isEmpty)
  | .sweep => some (.number eager.expired)
  | .newClass | .reuse _ | .retain _ | .drop _ | .attach .. | .link .. | .vary _ => none

end Eager

def liveExtents (process : Process) : List (ClassId × Extent) :=
  (process.registry.live process.classes).owned.map fun pair => (pair.1, pair.2.extent)

/-- The eager registry has what a sweep would keep, and knows what a sweep would drop. -/
structure Agrees (process : Process) (eager : Eager) : Prop where
  classes : eager.classes = process.classes
  attached : eager.attached.Perm process.liveExtents
  expired : eager.expired + (process.registry.live process.classes).size = process.registry.size

theorem agrees_initial : initial.Agrees .initial where
  classes := rfl
  attached := .refl _
  expired := rfl

/-!
# Agreement
-/

section Agreement

variable {process : Process} {eager : Eager} {id : ClassId} {lost : List Extent}

theorem Agrees.withClasses (h : process.Agrees eager) {classes : Classes}
    (hlive : forall id, id ∈ process.registry.owners ->
      classes.isLive id = process.classes.isLive id) :
    Agrees { process with classes } { eager with classes } := by
  have hkept := Registry.live_congr hlive
  constructor
  case classes => rfl
  case attached =>
    rw [liveExtents, hkept]
    exact h.attached
  case expired =>
    rw [hkept]
    exact h.expired

theorem Agrees.hasCode_iff (h : process.Agrees eager) (hsound : process.IsSound lost) :
    eager.hasCode id = true <-> id ∈ (process.registry.live process.classes).owners := by
  rw [(hsound.grouped.live _).mem_owners_iff, Eager.hasCode, h.attached.any_eq, liveExtents,
    List.any_map]
  simp only [List.any_eq_true, Function.comp_apply, decide_eq_true_eq, List.mem_map]

theorem Agrees.drop (h : process.Agrees eager) (hsound : process.IsSound lost)
    (hlive : process.classes.isLive id = true) : (process.drop id).Agrees (eager.drop id) := by
  unfold Eager.drop
  simp only [h.classes]
  split
  case isTrue hstill =>
    apply h.withClasses
    intro other _
    by_cases hsame : other = id
    case pos => rw [hsame, hstill, hlive]
    case neg => exact Classes.isLive_drop_of_ne hsame
  case isFalse hlast =>
    have hgone : (process.classes.drop id).isLive id = false := Bool.eq_false_iff.mpr hlast
    have hkept := process.registry.live_drop hgone
    have hsize := Registry.size_without (hsound.grouped.live process.classes) id
    constructor
    case classes => rfl
    case attached =>
      change List.Perm _ ((process.registry.live (process.classes.drop id)).owned.map _)
      have hfiltered := h.attached.filter fun pair => pair.1 != id
      rw [liveExtents, List.filter_map] at hfiltered
      rw [hkept, Registry.owned_without]
      exact hfiltered
    case expired =>
      change _ + (process.registry.live (process.classes.drop id)).size = process.registry.size
      rw [hkept, ← h.expired, ← hsize, Nat.add_assoc]
      simp only [h.hasCode_iff hsound]

/-- After a visit to the registry all its classes are alive, so nothing is expired. -/
theorem agrees_of_live {after : Process} {classes : Classes}
    {attached : List (ClassId × Extent)} (hclasses : classes = after.classes)
    (hlive : forall id, id ∈ after.registry.owners -> after.classes.isLive id = true)
    (hattached : attached.Perm
      (after.registry.owned.map fun pair => (pair.1, pair.2.extent))) :
    after.Agrees { classes, attached, expired := 0 } := by
  have hkept := Registry.live_eq_self hlive
  constructor
  case classes => exact hclasses
  case attached =>
    rw [liveExtents, hkept]
    exact hattached
  case expired => rw [hkept, Nat.zero_add]

theorem Agrees.visited (h : process.Agrees eager) {after : Process} {entries : List LedgerEntry}
    {code : List (Address × List Byte)} {visit : Visit}
    (heffect : Effect process after entries code visit)
    (hclasses : after.classes = process.classes)
    (hplaced : forall owner extent, visit = .placed owner extent ->
      process.classes.isLive owner = true) : after.Agrees (eager.visited visit) := by
  cases heffect with
  | idle hregistry _ _ _ _ =>
      have hkept : after.registry.live after.classes = process.registry.live process.classes := by
        rw [hregistry, hclasses]
      constructor
      case classes => exact h.classes.trans hclasses.symm
      case attached =>
        rw [liveExtents, hkept]
        exact h.attached
      case expired =>
        rw [hkept, hregistry]
        exact h.expired
  | abandoned _ hafter _ _ =>
      rw [hafter]
      exact ⟨h.classes, h.attached, h.expired⟩
  | asked hafter _ _ =>
      rw [hafter]
      exact agrees_of_live h.classes (fun id hmem => (Registry.mem_owners_live hmem).2) h.attached
  | @placed owner _ full _ _ _ _ hafter _ _ =>
      have hadded := (Registry.owned_add (process.registry.live process.classes) owner full).map
        fun pair => (pair.1, pair.2.extent)
      have hattached := (List.perm_append_singleton (owner, full.extent) eager.attached).trans
        (h.attached.cons (owner, full.extent))
      have hlive (id : ClassId)
          (hmem : id ∈ ((process.registry.live process.classes).add owner full).owners) :
          process.classes.isLive id = true := by
        rcases Registry.mem_owners_add hmem with rfl | hmem
        · exact hplaced _ _ rfl
        · exact (Registry.mem_owners_live hmem).2
      rw [hafter]
      exact agrees_of_live h.classes hlive (hattached.trans hadded.symm)

theorem classes_of_attaches {owner : ClassId} {linker : Linker}
    {attached : Step Process (Outcome LinkError (List NativeMethod))}
    (h : process.Attaches owner linker attached) : attached.state.classes = process.classes := by
  cases h <;> rfl

theorem classes_of_links {owner : ClassId} {selector : Selector} {helper : Address}
    {sites : List CallSite} {step : Step Process Linked}
    (h : process.Links owner selector helper sites step) :
    step.state.classes = process.classes := by
  cases h with
  | stopped _ hstate _ _ => rw [hstate]
  | attached hattaches _ hstate _ _ _ =>
      rw [hstate]
      exact classes_of_attaches hattaches

end Agreement

/-!
# Questions
-/

namespace Agrees

variable {process : Process} {eager : Eager} {id : ClassId}

theorem isRegistered_eq (h : process.Agrees eager)
    (hgrouped : (process.registry.live process.classes).IsGrouped) :
    (process.isRegistered id).value = eager.hasCode id := by
  rw [Eager.hasCode, h.attached.any_eq, liveExtents, List.any_map]
  exact hgrouped.isSome_holding? id

theorem arenaCount_eq (h : process.Agrees eager)
    (hgrouped : (process.registry.live process.classes).IsGrouped) :
    (process.arenaCount id).value = eager.attached.countP fun pair => pair.1 = id := by
  rw [h.attached.countP_eq, liveExtents, List.countP_map]
  exact hgrouped.length_holding? id

theorem ownsAddress_eq (h : process.Agrees eager) (address : Address) :
    (process.ownsAddress address).value =
      eager.attached.any fun pair => pair.2.contains address := by
  rw [h.attached.any_eq, liveExtents, List.any_map]
  exact Registry.any_contains _ address

theorem registrySize_eq (h : process.Agrees eager)
    (hgrouped : (process.registry.live process.classes).IsGrouped) :
    process.registrySize.value = (eager.attached.map Prod.fst).dedup.length := by
  rw [(h.attached.map Prod.fst).dedup.length_eq, liveExtents, List.map_map]
  exact hgrouped.size_eq

theorem isEmpty_eq (h : process.Agrees eager)
    (hgrouped : (process.registry.live process.classes).IsGrouped) :
    (process.registrySize.value == 0) = eager.attached.isEmpty := by
  rw [h.registrySize_eq hgrouped]
  cases eager.attached with
  | nil => rfl
  | cons pair rest =>
      have hmem : pair.1 ∈ ((pair :: rest).map Prod.fst).dedup :=
        List.mem_dedup.mpr List.mem_cons_self
      exact beq_eq_false_iff_ne.mpr (Nat.ne_of_gt (List.length_pos_of_mem hmem))

theorem sweep_eq (h : process.Agrees eager) : process.sweep.value = eager.expired :=
  Nat.sub_eq_of_eq_add h.expired.symm

end Agrees

/-!
# Turns
-/

section Turns

variable {turn : Turn} {eager : Eager} {lost : List Extent}

theorem agrees_of_answer (hstep : turn.step = answer turn.before turn.request)
    (hpermits : turn.before.permits turn.request = true) (hsound : turn.before.IsSound lost)
    (h : turn.before.Agrees eager) : turn.after.Agrees (eager.next turn) := by
  have heffect := effect_of_answer hstep
  have hplaced (owner : ClassId) (extent : Extent) (hvisit : turn.visit = .placed owner extent) :
      turn.before.classes.isLive owner = true :=
    isLive_of_owner? hpermits (owner?_of_placed hvisit)
  rcases turn with ⟨before, request, step⟩
  change step = answer before request at hstep
  subst hstep
  -- Handles are counted alike, so the registry has to be looked at only where a class dies.
  have hclasses := h.classes
  cases request with
  | newClass =>
      simp only [Eager.next, hclasses]
      apply h.withClasses
      exact fun id hmem => Classes.isLive_create (hsound.known id hmem)
  | reuse id =>
      simp only [Eager.next, hclasses]
      apply h.withClasses
      intro other hmem
      apply Classes.isLive_retain_of_ne
      rintro rfl
      exact Registry.notMem_owners_of_isNone (Bool.and_eq_true_iff.mp hpermits).2 hmem
  | retain id =>
      simp only [Eager.next, hclasses]
      apply h.withClasses
      exact fun other _ => Classes.isLive_retain_of_isLive hpermits other
  | drop id => exact h.drop hsound hpermits
  | attach owner linker =>
      exact h.visited heffect (classes_of_attaches (attaches before owner linker)) hplaced
  | link owner selector helper sites =>
      exact h.visited heffect (classes_of_links (links before owner selector helper sites)) hplaced
  | _ => exact h.visited heffect rfl hplaced

/-- Questions to the registry are answered as an eager one answers them. -/
theorem value_of_answer? (hstep : turn.step = answer turn.before turn.request)
    (hsound : turn.before.IsSound lost) (h : turn.before.Agrees eager) {value : Answer}
    (hvalue : eager.answer? turn.request = some value) : turn.value = value := by
  rcases turn with ⟨before, request, step⟩
  change step = answer before request at hstep
  subst hstep
  have hgrouped := hsound.grouped.live before.classes
  cases request with
  | isRegistered id =>
      cases hvalue
      exact congrArg Answer.flag (h.isRegistered_eq hgrouped)
  | arenaCount id =>
      cases hvalue
      exact congrArg Answer.number (h.arenaCount_eq hgrouped)
  | ownsAddress address =>
      cases hvalue
      exact congrArg Answer.flag (h.ownsAddress_eq address)
  | registrySize =>
      cases hvalue
      exact congrArg Answer.number (h.registrySize_eq hgrouped)
  | isEmpty =>
      cases hvalue
      exact congrArg Answer.flag (h.isEmpty_eq hgrouped)
  | sweep =>
      cases hvalue
      exact congrArg Answer.number h.sweep_eq
  | _ => cases hvalue

theorem Eager.expired_next (h : turn.visit ≠ .none) : (eager.next turn).expired = 0 := by
  have hvisited : (eager.visited turn.visit).expired = 0 := by
    cases hvisit : turn.visit with
    | none => exact absurd hvisit h
    | asked | placed => rfl
  rcases turn with ⟨before, request, step⟩
  cases request with
  | newClass | reuse | retain | drop => exact absurd rfl h
  | _ => exact hvisited

end Turns

/-!
# Whole runs
-/

theorem agrees_of_run {start final : Process} {run : List Turn} {eager : Eager}
    {lost : List Extent} (h : IsRun answer start run final) (hlawful : isLawful run = true)
    (hstart : start.IsSound lost) (hagrees : start.Agrees eager) :
    final.Agrees (run.foldl Eager.next eager) := by
  induction run generalizing start eager lost with
  | nil =>
      rcases h with _ | _
      exact hagrees
  | cons turn rest ih =>
      rcases h.of_cons with ⟨rfl, hstep, hrest⟩
      have hpermits := permits_of_mem hlawful List.mem_cons_self
      have hlater : isLawful rest = true := (Bool.and_eq_true_iff.mp hlawful).2
      rcases isSound_of_answer hstep hpermits hstart with ⟨_, hsound, _⟩
      exact ih hrest hlater hsound (agrees_of_answer hstep hpermits hstart hagrees)

/-- In every run the registry answers as an eager one, and a sweep right after a visit to the
registry finds nothing. -/
theorem run_agrees_with_eager {requests : List Request}
    (h : isLawful (turns answer initial requests) = true) :
    forall past turn later, turns answer initial requests = past ++ turn :: later ->
      (forall value, (Eager.after past).answer? turn.request = some value ->
        turn.value = value) ∧
        forall earlier visitor, past = earlier ++ [visitor] -> visitor.visit ≠ .none ->
          turn.request = .sweep -> turn.value = .number 0 := by
  intro past turn later hturns
  have hrun := isRun_turns answer initial requests
  rw [hturns] at hrun h
  rcases hrun.split with ⟨hpast, hstep, _⟩
  have hbefore := (isLawful_append h).1
  rcases isSound_of_run hpast hbefore isSound_initial with ⟨_, hsound, _⟩
  have hagrees := agrees_of_run hpast hbefore isSound_initial agrees_initial
  constructor
  · exact fun value hvalue => value_of_answer? hstep hsound hagrees hvalue
  · rintro earlier visitor rfl hvisit hsweep
    have hexpired : (Eager.after (earlier ++ [visitor])).expired = 0 := by
      rw [Eager.after, List.foldl_append]
      exact Eager.expired_next hvisit
    have hvalue : (Eager.after (earlier ++ [visitor])).answer? turn.request =
        some (.number 0) := by
      rw [hsweep, Eager.answer?, hexpired]
    exact value_of_answer? hstep hsound hagrees hvalue

/-- Three classes with code, of which two are gone before the registry is visited again. -/
def sampleDeaths : List Request :=
  [ .newClass, .newClass, .newClass, .link ⟨0⟩ sampleSelector 0x9000 sampleSites,
    .link ⟨1⟩ sampleSelector 0x9000 sampleSites, .link ⟨1⟩ sampleSelector 0x9000 sampleSites,
    .link ⟨2⟩ sampleSelector 0x9000 sampleSites, .retain ⟨2⟩, .drop ⟨0⟩, .drop ⟨2⟩, .drop ⟨2⟩,
    .sweep, .sweep, .reuse ⟨2⟩, .isRegistered ⟨2⟩, .arenaCount ⟨1⟩, .ownsAddress 0x10000,
    .registrySize, .isEmpty ]

def sampleAnswers (run : List Turn) : List (Bool ⊕ Nat) :=
  run.filterMap fun turn =>
    match turn.value with
    | .flag value => some (.inl value)
    | .number value => some (.inr value)
    | _ => none

theorem run_agrees_with_eager_sample :
    let run : List Turn := turns answer initial sampleDeaths
    isLawful run = true ∧
      sampleAnswers run = [.inr 2, .inr 0, .inl false, .inr 2, .inl false, .inr 1, .inl false] ∧
      forall past turn later, run = past ++ turn :: later ->
        (forall value, (Eager.after past).answer? turn.request = some value ->
          turn.value = value) ∧
          forall earlier visitor, past = earlier ++ [visitor] -> visitor.visit ≠ .none ->
            turn.request = .sweep -> turn.value = .number 0 := by
  intro run
  have h : isLawful run = true := by decide +kernel
  refine ⟨h, ?_, run_agrees_with_eager h⟩
  decide +kernel

end Process
end NativeCall
