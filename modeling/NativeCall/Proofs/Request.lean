import NativeCall.Proofs.Placement
import NativeCall.Proofs.Registry
import NativeCall.Proofs.Run

/-!
# Requests to a process

A process is asked to make, keep and drop classes, to place code for them, and about its
registry. `Effect` says what a request does to the registry and to memory, and which code it
places.
-/

namespace NativeCall
namespace Process

inductive Request where
  | newClass
  /-- A new class, with the identity of one that is gone. -/
  | reuse (id : ClassId)
  | retain (id : ClassId)
  | drop (id : ClassId)
  | attach (owner : ClassId) (linker : Linker)
  | link (owner : ClassId) (selector : Selector) (helper : Address) (sites : List CallSite)
  | isRegistered (id : ClassId)
  | arenaCount (id : ClassId)
  | ownsAddress (address : Address)
  | registrySize
  | isEmpty
  | sweep
  /-- From now on the system answers as this one does. -/
  | vary (system : System)

inductive Answer where
  | done
  | created (id : ClassId)
  | attached (result : Outcome LinkError (List NativeMethod))
  | linked (linked : Linked)
  | flag (value : Bool)
  | number (value : Nat)

def answer (process : Process) : Request -> Step Process Answer
  | .newClass => .silent (.created process.newClass.1) process.newClass.2
  | .reuse id => .silent .done (process.retain id)
  | .retain id => .silent .done (process.retain id)
  | .drop id => .silent .done (process.drop id)
  | .attach owner linker => (process.attach owner linker).map .attached
  | .link owner selector helper sites =>
      (process.link owner selector helper sites).map .linked
  | .isRegistered id => (process.isRegistered id).map .flag
  | .arenaCount id => (process.arenaCount id).map .number
  | .ownsAddress address => (process.ownsAddress address).map .flag
  | .registrySize => process.registrySize.map .number
  | .isEmpty => process.registrySize.map fun size => .flag (size == 0)
  | .sweep => process.sweep.map .number
  | .vary system =>
      .silent .done { process with pages := { system with mapped := process.pages.mapped } }

/-- Who asks about a class or for one holds a handle to it, and an identity is not given to a
new class as long as the registry refers to the old one. -/
def permits (process : Process) : Request -> Bool
  | .reuse id =>
      id.index < process.classes.handles.length && !process.classes.isLive id &&
        (process.registry.holding? id).isNone
  | .retain id | .drop id | .attach id _ | .link id _ _ _ | .isRegistered id
  | .arenaCount id => process.classes.isLive id
  | .newClass | .ownsAddress _ | .registrySize | .isEmpty | .sweep | .vary _ => true

def Request.owner? : Request -> Option ClassId
  | .attach owner _ | .link owner _ _ _ => some owner
  | .newClass | .reuse _ | .retain _ | .drop _ | .isRegistered _ | .arenaCount _
  | .ownsAddress _ | .registrySize | .isEmpty | .sweep | .vary _ => none

def Answer.methods : Answer -> List NativeMethod
  | .attached outcome => methodsOf outcome
  | .linked outcome => methodsOf outcome.result
  | .done | .created _ | .flag _ | .number _ => []

abbrev Turn := NativeCall.Turn Process Request Answer

/-- The code that a turn placed, piece by piece with its address. -/
def Turn.code (turn : Turn) : List (Address × List Byte) :=
  match turn.request, turn.value with
  | .attach _ linker, .attached result => placedCode linker (methodsOf result)
  | .link _ selector helper sites, .linked linked => newCode selector helper sites linked.sites
  | _, _ => []

/-- What a request has to do with the registry. -/
inductive Visit where
  | none
  | asked
  | placed (owner : ClassId) (extent : Extent)
  deriving DecidableEq

def Visit.ofMethods (owner : ClassId) : List NativeMethod -> List LedgerEntry -> Visit
  | _ :: _, .opened extent :: _ => .placed owner extent
  | _, _ => .none

theorem Visit.eq_of_ofMethods {owner id : ClassId} {extent : Extent}
    {methods : List NativeMethod} {entries : List LedgerEntry}
    (h : Visit.ofMethods id methods entries = .placed owner extent) : id = owner := by
  unfold Visit.ofMethods at h
  split at h <;> cases h
  rfl

def Turn.visit (turn : Turn) : Visit :=
  match turn.request with
  | .attach owner _ | .link owner _ _ _ =>
      .ofMethods owner turn.value.methods (ledger turn.events)
  | .isRegistered _ | .arenaCount _ | .ownsAddress _ | .registrySize | .isEmpty | .sweep => .asked
  | .newClass | .reuse _ | .retain _ | .drop _ | .vary _ => .none

/-!
# One request
-/

/-- What the ledger says about the arenas that a sweep drops. -/
def closings (process : Process) : List LedgerEntry :=
  (process.registry.stale process.classes).map (·.closing process.pages)

/-- What a request does to the registry and to memory, and the code that it places. -/
inductive Effect (before after : Process) (entries : List LedgerEntry)
    (code : List (Address × List Byte)) : Visit -> Prop where
  | idle (hregistry : after.registry = before.registry)
      (hmapped : after.pages.mapped = before.pages.mapped)
      (hclasses : before.classes.handles.length ≤ after.classes.handles.length)
      (hentries : entries = []) (hcode : code = []) : Effect before after entries code .none
  | abandoned {arena : Arena} {pages : Pages} {total : Nat}
      (hallocate : Arena.allocate before.pages total = .ok (arena, pages))
      (hafter : after = { before with pages := (arena.discard pages).state })
      (hentries : entries = [.opened arena.extent, arena.closing before.pages])
      (hcode : code = []) :
      Effect before after entries code .none
  | asked (hafter : after = before.sweep.state) (hentries : entries = before.closings)
      (hcode : code = []) : Effect before after entries code .asked
  | placed {owner : ClassId} {arena full : Arena} {pages : Pages} {total : Nat}
      (hallocate : Arena.allocate before.pages total = .ok (arena, pages))
      (hextends : full.Extends arena)
      (hafter : after = (register { before with pages } owner full).state)
      (hentries : entries = .opened full.extent :: before.closings)
      (hcode : forall address bytes, (address, bytes) ∈ code ->
        full.contains address = true ∧ full.HoldsAt address bytes) :
      Effect before after entries code (.placed owner full.extent)

section Effects

variable {process : Process} {owner : ClassId}

theorem ledger_sweep (process : Process) : ledger process.sweep.events = process.closings := by
  unfold sweep closings
  simp only [ledger_append, ledger_discardAll]
  split <;> exact List.append_nil _

theorem effect_of_asked {α β : Type} (question : Registry -> α) (wrap : α -> β) :
    Effect process ((process.ask question).map wrap).state
      (ledger ((process.ask question).map wrap).events) [] .asked :=
  .asked rfl (ledger_sweep process) rfl

theorem holds_of_mem_placedCode {linker : Linker} {arena : Arena}
    (hholds : List.Forall₂ arena.Holds linker.offsets linker.codes)
    (hinside : forall method, method ∈ linker.methodsAt arena.base ->
      arena.contains method.address = true) {address : Address} {bytes : List Byte}
    (hmem : (address, bytes) ∈ placedCode linker (linker.methodsAt arena.base)) :
    arena.contains address = true ∧ arena.HoldsAt address bytes := by
  rw [placedCode, ← List.map_uncurry_zip_eq_zipWith] at hmem
  rcases List.mem_map.mp hmem with ⟨⟨stub, method⟩, hpair, hsame⟩
  cases hsame
  constructor
  · exact hinside method (List.of_mem_zip hpair).2
  · exact ((List.forall₂_iff_zip.mp (Linker.stands_methodsAt hholds)).2 hpair).2

theorem effect_of_attaches {linker : Linker}
    {attached : Step Process (Outcome LinkError (List NativeMethod))}
    (h : process.Attaches owner linker attached) :
    Effect process attached.state (ledger attached.events)
      (placedCode linker (methodsOf attached.value))
      (.ofMethods owner (methodsOf attached.value) (ledger attached.events)) := by
  have hnothing : placedCode linker [] = [] := List.zipWith_nil_right
  cases h with
  | empty => exact .idle rfl rfl (Nat.le_refl _) rfl hnothing
  | unreserved => exact .idle rfl rfl (Nat.le_refl _) rfl hnothing
  | abandoned _ hallocate hevents =>
      apply Effect.abandoned hallocate rfl _ hnothing
      have hclosing := Arena.closing_congr (Arena.allocate_eq_ok hallocate).system
      rw [List.cons_append, ledger_cons_opened, ledger_append, hevents, Arena.ledger_discard,
        hclosing]
      rfl
  | @placed arena full pages events hstubs hallocate hextends _ hholds hinside hevents =>
      have hsystem := (Arena.allocate_eq_ok hallocate).system
      have hledger : ledger (arena.allocatedEvent :: events ++
          (register { process with pages } owner full).events) =
            .opened full.extent :: process.closings := by
        have hclosings : closings { process with pages } = process.closings :=
          List.map_congr_left fun arena _ => Arena.closing_congr hsystem arena
        have hregister : ledger (register { process with pages } owner full).events =
            closings { process with pages } := ledger_sweep { process with pages }
        rw [List.cons_append, ledger_cons_opened, ledger_append, hevents, hregister, hclosings,
          hextends.extent]
        rfl
      have hmethods : linker.methodsAt full.base ≠ [] := by
        apply List.ne_nil_of_length_pos
        rw [Linker.length_methodsAt]
        exact List.length_pos_iff.mpr (List.isEmpty_eq_false_iff.mp hstubs)
      rcases List.exists_cons_of_ne_nil hmethods with ⟨method, others, hcons⟩
      have hvisit : Visit.ofMethods owner (linker.methodsAt full.base)
          (.opened full.extent :: process.closings) = .placed owner full.extent := by
        rw [hcons]
        rfl
      simp only [methodsOf, Except.toOption, Option.getD_some, hledger, hvisit]
      apply Effect.placed hallocate hextends rfl rfl
      exact fun address bytes hmem => holds_of_mem_placedCode hholds hinside hmem

end Effects

theorem effect_of_links {process : Process} {owner : ClassId} {selector : Selector}
    {helper : Address} {sites : List CallSite} {step : Step Process Linked}
    (h : process.Links owner selector helper sites step) :
    Effect process step.state (ledger step.events)
      (newCode selector helper sites step.value.sites)
      (.ofMethods owner (methodsOf step.value.result) (ledger step.events)) := by
  cases h with
  | stopped hresult hstate hledger haddresses =>
      rw [hresult, hledger, newCode_eq_nil haddresses]
      exact .idle (congrArg _ hstate) (congrArg (·.pages.mapped) hstate)
        (Nat.le_of_eq (congrArg (·.classes.handles.length) hstate.symm)) rfl rfl
  | attached hattaches hresult hstate hledger _ hcode =>
      rw [hresult, hstate, hledger, hcode]
      exact effect_of_attaches hattaches

/-- Every turn has the effect that its visit tells. -/
theorem effect_of_answer {turn : Turn} (h : turn.step = answer turn.before turn.request) :
    Effect turn.before turn.after (ledger turn.events) turn.code turn.visit := by
  rcases turn with ⟨before, request, step⟩
  change step = answer before request at h
  subst h
  cases request with
  | newClass =>
      have hclasses : before.classes.handles.length ≤ (before.classes.handles ++ [1]).length := by
        rw [List.length_append]
        exact Nat.le_add_right _ _
      exact .idle rfl rfl hclasses rfl rfl
  | reuse id | retain id | drop id =>
      exact .idle rfl rfl (Nat.le_of_eq (List.length_modify ..).symm) rfl rfl
  | vary system => exact .idle rfl rfl (Nat.le_refl _) rfl rfl
  | attach owner linker => exact effect_of_attaches (attaches before owner linker)
  | link owner selector helper sites =>
      exact effect_of_links (links before owner selector helper sites)
  | isRegistered id | arenaCount id | ownsAddress address | registrySize | isEmpty =>
      exact effect_of_asked _ _
  | sweep => exact .asked rfl (ledger_sweep before) rfl

end Process
end NativeCall
