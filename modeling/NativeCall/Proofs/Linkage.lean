import NativeCall.Proofs.Linker
import NativeCall.Proofs.Survey

/-!
# Linking binds every site to its own code

The stubs of the sites that wait are collected in order, written one after the other, and
handed back in order. So the walk over sites and methods meets, at each site that waits, the
method of that very site.
-/

namespace NativeCall

open Process (Surveyed Linked bindAwaiting survey)

/-!
# What linking means for a site
-/

/-- An entry made for a site under a strategy. Only compiled code needs the arena: the code of
the site stands there, at an aligned address. -/
inductive Entry.IsMadeFor (helper : Address) (arena? : Option Arena) (site : CallSite) :
    Strategy -> Entry -> Prop where
  | fast (path : FastPath) :
      IsMadeFor helper arena? site (.fast path) (.fast path site.target)
  | buffer {invoker : Option Invoker}
      (hpresent : invoker.isSome = true <->
        site.signature.isPrimitive = true ∧ site.signature.arch = Arch.host)
      (hcalls : forall i, i ∈ invoker -> i.signature = site.signature ∧ i.target = site.target) :
      IsMadeFor helper arena? site .buffer (.generic site.target invoker)
  | compiled {arch : Arch} {trampoline : Trampoline} {arena : Arena} {address : Address}
      (hcompile : Trampoline.compile arch site.signature site.target (site.helper? helper) =
        .ok trampoline)
      (harena : arena? = some arena) (haligned : 8 ∣ address.toNat)
      (hholds : arena.HoldsAt address trampoline.code) :
      IsMadeFor helper arena? site (.compiled arch) (.compiled address)

/-- A site before and after linking: a bound one is the same, any other is bound to its
selected strategy. -/
structure CallSite.IsLinked (selector : Selector) (helper : Address) (arena? : Option Arena)
    (before after : CallSite) : Prop where
  name : after.name = before.name
  signature : after.signature = before.signature
  target : after.target = before.target
  isBound : after.isBound = true
  kept : before.isBound = true -> after = before
  made : before.isBound = false -> exists entry,
    after.binding = some { strategy := selector.select before.signature, entry } ∧
      entry.IsMadeFor helper arena? before (selector.select before.signature)

/-- The address and the code that linking gave to a site, if it gave any. -/
def CallSite.newCode? (selector : Selector) (helper : Address) (before after : CallSite) :
    Option (Address × List Byte) :=
  match before.isBound, before.compile? selector helper, after.entryAddress? with
  | false, some (.ok trampoline), some address => some (address, trampoline.code)
  | _, _, _ => none

/-- All code that linking gave to sites, in their order. -/
def newCode (selector : Selector) (helper : Address) (before after : List CallSite) :
    List (Address × List Byte) :=
  (before.zip after).filterMap fun pair => pair.1.newCode? selector helper pair.2

/-- A successful link. Without a site that needed code, the process is the same. Otherwise all
the code lies in one arena, piece after piece, and the arena is the owner's. -/
structure IsLinkage (process : Process) (owner : ClassId) (selector : Selector)
    (helper : Address) (sites : List CallSite) (step : Step Process Linked)
    (arena? : Option Arena) : Prop where
  linked : List.Forall₂ (CallSite.IsLinked selector helper arena?) sites step.value.sites
  apart : (newCode selector helper sites step.value.sites).Pairwise
    fun piece later => piece.1.toNat + piece.2.length ≤ later.1.toNat
  needed : arena?.isSome = true <-> exists site, site ∈ sites ∧ site.isBound = false ∧
    exists arch, selector.select site.signature = .compiled arch
  unregistered : arena? = none -> step.state = process
  registered : forall arena, arena? = some arena ->
    arena.isExecutable = true ∧ step.state.classes = process.classes ∧
      step.state.registry = (process.registry.live process.classes).add owner arena ∧
        exists holding, step.state.registry.holding? owner = some holding ∧
          arena ∈ holding.arenas

/-!
# Surveyed sites
-/

section Sites

variable {selector : Selector} {helper : Address}

namespace CallSite

/-- What the survey makes of a site that does not fail to compile. -/
inductive IsSurveyed (selector : Selector) (helper : Address) (site : CallSite) :
    Surveyed -> Prop where
  | bound (hbound : site.isBound = true) : IsSurveyed selector helper site (.settled site)
  | settled {entry : Entry} (hbound : site.isBound = false)
      (hcompile : site.compile? selector helper = none)
      (hentry : entry.IsMadeFor helper none site (selector.select site.signature)) :
      IsSurveyed selector helper site
        (.settled { site with
          binding := some { strategy := selector.select site.signature, entry } })
  | awaiting {arch : Arch} {trampoline : Trampoline} (hbound : site.isBound = false)
      (hstrategy : selector.select site.signature = .compiled arch)
      (hcompile : Trampoline.compile arch site.signature site.target (site.helper? helper) =
        .ok trampoline) :
      IsSurveyed selector helper site (.awaiting site (.compiled arch) trampoline)

end CallSite

theorem Entry.isMadeFor_buffered (helper : Address) (arena? : Option Arena) (site : CallSite) :
    (Entry.buffered site.signature site.target).IsMadeFor helper arena? site .buffer := by
  unfold Entry.buffered Invoker.create
  split
  case isTrue host =>
    split
    case isTrue primitive =>
      refine .buffer ⟨fun _ => ⟨primitive, host⟩, fun _ => rfl⟩ ?_
      intro i hi
      cases hi
      exact ⟨rfl, rfl⟩
    case isFalse reference =>
      exact .buffer ⟨nofun, fun h => absurd h.1 reference⟩ fun i h => by cases h
  case isFalse foreign =>
    exact .buffer ⟨nofun, fun h => absurd h.2 foreign⟩ fun i h => by cases h

theorem Entry.IsMadeFor.inArena {arena? : Option Arena} {site : CallSite} {strategy : Strategy}
    {entry : Entry} (h : entry.IsMadeFor helper none site strategy) :
    entry.IsMadeFor helper arena? site strategy := by
  cases h with
  | fast path => exact .fast path
  | buffer hpresent hcalls => exact .buffer hpresent hcalls
  | compiled _ harena _ _ => cases harena

theorem CallSite.exists_settle_eq_bound {site : CallSite} (hbound : site.isBound = false)
    (hcompile : site.compile? selector helper = none) :
    exists entry : Entry, entry.IsMadeFor helper none site (selector.select site.signature) ∧
      site.settle selector =
        { site with binding := some { strategy := selector.select site.signature, entry } } := by
  simp only [CallSite.settle, hbound, Bool.false_eq_true, ↓reduceIte]
  cases hstrategy : selector.select site.signature with
  | compiled arch => exact absurd hstrategy (CallSite.compile?_eq_none hcompile arch)
  | fast path => exact ⟨_, .fast path, rfl⟩
  | buffer => exact ⟨_, Entry.isMadeFor_buffered helper none site, rfl⟩

theorem CallSite.isSurveyed {site : CallSite} (h : site.failure? selector helper = none) :
    site.IsSurveyed selector helper (site.surveyed selector helper) := by
  unfold CallSite.failure? at h
  unfold CallSite.surveyed
  split
  case isTrue hbound => exact .bound hbound
  case isFalse hbound =>
    rw [if_neg hbound] at h
    rw [Bool.not_eq_true] at hbound
    cases hcompile : site.compile? selector helper with
    | none =>
        rcases CallSite.exists_settle_eq_bound hbound hcompile with ⟨entry, hentry, hsettle⟩
        simp only [hsettle]
        exact .settled hbound hcompile hentry
    | some outcome =>
        rw [hcompile] at h
        rcases CallSite.compile?_eq_some hcompile with ⟨arch, hstrategy, hcode⟩
        cases outcome with
        | error failure => cases h
        | ok trampoline =>
            simp only [hstrategy]
            exact .awaiting hbound hstrategy hcode

def surveyedSites (selector : Selector) (helper : Address) (sites : List CallSite) :
    List Surveyed :=
  sites.map (·.surveyed selector helper)

def awaitingStubs (selector : Selector) (helper : Address) (sites : List CallSite) :
    List PendingStub :=
  (surveyedSites selector helper sites).filterMap (·.stub?)

theorem bindAwaiting_surveyedSites (selector : Selector) (helper : Address)
    (sites : List CallSite) (methods : List NativeMethod) :
    bindAwaiting (surveyedSites selector helper sites) methods =
      (boundSites (surveyedSites selector helper sites) methods, .ok ()) := by
  apply bindAwaiting_eq
  intro surveyed hmem
  rcases List.mem_map.mp hmem with ⟨site, _, rfl⟩
  exact site.waits_surveyed selector helper

theorem awaitingStubs_cons (selector : Selector) (helper : Address) (site : CallSite)
    (rest : List CallSite) :
    awaitingStubs selector helper (site :: rest) =
      (site.surveyed selector helper).stub?.toList ++ awaitingStubs selector helper rest := by
  rw [awaitingStubs, surveyedSites, List.map_cons, List.filterMap_cons]
  cases (site.surveyed selector helper).stub? <;> rfl

theorem CallSite.isSome_stub?_surveyed {site : CallSite}
    (h : site.failure? selector helper = none) :
    (site.surveyed selector helper).stub?.isSome = true <->
      site.isBound = false ∧ exists arch, selector.select site.signature = .compiled arch := by
  have hsite := CallSite.isSurveyed h
  generalize site.surveyed selector helper = surveyed at hsite
  cases hsite with
  | bound hbound =>
      rw [hbound]
      exact ⟨nofun, nofun⟩
  | settled hbound hcompile hentry =>
      refine ⟨nofun, ?_⟩
      rintro ⟨_, arch, hstrategy⟩
      exact absurd hstrategy (CallSite.compile?_eq_none hcompile arch)
  | awaiting hbound hstrategy hcode => exact ⟨fun _ => ⟨hbound, _, hstrategy⟩, fun _ => rfl⟩

theorem awaitingStubs_ne_nil_iff {sites : List CallSite}
    (h : AllCompile selector helper sites) :
    awaitingStubs selector helper sites ≠ [] <-> exists site, site ∈ sites ∧
      site.isBound = false ∧ exists arch, selector.select site.signature = .compiled arch := by
  constructor
  · intro hstubs
    rcases List.exists_mem_of_ne_nil _ hstubs with ⟨stub, hstub⟩
    rcases List.mem_filterMap.mp hstub with ⟨surveyed, hsurveyed, hstub⟩
    rcases List.mem_map.mp hsurveyed with ⟨site, hmem, rfl⟩
    exact ⟨site, hmem, (CallSite.isSome_stub?_surveyed (h site hmem)).mp (hstub ▸ rfl)⟩
  · rintro ⟨site, hmem, hneeds⟩
    have hmade := (CallSite.isSome_stub?_surveyed (h site hmem)).mpr hneeds
    rcases Option.isSome_iff_exists.mp hmade with ⟨stub, hstub⟩
    apply List.ne_nil_of_mem
    exact List.mem_filterMap.mpr ⟨_, List.mem_map.mpr ⟨site, hmem, rfl⟩, hstub⟩

theorem newCode_cons (selector : Selector) (helper : Address) (before after : CallSite)
    (olds news : List CallSite) :
    newCode selector helper (before :: olds) (after :: news) =
      (before.newCode? selector helper after).toList ++ newCode selector helper olds news := by
  simp only [newCode, List.zip_cons_cons, List.filterMap_cons]
  cases before.newCode? selector helper after <;> rfl

end Sites

/-!
# Binding the sites that wait
-/

section Binding

variable {selector : Selector} {helper : Address} {arena? : Option Arena}

theorem CallSite.isLinked_of_bound {site : CallSite} (h : site.isBound = true) :
    site.IsLinked selector helper arena? site where
  name := rfl
  signature := rfl
  target := rfl
  isBound := h
  kept := fun _ => rfl
  made := fun hunbound => by
    rw [h] at hunbound
    cases hunbound

theorem CallSite.isLinked_of_entry {site : CallSite} {entry : Entry}
    (hbound : site.isBound = false)
    (h : entry.IsMadeFor helper arena? site (selector.select site.signature)) :
    site.IsLinked selector helper arena?
      { site with binding := some { strategy := selector.select site.signature, entry } } where
  name := rfl
  signature := rfl
  target := rfl
  isBound := rfl
  kept := fun hbound' => by
    rw [hbound] at hbound'
    cases hbound'
  made := fun _ => ⟨entry, rfl, h⟩

/-- The walk over sites and methods, where `stubs` are those of the sites that wait. Each such
site meets the method of its own stub. -/
inductive Binds (selector : Selector) (helper : Address) :
    List CallSite -> List PendingStub -> List NativeMethod -> List CallSite -> Prop where
  | nil : Binds selector helper [] [] [] []
  | bound {site : CallSite} {rest after : List CallSite} {stubs : List PendingStub}
      {methods : List NativeMethod} (hbound : site.isBound = true)
      (hrest : Binds selector helper rest stubs methods after) :
      Binds selector helper (site :: rest) stubs methods (site :: after)
  | settled {site : CallSite} {rest after : List CallSite} {stubs : List PendingStub}
      {methods : List NativeMethod} {entry : Entry} (hbound : site.isBound = false)
      (hcompile : site.compile? selector helper = none)
      (hentry : entry.IsMadeFor helper none site (selector.select site.signature))
      (hrest : Binds selector helper rest stubs methods after) :
      Binds selector helper (site :: rest) stubs methods
        ({ site with binding := some { strategy := selector.select site.signature, entry } }
          :: after)
  | awaiting {site : CallSite} {rest after : List CallSite} {stub : PendingStub}
      {stubs : List PendingStub} {method : NativeMethod} {methods : List NativeMethod}
      {arch : Arch} (hbound : site.isBound = false)
      (hstrategy : selector.select site.signature = .compiled arch)
      (hcode : Trampoline.compile arch site.signature site.target (site.helper? helper) =
        .ok stub.trampoline)
      (hrest : Binds selector helper rest stubs methods after) :
      Binds selector helper (site :: rest) (stub :: stubs) (method :: methods)
        ({ site with
            binding := some { strategy := .compiled arch, entry := .compiled method.address } }
          :: after)

theorem binds_boundSites {sites : List CallSite} {methods : List NativeMethod}
    (hcompile : AllCompile selector helper sites)
    (h : (awaitingStubs selector helper sites).length = methods.length) :
    Binds selector helper sites (awaitingStubs selector helper sites) methods
      (boundSites (surveyedSites selector helper sites) methods) := by
  induction sites generalizing methods with
  | nil =>
      cases methods with
      | nil => exact .nil
      | cons method others => cases h
  | cons site rest ih =>
      have hsite := CallSite.isSurveyed (hcompile site List.mem_cons_self)
      rw [awaitingStubs_cons] at h ⊢
      rw [surveyedSites, List.map_cons]
      generalize site.surveyed selector helper = surveyed at h hsite ⊢
      -- Only a site that waits takes a stub and a method, so the two lists stay in step.
      cases hsite with
      | bound hbound => exact .bound hbound (ih hcompile.tail h)
      | settled hbound hneeds hentry => exact .settled hbound hneeds hentry (ih hcompile.tail h)
      | awaiting hbound hstrategy hcode =>
          cases methods with
          | nil => cases h
          | cons method others =>
              exact .awaiting hbound hstrategy hcode (ih hcompile.tail (Nat.succ.inj h))

namespace Binds

variable {sites after : List CallSite} {stubs : List PendingStub} {methods : List NativeMethod}

theorem forall₂_isLinked (h : Binds selector helper sites stubs methods after)
    (hstands : List.Forall₂
      (fun stub method => exists arena, arena? = some arena ∧ Linker.Stands arena stub method)
      stubs methods) :
    List.Forall₂ (CallSite.IsLinked selector helper arena?) sites after := by
  induction h with
  | nil => exact .nil
  | bound hbound _ ih => exact .cons (CallSite.isLinked_of_bound hbound) (ih hstands)
  | settled hbound _ hentry _ ih =>
      exact .cons (CallSite.isLinked_of_entry hbound hentry.inArena) (ih hstands)
  | awaiting hbound hstrategy hcode _ ih =>
      rcases hstands with _ | ⟨⟨arena, harena, haligned, hholds⟩, hothers⟩
      refine .cons ?_ (ih hothers)
      rw [← hstrategy]
      apply CallSite.isLinked_of_entry hbound
      rw [hstrategy]
      exact .compiled hcode harena haligned hholds

theorem newCode_eq (h : Binds selector helper sites stubs methods after) :
    newCode selector helper sites after =
      List.zipWith (fun stub method => (method.address, stub.trampoline.code)) stubs
        methods := by
  induction h with
  | nil => rfl
  | bound hbound _ ih =>
      rw [newCode_cons, CallSite.newCode?, hbound]
      exact ih
  | settled hbound hneeds _ _ ih =>
      rw [newCode_cons, CallSite.newCode?, hbound, hneeds]
      exact ih
  | awaiting hbound hstrategy hcode _ ih =>
      rw [newCode_cons, CallSite.newCode?, hbound, CallSite.compile?_of_compiled hstrategy, hcode]
      exact congrArg _ ih

theorem isBound (h : Binds selector helper sites stubs methods after) :
    forall site, site ∈ after -> site.isBound = true := by
  induction h with
  | nil => exact fun site hmem => by cases hmem
  | bound hbound _ ih => exact List.forall_mem_cons.mpr ⟨hbound, ih⟩
  | settled _ _ _ _ ih => exact List.forall_mem_cons.mpr ⟨rfl, ih⟩
  | awaiting _ _ _ _ ih => exact List.forall_mem_cons.mpr ⟨rfl, ih⟩

end Binds
end Binding

/-!
# The whole of a link
-/

section Link

variable {selector : Selector} {helper : Address}

def linkerOf (selector : Selector) (helper : Address) (sites : List CallSite) : Linker :=
  { stubs := awaitingStubs selector helper sites, dumpCode := selector.settings.dumpCode }

theorem length_awaitingStubs (selector : Selector) (helper : Address) (sites : List CallSite)
    (base : Address) :
    (awaitingStubs selector helper sites).length =
      ((linkerOf selector helper sites).methodsAt base).length :=
  (Linker.length_methodsAt (linkerOf selector helper sites) base).symm

theorem map_site_surveyedSites (selector : Selector) (helper : Address)
    (sites : List CallSite) :
    (surveyedSites selector helper sites).map (·.site) = sites.map (·.settle selector) := by
  rw [surveyedSites, List.map_map]
  exact List.map_congr_left fun site _ => CallSite.site_surveyed selector helper site

/-- Linking of sites that all compile is an attachment. -/
theorem Process.link_of_compile (process : Process) (owner : ClassId) {sites : List CallSite}
    (h : AllCompile selector helper sites) :
    let attached := process.attach owner (linkerOf selector helper sites)
    let step := process.link owner selector helper sites
    step.state = attached.state ∧
      step.value =
        match attached.value with
        | .error failure =>
            { sites := sites.map (·.settle selector), result := .error failure }
        | .ok methods =>
            { sites := boundSites (surveyedSites selector helper sites) methods
              result := .ok methods } := by
  rcases survey_of_compile h with ⟨hsites, hfailure⟩
  intro attached step
  change (survey selector helper sites).sites = surveyedSites selector helper sites at hsites
  have hattached : process.attach owner
      { stubs := (surveyedSites selector helper sites).filterMap (·.stub?)
        dumpCode := selector.settings.dumpCode } = attached := rfl
  simp only [step, Process.link, hfailure, hsites, hattached, map_site_surveyedSites,
    bindAwaiting_surveyedSites]
  cases attached.value <;> exact ⟨rfl, rfl⟩

/-- Linking stops at the first site that does not compile. -/
theorem Process.link_of_failure (process : Process) (owner : ClassId)
    {before : List CallSite} {site : CallSite} {failure : Failure CompileError}
    (h : AllCompile selector helper before)
    (stop : site.failure? selector helper = some failure) (rest : List CallSite) :
    let step := process.link owner selector helper (before ++ site :: rest)
    step.state = process ∧
      step.value =
        { sites := before.map (·.settle selector) ++ site :: rest
          result := .error (failure.map .compile) } := by
  rcases survey_of_failure h stop rest with ⟨hsites, hfailure⟩
  have hunchanged :
      (survey selector helper (before ++ site :: rest)).sites.map (·.site) =
        before.map (·.settle selector) ++ site :: rest := by
    rw [hsites, List.map_append]
    refine congrArg₂ _ (map_site_surveyedSites selector helper before) ?_
    rw [List.map_map]
    exact List.map_id _
  intro step
  simp only [step, Process.link, hfailure, hunchanged, and_self]

/-- Linking succeeds only if all sites compile and their stubs can be attached. -/
theorem Process.link_eq_ok {process : Process} {owner : ClassId} {sites : List CallSite}
    {methods : List NativeMethod}
    (h : (process.link owner selector helper sites).value.result = .ok methods) :
    AllCompile selector helper sites ∧
      (process.attach owner (linkerOf selector helper sites)).value = .ok methods ∧
      (process.link owner selector helper sites).state =
        (process.attach owner (linkerOf selector helper sites)).state ∧
      (process.link owner selector helper sites).value.sites =
        boundSites (surveyedSites selector helper sites) methods := by
  rcases exists_first_failure selector helper sites with
    hcompile | ⟨before, site, rest, failure, rfl, hbefore, hstop⟩
  case inr =>
    rw [(link_of_failure process owner hbefore hstop rest).2] at h
    cases h
  case inl =>
    rcases link_of_compile process owner hcompile with ⟨hstate, hvalue⟩
    rw [hvalue] at h ⊢
    cases hattached : (process.attach owner (linkerOf selector helper sites)).value with
    | error failure =>
        rw [hattached] at h
        cases h
    | ok made =>
        rw [hattached] at h
        cases h
        exact ⟨hcompile, rfl, hstate, rfl⟩

end Link

theorem Registry.exists_holding?_add (registry : Registry) (owner : ClassId) (arena : Arena) :
    exists holding, (registry.add owner arena).holding? owner = some holding ∧
      arena ∈ holding.arenas := by
  unfold Registry.add Registry.holding?
  simp only
  induction registry.holdings with
  | nil =>
      refine ⟨{ owner, arenas := [arena] }, ?_, List.mem_singleton_self arena⟩
      simp only [Registry.addTo, List.find?_cons, decide_true]
  | cons holding rest ih =>
      rw [Registry.addTo]
      split
      case isTrue hown =>
        refine ⟨{ holding with arenas := holding.arenas ++ [arena] }, ?_, ?_⟩
        · simp only [List.find?_cons, hown, decide_true]
        · exact List.mem_append_right _ (List.mem_singleton_self arena)
      case isFalse hother =>
        simp only [List.find?_cons, hother, decide_false]
        exact ih

section Linkage

variable {process : Process} {owner : ClassId} {selector : Selector} {helper : Address}
  {sites : List CallSite} {methods : List NativeMethod} {step : Step Process Linked}

theorem isLinkage_of_isEmpty
    (hcompile : AllCompile selector helper sites)
    (hstubs : awaitingStubs selector helper sites = []) (hstate : step.state = process)
    (hsites : step.value.sites = boundSites (surveyedSites selector helper sites) []) :
    IsLinkage process owner selector helper sites step none := by
  have hbinds := @binds_boundSites _ _ _ [] hcompile (congrArg List.length hstubs)
  rw [← hsites, hstubs] at hbinds
  refine ⟨hbinds.forall₂_isLinked .nil, ?_, ?_, fun _ => hstate, nofun⟩
  · rw [hbinds.newCode_eq]
    exact .nil
  · rw [← awaitingStubs_ne_nil_iff hcompile]
    exact ⟨nofun, fun hsome => absurd hstubs hsome⟩

theorem isLinkage_of_hasAttached
    (hcompile : AllCompile selector helper sites)
    (hstubs : awaitingStubs selector helper sites ≠ []) {arena : Arena}
    (hattached : process.HasAttached owner (linkerOf selector helper sites) arena methods
      step.state)
    (hsites : step.value.sites = boundSites (surveyedSites selector helper sites) methods) :
    IsLinkage process owner selector helper sites step (some arena) := by
  rw [hattached.methods] at hsites
  have hbinds := binds_boundSites hcompile
    (length_awaitingStubs selector helper sites arena.base)
  rw [← hsites] at hbinds
  refine ⟨hbinds.forall₂_isLinked ?_, ?_, ?_, nofun, ?_⟩
  · exact (Linker.stands_methodsAt hattached.holds).imp
      fun _ _ hstands => ⟨arena, rfl, hstands⟩
  · rw [hbinds.newCode_eq]
    exact Linker.pairwise_methodsAt hattached.holds
  · rw [← awaitingStubs_ne_nil_iff hcompile]
    exact ⟨fun _ => hstubs, fun _ => rfl⟩
  · intro _ hsame
    cases hsame
    rw [hattached.registry, hattached.classes]
    exact ⟨hattached.executable, rfl, rfl, Registry.exists_holding?_add _ _ _⟩

/-- After a successful link every site is bound, each to its own code if it needed any, and
the arena with the code is kept with the owner. -/
theorem Process.link_binds_every_site
    (h : (process.link owner selector helper sites).value.result = .ok methods) :
    exists arena?, IsLinkage process owner selector helper sites
      (process.link owner selector helper sites) arena? := by
  rcases link_eq_ok h with ⟨hcompile, hattached, hstate, hsites⟩
  by_cases hstubs : awaitingStubs selector helper sites = []
  case pos =>
    have hempty : (linkerOf selector helper sites).isEmpty = true :=
      List.isEmpty_iff.mpr hstubs
    rw [attach_of_isEmpty hempty] at hattached hstate
    cases hattached
    exact ⟨none, isLinkage_of_isEmpty hcompile hstubs hstate hsites⟩
  case neg =>
    have hempty : (linkerOf selector helper sites).isEmpty = false :=
      List.isEmpty_eq_false_iff.mpr hstubs
    rcases attach_eq_ok hempty hattached with ⟨arena, harena⟩
    rw [← hstate] at harena
    exact ⟨some arena, isLinkage_of_hasAttached hcompile hstubs harena hsites⟩

end Linkage

/-!
# A class with sites of every kind
-/

/-- A selector without a helper, so what captures error numbers is not compiled. -/
def sampleSelector : Selector :=
  { caps := { Capabilities.host with helperPresent := false }, settings := .default }

/-- Two sites of one name that need code, one for a fast path, one for the buffer path, and
one that is bound. -/
def sampleSites : List CallSite :=
  let short := Signature.ofTypes .amd64 [(.schar, .int)] (.slonglong, .long) false
  let capturing := Signature.ofTypes .amd64 [(.sint, .int)] (.sint, .int) true
  let long := Signature.ofTypes .amd64 (List.replicate 7 (.sint, .int)) (.void, .void) false
  [ .create "twin" short 0x1000, .create "fast" capturing 0x2000, .create "long" long 0x3000,
    { name := "twin", signature := short, target := 0x4000
      binding := some { strategy := .buffer, entry := .generic 0x4000 none } },
    .create "twin" short 0x5000 ]

theorem Process.link_binds_every_site_sample :
    let step := Process.initial.link ⟨0⟩ sampleSelector 0x9000 sampleSites
    step.value.sites.map (·.entryAddress?) =
        [some 0x10000, none, none, none, some 0x10018] ∧
      exists methods arena, step.value.result = .ok methods ∧
        IsLinkage Process.initial ⟨0⟩ sampleSelector 0x9000 sampleSites step (some arena) := by
  intro step
  refine ⟨by decide +kernel, ?_⟩
  have hok : step.value.result.toOption.isSome = true := by decide +kernel
  cases hresult : step.value.result with
  | error failure =>
      rw [hresult] at hok
      cases hok
  | ok methods =>
      rcases link_binds_every_site hresult with ⟨arena?, hlinkage⟩
      have hsome : arena?.isSome = true := by
        apply hlinkage.needed.mpr
        exact ⟨_, List.mem_cons_self, rfl, .amd64, by decide⟩
      rcases Option.isSome_iff_exists.mp hsome with ⟨arena, rfl⟩
      exact ⟨methods, arena, rfl, hlinkage⟩

end NativeCall
