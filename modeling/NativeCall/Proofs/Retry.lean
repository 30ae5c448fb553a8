import Mathlib.Logic.Relation
import NativeCall.Proofs.Linkage

/-!
# Failed links

A link that fails has bound sites that need no code, and nothing else. What it has bound is
what any later link would bind them to, so a later link does not notice the earlier one.
-/

namespace NativeCall

open Process (Surveyed Linked survey)

/-!
# What a failure leaves behind
-/

/-- Why and where a link stopped: at the first site that does not compile, or after all sites
for want of an arena. -/
inductive StopsAt (selector : Selector) (helper : Address) (sites : List CallSite)
    (failure : Failure LinkError) : Nat -> Prop where
  | compile {k : Nat} {site : CallSite} {arch : Arch} {e : Failure CompileError}
      (hsite : sites[k]? = some site) (hbound : site.isBound = false)
      (hstrategy : selector.select site.signature = .compiled arch)
      (hcompile : Trampoline.compile arch site.signature site.target (site.helper? helper) =
        .error e)
      (hfirst : AllCompile selector helper (sites.take k))
      (hfailure : failure = e.map .compile) : StopsAt selector helper sites failure k
  | arena {e : Failure ArenaError}
      (hcompile : AllCompile selector helper sites)
      (hfailure : failure = e.map .arena) : StopsAt selector helper sites failure sites.length

/-- A site before and after a failed link. Only a site that the link came to is bound by it,
and only if its selected strategy needs no code. -/
structure CallSite.IsContained (selector : Selector) (reached : Prop)
    (before after : CallSite) : Prop where
  kept : before.isBound = true -> after = before
  unbound : forall arch, selector.select before.signature = .compiled arch -> after = before
  bound : before.isBound = false -> (after.isBound = true <->
    reached ∧ forall arch, selector.select before.signature ≠ .compiled arch)

/-- A link that failed at a site, or after the last one. -/
structure IsContained (process : Process) (selector : Selector) (helper : Address)
    (sites : List CallSite) (failure : Failure LinkError) (step : Step Process Linked)
    (k : Nat) : Prop where
  registry : step.state.registry = process.registry
  classes : step.state.classes = process.classes
  stops : StopsAt selector helper sites failure k
  settled : step.value.sites = (sites.take k).map (·.settle selector) ++ sites.drop k
  contained : forall (i : Nat) (before after : CallSite), sites[i]? = some before ->
    step.value.sites[i]? = some after -> before.IsContained selector (i < k) after

section Containment

variable {selector : Selector} {helper : Address} {process : Process} {owner : ClassId}
  {sites : List CallSite}

theorem CallSite.isContained_self (site : CallSite) {reached : Prop} (h : ¬reached) :
    site.IsContained selector reached site where
  kept := fun _ => rfl
  unbound := fun _ _ => rfl
  bound := by
    intro hbound
    rw [hbound]
    exact ⟨nofun, fun hreached => absurd hreached.1 h⟩

theorem CallSite.isContained_settle (site : CallSite) {reached : Prop} (h : reached) :
    site.IsContained selector reached (site.settle selector) where
  kept := CallSite.settle_of_isBound
  unbound := fun arch hstrategy => CallSite.settle_of_compiled hstrategy
  bound := by
    intro hbound
    constructor
    · intro hnew
      refine ⟨h, fun arch hstrategy => ?_⟩
      rw [CallSite.settle_of_compiled hstrategy, hbound] at hnew
      cases hnew
    · exact fun hneeds => CallSite.isBound_settle hneeds.2

theorem getElem?_map_take_append_drop {α : Type} (f : α -> α) (as : List α) (k i : Nat) :
    ((as.take k).map f ++ as.drop k)[i]? = as[i]?.map fun a => if i < k then f a else a := by
  induction k generalizing as i with
  | zero => simp only [List.take_zero, List.map_nil, List.nil_append, List.drop_zero,
      Nat.not_lt_zero, ↓reduceIte, Option.map_id']
  | succ k ih =>
      cases as with
      | nil => rfl
      | cons a rest =>
          cases i with
          | zero => rfl
          | succ i =>
              rw [List.take_succ_cons, List.drop_succ_cons, List.map_cons, List.cons_append,
                List.getElem?_cons_succ, List.getElem?_cons_succ, ih]
              simp only [Nat.add_lt_add_iff_right]

theorem drop_eq_cons {α : Type} {as : List α} {k : Nat} {a : α} (h : as[k]? = some a) :
    as.drop k = a :: as.drop (k + 1) := by
  rcases List.getElem?_eq_some_iff.mp h with ⟨hk, rfl⟩
  exact List.drop_eq_getElem_cons hk

theorem take_append_cons_drop {α : Type} {as : List α} {k : Nat} {a : α} (h : as[k]? = some a) :
    as.take k ++ a :: as.drop (k + 1) = as := by
  rw [← drop_eq_cons h, List.take_append_drop]

theorem CallSite.isContained_getElem? {after : List CallSite} {k i : Nat}
    {before new : CallSite}
    (hafter : after = (sites.take k).map (·.settle selector) ++ sites.drop k)
    (hbefore : sites[i]? = some before) (hnew : after[i]? = some new) :
    before.IsContained selector (i < k) new := by
  rw [hafter, getElem?_map_take_append_drop, hbefore] at hnew
  cases hnew
  split
  case isTrue hreached => exact before.isContained_settle hreached
  case isFalse hreached => exact before.isContained_self hreached

theorem CallSite.failure?_eq_some {site : CallSite} {e : Failure CompileError}
    (h : site.failure? selector helper = some e) :
    site.isBound = false ∧ exists arch, selector.select site.signature = .compiled arch ∧
      Trampoline.compile arch site.signature site.target (site.helper? helper) = .error e := by
  unfold CallSite.failure? at h
  split at h
  case isTrue => cases h
  case isFalse hbound =>
    refine ⟨Bool.eq_false_iff.mpr hbound, ?_⟩
    cases hcompile : site.compile? selector helper with
    | none =>
        rw [hcompile] at h
        cases h
    | some outcome =>
        rcases CallSite.compile?_eq_some hcompile with ⟨arch, hstrategy, hcode⟩
        rw [hcompile] at h
        cases outcome with
        | ok trampoline => cases h
        | error failure =>
            cases h
            exact ⟨arch, hstrategy, hcode⟩

theorem link_eq_error {failure : Failure LinkError}
    (h : (process.link owner selector helper sites).value.result = .error failure) :
    (process.link owner selector helper sites).state.registry = process.registry ∧
      (process.link owner selector helper sites).state.classes = process.classes ∧
        exists k, StopsAt selector helper sites failure k ∧
          (process.link owner selector helper sites).value.sites =
            (sites.take k).map (·.settle selector) ++ sites.drop k := by
  rcases exists_first_failure selector helper sites with
    hcompile | ⟨before, site, rest, e, rfl, hbefore, hstop⟩
  case inl =>
    rcases Process.link_of_compile process owner hcompile with ⟨hstate, hvalue⟩
    cases hattached : (process.attach owner (linkerOf selector helper sites)).value with
    | ok methods =>
        rw [hvalue, hattached] at h
        cases h
    | error e =>
        rw [hattached] at hvalue
        rw [hvalue] at h
        cases h
        rcases Process.attach_eq_error hattached with ⟨hclasses, hregistry, e, hfailure⟩
        rw [hstate, hvalue]
        refine ⟨hregistry, hclasses, sites.length, .arena hcompile hfailure, ?_⟩
        rw [List.take_length, List.drop_length, List.append_nil]
  case inr =>
    rcases Process.link_of_failure process owner hbefore hstop rest with ⟨hstate, hvalue⟩
    rw [hvalue] at h ⊢
    cases h
    rcases CallSite.failure?_eq_some hstop with ⟨hbound, arch, hstrategy, hcode⟩
    have htake : (before ++ site :: rest).take before.length = before := List.take_left' rfl
    have hdrop : (before ++ site :: rest).drop before.length = site :: rest :=
      List.drop_left' rfl
    rw [hstate]
    refine ⟨rfl, rfl, before.length, ?_, ?_⟩
    · refine .compile ?_ hbound hstrategy hcode (by rwa [htake]) rfl
      rw [List.getElem?_append_right (Nat.le_refl _), Nat.sub_self]
      rfl
    · rw [htake, hdrop]

end Containment

/-!
# Linking again
-/

section Retry

variable {selector : Selector} {helper : Address} {sites : List CallSite}

/-- A link of the sites that fails, in any process and for any owner, and the sites after it. -/
def FailsTo (selector : Selector) (helper : Address) (sites after : List CallSite) : Prop :=
  exists (process : Process) (owner : ClassId) (failure : Failure LinkError),
    (process.link owner selector helper sites).value =
      { sites := after, result := .error failure }

/-- Two lists of sites that no link can tell apart. -/
def LinksAlike (selector : Selector) (helper : Address) (sites others : List CallSite) : Prop :=
  forall (process : Process) (owner : ClassId),
    (process.link owner selector helper others).value =
        (process.link owner selector helper sites).value ∧
      (process.link owner selector helper others).state =
        (process.link owner selector helper sites).state

theorem surveyedSites_map_settle (selector : Selector) (helper : Address)
    (sites : List CallSite) :
    surveyedSites selector helper (sites.map (·.settle selector)) =
      surveyedSites selector helper sites := by
  rw [surveyedSites, List.map_map]
  exact List.map_congr_left fun site _ => CallSite.surveyed_settle selector helper site

theorem map_settle_map_settle (selector : Selector) (sites : List CallSite) :
    (sites.map (·.settle selector)).map (·.settle selector) = sites.map (·.settle selector) := by
  rw [List.map_map]
  exact List.map_congr_left fun site _ => CallSite.settle_settle selector site

theorem AllCompile.map_settle (h : AllCompile selector helper sites) :
    AllCompile selector helper (sites.map (·.settle selector)) := by
  intro site hmem
  rcases List.mem_map.mp hmem with ⟨before, hbefore, rfl⟩
  rw [CallSite.failure?_settle, h before hbefore]

/-- A link treats sites that were settled before it stopped as if they were not. -/
theorem StopsAt.linksAlike {failure : Failure LinkError} {k : Nat}
    (h : StopsAt selector helper sites failure k) :
    LinksAlike selector helper sites
      ((sites.take k).map (·.settle selector) ++ sites.drop k) := by
  intro process owner
  cases h with
  | arena hcompile _ =>
      rcases Process.link_of_compile process owner hcompile with ⟨hstate, hvalue⟩
      rcases Process.link_of_compile process owner hcompile.map_settle with ⟨hagain, hsame⟩
      -- A settled site has no stub, and had none before, so the same stubs are attached.
      have hlinker : linkerOf selector helper (sites.map (·.settle selector)) =
          linkerOf selector helper sites := by
        rw [linkerOf, awaitingStubs, surveyedSites_map_settle]
        rfl
      rw [hlinker] at hagain hsame
      rw [surveyedSites_map_settle, map_settle_map_settle] at hsame
      rw [List.take_length, List.drop_length, List.append_nil]
      exact ⟨hsame.trans hvalue.symm, hagain.trans hstate.symm⟩
  | @compile k site arch e hsite hbound hstrategy hcode hfirst _ =>
      have hstop : site.failure? selector helper = some e := by
        rw [CallSite.failure?, hbound, CallSite.compile?_of_compiled hstrategy, hcode]
        rfl
      have hdrop := drop_eq_cons hsite
      have hsites := take_append_cons_drop hsite
      have hlink := Process.link_of_failure process owner hfirst hstop (sites.drop (k + 1))
      have hagain :=
        Process.link_of_failure process owner hfirst.map_settle hstop (sites.drop (k + 1))
      rw [hsites] at hlink
      rw [map_settle_map_settle] at hagain
      rw [hdrop]
      exact ⟨hagain.2.trans hlink.2.symm, hagain.1.trans hlink.1.symm⟩

theorem FailsTo.linksAlike {after : List CallSite} (h : FailsTo selector helper sites after) :
    LinksAlike selector helper sites after := by
  rcases h with ⟨process, owner, failure, hfails⟩
  rcases link_eq_error (congrArg Linked.result hfails) with ⟨_, _, k, hstops, hsites⟩
  rw [hfails] at hsites
  change after = _ at hsites
  rw [hsites]
  exact hstops.linksAlike

/-- However often linking fails, the next link does what the first one would have done. -/
theorem linksAlike_of_reflTransGen {after : List CallSite}
    (h : Relation.ReflTransGen (FailsTo selector helper) sites after) :
    LinksAlike selector helper sites after := by
  induction h with
  | refl => exact fun _ _ => ⟨rfl, rfl⟩
  | tail _ hfails ih =>
      intro process owner
      rcases ih process owner with ⟨hvalue, hstate⟩
      rcases hfails.linksAlike process owner with ⟨hagain, hsame⟩
      exact ⟨hagain.trans hvalue, hsame.trans hstate⟩

end Retry

/-!
# Code in another arena
-/

def Entry.relocate (shift : Address) : Entry -> Entry
  | .compiled address => .compiled (address + shift)
  | .fast path target => .fast path target
  | .generic target invoker => .generic target invoker

def CallSite.relocate (shift : Address) (site : CallSite) : CallSite :=
  { site with
    binding := site.binding.map fun binding =>
      { binding with entry := binding.entry.relocate shift } }

/-- The same bindings of the same sites, but for one shift of all code that is new. -/
def SameUpToBase (sites first again : List CallSite) : Prop :=
  exists shift, again = List.zipWith
    (fun before after => if before.isBound then after else after.relocate shift) sites first

section Relocation

variable {selector : Selector} {helper : Address} {sites : List CallSite}

theorem Entry.IsMadeFor.relocate {site : CallSite} {strategy : Strategy} {entry : Entry}
    (h : entry.IsMadeFor helper none site strategy) (shift : Address) :
    entry.relocate shift = entry := by
  cases h with
  | fast path => rfl
  | buffer _ _ => rfl
  | compiled _ harena _ _ => cases harena

theorem boundSites_relocate {methods moved : List NativeMethod} {shift : Address}
    (hcompile : AllCompile selector helper sites)
    (hlength : (awaitingStubs selector helper sites).length = methods.length)
    (h : List.Forall₂ (fun method moved => moved.address = method.address + shift)
      methods moved) :
    boundSites (surveyedSites selector helper sites) moved =
      List.zipWith
        (fun before after => if before.isBound then after else after.relocate shift) sites
        (boundSites (surveyedSites selector helper sites) methods) := by
  induction sites generalizing methods moved with
  | nil => rfl
  | cons site rest ih =>
      have hsite := CallSite.isSurveyed (hcompile site List.mem_cons_self)
      rw [awaitingStubs_cons] at hlength
      rw [surveyedSites, List.map_cons]
      generalize site.surveyed selector helper = surveyed at hlength hsite ⊢
      cases hsite with
      | bound hbound =>
          rw [boundSites, boundSites, List.zipWith_cons_cons, if_pos hbound]
          exact congrArg _ (ih hcompile.tail hlength h)
      | settled hbound _ hentry =>
          rw [boundSites, boundSites, List.zipWith_cons_cons, hbound,
            if_neg Bool.false_ne_true]
          refine congrArg₂ _ ?_ (ih hcompile.tail hlength h)
          rw [CallSite.relocate, Option.map_some, hentry.relocate]
      | awaiting hbound hstrategy hcode =>
          cases h with
          | nil => cases hlength
          | cons haddress hothers =>
              rw [boundSites, boundSites, List.zipWith_cons_cons, hbound,
                if_neg Bool.false_ne_true, haddress]
              exact congrArg _ (ih hcompile.tail (Nat.succ.inj hlength) hothers)

theorem sameUpToBase_of_link {first again : Process} {owner heir : ClassId}
    {methods moved : List NativeMethod}
    (h : (first.link owner selector helper sites).value.result = .ok methods)
    (g : (again.link heir selector helper sites).value.result = .ok moved) :
    SameUpToBase sites (first.link owner selector helper sites).value.sites
      (again.link heir selector helper sites).value.sites := by
  rcases Process.link_eq_ok h with ⟨hcompile, hattached, _, hsites⟩
  rcases Process.link_eq_ok g with ⟨_, hagain, _, hmoved⟩
  rcases Process.exists_methodsAt hattached with ⟨base, rfl⟩
  rcases Process.exists_methodsAt hagain with ⟨later, rfl⟩
  refine ⟨later - base, ?_⟩
  rw [hsites, hmoved]
  exact boundSites_relocate hcompile (length_awaitingStubs selector helper sites base)
    (Linker.forall₂_methodsAt _ base later)

end Relocation

/-!
# When all sites are bound
-/

/-- Linking the sites does nothing any more, whatever the process, the owner or the selector. -/
def IsFinished (sites : List CallSite) : Prop :=
  forall (process : Process) (owner : ClassId) (selector : Selector) (helper : Address),
    (process.link owner selector helper sites).value = { sites, result := .ok [] } ∧
      (process.link owner selector helper sites).state = process

theorem boundSites_of_isBound {selector : Selector} {helper : Address}
    {sites : List CallSite} (h : forall site, site ∈ sites -> site.isBound = true) :
    awaitingStubs selector helper sites = [] ∧
      boundSites (surveyedSites selector helper sites) [] = sites := by
  induction sites with
  | nil => exact ⟨rfl, rfl⟩
  | cons site rest ih =>
      have hsite : site.surveyed selector helper = .settled site := by
        rw [CallSite.surveyed, if_pos (h site List.mem_cons_self)]
      rcases ih fun other hmem => h other (List.mem_cons_of_mem _ hmem) with ⟨hstubs, hbind⟩
      rw [awaitingStubs_cons, surveyedSites, List.map_cons, hsite, boundSites]
      exact ⟨hstubs, congrArg _ hbind⟩

theorem isFinished_of_isBound {sites : List CallSite}
    (h : forall site, site ∈ sites -> site.isBound = true) : IsFinished sites := by
  intro process owner selector helper
  have hcompile : AllCompile selector helper sites := by
    intro site hmem
    rw [CallSite.failure?, if_pos (h site hmem)]
  rcases @boundSites_of_isBound selector helper sites h with ⟨hstubs, hbind⟩
  have hempty : (linkerOf selector helper sites).isEmpty = true := List.isEmpty_iff.mpr hstubs
  rcases Process.link_of_compile process owner hcompile with ⟨hstate, hvalue⟩
  rw [Process.attach_of_isEmpty hempty] at hstate hvalue
  rw [hvalue, hstate]
  exact ⟨congrArg₂ _ hbind rfl, rfl⟩

theorem isBound_of_link {selector : Selector} {helper : Address} {sites : List CallSite}
    {process : Process} {owner : ClassId} {methods : List NativeMethod}
    (h : (process.link owner selector helper sites).value.result = .ok methods) :
    forall site, site ∈ (process.link owner selector helper sites).value.sites ->
      site.isBound = true := by
  rcases Process.link_eq_ok h with ⟨hcompile, hattached, _, hsites⟩
  rcases Process.exists_methodsAt hattached with ⟨base, rfl⟩
  rw [hsites]
  exact (binds_boundSites hcompile (length_awaitingStubs selector helper sites base)).isBound

/-!
# Failures do no harm
-/

/-- Links of the sites after failed ones: they do what they would have done at first, and when
one succeeds the sites are as if nothing had failed, and are so for good. -/
structure IsRetryable (selector : Selector) (helper : Address) (sites after : List CallSite) :
    Prop where
  alike : LinksAlike selector helper sites after
  same : forall {first again : Process} {owner heir : ClassId}
    {methods moved : List NativeMethod},
    (first.link owner selector helper sites).value.result = .ok methods ->
      (again.link heir selector helper after).value.result = .ok moved ->
        SameUpToBase sites (first.link owner selector helper sites).value.sites
          (again.link heir selector helper after).value.sites
  finished : forall {process : Process} {owner : ClassId} {methods : List NativeMethod},
    (process.link owner selector helper after).value.result = .ok methods ->
      IsFinished (process.link owner selector helper after).value.sites

theorem LinksAlike.isRetryable {selector : Selector} {helper : Address}
    {sites after : List CallSite} (h : LinksAlike selector helper sites after) :
    IsRetryable selector helper sites after where
  alike := h
  same := by
    intro first again owner heir methods moved hfirst hagain
    rw [(h again heir).1] at hagain ⊢
    exact sameUpToBase_of_link hfirst hagain
  finished := fun hok => isFinished_of_isBound (isBound_of_link hok)

/-- A failed link leaves the registry alone, binds only what needs no code, and can be tried
again, any number of times. Sites that are all bound are linked for good. -/
theorem Process.link_failure_is_harmless {process : Process} {owner : ClassId}
    {selector : Selector} {helper : Address} {sites : List CallSite}
    {failure : Failure LinkError}
    (h : (process.link owner selector helper sites).value.result = .error failure) :
    (exists k, IsContained process selector helper sites failure
      (process.link owner selector helper sites) k) ∧
    (forall after, Relation.ReflTransGen (FailsTo selector helper)
      (process.link owner selector helper sites).value.sites after ->
        IsRetryable selector helper sites after) ∧
    forall done : List CallSite, (forall site, site ∈ done -> site.isBound = true) ->
      IsFinished done := by
  refine ⟨?_, ?_, fun done => isFinished_of_isBound⟩
  · rcases link_eq_error h with ⟨hregistry, hclasses, k, hstops, hsettled⟩
    exact ⟨k,
      { registry := hregistry, classes := hclasses, stops := hstops, settled := hsettled
        contained := fun i before after => CallSite.isContained_getElem? hsettled }⟩
  · intro after hafter
    have hfails : FailsTo selector helper sites
        (process.link owner selector helper sites).value.sites := by
      refine ⟨process, owner, failure, ?_⟩
      rw [← h]
    exact (linksAlike_of_reflTransGen (.head hfails hafter)).isRetryable

def sampleRefusing : Process :=
  { Process.initial with pages := { Pages.empty with refusal := some 13 } }

/-- The system refuses at first, and then gives in. -/
theorem Process.link_failure_is_harmless_sample :
    let failed := sampleRefusing.link ⟨0⟩ sampleSelector 0x9000 sampleSites
    let retried := Process.initial.link ⟨0⟩ sampleSelector 0x9000 failed.value.sites
    failed.value.sites.map (·.isBound) = [false, true, true, true, false] ∧
      retried.value.sites.map (·.entryAddress?) =
        [some 0x10000, none, none, none, some 0x10018] ∧
      (exists k failure, failed.value.result = .error failure ∧
        IsContained sampleRefusing sampleSelector 0x9000 sampleSites failure failed k) ∧
      retried.value = (Process.initial.link ⟨0⟩ sampleSelector 0x9000 sampleSites).value ∧
      IsFinished retried.value.sites := by
  intro failed retried
  have hfailed : failed.value.result.toOption.isSome = false := by decide +kernel
  have hretried : retried.value.result.toOption.isSome = true := by decide +kernel
  cases hfailure : failed.value.result with
  | ok methods =>
      rw [hfailure] at hfailed
      cases hfailed
  | error failure =>
      rcases link_failure_is_harmless hfailure with ⟨⟨k, hcontained⟩, hretry, _⟩
      have hagain := hretry failed.value.sites .refl
      refine ⟨by decide +kernel, by decide +kernel, ⟨k, failure, rfl, hcontained⟩,
        (hagain.alike _ _).1, ?_⟩
      cases hok : retried.value.result with
      | error e =>
          rw [hok] at hretried
          cases hretried
      | ok methods => exact hagain.finished hok

end NativeCall
