import NativeCall.Proofs.CompiledCourse
import NativeCall.Proofs.Preference
import NativeCall.Proofs.Retry

/-!
# Errors of links

The selection has asked for everything that the compilation asks for, but for the range of the
addresses. So 32-bit code with a far target or a far helper is all that a compilation refuses when
a class is linked, and the first site with such an address is where the link stops.
-/

namespace NativeCall

open Process (Linked)

namespace CallSite

variable {selector : Selector} {helper : Address} {site : CallSite}

theorem calledHelper_helper? :
    site.signature.calledHelper (site.helper? helper) = site.helper? helper := by
  unfold helper? Signature.calledHelper
  split <;> rfl

theorem isSome_helper? (helper : Address) (h : site.signature.capturesError = true) :
    (site.helper? helper).isSome = true := by
  rw [helper?, if_pos h]
  rfl

/-!
# Sites that fail
-/

/-- A site that is to be bound to code, and the first of its addresses that is out of reach. -/
structure IsFar (selector : Selector) (helper : Address) (site : CallSite) (address : Address) :
    Prop where
  unbound : site.isBound = false
  needsCode : exists arch, selector.select site.signature = .compiled arch
  far : IsFirstFar site.target (site.helper? helper) address

/-- Why a site does not compile. -/
inductive Fails (selector : Selector) (helper : Address) (site : CallSite) :
    Failure CompileError -> Prop where
  | far {address : Address} (hplatform : selector.caps.arch = some .i386)
      (hfar : site.IsFar selector helper address) :
      Fails selector helper site (.error (.addressOutOfRange address))
  | fault {arch : Arch} {fault : Fault}
      (hstrategy : selector.select site.signature = .compiled arch)
      (hcompile : Trampoline.compile arch site.signature site.target (site.helper? helper) =
        .error (.fault fault)) :
      Fails selector helper site (.fault fault)

theorem fails {arch : Arch} {failure : Failure CompileError} (hbound : site.isBound = false)
    (hstrategy : selector.select site.signature = .compiled arch)
    (hcompile : Trampoline.compile arch site.signature site.target (site.helper? helper) =
      .error failure) : site.Fails selector helper failure := by
  rcases of_select_compiled hstrategy with ⟨_, hplatform, haccepts⟩
  have hcase := compilation arch site.signature site.target (site.helper? helper)
  rw [hcompile] at hcase
  cases hcase with
  | unsupported hrefuses =>
      rw [haccepts] at hrefuses
      cases hrefuses
  | missingHelper _ hcaptures hnone =>
      have hhelper := isSome_helper? helper hcaptures
      rw [hnone] at hhelper
      cases hhelper
  | outOfRange _ _ harch hfar =>
      rw [harch] at hplatform
      rw [calledHelper_helper?] at hfar
      exact .far hplatform ⟨hbound, ⟨arch, hstrategy⟩, hfar⟩
  | fault => exact .fault hstrategy hcompile

theorem IsFar.failure? {address : Address} (h : site.IsFar selector helper address)
    (hplatform : selector.caps.arch = some .i386) :
    site.failure? selector helper = some (.error (.addressOutOfRange address)) := by
  rcases h.needsCode with ⟨arch, hstrategy⟩
  rcases of_select_compiled hstrategy with ⟨_, hknown, haccepts⟩
  have harch : arch = .i386 := Option.some.inj (hknown.symm.trans hplatform)
  have hcompile : Trampoline.compile arch site.signature site.target (site.helper? helper) =
      .error (.error (.addressOutOfRange address)) := by
    rw [compile_eq_addressOutOfRange_iff, calledHelper_helper?]
    exact ⟨haccepts, isSome_helper? helper, harch, h.far⟩
  rw [CallSite.failure?, h.unbound, compile?_of_compiled hstrategy, hcompile]
  rfl

/-!
# Sites after a link
-/

/-- A link leaves the site alone, or it binds the site in the one way that sites allow. -/
def IsBoundOnce (before after : CallSite) : Prop :=
  after = before ∨ exists binding, before.bind binding = .ok after

/-- What becomes of a site in a link, whether the link fails or not. -/
inductive AfterLink (selector : Selector) (helper : Address) (site : CallSite) :
    CallSite -> Prop where
  | kept : AfterLink selector helper site site
  | settled {entry : Entry} (hbound : site.isBound = false)
      (hentry : entry.IsMadeFor helper none site (selector.select site.signature)) :
      AfterLink selector helper site
        { site with binding := some { strategy := selector.select site.signature, entry } }
  | coded {arch : Arch} {address : Address} (hbound : site.isBound = false) :
      AfterLink selector helper site
        { site with binding := some { strategy := .compiled arch, entry := .compiled address } }

theorem isBoundOnce_of_unbound (h : site.isBound = false) (binding : Binding) :
    site.IsBoundOnce { site with binding := some binding } :=
  Or.inr ⟨binding, bind_of_unbound h binding⟩

theorem AfterLink.isBoundOnce {after : CallSite} (h : site.AfterLink selector helper after) :
    site.IsBoundOnce after := by
  cases h with
  | kept => exact Or.inl rfl
  | settled hbound _ => exact isBoundOnce_of_unbound hbound _
  | coded hbound => exact isBoundOnce_of_unbound hbound _

theorem afterLink_settle (selector : Selector) (helper : Address) (site : CallSite) :
    site.AfterLink selector helper (site.settle selector) := by
  cases hbound : site.isBound with
  | true =>
      rw [settle_of_isBound hbound]
      exact .kept
  | false =>
      cases hcompile : site.compile? selector helper with
      | some outcome =>
          rw [compile?_eq_some_settle hcompile]
          exact .kept
      | none =>
          rcases exists_settle_eq_bound hbound hcompile with ⟨entry, hentry, hsettle⟩
          rw [hsettle]
          exact .settled hbound hentry

end CallSite

section Links

variable {selector : Selector} {helper : Address} {sites after : List CallSite}

theorem afterLink_map_settle (selector : Selector) (helper : Address) (sites : List CallSite) :
    List.Forall₂ (CallSite.AfterLink selector helper) sites (sites.map (·.settle selector)) := by
  apply List.forall₂_map_right_iff.mpr
  apply List.forall₂_same.mpr
  intro site _
  exact site.afterLink_settle selector helper

theorem Binds.afterLink {stubs : List PendingStub} {methods : List NativeMethod}
    (h : Binds selector helper sites stubs methods after) :
    List.Forall₂ (CallSite.AfterLink selector helper) sites after := by
  induction h with
  | nil => exact .nil
  | bound _ _ ih => exact .cons .kept ih
  | settled hbound _ hentry _ ih => exact .cons (.settled hbound hentry) ih
  | awaiting hbound _ _ _ ih => exact .cons (.coded hbound) ih

/-- Every site is kept or bound, whether the link fails or not. -/
theorem afterLink_link (process : Process) (owner : ClassId) (selector : Selector)
    (helper : Address) (sites : List CallSite) :
    List.Forall₂ (CallSite.AfterLink selector helper) sites
      (process.link owner selector helper sites).value.sites := by
  cases hresult : (process.link owner selector helper sites).value.result with
  | ok methods =>
      rcases Process.link_eq_ok hresult with ⟨hcompile, hattached, _, hsites⟩
      rcases Process.exists_methodsAt hattached with ⟨base, rfl⟩
      rw [hsites]
      have hlength := length_awaitingStubs selector helper sites base
      exact (binds_boundSites hcompile hlength).afterLink
  | error failure =>
      rcases link_eq_error hresult with ⟨_, _, k, _, hsites⟩
      rw [hsites]
      nth_rewrite 1 [← List.take_append_drop k sites]
      apply List.rel_append (afterLink_map_settle selector helper _)
      exact List.forall₂_same.mpr fun _ _ => .kept

/-!
# Links that fail
-/

def IsFirstFarSite (selector : Selector) (helper : Address) (sites : List CallSite)
    (address : Address) : Prop :=
  exists before site rest, sites = before ++ site :: rest ∧
    site.IsFar selector helper address ∧
    forall earlier, earlier ∈ before -> forall other, ¬earlier.IsFar selector helper other

theorem not_allCompile_of_isFar {site : CallSite} {address : Address}
    (hplatform : selector.caps.arch = some .i386) (hmem : site ∈ sites)
    (hfar : site.IsFar selector helper address) : ¬AllCompile selector helper sites := by
  intro hcompile
  have hnone := hcompile site hmem
  rw [hfar.failure? hplatform] at hnone
  cases hnone

theorem isFirstFarSite_of_stopsAt {e : CompileError} {k : Nat}
    (h : StopsAt selector helper sites (.error (.compile e)) k) :
    selector.caps.arch = some .i386 ∧
      exists address, e = .addressOutOfRange address ∧
        IsFirstFarSite selector helper sites address := by
  cases h with
  | @arena e _ hfailure => cases e <;> cases hfailure
  | @compile _ site _ _ hsite hbound hstrategy hcompile hfirst hfailure =>
      have hfails := CallSite.fails hbound hstrategy hcompile
      cases hfails with
      | fault => cases hfailure
      | @far address hplatform hfar =>
          cases hfailure
          refine ⟨hplatform, address, rfl, sites.take k, site, sites.drop (k + 1), ?_, hfar, ?_⟩
          · exact (take_append_cons_drop hsite).symm
          · intro earlier hmem other hearlier
            exact not_allCompile_of_isFar hplatform hmem hearlier hfirst

variable (process : Process) (owner : ClassId)

theorem isBoundOnce_link (selector : Selector) (helper : Address) (sites : List CallSite) :
    List.Forall₂ CallSite.IsBoundOnce sites
      (process.link owner selector helper sites).value.sites :=
  (afterLink_link process owner selector helper sites).imp fun _ _ hafter => hafter.isBoundOnce

/-- Where no code is too long, a far site is enough for the link to fail on a far address. -/
theorem link_of_isFar (hbuilt : forall site, site ∈ sites -> site.signature.Built)
    (hreach : forall site, site ∈ sites -> site.signature.arch = .i386 ->
      I386.stackAdjust site.signature + I386.hostStart + I386.hostBytes site.signature.params <
        2 ^ 31)
    (hplatform : selector.caps.arch = some .i386)
    (hfar : exists site, site ∈ sites ∧ exists address, site.IsFar selector helper address) :
    exists address, (process.link owner selector helper sites).value.result =
      .error (.error (.compile (.addressOutOfRange address))) := by
  rcases hfar with ⟨far, hmem, _, hfar⟩
  have hfails := not_allCompile_of_isFar hplatform hmem hfar
  cases hresult : (process.link owner selector helper sites).value.result with
  | ok methods => exact absurd (Process.link_eq_ok hresult).left hfails
  | error failure =>
      rcases link_eq_error hresult with ⟨_, _, k, hstops, _⟩
      cases hstops with
      | arena hcompile _ => exact absurd hcompile hfails
      | @compile _ site _ _ hsite hbound hstrategy hcompile _ hfailure =>
          have hsiteFails := CallSite.fails hbound hstrategy hcompile
          cases hsiteFails with
          | @far address _ _ =>
              exists address
              rw [hfailure]
              rfl
          | fault hstrategy hcode =>
              have hsiteMem := List.mem_of_getElem? hsite
              have haccepts := (of_select_compiled hstrategy).right.right
              rcases of_compile_eq_fault (hbuilt site hsiteMem) hcode with ⟨rfl, hrange⟩
              have harch := ((hbuilt site hsiteMem).accepted haccepts).arch_eq
              exact absurd (hreach site hsiteMem harch) (Nat.not_lt.mpr hrange)

/-- What the selection takes for compiled calls, the compilation compiles. A link is refused for
no signature, no helper and no earlier binding, and for an address only if it is the first one
that i386 code cannot reach. If there is such a one, the link is refused for it. -/
theorem link_refuses_far_addresses_only (selector : Selector) (helper : Address)
    (sites : List CallSite) :
    let step := process.link owner selector helper sites
    (forall arch text, step.value.result ≠ .error (.error (.compile (.unsupported arch text)))) ∧
    step.value.result ≠ .error (.error (.compile .missingHelper)) ∧
    (forall name, step.value.result ≠ .error (.error (.alreadyBound name))) ∧
    (forall address,
      step.value.result = .error (.error (.compile (.addressOutOfRange address))) ->
        selector.caps.arch = some .i386 ∧ IsFirstFarSite selector helper sites address) ∧
    ((forall site, site ∈ sites -> site.signature.Built) ->
      (forall site, site ∈ sites -> site.signature.arch = .i386 ->
        I386.stackAdjust site.signature + I386.hostStart +
          I386.hostBytes site.signature.params < 2 ^ 31) ->
      selector.caps.arch = some .i386 ->
      (exists site, site ∈ sites ∧ exists address, site.IsFar selector helper address) ->
        exists address,
          step.value.result = .error (.error (.compile (.addressOutOfRange address)))) ∧
    (forall sig arch, selector.select sig = .compiled arch ->
      selector.compilerArch? = some arch) ∧
    List.Forall₂ CallSite.IsBoundOnce sites step.value.sites := by
  intro step
  have hstops : forall e, step.value.result = .error (.error (.compile e)) ->
      selector.caps.arch = some .i386 ∧
        exists address, e = .addressOutOfRange address ∧
          IsFirstFarSite selector helper sites address := by
    intro e hresult
    rcases link_eq_error hresult with ⟨_, _, k, hstops, _⟩
    exact isFirstFarSite_of_stopsAt hstops
  refine ⟨?_, ?_, ?_, ?_, ?_, ?_, ?_⟩
  · intro arch text hresult
    rcases hstops _ hresult with ⟨_, _, hcompile, _⟩
    cases hcompile
  · intro hresult
    rcases hstops _ hresult with ⟨_, _, hcompile, _⟩
    cases hcompile
  · intro name hresult
    rcases link_eq_error hresult with ⟨_, _, k, hstopped, _⟩
    cases hstopped with
    | @compile _ _ _ e _ _ _ _ _ hfailure => cases e <;> cases hfailure
    | @arena e _ hfailure => cases e <;> cases hfailure
  · intro address hresult
    rcases hstops _ hresult with ⟨hplatform, _, hcompile, hfirst⟩
    cases hcompile
    exact ⟨hplatform, hfirst⟩
  · exact link_of_isFar process owner
  · intro sig arch hstrategy
    exact (of_select_compiled hstrategy).left
  · exact isBoundOnce_link process owner selector helper sites

end Links

def narrowSelector : Selector :=
  { caps := .full .i386, settings := .default }

def plainSignature : Signature :=
  .ofTypes .i386 [(.schar, .int)] (.slonglong, .long) false

def capturingSignature : Signature :=
  .ofTypes .i386 [(.sint, .int)] (.sint, .int) true

/-- The first site calls no helper and the second has a far target, which is bound. So the third one
comes first, whose helper is out of reach. -/
def sampleFarSites : List CallSite :=
  [ .create "near" plainSignature 0x1000,
    { name := "bound", signature := plainSignature, target := 0x2_0000_0000
      binding := some { strategy := .buffer, entry := .generic 0x2_0000_0000 none } },
    .create "capturing" capturingSignature 0x2000,
    .create "far" plainSignature 0x3_0000_0000 ]

theorem link_refuses_far_addresses_only_sample :
    (forall site, site ∈ sampleFarSites -> site.signature.Built) ∧
      (forall site, site ∈ sampleFarSites -> site.signature.arch = .i386 ->
        I386.stackAdjust site.signature + I386.hostStart +
          I386.hostBytes site.signature.params < 2 ^ 31) ∧
      (exists site, site ∈ sampleFarSites ∧ exists address,
        site.IsFar narrowSelector 0x1_0000_0000 address) ∧
      (exists address,
        (Process.initial.link ⟨0⟩ narrowSelector 0x1_0000_0000 sampleFarSites).value.result =
          .error (.error (.compile (.addressOutOfRange address)))) ∧
      IsFirstFarSite narrowSelector 0x1_0000_0000 sampleFarSites 0x1_0000_0000 := by
  have hbuilt : forall site, site ∈ sampleFarSites -> site.signature.Built := by
    simp only [sampleFarSites, List.forall_mem_cons, CallSite.create]
    exact ⟨.ofTypes .., .ofTypes .., .ofTypes .., .ofTypes .., List.forall_mem_nil _⟩
  have hreach : forall site, site ∈ sampleFarSites -> site.signature.arch = .i386 ->
      I386.stackAdjust site.signature + I386.hostStart +
        I386.hostBytes site.signature.params < 2 ^ 31 := by
    simp only [sampleFarSites, List.forall_mem_cons, CallSite.create]
    decide
  have hfar : exists site, site ∈ sampleFarSites ∧ exists address,
      site.IsFar narrowSelector 0x1_0000_0000 address := by
    refine ⟨.create "capturing" capturingSignature 0x2000, ?_, 0x1_0000_0000, ?_⟩
    · simp [sampleFarSites]
    · exact ⟨rfl, ⟨.i386, by decide⟩, .helper (by decide) (by decide)⟩
  have hstops := link_refuses_far_addresses_only .initial ⟨0⟩ narrowSelector 0x1_0000_0000
    sampleFarSites
  have hrefused := hstops.right.right.right.right.left hbuilt hreach rfl hfar
  exact ⟨hbuilt, hreach, hfar, hrefused, (hstops.right.right.right.left _ rfl).right⟩

end NativeCall
