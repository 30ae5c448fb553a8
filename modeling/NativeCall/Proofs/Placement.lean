import NativeCall.Proofs.Linkage

/-!
# Where linking puts code

Linking gives addresses of code to sites only if it attaches the stubs of them, and then the
addresses are those of the methods. So all that linking does to memory is done by one
attachment.
-/

namespace NativeCall

open Process (Surveyed surveySite survey)

variable {selector : Selector} {helper : Address}

/-!
# New addresses
-/

/-- The address of code that linking gave to a site, if it gave any. -/
def CallSite.newAddress? (before after : CallSite) : Option Address :=
  if before.isBound then none else after.entryAddress?

def newAddresses (before after : List CallSite) : List Address :=
  (before.zip after).filterMap fun pair => pair.1.newAddress? pair.2

theorem CallSite.entryAddress?_of_unbound {site : CallSite} (h : site.isBound = false) :
    site.entryAddress? = none := by
  have hbinding : site.binding = none := Option.not_isSome_iff_eq_none.mp (Bool.eq_false_iff.mp h)
  rw [entryAddress?, hbinding]

theorem CallSite.newAddress?_self (site : CallSite) : site.newAddress? site = none := by
  unfold newAddress?
  split
  case isTrue => rfl
  case isFalse hbound => exact entryAddress?_of_unbound (Bool.eq_false_iff.mpr hbound)

theorem CallSite.newAddress?_settle (selector : Selector) (site : CallSite) :
    site.newAddress? (site.settle selector) = none := by
  unfold newAddress?
  split
  case isTrue => rfl
  case isFalse hbound =>
    unfold settle
    rw [if_neg hbound]
    cases selector.select site.signature with
    | compiled arch => exact entryAddress?_of_unbound (Bool.eq_false_iff.mpr hbound)
    | fast path => rfl
    | buffer => rfl

theorem newAddresses_cons (before after : CallSite) (olds news : List CallSite) :
    newAddresses (before :: olds) (after :: news) =
      (before.newAddress? after).toList ++ newAddresses olds news := by
  rw [newAddresses, List.zip_cons_cons, List.filterMap_cons]
  cases before.newAddress? after <;> rfl

theorem newAddresses_map {settle : CallSite -> CallSite}
    (h : forall site, CallSite.newAddress? site (settle site) = none) (sites : List CallSite) :
    newAddresses sites (sites.map settle) = [] := by
  induction sites with
  | nil => rfl
  | cons site rest ih =>
      rw [List.map_cons, newAddresses_cons, h]
      exact ih

theorem newAddresses_append {before after rest others : List CallSite}
    (h : before.length = after.length) :
    newAddresses (before ++ rest) (after ++ others) =
      newAddresses before after ++ newAddresses rest others := by
  unfold newAddresses
  rw [List.zip_append h, List.filterMap_append]

theorem Entry.IsMadeFor.address_eq_none {site : CallSite} {strategy : Strategy} {entry : Entry}
    (h : entry.IsMadeFor helper none site strategy) :
    CallSite.entryAddress? { site with binding := some { strategy, entry } } = none := by
  cases h with
  | fast path => rfl
  | buffer => rfl
  | compiled _ harena _ _ => cases harena

theorem Binds.newAddresses_eq {sites after : List CallSite} {stubs : List PendingStub}
    {methods : List NativeMethod} (h : Binds selector helper sites stubs methods after) :
    newAddresses sites after = methods.map (·.address) := by
  induction h with
  | nil => rfl
  | bound hbound _ ih =>
      rw [newAddresses_cons, CallSite.newAddress?, if_pos hbound]
      exact ih
  | settled hbound _ hentry _ ih =>
      rw [newAddresses_cons, CallSite.newAddress?, hbound, if_neg nofun, hentry.address_eq_none]
      exact ih
  | awaiting hbound _ _ _ ih =>
      rw [newAddresses_cons, CallSite.newAddress?, hbound]
      exact congrArg _ ih

theorem newCode_eq_nil {sites after : List CallSite} (h : newAddresses sites after = []) :
    newCode selector helper sites after = [] := by
  apply List.filterMap_eq_nil_iff.mpr
  intro pair hmem
  have hnone : pair.1.newAddress? pair.2 = none := List.filterMap_eq_nil_iff.mp h pair hmem
  unfold CallSite.newAddress? at hnone
  unfold CallSite.newCode?
  split
  case h_1 hbound _ haddress =>
    rw [hbound, haddress] at hnone
    cases hnone
  case h_2 => rfl

/-!
# What linking reports
-/

theorem ledger_ofCompilation (arch : Arch) (sig : Signature)
    (compiled : Outcome CompileError Trampoline) :
    ledger (Event.ofCompilation arch sig compiled) = [] := by
  unfold Event.ofCompilation
  split <;> rfl

theorem ledger_surveySite (selector : Selector) (helper : Address) (site : CallSite) :
    ledger (surveySite selector helper site).2 = [] := by
  have hselected (events : List Event) (h : ledger events = []) :
      ledger (.strategySelected site.signature.text (selector.select site.signature) :: events) =
        [] :=
    h
  unfold surveySite
  simp only
  split
  case h_3 =>
    split
    case h_1 => rfl
    case h_2 =>
      split
      all_goals exact hselected _ (ledger_ofCompilation _ _ _)
  all_goals rfl

theorem ledger_survey (selector : Selector) (helper : Address) (sites : List CallSite) :
    ledger (survey selector helper sites).events = [] := by
  induction sites with
  | nil => rfl
  | cons site rest ih =>
      rw [survey]
      split
      case isTrue => exact ih
      case isFalse =>
        have hsite := ledger_surveySite selector helper site
        generalize surveySite selector helper site = surveyed at hsite ⊢
        rcases surveyed with ⟨_ | _, events⟩
        · exact hsite
        · have hevents : ledger events = [] := hsite
          rw [ledger_append, hevents, ih]
          rfl

/-!
# One link
-/

def placedCode (linker : Linker) (methods : List NativeMethod) : List (Address × List Byte) :=
  List.zipWith (fun stub method => (method.address, stub.trampoline.code)) linker.stubs methods

def methodsOf (result : Outcome LinkError (List NativeMethod)) : List NativeMethod :=
  result.toOption.getD []

namespace Process

variable {process : Process} {owner : ClassId} {sites : List CallSite}

/-- What a link comes to: it stops before anything is attached, or it is an attachment. -/
inductive Links (process : Process) (owner : ClassId) (selector : Selector) (helper : Address)
    (sites : List CallSite) (step : Step Process Linked) : Prop where
  | stopped {failure : Failure LinkError} (hresult : step.value.result = .error failure)
      (hstate : step.state = process) (hledger : ledger step.events = [])
      (haddresses : newAddresses sites step.value.sites = [])
  | attached {attached : Step Process (Outcome LinkError (List NativeMethod))}
      (hattaches : process.Attaches owner (linkerOf selector helper sites) attached)
      (hresult : step.value.result = attached.value) (hstate : step.state = attached.state)
      (hledger : ledger step.events = ledger attached.events)
      (haddresses : newAddresses sites step.value.sites =
        (methodsOf attached.value).map (·.address))
      (hcode : newCode selector helper sites step.value.sites =
        placedCode (linkerOf selector helper sites) (methodsOf attached.value))

theorem ledger_link_of_failure {before rest : List CallSite} {site : CallSite}
    {failure : Failure CompileError} (h : AllCompile selector helper before)
    (stop : site.failure? selector helper = some failure) :
    ledger (process.link owner selector helper (before ++ site :: rest)).events = [] := by
  simp only [link, (survey_of_failure h stop rest).2, ledger_survey]

theorem ledger_link_of_compile (h : AllCompile selector helper sites) :
    ledger (process.link owner selector helper sites).events =
      ledger (process.attach owner (linkerOf selector helper sites)).events := by
  rcases survey_of_compile h with ⟨hsites, hfailure⟩
  change (survey selector helper sites).sites = surveyedSites selector helper sites at hsites
  have hattached : process.attach owner
      { stubs := (surveyedSites selector helper sites).filterMap (·.stub?)
        dumpCode := selector.settings.dumpCode } =
      process.attach owner (linkerOf selector helper sites) := rfl
  simp only [link, hfailure, hsites, hattached]
  cases (process.attach owner (linkerOf selector helper sites)).value <;>
    simp only [ledger_append, ledger_survey, List.nil_append]

theorem links_of_failure {before rest : List CallSite} {site : CallSite}
    {failure : Failure CompileError} (h : AllCompile selector helper before)
    (stop : site.failure? selector helper = some failure) :
    process.Links owner selector helper (before ++ site :: rest)
      (process.link owner selector helper (before ++ site :: rest)) := by
  rcases link_of_failure process owner h stop rest with ⟨hstate, hvalue⟩
  apply Links.stopped (congrArg Linked.result hvalue) hstate (ledger_link_of_failure h stop)
  rw [hvalue, newAddresses_append (List.length_map _).symm,
    newAddresses_map (CallSite.newAddress?_settle selector)]
  have hrest := newAddresses_map CallSite.newAddress?_self (site :: rest)
  rw [List.map_id'] at hrest
  exact hrest

theorem links_of_compile (h : AllCompile selector helper sites) :
    process.Links owner selector helper sites (process.link owner selector helper sites) := by
  rcases link_of_compile process owner h with ⟨hstate, hvalue⟩
  have hattaches := attaches process owner (linkerOf selector helper sites)
  have hledger : ledger (process.link owner selector helper sites).events =
      ledger (process.attach owner (linkerOf selector helper sites)).events :=
    ledger_link_of_compile h
  cases hattached : (process.attach owner (linkerOf selector helper sites)).value with
  | error failure =>
      rw [hattached] at hvalue
      have haddresses :
          newAddresses sites (process.link owner selector helper sites).value.sites = [] := by
        rw [hvalue]
        exact newAddresses_map (CallSite.newAddress?_settle selector) sites
      apply Links.attached hattaches _ hstate hledger
      · rw [haddresses, hattached]
        rfl
      · rw [newCode_eq_nil haddresses, hattached]
        exact List.zipWith_nil_right.symm
      · rw [hvalue, hattached]
  | ok methods =>
      rcases exists_methodsAt hattached with ⟨base, rfl⟩
      rw [hattached] at hvalue
      have hbinds := binds_boundSites h (length_awaitingStubs selector helper sites base)
      apply Links.attached hattaches _ hstate hledger
      · rw [hvalue, hattached]
        exact hbinds.newAddresses_eq
      · rw [hvalue, hattached]
        exact hbinds.newCode_eq
      · rw [hvalue, hattached]

theorem links (process : Process) (owner : ClassId) (selector : Selector) (helper : Address)
    (sites : List CallSite) :
    process.Links owner selector helper sites (process.link owner selector helper sites) := by
  rcases exists_first_failure selector helper sites with
    hcompile | ⟨before, site, rest, failure, rfl, hbefore, hstop⟩
  · exact links_of_compile hcompile
  · exact links_of_failure hbefore hstop

end Process
end NativeCall
