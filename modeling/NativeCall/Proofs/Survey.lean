import NativeCall.Linker
import NativeCall.Proofs.Preference

/-!
# The survey of a class

The survey treats every site by itself: `surveyed` says how. Sites are treated up to the
first one that does not compile, and left alone from there on. Nothing else stops the survey: a
site that it binds was not bound before, and where compiled calls are selected there is a compiler.
-/

namespace NativeCall

open Process (Surveyed surveySite survey bindAwaiting)

theorem of_select_compiled {selector : Selector} {sig : Signature} {arch : Arch}
    (h : selector.select sig = .compiled arch) :
    selector.compilerArch? = some arch ∧ selector.caps.arch = some arch ∧
      Trampoline.accepts arch sig = true := by
  have htakes : selector.takes sig (selector.select sig) = true := Selector.takes_select
  rw [h] at htakes
  rcases Selector.takes_iff.mp htakes with ⟨hon, haccepts, harch, hos, hpages, _⟩
  exact ⟨Selector.compilerArch?_eq_some.mpr ⟨hon, hos, hpages, harch⟩, harch, haccepts⟩

namespace CallSite

variable (selector : Selector) (helper : Address)

def helper? (site : CallSite) : Option Address :=
  if site.signature.capturesError then some helper else none

def compile? (site : CallSite) : Option (Outcome CompileError Trampoline) :=
  match selector.select site.signature with
  | .compiled arch =>
      some (Trampoline.compile arch site.signature site.target (site.helper? helper))
  | .fast _ | .buffer => none

def failure? (site : CallSite) : Option (Failure CompileError) :=
  if site.isBound then
    none
  else
    match site.compile? selector helper with
    | some (.error failure) => some failure
    | some (.ok _) | none => none

/-- Bind a site that is not bound, unless its selected strategy needs code. -/
def settle (site : CallSite) : CallSite :=
  if site.isBound then
    site
  else
    match selector.select site.signature with
    | .compiled _ => site
    | .fast path =>
        { site with
          binding := some { strategy := .fast path, entry := .fast path site.target } }
    | .buffer =>
        { site with
          binding :=
            some { strategy := .buffer, entry := .buffered site.signature site.target } }

def surveyed (site : CallSite) : Surveyed :=
  if site.isBound then
    .settled site
  else
    match site.compile? selector helper with
    | some (.ok trampoline) => .awaiting site (selector.select site.signature) trampoline
    | some (.error _) | none => .settled (site.settle selector)

end CallSite

/-!
# Settled sites
-/

namespace CallSite

variable {selector : Selector} {helper : Address}

theorem bind_of_unbound {site : CallSite} (h : site.isBound = false) (binding : Binding) :
    site.bind binding = .ok { site with binding := some binding } := by
  rw [bind, Option.not_isSome_iff_eq_none.mp (Bool.eq_false_iff.mp h)]

theorem settle_of_isBound {site : CallSite} (h : site.isBound = true) :
    site.settle selector = site := by
  rw [settle, if_pos h]

theorem settle_of_compiled {site : CallSite} {arch : Arch}
    (h : selector.select site.signature = .compiled arch) : site.settle selector = site := by
  unfold settle
  split
  · rfl
  · simp only [h]

theorem isBound_settle {site : CallSite}
    (h : forall arch, selector.select site.signature ≠ .compiled arch) :
    (site.settle selector).isBound = true := by
  unfold settle
  split
  case isTrue hbound => exact hbound
  case isFalse =>
    cases hstrategy : selector.select site.signature with
    | compiled arch => exact absurd hstrategy (h arch)
    | fast path => rfl
    | buffer => rfl

theorem compile?_eq_some {site : CallSite} {outcome : Outcome CompileError Trampoline}
    (h : site.compile? selector helper = some outcome) :
    exists arch, selector.select site.signature = .compiled arch ∧
      Trampoline.compile arch site.signature site.target (site.helper? helper) = outcome := by
  unfold compile? at h
  split at h
  case h_1 arch hstrategy => exact ⟨arch, hstrategy, Option.some.inj h⟩
  all_goals cases h

theorem compile?_of_compiled {site : CallSite} {arch : Arch}
    (h : selector.select site.signature = .compiled arch) :
    site.compile? selector helper =
      some (Trampoline.compile arch site.signature site.target (site.helper? helper)) := by
  rw [compile?, h]

theorem compile?_eq_none {site : CallSite} (h : site.compile? selector helper = none)
    (arch : Arch) : selector.select site.signature ≠ .compiled arch := by
  intro hstrategy
  rw [compile?_of_compiled hstrategy] at h
  cases h

theorem settle_settle (selector : Selector) (site : CallSite) :
    (site.settle selector).settle selector = site.settle selector := by
  cases hstrategy : selector.select site.signature with
  | compiled arch => rw [settle_of_compiled hstrategy, settle_of_compiled hstrategy]
  | fast _ | buffer =>
      apply settle_of_isBound
      apply isBound_settle
      intro arch h
      rw [hstrategy] at h
      cases h

theorem compile?_eq_some_settle {site : CallSite} {outcome : Outcome CompileError Trampoline}
    (h : site.compile? selector helper = some outcome) : site.settle selector = site := by
  rcases compile?_eq_some h with ⟨arch, hstrategy, _⟩
  exact settle_of_compiled hstrategy

theorem isBound_settle_of_compile? {site : CallSite}
    (h : site.compile? selector helper = none) : (site.settle selector).isBound = true :=
  isBound_settle (compile?_eq_none h)

/-- A site that needs code is not settled, so it is surveyed once more as it was before. -/
theorem surveyed_settle (selector : Selector) (helper : Address) (site : CallSite) :
    (site.settle selector).surveyed selector helper = site.surveyed selector helper := by
  cases hcompile : site.compile? selector helper with
  | some outcome => rw [compile?_eq_some_settle hcompile]
  | none =>
      unfold surveyed
      rw [if_pos (isBound_settle_of_compile? hcompile), hcompile]
      split
      case isTrue hbound => rw [settle_of_isBound hbound]
      case isFalse => rfl

theorem failure?_settle (selector : Selector) (helper : Address) (site : CallSite) :
    (site.settle selector).failure? selector helper = site.failure? selector helper := by
  cases hcompile : site.compile? selector helper with
  | some outcome => rw [compile?_eq_some_settle hcompile]
  | none =>
      unfold failure?
      rw [if_pos (isBound_settle_of_compile? hcompile), hcompile, ite_self]

theorem site_surveyed (selector : Selector) (helper : Address) (site : CallSite) :
    (site.surveyed selector helper).site = site.settle selector := by
  unfold surveyed
  split
  case isTrue hbound => exact (settle_of_isBound hbound).symm
  case isFalse =>
    split
    case h_1 trampoline hcompile => exact (compile?_eq_some_settle hcompile).symm
    all_goals rfl

end CallSite

/-!
# All sites of a class
-/

section Survey

variable {selector : Selector} {helper : Address}

def AllCompile (selector : Selector) (helper : Address) (sites : List CallSite) : Prop :=
  forall site, site ∈ sites -> site.failure? selector helper = none

theorem AllCompile.tail {site : CallSite} {rest : List CallSite}
    (h : AllCompile selector helper (site :: rest)) : AllCompile selector helper rest :=
  fun other hmem => h other (List.mem_cons_of_mem _ hmem)

theorem surveySite_eq (selector : Selector) (helper : Address) {site : CallSite}
    (hbound : site.isBound = false) :
    (surveySite selector helper site).1 =
      match site.failure? selector helper with
      | some failure => .error (failure.map .compile)
      | none => .ok (site.surveyed selector helper) := by
  unfold surveySite CallSite.failure? CallSite.surveyed CallSite.compile? CallSite.settle
  simp only [hbound, Bool.false_eq_true, ↓reduceIte, CallSite.bind_of_unbound hbound]
  cases hstrategy : selector.select site.signature with
  | fast path | buffer => rfl
  | compiled arch =>
      simp only [(of_select_compiled hstrategy).left, CallSite.helper?]
      generalize Trampoline.compile arch site.signature site.target
        (if site.signature.capturesError then some helper else none) = compiled
      cases compiled <;> rfl

theorem survey_cons {site : CallSite} (h : site.failure? selector helper = none)
    (rest : List CallSite) :
    (survey selector helper (site :: rest)).sites =
        site.surveyed selector helper :: (survey selector helper rest).sites ∧
      (survey selector helper (site :: rest)).failure = (survey selector helper rest).failure := by
  rw [survey]
  split
  case isTrue hbound =>
    rw [CallSite.surveyed, if_pos hbound]
    exact ⟨rfl, rfl⟩
  case isFalse hbound =>
    have hsite := surveySite_eq selector helper (Bool.eq_false_iff.mpr hbound)
    rw [h] at hsite
    rcases hsurveyed : surveySite selector helper site with ⟨outcome, events⟩
    rw [hsurveyed] at hsite
    cases hsite
    exact ⟨rfl, rfl⟩

theorem survey_cons_of_failure {site : CallSite} {failure : Failure CompileError}
    (h : site.failure? selector helper = some failure) (rest : List CallSite) :
    (survey selector helper (site :: rest)).sites = (site :: rest).map .settled ∧
      (survey selector helper (site :: rest)).failure = some (failure.map .compile) := by
  rw [survey]
  split
  case isTrue hbound =>
    rw [CallSite.failure?, if_pos hbound] at h
    cases h
  case isFalse hbound =>
    have hsite := surveySite_eq selector helper (Bool.eq_false_iff.mpr hbound)
    rw [h] at hsite
    rcases hsurveyed : surveySite selector helper site with ⟨outcome, events⟩
    rw [hsurveyed] at hsite
    cases hsite
    exact ⟨rfl, rfl⟩

theorem survey_of_compile {sites : List CallSite}
    (h : AllCompile selector helper sites) :
    (survey selector helper sites).sites = sites.map (·.surveyed selector helper) ∧
      (survey selector helper sites).failure = none := by
  induction sites with
  | nil => exact ⟨rfl, rfl⟩
  | cons site rest ih =>
      rcases ih h.tail with ⟨hsites, hfailure⟩
      rcases survey_cons (h site List.mem_cons_self) rest with ⟨hfirst, hnext⟩
      rw [hfirst, hnext, hsites, hfailure]
      exact ⟨rfl, rfl⟩

/-- The sites before the first that does not compile are treated, the others are not. -/
theorem survey_of_failure {before : List CallSite} {site : CallSite}
    {failure : Failure CompileError} (h : AllCompile selector helper before)
    (stop : site.failure? selector helper = some failure) (rest : List CallSite) :
    (survey selector helper (before ++ site :: rest)).sites =
        before.map (·.surveyed selector helper) ++ (site :: rest).map .settled ∧
      (survey selector helper (before ++ site :: rest)).failure =
        some (failure.map .compile) := by
  induction before with
  | nil => exact survey_cons_of_failure stop rest
  | cons first others ih =>
      rcases ih h.tail with ⟨hsites, hfailure⟩
      rcases survey_cons (h first List.mem_cons_self) (others ++ site :: rest) with ⟨hfirst, hnext⟩
      rw [List.cons_append, hfirst, hnext, hsites, hfailure]
      exact ⟨rfl, rfl⟩

theorem exists_first_failure (selector : Selector) (helper : Address) (sites : List CallSite) :
    AllCompile selector helper sites ∨
      exists before site rest failure, sites = before ++ site :: rest ∧
        AllCompile selector helper before ∧ site.failure? selector helper = some failure := by
  cases hfirst : sites.findSome? (·.failure? selector helper) with
  | none => exact .inl (List.findSome?_eq_none_iff.mp hfirst)
  | some failure =>
      rcases List.findSome?_eq_some_iff.mp hfirst with ⟨before, site, rest, hsites, hstop, hbefore⟩
      exact .inr ⟨before, site, rest, failure, hsites, hbefore, hstop⟩

end Survey

/-!
# Binding the sites that wait
-/

/-- The sites after the walk over sites and methods: each site that waits takes a method. -/
def boundSites : List Surveyed -> List NativeMethod -> List CallSite
  | [], _ => []
  | .settled site :: rest, methods => site :: boundSites rest methods
  | .awaiting site _ _ :: rest, [] => site :: boundSites rest []
  | .awaiting site strategy _ :: rest, method :: methods =>
      { site with binding := some { strategy, entry := .compiled method.address } }
        :: boundSites rest methods

def Waits : Surveyed -> Prop
  | .settled _ => True
  | .awaiting site _ _ => site.isBound = false

theorem CallSite.waits_surveyed (selector : Selector) (helper : Address) (site : CallSite) :
    Waits (site.surveyed selector helper) := by
  unfold surveyed
  split
  case isTrue => trivial
  case isFalse hbound =>
    split
    case h_1 => exact Bool.eq_false_iff.mpr hbound
    all_goals trivial

/-- No site that waits is bound, so no binding is refused. -/
theorem bindAwaiting_eq {sites : List Surveyed} (h : forall site, site ∈ sites -> Waits site)
    (methods : List NativeMethod) :
    bindAwaiting sites methods = (boundSites sites methods, .ok ()) := by
  induction sites generalizing methods with
  | nil => rfl
  | cons first rest ih =>
      have hrest := ih fun site hmem => h site (List.mem_cons_of_mem _ hmem)
      cases first with
      | settled site => rw [bindAwaiting, hrest, boundSites]
      | awaiting site strategy trampoline =>
          cases methods with
          | nil => rw [bindAwaiting, hrest, boundSites]
          | cons method others =>
              have hbound : site.isBound = false := h _ List.mem_cons_self
              simp only [bindAwaiting, site.bind_of_unbound hbound, hrest, boundSites]

end NativeCall
