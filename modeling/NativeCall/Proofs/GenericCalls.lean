import NativeCall.Proofs.Invocation
import NativeCall.Proofs.LinkErrors
import NativeCall.Proofs.Preference

/-!
# Calls of generic entries

A site whose signature no faster strategy takes is bound to a generic entry. Its invoker makes
every call whose arguments the register files hold, and refuses every other. Where code can be
compiled, only signatures with too many parameters for the register files are left to it.
-/

namespace NativeCall

/-- With an argument for each parameter, the register files alone decide about a call. -/
structure Invoker.Answers (invoker : Invoker) (args : List Word) : Prop where
  made : invoker.signature.integerCount ≤ 6 -> invoker.signature.floatCount ≤ 8 ->
    forall function state, exists value, (invoker.invoke function args state).1 = .ok value
  refused : 6 < invoker.signature.integerCount ∨ 8 < invoker.signature.floatCount ->
    (forall calls, invoker.Makes args calls <-> calls = []) ∧
      forall function state, invoker.invoke function args state = (.error .tooManyArgs, state)

theorem Invoker.answers {invoker : Invoker} {args : List Word}
    (hlength : args.length = invoker.signature.params.length) : invoker.Answers args := by
  constructor
  case made =>
    intro hints hfloats function state
    exact ⟨_, invoke_eq function state hlength hints hfloats⟩
  case refused =>
    intro hcrowded
    have hrefused := fun function state => invoke_of_crowded function state hlength hcrowded
    exact ⟨(makes_nil hrefused).iff_eq, hrefused⟩

/-!
# Generic entries of linked sites
-/

namespace CallSite

/-- The site is bound to a generic entry with an invoker. -/
def IsGeneric (site : CallSite) (strategy : Strategy) (target : Address) (invoker : Invoker) :
    Prop :=
  site.binding = some { strategy, entry := .generic target (some invoker) }

/-- A site before and after a link, as to generic entries with an invoker. -/
structure LinksGenerically (selector : Selector) (before after : CallSite) : Prop where
  kept : before.isBound = true -> after = before
  /-- An invoker that was not there before is for the signature and the target of the site. -/
  made : before.isBound = false -> forall strategy target invoker,
    after.IsGeneric strategy target invoker ->
      selector.select before.signature = .buffer ∧ strategy = .buffer ∧
        target = before.target ∧ invoker.signature = before.signature ∧
        invoker.target = before.target
  calls : forall strategy target invoker, after.IsGeneric strategy target invoker ->
    forall args : List Word, args.length = invoker.signature.params.length ->
      invoker.Answers args

theorem AfterLink.kept_of_isBound {selector : Selector} {helper : Address}
    {before after : CallSite} (h : before.AfterLink selector helper after)
    (hbound : before.isBound = true) : after = before := by
  cases h with
  | kept => rfl
  | settled hunbound _ | coded hunbound =>
      rw [hbound] at hunbound
      cases hunbound

theorem AfterLink.linksGenerically {selector : Selector} {helper : Address}
    {before after : CallSite} (h : before.AfterLink selector helper after) :
    before.LinksGenerically selector after := by
  constructor
  case kept => exact h.kept_of_isBound
  case made =>
    intro hunbound strategy target invoker hgeneric
    cases h with
    | kept =>
        rw [isBound, hgeneric] at hunbound
        cases hunbound
    | coded _ => cases hgeneric
    | settled _ hentry =>
        generalize selector.select before.signature = selected at hentry hgeneric ⊢
        cases hentry with
        | fast path => cases hgeneric
        | compiled _ harena _ _ => cases harena
        | buffer _ hcalls =>
            cases hgeneric
            rcases hcalls invoker rfl with ⟨hsignature, htarget⟩
            exact ⟨rfl, rfl, rfl, hsignature, htarget⟩
  case calls => exact fun _ _ _ _ _ hlength => Invoker.answers hlength

end CallSite

namespace Process

/-- Whether a link fails or not, the invokers of the sites make the calls whose arguments the
register files hold, and refuse all others before anything is called. -/
theorem link_answers_generic_calls (process : Process) (owner : ClassId) (selector : Selector)
    (helper : Address) (sites : List CallSite) :
    List.Forall₂ (CallSite.LinksGenerically selector) sites
      (process.link owner selector helper sites).value.sites :=
  (afterLink_link process owner selector helper sites).imp
    fun _ _ hafter => hafter.linksGenerically

def sevenIntegers : Signature :=
  .ofTypes .amd64 (List.replicate 7 (.sint, .int)) (.sint, .int) false

/-- Seven integers are linked to an invoker, which refuses them. -/
theorem not_link_makes_generic_calls :
    ¬forall (process : Process) (owner : ClassId) (selector : Selector) (helper : Address)
      (sites : List CallSite),
      (process.link owner selector helper sites).value.result.toOption.isSome = true ->
        forall site, site ∈ (process.link owner selector helper sites).value.sites ->
          forall strategy target invoker, site.IsGeneric strategy target invoker ->
            forall args : List Word, args.length = invoker.signature.params.length ->
              forall function state, exists value,
                (invoker.invoke function args state).1 = .ok value := by
  intro hclaim
  let selector : Selector := { caps := Capabilities.host, settings := .default }
  let sites : List CallSite := [.create "wide" sevenIntegers 0x1000]
  let invoker : Invoker :=
    { signature := sevenIntegers, target := 0x1000, host := rfl, primitive := by decide }
  let echo : NativeFunction := fun registers code => (registers.int 0, code)
  have hlinked : (initial.link ⟨0⟩ selector 0x2000 sites).value.result.toOption.isSome = true := by
    decide +kernel
  rcases hclaim initial ⟨0⟩ selector 0x2000 sites hlinked _ List.mem_cons_self .buffer 0x1000
    invoker rfl (List.replicate 7 0) rfl echo .initial with ⟨value, hvalue⟩
  have hcrowded : 6 < sevenIntegers.integerCount ∨ 8 < sevenIntegers.floatCount := by decide
  rw [Invoker.invoke_of_crowded echo .initial rfl hcrowded] at hvalue
  cases hvalue

end Process

/-!
# Signatures that are left to buffers
-/

/-- Where calls of this machine can be compiled, a primitive signature is left to buffers only
if the register files cannot hold its arguments, so that its invoker refuses all of them. -/
theorem Selector.crowded_of_select_buffer {selector : Selector} {sig : Signature}
    (hcompiler : selector.compilerArch? = some .amd64)
    (hhelper : sig.capturesError = true -> selector.caps.helperPresent = true)
    (harch : sig.arch = .amd64) (hprimitive : sig.isPrimitive = true)
    (h : selector.select sig = .buffer) : 6 < sig.integerCount ∨ 8 < sig.floatCount := by
  by_contra hfits
  have haccepts : Trampoline.accepts .amd64 sig = true := by
    simp only [Trampoline.accepts, harch, hprimitive, Signature.fitsBudget, Arch.registerBudget,
      beq_self_eq_true, Bool.true_and, Bool.and_eq_true, decide_eq_true_eq]
    omega
  rcases compilerArch?_eq_some.mp hcompiler with ⟨henabled, hos, hpages, hknown⟩
  have htakes : selector.takes sig (.compiled .amd64) = true :=
    takes_iff.mpr ⟨henabled, haccepts, hknown, hos, hpages, hhelper⟩
  have hrank := rank_select_le htakes
  rw [h] at hrank
  exact absurd hrank (by decide)

end NativeCall
