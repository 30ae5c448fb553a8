import NativeCall.Proofs.Selection

/-!
# Preference

A strategy needs its switch and some facilities of the platform, and nothing else that a
selector holds. More switches and more facilities therefore never lead to a strategy of a later
rank, and a switch that the selected strategy does not need has no say in the selection.
-/

namespace NativeCall

/-!
# Ranks
-/

/-- The place of a strategy in the order of trial. Compiled code has one place, since a platform
is offered no other code than that of its own architecture. -/
def Strategy.rank : Strategy -> Nat
  | .compiled _ => 0
  | .fast .int32 => 1
  | .fast .int64 => 2
  | .fast .numeric => 3
  | .buffer => 4

theorem Strategy.pairwise_rank_all :
    Strategy.all.Pairwise fun first later => first.rank ≤ later.rank := by
  decide

theorem Strategy.eq_or_compiled_of_rank_eq {first second : Strategy}
    (h : first.rank = second.rank) :
    first = second ∨ exists arch other, first = .compiled arch ∧ second = .compiled other := by
  cases first with
  | compiled arch =>
      cases second with
      | compiled other => exact Or.inr ⟨arch, other, rfl, rfl⟩
      | fast path => cases path <;> cases h
      | buffer => cases h
  | fast path =>
      cases second with
      | compiled arch => cases path <;> cases h
      | fast other => cases path <;> cases other <;> first | exact Or.inl rfl | cases h
      | buffer => cases path <;> cases h
  | buffer =>
      cases second with
      | compiled arch => cases h
      | fast path => cases path <;> cases h
      | buffer => exact Or.inl rfl

/-!
# Switches and facilities
-/

namespace Settings

/-- The switch of the strategy is on. Buffers have no switch. -/
def Allows (settings : Settings) : Strategy -> Prop
  | .compiled _ => settings.compileEnabled = true
  | .fast path => settings.AllowsFast path
  | .buffer => True

def switchOff (settings : Settings) : Strategy -> Settings
  | .compiled _ => { settings with compileEnabled := false }
  | .fast .int32 => { settings with fastIntEnabled := false }
  | .fast .int64 => { settings with fastLongEnabled := false }
  | .fast .numeric => { settings with fastNumericEnabled := false }
  | .buffer => settings

theorem allows_switchOff_iff {settings : Settings} {strategy other : Strategy} :
    (settings.switchOff strategy).Allows other <->
      settings.Allows other ∧ (other ≠ .buffer -> strategy.rank ≠ other.rank) := by
  cases strategy with
  | compiled arch =>
      cases other with
      | compiled other => simp [switchOff, Allows, Strategy.rank]
      | fast path => cases path <;> simp [switchOff, Allows, AllowsFast, Strategy.rank]
      | buffer => simp [Allows]
  | fast path =>
      cases other with
      | compiled arch => cases path <;> simp [switchOff, Allows, Strategy.rank]
      | fast other =>
          cases path <;> cases other <;> simp [switchOff, Allows, AllowsFast, Strategy.rank]
      | buffer => simp [Allows]
  | buffer =>
      cases other with
      | compiled arch => simp [switchOff, Strategy.rank]
      | fast path => cases path <;> simp [switchOff, Strategy.rank]
      | buffer => simp [Allows]

theorem allows_of_switchOff (settings : Settings) {strategy : Strategy} (other : Strategy)
    (h : (settings.switchOff strategy).Allows other) : settings.Allows other :=
  (allows_switchOff_iff.mp h).left

end Settings

/-- The platform can make calls of the signature in this way, whatever is switched on. -/
def Capabilities.Serves (caps : Capabilities) (sig : Signature) (strategy : Strategy) : Prop :=
  strategy.accepts sig = true ∧
    match strategy with
    | .compiled arch =>
        caps.arch = some arch ∧ caps.os ≠ .windows ∧ caps.pageProtection = true ∧
          (sig.capturesError = true -> caps.helperPresent = true)
    | .fast path => caps.os ≠ .windows ∧ caps.arch.any path.supportsArch = true
    | .buffer => True

namespace Selector

variable {selector narrow wide : Selector} {sig : Signature} {strategy first second : Strategy}

theorem takes_iff :
    selector.takes sig strategy = true <->
      selector.settings.Allows strategy ∧ selector.caps.Serves sig strategy := by
  rw [takes, Bool.and_eq_true]
  cases strategy with
  | compiled arch =>
      have hoffers : selector.offers (.compiled arch) = true <->
          selector.compilerArch? = some arch := beq_iff_eq
      rw [hoffers, compilerArch?_eq_some]
      simp only [admits, Bool.and_eq_true, Bool.or_eq_true, Bool.not_eq_true', ← Bool.not_eq_true,
        ← imp_iff_not_or]
      constructor
      · rintro ⟨⟨hon, hos, hpages, harch⟩, hhelper, haccepts⟩
        exact ⟨hon, haccepts, harch, hos, hpages, hhelper⟩
      · rintro ⟨hon, haccepts, harch, hos, hpages, hhelper⟩
        exact ⟨⟨hon, hos, hpages, harch⟩, hhelper, haccepts⟩
  | fast path =>
      have hoffers : selector.offers (.fast path) = true <->
          selector.offersFast path = true := Iff.rfl
      rw [hoffers, offersFast_iff]
      constructor
      · rintro ⟨⟨hon, hos, hknown⟩, haccepts⟩
        exact ⟨hon, haccepts, hos, hknown⟩
      · rintro ⟨hon, haccepts, hos, hknown⟩
        exact ⟨⟨hon, hos, hknown⟩, haccepts⟩
  | buffer => exact iff_of_true ⟨rfl, rfl⟩ ⟨trivial, rfl, trivial⟩

/-!
# The selected strategy
-/

theorem takes_select : selector.takes sig (selector.select sig) = true :=
  List.find?_some find?_takes

theorem rank_select_le (h : selector.takes sig strategy = true) :
    (selector.select sig).rank ≤ strategy.rank := by
  have hfind : Strategy.all.find? (selector.takes sig) = some (selector.select sig) := find?_takes
  rcases List.find?_eq_some_iff_append.mp hfind with ⟨_, before, after, hall, hrefused⟩
  have hmem : strategy ∈ before ++ selector.select sig :: after := by
    rw [← hall]
    exact strategy.mem_all
  have hranks := Strategy.pairwise_rank_all
  rw [hall, List.pairwise_append, List.pairwise_cons] at hranks
  rcases List.mem_append.mp hmem with hbefore | hrest
  · have hnot := hrefused strategy hbefore
    rw [h] at hnot
    cases hnot
  · rcases List.mem_cons.mp hrest with rfl | hafter
    · exact Nat.le_refl _
    · exact hranks.right.left.left strategy hafter

/-- Code of two architectures has one rank, but a platform has only one architecture. -/
theorem eq_of_rank_eq (hfirst : selector.takes sig first = true)
    (hsecond : selector.takes sig second = true) (hrank : first.rank = second.rank) :
    first = second := by
  rcases Strategy.eq_or_compiled_of_rank_eq hrank with heq | ⟨arch, other, rfl, rfl⟩
  · exact heq
  · rcases takes_iff.mp hfirst with ⟨_, _, harch, _⟩
    rcases takes_iff.mp hsecond with ⟨_, _, hother, _⟩
    rw [harch] at hother
    rw [Option.some.inj hother]

/-!
# More and fewer switches
-/

/-- On a platform of the same kind, the second selector has each facility and each switch that
the first one has. -/
structure Widens (narrow wide : Selector) : Prop where
  arch_eq : wide.caps.arch = narrow.caps.arch
  os_eq : wide.caps.os = narrow.caps.os
  helper : narrow.caps.helperPresent = true -> wide.caps.helperPresent = true
  pages : narrow.caps.pageProtection = true -> wide.caps.pageProtection = true
  compile : narrow.settings.compileEnabled = true -> wide.settings.compileEnabled = true
  fast : forall path, narrow.settings.AllowsFast path -> wide.settings.AllowsFast path

theorem Widens.takes (h : narrow.Widens wide) (htakes : narrow.takes sig strategy = true) :
    wide.takes sig strategy = true := by
  rcases takes_iff.mp htakes with ⟨hallows, haccepts, hplatform⟩
  apply takes_iff.mpr
  cases strategy with
  | compiled arch =>
      rcases hplatform with ⟨harch, hos, hpages, hhelper⟩
      refine ⟨h.compile hallows, haccepts, h.arch_eq.trans harch, ?_, h.pages hpages, ?_⟩
      · rw [h.os_eq]
        exact hos
      · intro hcaptures
        exact h.helper (hhelper hcaptures)
  | fast path =>
      refine ⟨h.fast path hallows, haccepts, ?_⟩
      rw [h.os_eq, h.arch_eq]
      exact hplatform
  | buffer => exact ⟨trivial, haccepts, trivial⟩

theorem Widens.rank_select_le (h : narrow.Widens wide) :
    (wide.select sig).rank ≤ (narrow.select sig).rank :=
  Selector.rank_select_le (h.takes takes_select)

/-- What a selector gives up does not matter as long as the strategy it selected is left. -/
theorem Widens.select_eq (h : narrow.Widens wide)
    (hleft : narrow.takes sig (wide.select sig) = true) :
    narrow.select sig = wide.select sig := by
  apply eq_of_rank_eq (h.takes takes_select) takes_select
  apply Nat.le_antisymm
  · exact Selector.rank_select_le hleft
  · exact h.rank_select_le

def switchOff (selector : Selector) (strategy : Strategy) : Selector :=
  { selector with settings := selector.settings.switchOff strategy }

def setDump (selector : Selector) (enabled : Bool) : Selector :=
  { selector with settings := { selector.settings with dumpCode := enabled } }

theorem widens_switchOff (selector : Selector) (strategy : Strategy) :
    (selector.switchOff strategy).Widens selector where
  arch_eq := rfl
  os_eq := rfl
  helper := id
  pages := id
  compile h := selector.settings.allows_of_switchOff (.compiled .amd64) h
  fast path h := selector.settings.allows_of_switchOff (.fast path) h

theorem widens_setDump (selector : Selector) (enabled : Bool) :
    (selector.setDump enabled).Widens selector where
  arch_eq := rfl
  os_eq := rfl
  helper := id
  pages := id
  compile := id
  fast path := by cases path <;> exact id

theorem takes_setDump (enabled : Bool) (h : selector.takes sig strategy = true) :
    (selector.setDump enabled).takes sig strategy = true := by
  rcases takes_iff.mp h with ⟨hallows, hserves⟩
  apply takes_iff.mpr
  refine ⟨?_, hserves⟩
  cases strategy with
  | fast path => cases path <;> exact hallows
  | compiled arch => exact hallows
  | buffer => trivial

/-- More facilities and switches lead to no later rank. To switch off a strategy that was not
selected, or to turn dumps on or off, leaves the selection as it was. -/
theorem select_prefers (sig : Signature) :
    (forall narrow wide : Selector, narrow.Widens wide ->
      (wide.select sig).rank ≤ (narrow.select sig).rank) ∧
    (forall (selector : Selector) (strategy : Strategy),
      strategy.rank ≠ (selector.select sig).rank ->
        (selector.switchOff strategy).select sig = selector.select sig) ∧
    (forall (selector : Selector) (enabled : Bool),
      (selector.setDump enabled).select sig = selector.select sig) := by
  refine ⟨?_, ?_, ?_⟩
  · intro narrow wide hwidens
    exact hwidens.rank_select_le
  · intro selector strategy hrank
    have hselected : selector.takes sig (selector.select sig) = true := takes_select
    rcases takes_iff.mp hselected with ⟨hallows, hserves⟩
    apply (selector.widens_switchOff strategy).select_eq
    exact takes_iff.mpr ⟨Settings.allows_switchOff_iff.mpr ⟨hallows, fun _ => hrank⟩, hserves⟩
  · intro selector enabled
    exact (selector.widens_setDump enabled).select_eq (takes_setDump enabled takes_select)

/-- With a helper the capture of errors is compiled. Without one the second fast path is
selected, whether or not the third one and the dumps are switched on. -/
theorem select_prefers_sample :
    samplePlatform.Widens foreignPlatform ∧
      (foreignPlatform.select sampleCapture).rank ≤ (samplePlatform.select sampleCapture).rank ∧
      (Strategy.fast .numeric).rank ≠ (samplePlatform.select sampleCapture).rank ∧
      (samplePlatform.switchOff (.fast .numeric)).select sampleCapture =
        samplePlatform.select sampleCapture ∧
      (samplePlatform.setDump true).select sampleCapture =
        samplePlatform.select sampleCapture ∧
      foreignPlatform.select sampleCapture = .compiled .amd64 ∧
      samplePlatform.select sampleCapture = .fast .int64 := by
  have hwidens : samplePlatform.Widens foreignPlatform :=
    { arch_eq := rfl, os_eq := rfl, helper := fun _ => rfl, pages := id, compile := id,
      fast := fun _ => id }
  have hrank : (Strategy.fast .numeric).rank ≠ (samplePlatform.select sampleCapture).rank := by
    decide
  rcases select_prefers sampleCapture with ⟨hmonotone, hswitch, hdump⟩
  exact ⟨hwidens, hmonotone _ _ hwidens, hrank, hswitch _ _ hrank, hdump _ true, by decide,
    by decide⟩

end Selector
end NativeCall
