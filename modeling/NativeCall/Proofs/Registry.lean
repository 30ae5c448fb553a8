import Mathlib.Data.List.Dedup
import NativeCall.Proofs.Pages

/-!
# The arenas of a registry

A registry is a list of arenas with their owners, grouped by owner. What a sweep keeps and
drops, and what a registration adds, are seen on the list.
-/

namespace NativeCall

def Holding.owned (holding : Holding) : List (ClassId × Arena) :=
  holding.arenas.map fun arena => (holding.owner, arena)

theorem Holding.fst_of_mem_owned {holding : Holding} {pair : ClassId × Arena}
    (h : pair ∈ holding.owned) : pair.1 = holding.owner := by
  rcases List.mem_map.mp h with ⟨arena, _, rfl⟩
  rfl

namespace Registry

def owned (registry : Registry) : List (ClassId × Arena) :=
  registry.holdings.flatMap (·.owned)

def owners (registry : Registry) : List ClassId :=
  registry.holdings.map (·.owner)

/-- Every owner has one holding, which is not empty. -/
structure IsGrouped (registry : Registry) : Prop where
  distinct : registry.owners.Nodup
  inhabited : forall holding, holding ∈ registry.holdings -> holding.arenas ≠ []

variable {registry : Registry} {classes : Classes} {owner id : ClassId} {arena : Arena}

theorem map_snd_owned (registry : Registry) : registry.owned.map Prod.snd = registry.arenas := by
  unfold owned arenas
  rw [List.map_flatMap]
  congr 1
  funext holding
  exact (List.map_map ..).trans (List.map_id _)

/-!
# Sweeping
-/

theorem filter_owned (holdings : List Holding) (keep : ClassId -> Bool) :
    (holdings.filter fun holding => keep holding.owner).flatMap (·.owned) =
      (holdings.flatMap (·.owned)).filter fun pair => keep pair.1 := by
  induction holdings with
  | nil => rfl
  | cons holding rest ih =>
      have hfirst : holding.owned.filter (fun pair => keep pair.1) =
          if keep holding.owner then holding.owned else [] := by
        split
        case isTrue hkeep =>
          apply List.filter_eq_self.mpr
          intro pair hmem
          rw [Holding.fst_of_mem_owned hmem, hkeep]
        case isFalse hdrop =>
          apply List.filter_eq_nil_iff.mpr
          intro pair hmem
          rw [Holding.fst_of_mem_owned hmem]
          exact hdrop
      rw [List.flatMap_cons, List.filter_append, hfirst, List.filter_cons, ← ih]
      cases keep holding.owner <;> rfl

theorem owned_live (registry : Registry) (classes : Classes) :
    (registry.live classes).owned = registry.owned.filter fun pair => classes.isLive pair.1 :=
  filter_owned registry.holdings classes.isLive

theorem mem_owned_live (hmem : (owner, arena) ∈ registry.owned)
    (hlive : classes.isLive owner = true) : (owner, arena) ∈ (registry.live classes).owned := by
  rw [owned_live]
  exact List.mem_filter.mpr ⟨hmem, hlive⟩

theorem isLive_of_mem_owned_live (h : (owner, arena) ∈ (registry.live classes).owned) :
    classes.isLive owner = true := by
  rw [owned_live] at h
  exact (List.mem_filter.mp h).2

theorem mem_arenas (h : (owner, arena) ∈ registry.owned) : arena ∈ registry.arenas := by
  rw [← map_snd_owned]
  exact List.mem_map_of_mem h

theorem stale_eq (registry : Registry) (classes : Classes) :
    registry.stale classes =
      (registry.owned.filter fun pair => !classes.isLive pair.1).map Prod.snd := by
  rw [owned, ← filter_owned registry.holdings fun id => !classes.isLive id]
  exact (map_snd_owned { holdings := _ }).symm

theorem mem_stale (hmem : (owner, arena) ∈ registry.owned)
    (hdead : classes.isLive owner = false) : arena ∈ registry.stale classes := by
  rw [stale_eq]
  exact List.mem_map.mpr ⟨_, List.mem_filter.mpr ⟨hmem, congrArg not hdead⟩, rfl⟩

/-- What a sweep keeps and what it drops is all there was. -/
theorem arenas_perm (registry : Registry) (classes : Classes) :
    registry.arenas.Perm ((registry.live classes).arenas ++ registry.stale classes) := by
  rw [← map_snd_owned, ← map_snd_owned, owned_live, stale_eq, ← List.map_append]
  exact (List.filter_append_perm _ _).symm.map Prod.snd

theorem live_congr {others : Classes}
    (h : forall id, id ∈ registry.owners -> classes.isLive id = others.isLive id) :
    registry.live classes = registry.live others := by
  unfold live
  congr 1
  apply List.filter_congr
  exact fun holding hmem => h holding.owner (List.mem_map_of_mem hmem)

theorem live_eq_self (h : forall id, id ∈ registry.owners -> classes.isLive id = true) :
    registry.live classes = registry := by
  unfold live
  congr 1
  apply List.filter_eq_self.mpr
  exact fun holding hmem => h holding.owner (List.mem_map_of_mem hmem)

theorem mem_owners_live (h : id ∈ (registry.live classes).owners) :
    id ∈ registry.owners ∧ classes.isLive id = true := by
  rcases List.mem_map.mp h with ⟨holding, hmem, rfl⟩
  rcases List.mem_filter.mp hmem with ⟨hholding, hlive⟩
  exact ⟨List.mem_map_of_mem hholding, hlive⟩

theorem IsGrouped.live (h : registry.IsGrouped) (classes : Classes) :
    (registry.live classes).IsGrouped where
  distinct := h.distinct.sublist (List.filter_sublist.map _)
  inhabited := fun holding hmem => h.inhabited holding (List.mem_filter.mp hmem).1

/-!
# Registration
-/

theorem owned_add (registry : Registry) (owner : ClassId) (arena : Arena) :
    (registry.add owner arena).owned.Perm ((owner, arena) :: registry.owned) := by
  unfold add owned
  simp only
  induction registry.holdings with
  | nil => exact .refl _
  | cons holding rest ih =>
      rw [addTo]
      split
      case isTrue hown =>
        rw [List.flatMap_cons, List.flatMap_cons, Holding.owned, List.map_append, List.append_assoc,
          ← hown]
        exact List.perm_middle
      case isFalse hother =>
        rw [List.flatMap_cons, List.flatMap_cons]
        exact (ih.append_left _).trans List.perm_middle

theorem arenas_add (registry : Registry) (owner : ClassId) (arena : Arena) :
    (registry.add owner arena).arenas.Perm (arena :: registry.arenas) := by
  have howned := (owned_add registry owner arena).map Prod.snd
  rw [List.map_cons, map_snd_owned, map_snd_owned] at howned
  exact howned

theorem owners_addTo (owner : ClassId) (arena : Arena) (holdings : List Holding) :
    (addTo owner arena holdings).map (·.owner) =
      if owner ∈ holdings.map (·.owner) then holdings.map (·.owner)
      else holdings.map (·.owner) ++ [owner] := by
  induction holdings with
  | nil => rfl
  | cons holding rest ih =>
      rw [addTo, List.map_cons]
      split
      case isTrue hown =>
        rw [if_pos (List.mem_cons.mpr (.inl hown.symm))]
        rfl
      case isFalse hother =>
        have hmem : owner ∈ holding.owner :: rest.map (·.owner) <-> owner ∈ rest.map (·.owner) := by
          rw [List.mem_cons, or_iff_right (Ne.symm hother)]
        simp only [List.map_cons, ih, hmem]
        split <;> rfl

theorem mem_owners_add (h : id ∈ (registry.add owner arena).owners) :
    id = owner ∨ id ∈ registry.owners := by
  unfold owners Registry.add at h
  rw [owners_addTo] at h
  split at h
  case isTrue => exact .inr h
  case isFalse =>
    rcases List.mem_append.mp h with h | h
    · exact .inr h
    · exact .inl (List.mem_singleton.mp h)

theorem mem_addTo {holding : Holding} {holdings : List Holding}
    (h : holding ∈ addTo owner arena holdings) : holding ∈ holdings ∨ arena ∈ holding.arenas := by
  induction holdings with
  | nil =>
      rw [List.mem_singleton.mp h]
      exact .inr List.mem_cons_self
  | cons first rest ih =>
      rw [addTo] at h
      split at h
      case isTrue =>
        rcases List.mem_cons.mp h with rfl | hmem
        · exact .inr (List.mem_append_right _ (List.mem_singleton_self arena))
        · exact .inl (List.mem_cons_of_mem _ hmem)
      case isFalse =>
        rcases List.mem_cons.mp h with rfl | hmem
        · exact .inl List.mem_cons_self
        · exact (ih hmem).imp_left (List.mem_cons_of_mem _)

theorem IsGrouped.add (h : registry.IsGrouped) (owner : ClassId) (arena : Arena) :
    (registry.add owner arena).IsGrouped := by
  constructor
  case distinct =>
    unfold owners Registry.add
    rw [owners_addTo]
    split
    case isTrue => exact h.distinct
    case isFalse hnew =>
      apply List.nodup_append.mpr
      refine ⟨h.distinct, List.nodup_singleton owner, ?_⟩
      intro id hid other hother hsame
      rw [hsame, List.mem_singleton.mp hother] at hid
      exact hnew hid
  case inhabited =>
    intro holding hmem
    rcases mem_addTo hmem with hmem | harena
    · exact h.inhabited holding hmem
    · exact List.ne_nil_of_mem harena

/-!
# Questions
-/

theorem IsGrouped.mem_owners_iff (h : registry.IsGrouped) :
    id ∈ registry.owners <-> id ∈ registry.owned.map Prod.fst := by
  constructor
  · intro hmem
    rcases List.mem_map.mp hmem with ⟨holding, hholding, rfl⟩
    rcases List.exists_mem_of_ne_nil _ (h.inhabited holding hholding) with ⟨arena, harena⟩
    have howned : (holding.owner, arena) ∈ registry.owned :=
      List.mem_flatMap.mpr ⟨holding, hholding, List.mem_map_of_mem harena⟩
    exact List.mem_map_of_mem howned
  · intro hmem
    rcases List.mem_map.mp hmem with ⟨pair, howned, rfl⟩
    rcases List.mem_flatMap.mp howned with ⟨holding, hholding, hpair⟩
    rw [Holding.fst_of_mem_owned hpair]
    exact List.mem_map_of_mem hholding

theorem notMem_owners_of_isNone (h : (registry.holding? id).isNone = true) :
    id ∉ registry.owners := by
  intro hmem
  rcases List.mem_map.mp hmem with ⟨holding, hholding, hown⟩
  have hnone := List.find?_eq_none.mp (Option.isNone_iff_eq_none.mp h) holding hholding
  exact hnone (decide_eq_true hown)

theorem IsGrouped.isSome_holding? (h : registry.IsGrouped) (id : ClassId) :
    (registry.holding? id).isSome = registry.owned.any fun pair => pair.1 = id := by
  apply Bool.eq_iff_iff.mpr
  calc (registry.holding? id).isSome = true <-> id ∈ registry.owners := by
        simp only [holding?, List.find?_isSome, decide_eq_true_eq, owners, List.mem_map]
    _ <-> id ∈ registry.owned.map Prod.fst := h.mem_owners_iff
    _ <-> (registry.owned.any fun pair => pair.1 = id) = true := by
        simp only [List.mem_map, List.any_eq_true, decide_eq_true_eq]

theorem countP_owned_of_notMem {holdings : List Holding}
    (h : id ∉ holdings.map (·.owner)) :
    (holdings.flatMap (·.owned)).countP (fun pair => pair.1 = id) = 0 := by
  apply List.countP_eq_zero.mpr
  intro pair hmem hid
  rcases List.mem_flatMap.mp hmem with ⟨holding, hholding, hpair⟩
  rw [decide_eq_true_eq, Holding.fst_of_mem_owned hpair] at hid
  exact h (hid ▸ List.mem_map_of_mem hholding)

theorem countP_holding (holding : Holding) (id : ClassId) :
    holding.owned.countP (fun pair => pair.1 = id) =
      if holding.owner = id then holding.arenas.length else 0 := by
  rw [Holding.owned, List.countP_map]
  split
  case isTrue hown => exact List.countP_eq_length.mpr fun _ _ => decide_eq_true hown
  case isFalse hother =>
    exact List.countP_eq_zero.mpr fun _ _ hsame => hother (of_decide_eq_true hsame)

theorem IsGrouped.length_holding? (h : registry.IsGrouped) (id : ClassId) :
    ((registry.holding? id).map (·.arenas.length)).getD 0 =
      registry.owned.countP fun pair => pair.1 = id := by
  have hdistinct := h.distinct
  unfold holding? owned
  unfold owners at hdistinct
  generalize registry.holdings = holdings at hdistinct ⊢
  induction holdings with
  | nil => rfl
  | cons holding rest ih =>
      rw [List.map_cons, List.nodup_cons] at hdistinct
      rw [List.find?_cons, List.flatMap_cons, List.countP_append, countP_holding]
      by_cases hown : holding.owner = id
      case pos =>
        rw [if_pos hown, decide_eq_true hown, countP_owned_of_notMem (hown ▸ hdistinct.1)]
        rfl
      case neg =>
        rw [if_neg hown, decide_eq_false hown, Nat.zero_add]
        exact ih hdistinct.2

theorem any_contains (registry : Registry) (address : Address) :
    registry.arenas.any (·.contains address) =
      registry.owned.any fun pair => pair.2.extent.contains address := by
  rw [← map_snd_owned, List.any_map]
  rfl

theorem IsGrouped.size_eq (h : registry.IsGrouped) :
    registry.size = (registry.owned.map Prod.fst).dedup.length := by
  have hperm : registry.owners.Perm (registry.owned.map Prod.fst).dedup := by
    apply (List.perm_ext_iff_of_nodup h.distinct (List.nodup_dedup _)).mpr
    intro id
    rw [List.mem_dedup]
    exact h.mem_owners_iff
  exact (List.length_map _).symm.trans hperm.length_eq

end Registry
end NativeCall
