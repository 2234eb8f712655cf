import Manuscript.Template.Set
import Manuscript.Token.Attributes
import Mathlib.Data.List.Induction
import Mathlib.Data.List.Nodup

/-!
Flat configurations as functions of their keys: what is found in one that was laid over another, and
that the order of the entries does not matter where each key has one entry only.
-/

namespace Manuscript.ConfigMap

/-- Each key has one entry at most. -/
def Distinct (map : ConfigMap) : Prop := (map.map Prod.fst).Nodup

instance (map : ConfigMap) : Decidable map.Distinct :=
  inferInstanceAs (Decidable (map.map Prod.fst).Nodup)

/-- The entry of a key in the first layer that has one. -/
def firstFound? (layers : List ConfigMap) (key : String) : Option String :=
  layers.findSome? (·.lookup key)

/-- The configuration of layers, each laid over those behind it. -/
def stack (layers : List ConfigMap) : ConfigMap :=
  layers.foldr (fun layer below => below.overlay layer) []

variable {map other : ConfigMap}

/-- Nothing is found under a key that no entry has. -/
theorem lookup_eq_none_iff {key : String} : map.lookup key = none ↔ key ∉ map.map Prod.fst := by
  -- An entry that is passed over on the way has another key, and so have all when none is found.
  rw [List.lookup_eq_none_iff]
  constructor
  · intro different present
    obtain ⟨entry, member, rfl⟩ := List.mem_map.mp present
    exact absurd (different entry member) (by simp)
  · intro absent entry member
    have differs : key ≠ entry.1 := fun same => absent (List.mem_map.mpr ⟨entry, member, same.symm⟩)
    simpa using differs

/-- Where each key has one entry, an entry is found just when it is there. -/
theorem Distinct.lookup_eq_some_iff (distinct : map.Distinct) {key value : String} :
    map.lookup key = some value ↔ (key, value) ∈ map := by
  -- An entry further behind has another key than the first one.
  induction map with
  | nil => simp
  | cons entry rest ih =>
    obtain ⟨first, held⟩ := entry
    have ⟨fresh, tail⟩ := List.nodup_cons.mp distinct
    rw [lookup_cons_eq_ite, List.mem_cons]
    by_cases same : key = first
    · subst same
      have notLater : (key, value) ∉ rest := fun member =>
        fresh (List.mem_map.mpr ⟨_, member, rfl⟩)
      simp [notLater, eq_comm]
    · simp [same, ih tail]

/-- The order of the entries does not matter where each key has one of them. -/
theorem Distinct.lookup_perm (distinct : map.Distinct) (reordered : map.Perm other)
    (key : String) : map.lookup key = other.lookup key := by
  have distinct' : other.Distinct := (reordered.map Prod.fst).nodup_iff.mp distinct
  -- An entry stands in both, or in neither of them.
  refine Option.ext fun value => ?_
  rw [distinct.lookup_eq_some_iff, distinct'.lookup_eq_some_iff, reordered.mem_iff]

/-- What is found after the entries of one key have been replaced. -/
theorem lookup_map_replace (map : ConfigMap) (key value wanted : String) :
    (map.map fun entry => if entry.1 = key then (key, value) else entry).lookup wanted =
      if wanted = key then (map.lookup key).map fun _ => value else map.lookup wanted := by
  -- Each entry keeps its key, whether it is replaced or not.
  induction map with
  | nil => simp
  | cons entry rest ih =>
    obtain ⟨first, held⟩ := entry
    rw [List.map_cons]
    by_cases replaced : first = key
    · subst replaced
      rw [if_pos rfl, lookup_cons_eq_ite, lookup_cons_eq_ite, lookup_cons_eq_ite, ih]
      -- The first entry is the one that is replaced.
      by_cases same : wanted = first <;> simp [same]
    · rw [if_neg replaced, lookup_cons_eq_ite, lookup_cons_eq_ite, lookup_cons_eq_ite, ih]
      by_cases same : wanted = key
      · subst same
        simp [Ne.symm replaced]
      · simp [same]

/-- A key is among the entries just when something is found under it. -/
theorem any_key_iff {key : String} :
    map.any (·.1 = key) = true ↔ key ∈ map.map Prod.fst := by simp

/-- An entry that was set is found under its key, and the others are found as before. -/
theorem lookup_set (map : ConfigMap) (key value wanted : String) :
    (map.set key value).lookup wanted = if wanted = key then some value else map.lookup wanted := by
  unfold set
  split
  · -- The key was there, so that its entry is the one that was replaced.
    rename_i present
    rw [lookup_map_replace]
    split
    · obtain ⟨old, found⟩ := Option.ne_none_iff_exists'.mp fun none =>
        lookup_eq_none_iff.mp none (any_key_iff.mp present)
      rw [found, Option.map_some]
    · rfl
  · -- Otherwise it stands behind all others, none of which has its key.
    rename_i absent
    rw [List.lookup_append, lookup_cons_eq_ite]
    split
    · rename_i same
      subst same
      rw [lookup_eq_none_iff.mpr fun present => absent (any_key_iff.mpr present), Option.none_or]
    · exact Option.or_none

/-- Setting an entry makes no second one of its key. -/
theorem Distinct.set (distinct : map.Distinct) (key value : String) :
    (map.set key value).Distinct := by
  unfold ConfigMap.set Distinct
  split
  · -- An entry that is replaced keeps its key.
    have keys : (map.map fun entry => if entry.1 = key then (key, value) else entry).map Prod.fst =
        map.map Prod.fst := by
      rw [List.map_map]
      refine List.map_congr_left fun entry _ => ?_
      by_cases same : entry.1 = key <;> simp [same]
    rwa [keys]
  · -- A new entry has a key that none of the others has.
    rename_i absent
    rw [List.map_append, List.map_singleton, List.nodup_append]
    refine ⟨distinct, List.nodup_singleton key, ?_⟩
    rintro first member second single rfl
    rw [List.mem_singleton.mp single] at member
    exact absent (any_key_iff.mpr member)

/-- Laying entries over a configuration makes no second one of a key. -/
theorem Distinct.overlay (distinct : map.Distinct) (other : ConfigMap) :
    (map.overlay other).Distinct := by
  -- The entries are set one at a time, and each time the keys stay distinct.
  induction other generalizing map with
  | nil => exact distinct
  | cons entry rest ih => exact ih (distinct.set entry.1 entry.2)

/-- Of the entries that are laid over a configuration the last one of a key is found. -/
theorem lookup_overlay_eq_last (map other : ConfigMap) (key : String) :
    (map.overlay other).lookup key = (other.reverse.lookup key).or (map.lookup key) := by
  -- The last entry is set last, over whatever was found before.
  induction other using List.reverseRecOn with
  | nil => rfl
  | append_singleton rest entry ih =>
    have set : map.overlay (rest ++ [entry]) = (map.overlay rest).set entry.1 entry.2 := by
      rw [overlay, List.foldl_append]
      rfl
    rw [set, lookup_set, ih, List.reverse_concat, lookup_cons_eq_ite]
    split <;> rfl

/-- What is laid over a configuration is found first. -/
theorem lookup_overlay (map : ConfigMap) (distinct : other.Distinct) (key : String) :
    (map.overlay other).lookup key = (other.lookup key).or (map.lookup key) := by
  -- An entry that was set early stays, as no later one has its key.
  induction other generalizing map with
  | nil => rfl
  | cons entry rest ih =>
    obtain ⟨first, value⟩ := entry
    have ⟨fresh, tail⟩ := List.nodup_cons.mp distinct
    have set : map.overlay ((first, value) :: rest) = (map.set first value).overlay rest := rfl
    rw [set, ih _ tail, lookup_set, lookup_cons_eq_ite]
    by_cases same : key = first
    · subst same
      rw [if_pos rfl, if_pos rfl, lookup_eq_none_iff.mpr fresh, Option.none_or, Option.some_or]
    · rw [if_neg same, if_neg same]

/-- The first layer comes before the others. -/
theorem firstFound?_cons (layer : ConfigMap) (layers : List ConfigMap) (key : String) :
    firstFound? (layer :: layers) key = (layer.lookup key).or (firstFound? layers key) := by
  unfold firstFound?
  rw [List.findSome?_cons]
  cases layer.lookup key <;> rfl

/-- A layer over what has the entries of others has those of all of them. -/
theorem lookup_overlay_eq_firstFound? {below layer : ConfigMap} {layers : List ConfigMap}
    {key : String} (distinct : layer.Distinct) (same : below.lookup key = firstFound? layers key) :
    (below.overlay layer).lookup key = firstFound? (layer :: layers) key := by
  rw [lookup_overlay below distinct, firstFound?_cons, same]

/-- In a stack of layers no key has two entries. -/
theorem distinct_stack (layers : List ConfigMap) : (stack layers).Distinct := by
  induction layers with
  | nil => exact List.nodup_nil
  | cons layer rest ih => exact ih.overlay layer

/-- In a stack of layers the first one that has an entry of a key counts for this key. -/
theorem lookup_stack {layers : List ConfigMap} (distinct : ∀ layer ∈ layers, layer.Distinct)
    (key : String) : (stack layers).lookup key = firstFound? layers key := by
  -- The first layer is laid over all the others, which are a stack of their own.
  induction layers with
  | nil => rfl
  | cons layer rest ih =>
    have ⟨first, others⟩ := List.forall_mem_cons.mp distinct
    exact lookup_overlay_eq_firstFound? first (ih others)

/-- Layers that were reordered each by itself have the same entries. -/
theorem firstFound?_perm {layers others : List ConfigMap}
    (reordered : List.Forall₂ List.Perm layers others)
    (distinct : ∀ layer ∈ layers, layer.Distinct) (key : String) :
    firstFound? layers key = firstFound? others key := by
  -- Layer by layer the same is found, and the first one that has anything decides.
  induction reordered with
  | nil => rfl
  | cons first _ ih =>
    have ⟨here, rest⟩ := List.forall_mem_cons.mp distinct
    rw [firstFound?_cons, firstFound?_cons, here.lookup_perm first, ih rest]

/-- Layers that were reordered each by itself have one entry of each key still. -/
theorem distinct_of_perm {layers others : List ConfigMap}
    (reordered : List.Forall₂ List.Perm layers others)
    (distinct : ∀ layer ∈ layers, layer.Distinct) : ∀ layer ∈ others, layer.Distinct := by
  -- Within each layer the keys are only reordered.
  induction reordered with
  | nil => exact nofun
  | cons first _ ih =>
    have ⟨here, rest⟩ := List.forall_mem_cons.mp distinct
    exact List.forall_mem_cons.mpr ⟨(first.map Prod.fst).nodup_iff.mp here, ih rest⟩

end Manuscript.ConfigMap
