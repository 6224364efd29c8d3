import Mathlib.Data.List.Sort
import KalmanHeader.Text.NameMap

/-!
# Entries of maps

A map is determined by the values of its names, and so by its entries in any order. The
union of two maps has the entries of both, and filtering keeps some of them.
-/

namespace KalmanHeader

namespace NameMap

variable {α β : Type} {relabel : String → String} {entries : List (String × α)}

/-- Where no key comes twice, adding entries one after another lets each be found. -/
theorem find?_foldl_insert (distinct : (entries.map Prod.fst).Nodup) (map : NameMap α)
    (name : String) :
    (entries.foldl (fun map entry => map.insert entry.1 entry.2) map).find? name =
      (entries.lookup name).or (map.find? name) := by
  induction entries generalizing map with
  | nil => rfl
  | cons first others ih =>
    obtain ⟨absent, distinct⟩ := List.nodup_cons.1 distinct
    rw [List.foldl_cons, ih distinct, find?_insert, lookup_cons_eq]
    split
    · rename_i same
      have missing : others.lookup name = none := by
        refine List.lookup_eq_none_iff.2 fun entry member => bne_iff_ne.2 ?_
        rintro rfl
        exact absent (same ▸ List.mem_map_of_mem member)
      rw [missing, Option.none_or, Option.some_or]
    · rfl

/-- The values of a map that is given by entries, where no key comes twice. -/
theorem find?_ofList (distinct : (entries.map Prod.fst).Nodup) (name : String) :
    (ofList entries).find? name = entries.lookup name := by
  rw [ofList, find?_foldl_insert distinct, find?_empty, Option.or_none]

/-- Entries with renamed keys are found under the renamed keys. -/
theorem lookup_map (injective : Function.Injective relabel) (change : α → β)
    (entries : List (String × α)) (name : String) :
    (entries.map fun entry => (relabel entry.1, change entry.2)).lookup (relabel name) =
      (entries.lookup name).map change := by
  induction entries with
  | nil => rfl
  | cons first others ih =>
    rw [List.map_cons, lookup_cons_eq, lookup_cons_eq, ih]
    by_cases same : name = first.1
    · rw [if_pos same, if_pos (congrArg relabel same), Option.map_some]
    · rw [if_neg same, if_neg fun equal => same (injective equal)]

/-- Where no key comes twice, the entries are the keys with their values. -/
theorem lookup_eq_some_iff (distinct : (entries.map Prod.fst).Nodup) {name : String} {value : α} :
    entries.lookup name = some value ↔ (name, value) ∈ entries := by
  induction entries with
  | nil => simp
  | cons first others ih =>
    obtain ⟨absent, distinct⟩ := List.nodup_cons.1 distinct
    rw [lookup_cons_eq, List.mem_cons, ← ih distinct]
    split
    · rename_i same
      have missing : others.lookup name ≠ some value := fun found =>
        absent (same ▸ List.mem_map_of_mem ((ih distinct).1 found))
      simp [Prod.ext_iff, same, eq_comm, same ▸ missing]
    · rename_i different
      simp [Prod.ext_iff, different]

variable {map left right : NameMap α}

/-- No key of a map comes twice. -/
theorem nodup_keys (map : NameMap α) : (map.entries.map Prod.fst).Nodup :=
  map.increasing.imp String.ne_of_lt

/-- The keys of the entries are contained. -/
theorem contains_of_mem_keys {name : String} (member : name ∈ map.entries.map Prod.fst) :
    map.contains name := by
  obtain ⟨entry, found, rfl⟩ := List.mem_map.1 member
  exact contains_of_find?_eq_some ((lookup_eq_some_iff map.nodup_keys).2 found)

/-- An entry of a map with one more entry is that entry or one of the map. -/
theorem mem_insert {name : String} {value : α} {entry : String × α}
    (member : entry ∈ (map.insert name value).entries) :
    entry = (name, value) ∨ entry ∈ map.entries := by
  have found := (lookup_eq_some_iff (nodup_keys _)).2 member
  rw [insert, lookup_insertSorted] at found
  split at found
  · rename_i same
    exact .inl (Prod.ext same (Option.some.inj found).symm)
  · exact .inr ((lookup_eq_some_iff map.nodup_keys).1 found)

/-- Maps in which all names have the same values are the same map, since the entries come
in order. -/
theorem eq_of_find?_eq (same : ∀ name, left.find? name = right.find? name) : left = right := by
  refine NameMap.ext ((List.pairwise_map.1 left.increasing).eq_of_mem_iff
    (r := fun entry entry' => entry.1 < entry'.1) (List.pairwise_map.1 right.increasing) ?_)
  rintro ⟨name, value⟩
  rw [← lookup_eq_some_iff left.nodup_keys, ← lookup_eq_some_iff right.nodup_keys]
  exact Eq.congr_left (same name)

/-- Two entries with different keys can be added in either order. -/
theorem insert_comm {name name' : String} (different : name ≠ name') (map : NameMap α)
    (value value' : α) :
    (map.insert name value).insert name' value' = (map.insert name' value').insert name value := by
  refine eq_of_find?_eq fun other => ?_
  simp only [find?_insert]
  by_cases same : other = name
  · rw [if_pos same, if_neg (same ▸ different), if_pos same]
  · rw [if_neg same, if_neg same]

/-- A map is given by its entries in any order. -/
theorem ofList_of_perm (order : entries.Perm map.entries) : ofList entries = map := by
  have distinct : (entries.map Prod.fst).Nodup :=
    (order.map Prod.fst).nodup_iff.2 map.nodup_keys
  refine eq_of_find?_eq fun name => Option.ext fun value => ?_
  rw [find?_ofList distinct, lookup_eq_some_iff distinct, order.mem_iff,
    ← lookup_eq_some_iff map.nodup_keys]
  rfl

/-- The map with the entries of two maps. A key of both has the value it has in the
second. -/
def union (left right : NameMap α) : NameMap α :=
  .ofList (left.entries ++ right.entries)

/-- Whether no key of one map is a key of the other. -/
def Apart (left right : NameMap α) : Prop :=
  ∀ name, left.contains name → ¬right.contains name

/-- It is enough to look at the keys. -/
instance : Decidable (left.Apart right) :=
  decidable_of_iff (∀ key ∈ left.entries.map Prod.fst, ¬right.contains key)
    ⟨fun apart name isKey => by
      obtain ⟨value, found⟩ := Option.isSome_iff_exists.1 isKey
      exact apart name (mem_keys_of_find?_eq_some found),
    fun apart key member => apart key (contains_of_mem_keys member)⟩

/-- Maps are apart in either order. -/
theorem Apart.symm (apart : left.Apart right) : right.Apart left :=
  fun name isKey isKey' => apart name isKey' isKey

/-- The value of a name in the union of two maps that are apart. -/
theorem find?_union (apart : left.Apart right) (name : String) :
    (left.union right).find? name = (left.find? name).or (right.find? name) := by
  have distinct : ((left.entries ++ right.entries).map Prod.fst).Nodup := by
    rw [List.map_append, List.nodup_append]
    refine ⟨left.nodup_keys, right.nodup_keys, ?_⟩
    rintro name member _ member' rfl
    exact apart name (contains_of_mem_keys member) (contains_of_mem_keys member')
  rw [union, find?_ofList distinct, List.lookup_append]
  rfl

/-- The union of two maps that are apart does not depend on their order. -/
theorem union_comm (apart : left.Apart right) : left.union right = right.union left := by
  refine eq_of_find?_eq fun name => ?_
  rw [find?_union apart, find?_union apart.symm]
  cases found : left.find? name with
  | none => rw [Option.none_or, Option.or_none]
  | some value =>
    have absent := Bool.eq_false_iff.2 (apart name (contains_of_find?_eq_some found))
    rw [contains_eq_false_iff.1 absent, Option.none_or, Option.some_or]

/-- The entries whose keys satisfy a condition. -/
def filter (map : NameMap α) (keep : String → Bool) : NameMap α where
  entries := map.entries.filter fun entry => keep entry.1
  increasing := map.increasing.sublist (List.filter_sublist.map Prod.fst)

/-- A kept name has the value that it had, and any other has none. -/
theorem find?_filter (map : NameMap α) (keep : String → Bool) (name : String) :
    (map.filter keep).find? name = if keep name then map.find? name else none := by
  refine Option.ext fun value => ?_
  rw [find?, lookup_eq_some_iff (map.filter keep).nodup_keys, filter, List.mem_filter,
    ← lookup_eq_some_iff map.nodup_keys]
  split
  · rename_i kept
    exact and_iff_left kept
  · rename_i dropped
    exact ⟨fun found => absurd found.2 dropped, nofun⟩

end NameMap

end KalmanHeader
