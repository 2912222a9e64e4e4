import Mathlib.Data.Finmap
import Mathlib.Algebra.BigOperators.Group.Multiset.Basic
import Mathlib.Algebra.Order.BigOperators.Group.Multiset
import Mathlib.Data.Finset.Sort

namespace MandateLedger.Data

abbrev Table (κ ν : Type) := Finmap fun _ : κ => ν

namespace Table

variable {κ ν μ M : Type}

theorem nodupKeys_of_keys_le {entries : Multiset (Sigma fun _ : κ => ν)} (table : Table κ μ)
    (fewer : entries.keys ≤ table.entries.keys) : entries.NodupKeys :=
  Multiset.nodup_keys.mp (Multiset.nodup_of_le fewer (Multiset.nodup_keys.mpr table.nodupKeys))

def mapRows (function : κ → ν → μ) (table : Table κ ν) : Table κ μ where
  entries := table.entries.map fun entry => ⟨entry.1, function entry.1 entry.2⟩
  nodupKeys := nodupKeys_of_keys_le table (by
    simp [Multiset.keys, Multiset.map_map])

def keepRows (test : κ → ν → Bool) (table : Table κ ν) : Table κ ν where
  entries := table.entries.filter fun entry => test entry.1 entry.2 = true
  nodupKeys := nodupKeys_of_keys_le table
    (Multiset.map_le_map (Multiset.filter_le _ _))

/-- The sum of a weight over all rows. -/
def total [AddCommMonoid M] (weight : κ → ν → M) (table : Table κ ν) : M :=
  (table.entries.map fun entry => weight entry.1 entry.2).sum

section Lookup

variable [DecidableEq κ] {table : Table κ ν} {key : κ} {row : ν}

theorem mem_entries_iff : (⟨key, row⟩ : Sigma fun _ : κ => ν) ∈ table.entries ↔
    table.lookup key = some row := Finmap.lookup_eq_some_iff.symm

theorem lookup_insert_eq {other : κ} :
    (table.insert key row).lookup other =
      if other = key then some row else table.lookup other := by
  by_cases same : other = key
  · subst same
    simp
  · rw [if_neg same, Finmap.lookup_insert_of_ne _ same]

theorem lookup_mapRows (function : κ → ν → μ) (table : Table κ ν) (key : κ) :
    (mapRows function table).lookup key = (table.lookup key).map (function key) := by
  ext value
  rw [← mem_entries_iff, Option.map_eq_some_iff]
  simp only [mapRows, Multiset.mem_map, Sigma.mk.injEq, ← mem_entries_iff]
  constructor
  · intro mapped
    obtain ⟨⟨own, row⟩, stored, rfl, value⟩ := mapped
    exact ⟨row, stored, eq_of_heq value⟩
  · intro mapped
    obtain ⟨row, stored, rfl⟩ := mapped
    exact ⟨⟨key, row⟩, stored, rfl, HEq.rfl⟩

theorem lookup_keepRows (test : κ → ν → Bool) (table : Table κ ν) (key : κ) :
    (keepRows test table).lookup key = (table.lookup key).filter (test key) := by
  ext value
  rw [← mem_entries_iff, Option.filter_eq_some_iff]
  simp [keepRows, mem_entries_iff]

theorem insert_erase : (table.erase key).insert key row = table.insert key row := by
  apply Finmap.ext_lookup
  intro other
  simp only [lookup_insert_eq]
  split
  · rfl
  · next different => exact Finmap.lookup_erase_ne different

theorem insert_lookup (found : table.lookup key = some row) : table.insert key row = table := by
  apply Finmap.ext_lookup
  intro other
  rw [lookup_insert_eq]
  split
  · next same => rw [same, found]
  · rfl

theorem keys_insert (table : Table κ ν) (key : κ) (row : ν) :
    (table.insert key row).keys = insert key table.keys := by
  ext other
  rw [Finmap.mem_keys, Finmap.mem_insert, Finset.mem_insert, Finmap.mem_keys]

end Lookup

section Rows

variable [LinearOrder κ]

/-- The rows, in the order of their keys. -/
def rows (table : Table κ ν) : List ν := (table.keys.sort (· ≤ ·)).filterMap table.lookup

theorem mem_rows {table : Table κ ν} {row : ν} :
    row ∈ table.rows ↔ ∃ key, table.lookup key = some row := by
  rw [rows, List.mem_filterMap]
  constructor
  · intro given
    obtain ⟨key, _, found⟩ := given
    exact ⟨key, found⟩
  · intro given
    obtain ⟨key, found⟩ := given
    exact ⟨key, (Finset.mem_sort _).mpr (Finmap.mem_keys.mpr (Finmap.mem_iff.mpr ⟨row, found⟩)), found⟩

/-- Rows that carry their key are listed in its order. -/
theorem pairwise_rows {table : Table κ ν} {name : ν → κ}
    (named : ∀ key row, table.lookup key = some row → name row = key) :
    table.rows.Pairwise fun first second => name first < name second := by
  rw [rows, List.pairwise_filterMap]
  apply (Finset.sortedLT_sort table.keys).pairwise.imp
  intro first second less row found other later
  rw [named first row found, named second other later]
  exact less

theorem length_rows_le (table : Table κ ν) : table.rows.length ≤ table.keys.card := by
  rw [← Finset.length_sort (· ≤ ·)]
  exact List.length_filterMap_le _ _

theorem card_keys_insert_le (table : Table κ ν) (key : κ) (row : ν) :
    (table.insert key row).keys.card ≤ table.keys.card + 1 := by
  rw [keys_insert]
  exact Finset.card_insert_le key table.keys

end Rows

section Total

variable [AddCommMonoid M] {table : Table κ ν} {weight : κ → ν → M} {key : κ} {row : ν}

variable [DecidableEq κ]

theorem total_insert_of_absent (weight : κ → ν → M) (absent : table.lookup key = none) :
    total weight (table.insert key row) = weight key row + total weight table := by
  unfold total
  rw [Finmap.entries_insert_of_notMem (Finmap.lookup_eq_none.mp absent)]
  simp

theorem total_erase (weight : κ → ν → M) (found : table.lookup key = some row) :
    weight key row + total weight (table.erase key) = total weight table := by
  rw [← total_insert_of_absent weight (Finmap.lookup_erase key table), insert_erase,
    insert_lookup found]

theorem total_insert_of_present (weight : κ → ν → M) {old : ν}
    (found : table.lookup key = some old) :
    weight key old + total weight (table.insert key row) =
      weight key row + total weight table := by
  rw [← insert_erase, total_insert_of_absent weight (Finmap.lookup_erase key table),
    ← total_erase weight found, add_left_comm]

theorem total_eq_zero (none : ∀ key row, table.lookup key = some row → weight key row = 0) :
    total weight table = 0 := by
  apply Multiset.sum_eq_zero
  intro value mapped
  obtain ⟨⟨key, row⟩, stored, rfl⟩ := Multiset.mem_map.mp mapped
  exact none key row (mem_entries_iff.mp stored)

variable [PartialOrder M] [IsOrderedAddMonoid M]

theorem total_nonneg (nonneg : ∀ key row, table.lookup key = some row → 0 ≤ weight key row) :
    0 ≤ total weight table := by
  apply Multiset.sum_nonneg
  intro value mapped
  obtain ⟨⟨key, row⟩, stored, rfl⟩ := Multiset.mem_map.mp mapped
  exact nonneg key row (mem_entries_iff.mp stored)

theorem weight_le_total (weight : κ → ν → M)
    (nonneg : ∀ key row, table.lookup key = some row → 0 ≤ weight key row)
    (found : table.lookup key = some row) : weight key row ≤ total weight table := by
  rw [← total_erase weight found]
  apply le_add_of_nonneg_right
  apply total_nonneg
  intro other value kept
  by_cases same : other = key
  · rw [same, Finmap.lookup_erase] at kept
    cases kept
  · exact nonneg other value ((Finmap.lookup_erase_ne same).symm.trans kept)

end Total

end Table

end MandateLedger.Data
