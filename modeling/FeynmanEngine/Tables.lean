import Mathlib.Data.List.AList

/-! Finite keyed tables. A table is an association list without repeated
keys; two tables are compared through `lookup`, so no result can rest on the
order in which entries happen to be stored. -/
namespace FeynmanEngine.Tables

/-- A finite map from `K` to `V`. -/
abbrev Table (K V : Type) := AList fun _ : K => V

variable {K V W : Type}

/-- The stored values, in the table's own order. -/
def values (table : Table K V) : List V := table.entries.map Sigma.snd

/-- Every value replaced, keys kept. -/
def mapValues (f : K → V → W) (table : Table K V) : Table K W :=
  ⟨table.entries.map fun entry => ⟨entry.1, f entry.1 entry.2⟩, by
    simpa [List.NodupKeys, List.keys, Function.comp_def] using table.nodupKeys⟩

variable [DecidableEq K]

theorem lookup_insert_if (table : Table K V) (key probe : K) (value : V) :
    (table.insert key value).lookup probe = if probe = key then some value else table.lookup probe := by
  by_cases same : probe = key
  · subst same
    simp [AList.lookup_insert]
  · simp [same, AList.lookup_insert_ne same]

theorem lookup_erase_if (table : Table K V) (key probe : K) :
    (table.erase key).lookup probe = if probe = key then none else table.lookup probe := by
  by_cases same : probe = key
  · subst same
    simp [AList.lookup_erase]
  · simp [same, AList.lookup_erase_ne same]

/-- What is found after an erasure was there before. -/
theorem lookup_of_erase {table : Table K V} (found : (table.erase erased).lookup probe = some value) :
    table.lookup probe = some value := by
  rw [lookup_erase_if] at found
  split at found
  · cases found
  · exact found

/-- A value is stored exactly when some key leads to it. -/
theorem mem_values (table : Table K V) (value : V) :
    value ∈ values table ↔ ∃ key, table.lookup key = some value := by
  simp only [values, List.mem_map]
  constructor
  · rintro ⟨⟨key, stored⟩, member, rfl⟩
    exact ⟨key, AList.mem_lookup_iff.mpr member⟩
  · rintro ⟨key, found⟩
    exact ⟨⟨key, value⟩, AList.mem_lookup_iff.mp found, rfl⟩

theorem lookup_mapValues (f : K → V → W) (table : Table K V) (key : K) :
    (mapValues f table).lookup key = (table.lookup key).map (f key) := by
  ext value
  rw [Option.map_eq_some_iff]
  constructor
  · intro found
    have member := AList.mem_lookup_iff.mp found
    obtain ⟨⟨stored, old⟩, inside, same⟩ := List.mem_map.mp member
    obtain ⟨rfl, rfl⟩ := Sigma.mk.inj_iff.mp same
    exact ⟨old, AList.mem_lookup_iff.mpr inside, rfl⟩
  · rintro ⟨old, found, rfl⟩
    have inside := AList.mem_lookup_iff.mp found
    exact AList.mem_lookup_iff.mpr (List.mem_map.mpr ⟨⟨key, old⟩, inside, rfl⟩)

/-- A value under a new key joins the values. -/
theorem values_insert_fresh (table : Table K V) (value : V) (fresh : table.lookup key = none) :
    values (table.insert key value) = value :: values table := by
  have absent : key ∉ table := AList.lookup_eq_none.mp fresh
  rw [values, AList.entries_insert_of_notMem absent]
  rfl

/-- Erasing a key takes exactly its value out. -/
theorem values_erase (table : Table K V) (found : table.lookup key = some value) :
    (values table).Perm (value :: values (table.erase key)) := by
  have member : key ∈ table.keys := AList.lookup_isSome.mp (by rw [found]; rfl)
  obtain ⟨stored, before, after, -, shape, erased⟩ := List.exists_of_kerase member
  have inside : (⟨key, stored⟩ : Sigma fun _ : K => V) ∈ table.entries := by simp [shape]
  obtain rfl : stored = value := by
    have looked := AList.mem_lookup_iff.mpr inside
    rw [found] at looked
    exact (Option.some.inj looked).symm
  have rest : values (table.erase key) = (before ++ after).map Sigma.snd := congrArg _ erased
  rw [rest, values, shape, List.map_append, List.map_append]
  exact List.perm_middle

end FeynmanEngine.Tables
