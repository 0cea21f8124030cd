/-!
# Values by key

Lists of keys with their values, in the order in which the keys came. Changing the value at a key
keeps its place; a new key goes to the end (`map_fst_update`). A lookup after a change sees the
change at its key and nothing new at any other (`lookup_update_self`, `lookup_update_of_ne`).
-/

set_option autoImplicit false

namespace EntityAtlas.Keyed

variable {α : Type}

/-- Changes the value at a key. A key that is not there yet is added with the change of an initial
value. -/
def update (key : String) (initial : α) (change : α → α) :
    List (String × α) → List (String × α)
  | [] => [(key, change initial)]
  | (other, value) :: rest =>
    if other = key then (other, change value) :: rest
    else (other, value) :: update key initial change rest

/-- Sets the value at a key. -/
def put (key : String) (value : α) (entries : List (String × α)) : List (String × α) :=
  update key value (fun _ => value) entries

theorem lookup_update_self (key : String) (initial : α) (change : α → α)
    (entries : List (String × α)) :
    (update key initial change entries).lookup key =
      some (change ((entries.lookup key).getD initial)) := by
  induction entries with
  | nil => simp [update]
  | cons entry rest ih =>
    obtain ⟨other, value⟩ := entry
    by_cases same : other = key
    · simp [update, same]
    · have apart : (key == other) = false := by simpa using fun equal => same equal.symm
      simp [update, same, List.lookup_cons, apart, ih]

theorem lookup_update_of_ne {key other : String} (apart : other ≠ key) (initial : α)
    (change : α → α) (entries : List (String × α)) :
    (update key initial change entries).lookup other = entries.lookup other := by
  induction entries with
  | nil =>
    have unequal : (other == key) = false := by simpa using apart
    simp [update, List.lookup_cons, unequal]
  | cons entry rest ih =>
    obtain ⟨first, value⟩ := entry
    by_cases same : first = key
    · have unequal : (other == first) = false := by simpa [same] using apart
      simp [update, same, List.lookup_cons, same ▸ unequal]
    · by_cases here : other == first
      · simp [update, same, List.lookup_cons, here]
      · simp [update, same, List.lookup_cons, here, ih]

/-- Two changes at one key are one. -/
theorem update_update (key : String) (initial : α) (first second : α → α)
    (entries : List (String × α)) :
    update key initial second (update key initial first entries) =
      update key initial (fun value => second (first value)) entries := by
  induction entries with
  | nil => simp [update]
  | cons entry rest ih =>
    obtain ⟨other, value⟩ := entry
    by_cases same : other = key
    · simp [update, same]
    · simp [update, same, ih]

/-- A lookup finds nothing exactly where the key is not there. -/
theorem lookup_eq_none_iff {key : String} {entries : List (String × α)} :
    entries.lookup key = none ↔ key ∉ entries.map Prod.fst := by
  simp only [List.lookup_eq_none_iff, List.mem_map, bne_iff_ne, ne_eq, not_exists, not_and]
  exact forall₂_congr fun entry _ => not_congr eq_comm

/-- What a lookup finds is an entry. -/
theorem mem_of_lookup {key : String} {value : α} {entries : List (String × α)}
    (found : entries.lookup key = some value) : (key, value) ∈ entries := by
  obtain ⟨before, after, rfl, -⟩ := List.lookup_eq_some_iff.mp found
  simp

/-- With distinct keys a lookup finds the value of each entry. -/
theorem lookup_eq_some_iff {key : String} {value : α} {entries : List (String × α)}
    (distinct : (entries.map Prod.fst).Nodup) :
    entries.lookup key = some value ↔ (key, value) ∈ entries := by
  induction entries with
  | nil => simp
  | cons entry rest ih =>
    obtain ⟨other, first⟩ := entry
    obtain ⟨fresh, distinct⟩ := List.nodup_cons.mp distinct
    rw [List.lookup_cons, List.mem_cons]
    by_cases same : key = other
    · subst same
      have absent : (key, value) ∉ rest := fun among =>
        fresh (List.mem_map.mpr ⟨(key, value), among, rfl⟩)
      simp [absent, eq_comm]
    · have unequal : (key == other) = false := by simpa using same
      simp [unequal, same, ih distinct]

/-- With distinct keys the order of the entries does not matter to a lookup. -/
theorem lookup_eq_of_perm {entries others : List (String × α)} (perm : entries.Perm others)
    (distinct : (entries.map Prod.fst).Nodup) (key : String) :
    entries.lookup key = others.lookup key := by
  have distinctOthers : (others.map Prod.fst).Nodup := (perm.map Prod.fst).nodup distinct
  ext value
  rw [lookup_eq_some_iff distinct, lookup_eq_some_iff distinctOthers, perm.mem_iff]

/-- A lookup among changed values finds the changed value. -/
theorem lookup_map {β : Type} (change : String → α → β) (key : String)
    (entries : List (String × α)) :
    (entries.map fun (other, value) => (other, change other value)).lookup key =
      (entries.lookup key).map (change key) := by
  induction entries with
  | nil => rfl
  | cons entry rest ih =>
    obtain ⟨other, value⟩ := entry
    rw [List.map_cons, List.lookup_cons, List.lookup_cons]
    by_cases same : key = other
    · subst same
      simp
    · have unequal : (key == other) = false := by simpa using same
      simpa [unequal] using ih

/-- Where keys are distinct, a search by key finds the item of the key. -/
theorem find?_eq_some_iff {κ : Type} [BEq κ] [LawfulBEq κ] {keyOf : α → κ} {items : List α}
    (distinct : (items.map keyOf).Nodup) {key : κ} {item : α} :
    items.find? (keyOf · == key) = some item ↔ item ∈ items ∧ keyOf item = key := by
  induction items with
  | nil => simp
  | cons first rest ih =>
    obtain ⟨fresh, distinct⟩ := List.nodup_cons.mp distinct
    by_cases same : keyOf first = key
    · have absent : item ∈ rest → keyOf item ≠ key := fun among equal =>
        fresh (same ▸ equal ▸ List.mem_map_of_mem among)
      grind
    · grind

/-- A change at a new key adds an entry. -/
theorem update_of_not_mem {key : String} {entries : List (String × α)}
    (fresh : key ∉ entries.map Prod.fst) (initial : α) (change : α → α) :
    update key initial change entries = entries ++ [(key, change initial)] := by
  induction entries with
  | nil => rfl
  | cons entry rest ih =>
    obtain ⟨other, value⟩ := entry
    simp only [List.map_cons, List.mem_cons, not_or] at fresh
    rw [update, if_neg fun same => fresh.1 same.symm, ih fresh.2, List.cons_append]

/-- A change adds its key at the end, unless the key is there already. -/
theorem map_fst_update (key : String) (initial : α) (change : α → α)
    (entries : List (String × α)) :
    (update key initial change entries).map Prod.fst =
      if key ∈ entries.map Prod.fst then entries.map Prod.fst
      else entries.map Prod.fst ++ [key] := by
  induction entries with
  | nil => simp [update]
  | cons entry rest ih =>
    obtain ⟨other, value⟩ := entry
    by_cases same : other = key
    · simp [update, same]
    · have apart : key ≠ other := fun equal => same equal.symm
      simp only [update, if_neg same, List.map_cons, ih, List.mem_cons, apart, false_or]
      split <;> simp

end EntityAtlas.Keyed
