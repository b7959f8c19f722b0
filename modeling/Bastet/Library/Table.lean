import Bastet.Library.Lookup

/-! Tables with a primary key: rows of which no two have the same key, their
insertion and update, and what a lookup finds afterwards. -/

set_option autoImplicit false

/-- The rows of a table, in the order of their insertion. -/
structure Table {α κ : Type} (key : α → κ) where
  rows : List α
  distinct : (rows.map key).Nodup

namespace Table

open Lookup

variable {α κ : Type} [DecidableEq κ] {key : α → κ}

omit [DecidableEq κ] in
theorem ext {first second : Table key} (same : first.rows = second.rows) : first = second := by
  cases first
  cases second
  simpa using same

def empty : Table key :=
  ⟨[], List.nodup_nil⟩

def find? (table : Table key) (wanted : κ) : Option α :=
  table.rows.find? fun row => key row = wanted

/-- A new row, unless its key is taken. -/
def insert (table : Table key) (row : α) : Option (Table key) :=
  if taken : key row ∈ table.rows.map key then none
  else some ⟨table.rows ++ [row], by
    rw [List.map_append, List.map_singleton, List.nodup_append]
    refine ⟨table.distinct, List.nodup_singleton _, ?_⟩
    intro used inside fresh same
    rw [List.mem_singleton] at same
    rintro rfl
    exact taken (same ▸ inside)⟩

/-- Change the row of a key, if there is one; the change keeps the key. -/
def update (table : Table key) (wanted : κ) (change : α → α) (kept : ∀ row, key (change row) = key row) :
    Table key :=
  ⟨modifyFirst key wanted change table.rows, by rw [map_modifyFirst kept]; exact table.distinct⟩

/-- Change every row. -/
def updateAll (table : Table key) (change : α → α) (kept : ∀ row, key (change row) = key row) : Table key :=
  ⟨table.rows.map change, by
    rw [List.map_map, show key ∘ change = key from funext kept]
    exact table.distinct⟩

variable {table after : Table key} {row : α} {wanted other : κ}

@[simp] theorem find?_empty : (empty : Table key).find? wanted = none := rfl

omit [DecidableEq κ] in
@[simp] theorem rows_empty : (empty : Table key).rows = [] := rfl

theorem find?_iff : table.find? wanted = some row ↔ row ∈ table.rows ∧ key row = wanted :=
  find_iff table.distinct

theorem find?_key (found : table.find? wanted = some row) : key row = wanted :=
  (find?_iff.mp found).2

theorem find?_mem (member : row ∈ table.rows) : table.find? (key row) = some row :=
  find?_iff.mpr ⟨member, rfl⟩

theorem mem_of_find? (found : table.find? wanted = some row) : row ∈ table.rows :=
  (find?_iff.mp found).1

theorem find?_none : table.find? wanted = none ↔ wanted ∉ table.rows.map key := by
  simp [find?]

theorem insert_iff : table.insert row = some after ↔ table.find? (key row) = none ∧ after.rows = table.rows ++ [row] := by
  unfold insert
  by_cases taken : key row ∈ table.rows.map key
  · simp [taken, find?_none]
  · rw [dif_neg taken, Option.some.injEq]
    constructor
    · rintro rfl
      exact ⟨find?_none.mpr taken, rfl⟩
    · rintro ⟨_, rows⟩
      exact ext rows.symm

theorem rows_insert (inserted : table.insert row = some after) : after.rows = table.rows ++ [row] :=
  (insert_iff.mp inserted).2

theorem insert_fresh (inserted : table.insert row = some after) : table.find? (key row) = none :=
  (insert_iff.mp inserted).1

theorem insert_of_fresh (fresh : table.find? (key row) = none) : ∃ after, table.insert row = some after :=
  ⟨_, dif_neg (find?_none.mp fresh)⟩

theorem mem_insert (inserted : table.insert row = some after) {item : α} :
    item ∈ after.rows ↔ item ∈ table.rows ∨ item = row := by
  rw [rows_insert inserted, List.mem_append, List.mem_singleton]

theorem find?_insert (inserted : table.insert row = some after) :
    after.find? wanted = if wanted = key row then some row else table.find? wanted := by
  obtain ⟨fresh, rows⟩ := insert_iff.mp inserted
  apply Option.ext
  intro item
  by_cases same : wanted = key row
  · subst same
    rw [if_pos rfl, find?_iff, rows, List.mem_append, List.mem_singleton, Option.some.injEq]
    constructor
    · rintro ⟨inside | rfl, equal⟩
      · rw [← equal, find?_mem inside] at fresh
        cases fresh
      · rfl
    · rintro rfl
      exact ⟨.inr rfl, rfl⟩
  · rw [if_neg same, find?_iff, find?_iff, rows, List.mem_append, List.mem_singleton]
    constructor
    · rintro ⟨inside | rfl, equal⟩
      · exact ⟨inside, equal⟩
      · exact absurd equal.symm same
    · rintro ⟨inside, equal⟩
      exact ⟨.inl inside, equal⟩

theorem find?_insert_self (inserted : table.insert row = some after) : after.find? (key row) = some row := by
  rw [find?_insert inserted, if_pos rfl]

/-- The keys in their order, and what each of them finds, make the table. -/
theorem ext_find? {first second : Table key} (keys : first.rows.map key = second.rows.map key)
    (found : ∀ wanted, first.find? wanted = second.find? wanted) : first = second :=
  ext (ext_find second.distinct keys found)

/-- Exactly one row has a key that is found. -/
theorem countP_key (found : table.find? wanted = some row) :
    (table.rows.countP fun other => key other = wanted) = 1 := by
  have counted : (table.rows.countP fun other => key other = wanted) = (table.rows.map key).count wanted := by
    rw [List.count, List.countP_map]
    exact List.countP_congr fun other _ => by simp
  rw [counted]
  exact List.count_eq_one_of_mem table.distinct (List.mem_map.mpr ⟨row, find?_iff.mp found⟩)

/-- A row stays where it was after an insertion. -/
theorem find?_insert_of_some (inserted : table.insert row = some after) {item : α}
    (found : table.find? wanted = some item) : after.find? wanted = some item := by
  rw [find?_insert inserted, if_neg ?_]
  · exact found
  · rintro rfl
    rw [insert_fresh inserted] at found
    cases found

section Update

variable {change : α → α} {kept : ∀ row, key (change row) = key row}

theorem rows_update :
    (table.update wanted change kept).rows = table.rows.map fun row => if key row = wanted then change row else row :=
  modifyFirst_eq_map table.distinct

theorem find?_update :
    (table.update wanted change kept).find? other =
      if other = wanted then (table.find? other).map change else table.find? other :=
  find_modifyFirst kept table.rows other

@[simp] theorem find?_update_self :
    (table.update wanted change kept).find? wanted = (table.find? wanted).map change := by
  rw [find?_update, if_pos rfl]

theorem find?_update_of_ne (apart : other ≠ wanted) :
    (table.update wanted change kept).find? other = table.find? other := by
  rw [find?_update, if_neg apart]

theorem mem_update {item : α} :
    item ∈ (table.update wanted change kept).rows ↔
      (item ∈ table.rows ∧ key item ≠ wanted) ∨ ∃ old ∈ table.rows, key old = wanted ∧ item = change old :=
  mem_modifyFirst_iff table.distinct

theorem map_update {β : Type} {value : α → β} (same : ∀ row, value (change row) = value row) :
    (table.update wanted change kept).rows.map value = table.rows.map value :=
  map_modifyFirst same table.rows

theorem keys_update (kept : ∀ row, key (change row) = key row) :
    (table.update wanted change kept).rows.map key = table.rows.map key :=
  map_update kept

@[simp] theorem find?_updateAll :
    (table.updateAll change kept).find? wanted = (table.find? wanted).map change := by
  simp only [find?, updateAll, List.find?_map, Function.comp_def, kept]

omit [DecidableEq κ] in
@[simp] theorem rows_updateAll : (table.updateAll change kept).rows = table.rows.map change := rfl

end Update

end Table
