import Bastet.Library.Fallible
import Bastet.Library.Table

/-! Tables with a second key beside the first, and the copy of the rows of one table
into another, a row at a time. -/

set_option autoImplicit false

/-- Rows of which no two agree in one of the keys. -/
structure DoublyKeyed {α κ μ : Type} (key : α → κ) (other : α → μ) extends Table key where
  unique : (rows.map other).Nodup

namespace DoublyKeyed

open Fallible

variable {α κ μ : Type} {key : α → κ} {other : α → μ}

theorem ext {first second : DoublyKeyed key other} (same : first.rows = second.rows) : first = second := by
  cases first
  cases second
  congr
  exact Table.ext same

def empty : DoublyKeyed key other :=
  ⟨⟨[], List.nodup_nil⟩, List.nodup_nil⟩

@[simp] theorem rows_empty : (empty : DoublyKeyed key other).rows = [] := rfl

/-- No two of the rows agree in one of the keys. -/
def Fits (key : α → κ) (other : α → μ) (rows : List α) : Prop :=
  (rows.map key).Nodup ∧ (rows.map other).Nodup

theorem fits (table : DoublyKeyed key other) : Fits key other table.rows :=
  ⟨table.distinct, table.unique⟩

theorem Fits.shorter {rows more : List α} (whole : Fits key other (rows ++ more)) : Fits key other rows := by
  obtain ⟨keys, others⟩ := whole
  rw [List.map_append] at keys others
  exact ⟨keys.of_append_left, others.of_append_left⟩

/-- Rows whose keys are made of other rows' keys without confusing them. -/
theorem Fits.map {β ι ν : Type} {old : β → ι} {older : β → ν} {convert : β → α} {rows : List β}
    (fits : Fits old older rows) (keys : ∀ first ∈ rows, ∀ second ∈ rows, key (convert first) = key (convert second) → first = second)
    (others : ∀ first ∈ rows, ∀ second ∈ rows, other (convert first) = other (convert second) → first = second) :
    Fits key other (rows.map convert) := by
  have apart : rows.Nodup := List.Nodup.of_map _ fits.1
  rw [Fits, List.map_map, List.map_map]
  exact ⟨apart.map_on keys, apart.map_on others⟩

/-- Rows of another type with the same keys. -/
def convert {β : Type} {old : β → κ} {older : β → μ} (table : DoublyKeyed old older) (change : β → α)
    (keys : ∀ row, key (change row) = old row) (others : ∀ row, other (change row) = older row) : DoublyKeyed key other where
  rows := table.rows.map change
  distinct := by
    rw [List.map_map, show key ∘ change = old from funext keys]
    exact table.distinct
  unique := by
    rw [List.map_map, show other ∘ change = older from funext others]
    exact table.unique

variable [DecidableEq κ] [DecidableEq μ]

instance : DecidablePred (Fits key other) :=
  fun _ => inferInstanceAs (Decidable (_ ∧ _))

/-- A new row, unless one of its keys is taken. -/
def insert (table : DoublyKeyed key other) (row : α) : Option (DoublyKeyed key other) :=
  if fits : Fits key other (table.rows ++ [row]) then some ⟨⟨table.rows ++ [row], fits.1⟩, fits.2⟩
  else none

theorem insert_iff {table after : DoublyKeyed key other} {row : α} :
    table.insert row = some after ↔ after.rows = table.rows ++ [row] := by
  unfold insert
  constructor
  · intro inserted
    split at inserted
    · cases inserted
      rfl
    · cases inserted
  · intro rows
    have whole := after.fits
    rw [rows] at whole
    rw [dif_pos whole]
    exact congrArg some (ext rows.symm)

end DoublyKeyed

section Copying

open Fallible

variable {σ α ε : Type}

/-- Rows that fit together are inserted one after the other. -/
theorem foldEach_insert (insert : σ → α → Except ε σ) (rowsOf : σ → List α) (fits : List α → Prop)
    (accepts : ∀ state row, fits (rowsOf state ++ [row]) →
      ∃ after, insert state row = .ok after ∧ rowsOf after = rowsOf state ++ [row])
    (shorter : ∀ rows more, fits (rows ++ more) → fits rows) (rows : List α) {state : σ}
    (whole : fits (rowsOf state ++ rows)) :
    ∃ after, foldEach insert rows state = .ok after ∧ rowsOf after = rowsOf state ++ rows := by
  induction rows generalizing state with
  | nil => exact ⟨state, rfl, (List.append_nil _).symm⟩
  | cons row rest ih =>
    have regrouped : rowsOf state ++ row :: rest = (rowsOf state ++ [row]) ++ rest := by
      rw [List.append_assoc, List.singleton_append]
    rw [regrouped] at whole ⊢
    obtain ⟨middle, inserted, rows⟩ := accepts state row (shorter _ _ whole)
    rw [← rows] at whole
    obtain ⟨after, folded, all⟩ := ih whole
    refine ⟨after, ?_, ?_⟩
    · rw [foldEach, inserted, ok_bind]
      exact folded
    · rw [all, rows]

end Copying
