import Mathlib.Algebra.Group.Nat.Defs
import Mathlib.Data.Finset.Card
import Mathlib.Data.List.Sort
import Mathlib.Logic.Relation

/-! Tables kept as lists of records with a key: the first record of a key is
found, and updated in place. Facts that need distinct keys say so. -/

set_option autoImplicit false

namespace Lookup

variable {α κ : Type} [DecidableEq κ] (key : α → κ)

/-- Change the first record of a key, leaving every other record where it is. -/
def modifyFirst (wanted : κ) (change : α → α) : List α → List α
  | [] => []
  | item :: rest => if key item = wanted then change item :: rest else item :: modifyFirst wanted change rest

/-- The value a map collected from the list holds for a key: the last one written. -/
def lastOf {β : Type} (value : α → β) (wanted : κ) (items : List α) : Option β :=
  (items.reverse.find? (fun item => key item = wanted)).map value

variable {key}

theorem find_some {items : List α} {wanted : κ} {item : α}
    (found : items.find? (fun item => key item = wanted) = some item) :
    item ∈ items ∧ key item = wanted :=
  ⟨List.mem_of_find?_eq_some found, by simpa using List.find?_some found⟩

theorem find_none {items : List α} {wanted : κ} :
    items.find? (fun item => key item = wanted) = none ↔ ∀ item ∈ items, key item ≠ wanted := by
  simp

theorem find_of_mem {items : List α} {item : α} (distinct : (items.map key).Nodup)
    (member : item ∈ items) : items.find? (fun other => key other = key item) = some item := by
  induction items with
  | nil => cases member
  | cons first rest ih =>
    simp only [List.map_cons, List.nodup_cons] at distinct
    rcases List.mem_cons.mp member with rfl | member
    · simp
    · have apart : key first ≠ key item := fun same =>
        distinct.1 (same ▸ List.mem_map_of_mem member)
      simpa [apart] using ih distinct.2 member

theorem find_iff {items : List α} {item : α} {wanted : κ} (distinct : (items.map key).Nodup) :
    items.find? (fun other => key other = wanted) = some item ↔ item ∈ items ∧ key item = wanted := by
  constructor
  · exact find_some
  · rintro ⟨member, rfl⟩
    exact find_of_mem distinct member

/-- The lookup of a key finds the item, and no other place of the list carries the key. -/
structure Resolves (key : α → κ) (items : List α) (wanted : κ) (item : α) : Prop where
  found : items.find? (fun item => key item = wanted) = some item
  only : items.filter (fun item => key item = wanted) = [item]

theorem resolves_of_mem {items : List α} {item : α} (distinct : (items.map key).Nodup) (member : item ∈ items) :
    Resolves key items (key item) item where
  found := find_of_mem distinct member
  only := by
    induction items with
    | nil => cases member
    | cons first rest ih =>
      simp only [List.map_cons, List.nodup_cons] at distinct
      rcases List.mem_cons.mp member with rfl | member
      · have absent : ∀ other ∈ rest, key other ≠ key item := fun other inside same =>
          distinct.1 (same ▸ List.mem_map_of_mem inside)
        simpa using absent
      · have apart : key first ≠ key item := fun same => distinct.1 (same ▸ List.mem_map_of_mem member)
        simpa [apart] using ih distinct.2 member

/-- A lookup that finds something finds the only one. -/
theorem resolves_of_find {items : List α} {wanted : κ} {item : α} (distinct : (items.map key).Nodup)
    (found : items.find? (fun item => key item = wanted) = some item) : Resolves key items wanted item := by
  obtain ⟨member, rfl⟩ := find_some found
  exact resolves_of_mem distinct member

/-- The keys in their order, and what each of them finds, make the list. -/
theorem ext_find {first second : List α} (distinct : (first.map key).Nodup) (keys : second.map key = first.map key)
    (found : ∀ wanted, second.find? (fun item => key item = wanted) = first.find? (fun item => key item = wanted)) :
    second = first := by
  have items : ∀ list : List α, (list.map key).Nodup →
      list.map some = (list.map key).map fun wanted => list.find? fun item => key item = wanted := by
    intro list once
    rw [List.map_map]
    exact List.map_congr_left fun item member => (find_of_mem once member).symm
  apply List.map_injective_iff.mpr (Option.some_injective α)
  rw [items second (keys ▸ distinct), items first distinct, keys]
  exact List.map_congr_left fun wanted _ => found wanted

theorem exists_of_mem_keys {items : List α} {wanted : κ} (member : wanted ∈ items.map key) :
    ∃ item, items.find? (fun item => key item = wanted) = some item := by
  obtain ⟨item, inside, rfl⟩ := List.mem_map.mp member
  cases found : items.find? (fun other => key other = key item) with
  | some other => exact ⟨other, rfl⟩
  | none => exact absurd rfl (find_none.mp found item inside)

theorem lastOf_eq_find {β : Type} {value : α → β} {items : List α} (distinct : (items.map key).Nodup)
    (wanted : κ) :
    lastOf key value wanted items = (items.find? (fun item => key item = wanted)).map value := by
  have reversed : (items.reverse.map key).Nodup := by
    rw [List.map_reverse]
    exact List.nodup_reverse.mpr distinct
  unfold lastOf
  congr 1
  apply Option.ext
  intro item
  rw [find_iff reversed, find_iff distinct, List.mem_reverse]

omit [DecidableEq κ] in
/-- A list has as many distinct values as elements when none repeats. -/
theorem card_toFinset_iff [DecidableEq α] {items : List α} :
    items.toFinset.card = items.length ↔ items.Nodup :=
  @Multiset.toFinset_card_eq_card_iff_nodup α _ items

section Modify

variable {change : α → α} {wanted : κ}

theorem modifyFirst_of_absent {items : List α} (absent : ∀ item ∈ items, key item ≠ wanted) :
    modifyFirst key wanted change items = items := by
  induction items with
  | nil => rfl
  | cons first rest ih =>
    have apart := absent first (List.mem_cons_self ..)
    simp only [modifyFirst, apart, if_false]
    rw [ih (fun item member => absent item (List.mem_cons_of_mem _ member))]

/-- With distinct keys the first record of a key is the only one. -/
theorem modifyFirst_eq_map {items : List α} (distinct : (items.map key).Nodup) :
    modifyFirst key wanted change items = items.map fun item => if key item = wanted then change item else item := by
  induction items with
  | nil => rfl
  | cons first rest ih =>
    simp only [List.map_cons, List.nodup_cons] at distinct
    by_cases same : key first = wanted
    · have others : ∀ item ∈ rest, (if key item = wanted then change item else item) = item := by
        intro item member
        refine if_neg fun equal => distinct.1 ?_
        rw [same, ← equal]
        exact List.mem_map_of_mem member
      rw [modifyFirst, if_pos same, List.map_cons, if_pos same, List.map_congr_left others, List.map_id']
    · rw [modifyFirst, if_neg same, List.map_cons, if_neg same, ih distinct.2]

theorem map_modifyFirst {β : Type} {value : α → β} (kept : ∀ item, value (change item) = value item)
    (items : List α) : (modifyFirst key wanted change items).map value = items.map value := by
  induction items with
  | nil => rfl
  | cons first rest ih =>
    by_cases same : key first = wanted
    · simp [modifyFirst, same, kept]
    · simp [modifyFirst, same, ih]

@[simp] theorem length_modifyFirst (items : List α) :
    (modifyFirst key wanted change items).length = items.length := by
  induction items with
  | nil => rfl
  | cons first rest ih =>
    by_cases same : key first = wanted
    · simp [modifyFirst, same]
    · simp [modifyFirst, same, ih]

theorem find_modifyFirst (kept : ∀ item, key (change item) = key item) (items : List α) (other : κ) :
    (modifyFirst key wanted change items).find? (fun item => key item = other) =
      if other = wanted then (items.find? (fun item => key item = other)).map change
      else items.find? (fun item => key item = other) := by
  induction items with
  | nil => simp [modifyFirst]
  | cons first rest ih =>
    by_cases same : key first = wanted
    · by_cases asked : other = wanted
      · subst asked
        simp [modifyFirst, same, kept]
      · have apart : key first ≠ other := fun equal => asked (equal ▸ same)
        simp [modifyFirst, same, kept, asked, Ne.symm asked]
    · by_cases asked : key first = other
      · have apart : other ≠ wanted := fun equal => same (asked.trans equal)
        simp [modifyFirst, asked, apart]
      · simp [modifyFirst, same, asked, ih]

/-- Changing a record so that it is no longer counted takes one from the count, if it was counted. -/
theorem countP_modifyFirst {counted : α → Bool} (dropped : ∀ item, counted (change item) = false)
    (items : List α) :
    (modifyFirst key wanted change items).countP counted +
        (if (items.find? fun item => key item = wanted).any counted then 1 else 0) =
      items.countP counted := by
  induction items with
  | nil => rfl
  | cons first rest ih =>
    by_cases same : key first = wanted
    · cases now : counted first <;> simp [modifyFirst, same, dropped, now]
    · cases now : counted first
      · simpa [modifyFirst, same, now] using ih
      · simp only [modifyFirst, same, if_false, List.countP_cons_of_pos now, List.find?_cons, decide_false]
        omega

/-- A record of the updated table is an old record of another key, or the changed one. -/
theorem mem_modifyFirst {items : List α} {item : α} (member : item ∈ modifyFirst key wanted change items) :
    item ∈ items ∨ ∃ old ∈ items, key old = wanted ∧ item = change old := by
  induction items with
  | nil => cases member
  | cons first rest ih =>
    by_cases same : key first = wanted
    · simp only [modifyFirst, same, if_true, List.mem_cons] at member
      rcases member with rfl | member
      · exact .inr ⟨first, List.mem_cons_self .., same, rfl⟩
      · exact .inl (List.mem_cons_of_mem _ member)
    · simp only [modifyFirst, same, if_false, List.mem_cons] at member
      rcases member with rfl | member
      · exact .inl (List.mem_cons_self ..)
      · rcases ih member with inside | ⟨old, inside, found⟩
        · exact .inl (List.mem_cons_of_mem _ inside)
        · exact .inr ⟨old, List.mem_cons_of_mem _ inside, found⟩

/-- A record stays in the updated table, or is the first of the key, and stays as it is changed. -/
theorem mem_of_mem_modifyFirst {items : List α} {item : α} (member : item ∈ items) :
    item ∈ modifyFirst key wanted change items ∨
      (items.find? fun other => key other = wanted) = some item ∧ change item ∈ modifyFirst key wanted change items := by
  induction items with
  | nil => cases member
  | cons first rest ih =>
    by_cases same : key first = wanted
    · simp only [modifyFirst, same, if_true, List.find?_cons, decide_true, List.mem_cons]
      rcases List.mem_cons.mp member with rfl | member
      · exact .inr ⟨rfl, .inl rfl⟩
      · exact .inl (.inr member)
    · simp only [modifyFirst, same, if_false, List.find?_cons, decide_false, List.mem_cons]
      rcases List.mem_cons.mp member with rfl | member
      · exact .inl (.inl rfl)
      · rcases ih member with kept | ⟨found, changed⟩
        · exact .inl (.inr kept)
        · exact .inr ⟨found, .inr changed⟩

/-- With distinct keys the membership of the updated table is exact. -/
theorem mem_modifyFirst_iff {items : List α}
    (keys : (items.map key).Nodup) {item : α} :
    item ∈ modifyFirst key wanted change items ↔
      (item ∈ items ∧ key item ≠ wanted) ∨ ∃ old ∈ items, key old = wanted ∧ item = change old := by
  induction items with
  | nil => simp [modifyFirst]
  | cons first rest ih =>
    simp only [List.map_cons, List.nodup_cons] at keys
    by_cases same : key first = wanted
    · have absent : ∀ other ∈ rest, key other ≠ wanted := fun other member equal =>
        keys.1 (by rw [same, ← equal]; exact List.mem_map_of_mem member)
      simp only [modifyFirst, same, if_true, List.mem_cons]
      constructor
      · rintro (rfl | member)
        · exact .inr ⟨first, .inl rfl, same, rfl⟩
        · exact .inl ⟨.inr member, absent item member⟩
      · rintro (⟨rfl | member, apart⟩ | ⟨old, rfl | member, found, rfl⟩)
        · exact absurd same apart
        · exact .inr member
        · exact .inl rfl
        · exact absurd found (absent old member)
    · simp only [modifyFirst, same, if_false, List.mem_cons, ih keys.2]
      constructor
      · rintro (rfl | ⟨member, apart⟩ | ⟨old, member, found⟩)
        · exact .inl ⟨.inl rfl, same⟩
        · exact .inl ⟨.inr member, apart⟩
        · exact .inr ⟨old, .inr member, found⟩
      · rintro (⟨rfl | member, apart⟩ | ⟨old, rfl | member, found, changed⟩)
        · exact .inl rfl
        · exact .inr (.inl ⟨member, apart⟩)
        · exact absurd found same
        · exact .inr (.inr ⟨old, member, found, changed⟩)

end Modify

end Lookup
