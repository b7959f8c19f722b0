import Mathlib.Data.List.Basic

/-! Items of a command line, quoted by the rules of the C runtime: before a quote a run of backslashes counts half,
and an odd run makes the quote a literal one. Reading a quoted item back gives the item. -/

set_option autoImplicit false

namespace ArgumentQuoting

/-- The units that are read in their own way. -/
structure Marks (σ : Type) where
  quote : σ
  backslash : σ
  isBlank : σ → Bool
  apart : quote ≠ backslash
  quoteSolid : isBlank quote = false
  backslashSolid : isBlank backslash = false

variable {σ : Type} [DecidableEq σ] (marks : Marks σ)

/-- An item that is being read: inside quotes or not, after so many backslashes. -/
structure Item (σ : Type) where
  quoted : Bool
  slashes : Nat
  text : List σ
  deriving DecidableEq, Repr

/-- Backslashes before anything but a quote stand for themselves. -/
def Item.close (item : Item σ) : List σ :=
  item.text ++ List.replicate item.slashes marks.backslash

/-- The item with one more unit, unless the unit ends it. -/
def Item.take (item : Item σ) (unit : σ) : Option (Item σ) :=
  if unit = marks.backslash then some { item with slashes := item.slashes + 1 }
  else if unit = marks.quote then
    if item.slashes % 2 = 0 then
      some ⟨!item.quoted, 0, item.text ++ List.replicate (item.slashes / 2) marks.backslash⟩
    else some ⟨item.quoted, 0, item.text ++ List.replicate (item.slashes / 2) marks.backslash ++ [unit]⟩
  else if marks.isBlank unit ∧ item.quoted = false then none
  else some ⟨item.quoted, 0, item.close marks ++ [unit]⟩

/-- The items of a text, from inside an item or between two. -/
def items : Option (Item σ) → List σ → List (List σ)
  | none, [] => []
  | some item, [] => [item.close marks]
  | none, unit :: rest =>
    if marks.isBlank unit then items none rest else items (Item.take marks ⟨false, 0, []⟩ unit) rest
  | some item, unit :: rest =>
    match item.take marks unit with
    | none => item.close marks :: items none rest
    | some longer => items (some longer) rest

/-- The units of an item between its quotes, after backslashes that are not written yet. -/
def body (slashes : Nat) : List σ → List σ
  | [] => List.replicate (2 * slashes) marks.backslash
  | unit :: rest =>
    if unit = marks.backslash then body (slashes + 1) rest
    else if unit = marks.quote then
      List.replicate (2 * slashes + 1) marks.backslash ++ marks.quote :: body 0 rest
    else List.replicate slashes marks.backslash ++ unit :: body 0 rest

def quoted (item : List σ) : List σ :=
  marks.quote :: body marks 0 item ++ [marks.quote]

variable {marks}

theorem le_length_body (slashes : Nat) (item : List σ) : slashes ≤ (body marks slashes item).length := by
  induction item generalizing slashes with
  | nil => simp [body]; omega
  | cons unit rest ih =>
    rw [body]
    split_ifs
    · exact Nat.le_of_succ_le (ih (slashes + 1))
    · simp; omega
    · simp

theorem take_backslash (item : Item σ) :
    item.take marks marks.backslash = some { item with slashes := item.slashes + 1 } :=
  if_pos rfl

theorem items_backslashes (item : Item σ) (count : Nat) (rest : List σ) :
    items marks (some item) (List.replicate count marks.backslash ++ rest) =
      items marks (some { item with slashes := item.slashes + count }) rest := by
  induction count generalizing item with
  | zero => rfl
  | succ count ih =>
    rw [List.replicate_succ, List.cons_append, items, take_backslash]
    dsimp only
    rw [ih, Nat.add_assoc, Nat.add_comm 1 count]

/-- After an even run of backslashes a quote opens or closes a quotation. -/
theorem items_delimiter (isQuoted : Bool) (text : List σ) (half : Nat) (rest : List σ) :
    items marks (some ⟨isQuoted, 2 * half, text⟩) (marks.quote :: rest) =
      items marks (some ⟨!isQuoted, 0, text ++ List.replicate half marks.backslash⟩) rest := by
  have even : 2 * half % 2 = 0 := Nat.mul_mod_right 2 half
  have counted : 2 * half / 2 = half := Nat.mul_div_cancel_left half (by decide)
  rw [items, Item.take, if_neg marks.apart, if_pos rfl, if_pos even, counted]

/-- After an odd run it is a literal quote. -/
theorem items_literal (isQuoted : Bool) (text : List σ) (half : Nat) (rest : List σ) :
    items marks (some ⟨isQuoted, 2 * half + 1, text⟩) (marks.quote :: rest) =
      items marks (some ⟨isQuoted, 0, text ++ List.replicate half marks.backslash ++ [marks.quote]⟩) rest := by
  have odd : ¬(2 * half + 1) % 2 = 0 := by omega
  have counted : (2 * half + 1) / 2 = half := by omega
  rw [items, Item.take, if_neg marks.apart, if_pos rfl, if_neg odd, counted]

theorem items_other {unit : σ} (noBackslash : unit ≠ marks.backslash) (noQuote : unit ≠ marks.quote) (slashes : Nat)
    (text rest : List σ) :
    items marks (some ⟨true, slashes, text⟩) (unit :: rest) =
      items marks (some ⟨true, 0, text ++ List.replicate slashes marks.backslash ++ [unit]⟩) rest := by
  rw [items, Item.take, if_neg noBackslash, if_neg noQuote, if_neg (by simp)]
  rfl

/-- Reading a written body and its closing quote gives the item, after what was read before. -/
theorem items_body (slashes : Nat) (item text rest : List σ) :
    items marks (some ⟨true, 0, text⟩) (body marks slashes item ++ marks.quote :: rest) =
      items marks (some ⟨false, 0, text ++ List.replicate slashes marks.backslash ++ item⟩) rest := by
  induction item generalizing slashes text with
  | nil =>
    rw [body, items_backslashes, Nat.zero_add, items_delimiter, List.append_nil]
    rfl
  | cons unit units ih =>
    rw [body]
    split_ifs with isBackslash isQuote
    · subst isBackslash
      rw [ih, List.replicate_succ', List.append_assoc, List.append_assoc, List.append_assoc]
      rfl
    · subst isQuote
      rw [List.append_assoc, items_backslashes, Nat.zero_add, List.cons_append, items_literal, ih]
      simp
    · rw [List.append_assoc, items_backslashes, Nat.zero_add, List.cons_append,
        items_other isBackslash isQuote, ih]
      simp

theorem items_quoted (item rest : List σ) :
    items marks none (quoted marks item ++ rest) = items marks (some ⟨false, 0, item⟩) rest := by
  have opened : Item.take marks ⟨false, 0, []⟩ marks.quote = some ⟨true, 0, []⟩ := by
    simp [Item.take, marks.apart]
  rw [quoted, List.cons_append, List.cons_append, items, marks.quoteSolid, opened, List.append_assoc,
    List.singleton_append]
  exact items_body 0 item [] rest

/-- Items that are quoted one by one, each after a blank, are read back one by one. -/
theorem items_separated {blank : σ} (separates : marks.isBlank blank = true) (all : List (List σ)) :
    items marks none (all.flatMap fun item => blank :: quoted marks item) = all := by
  have blankOther : blank ≠ marks.backslash ∧ blank ≠ marks.quote := by
    constructor
    · rintro rfl
      rw [marks.backslashSolid] at separates
      cases separates
    · rintro rfl
      rw [marks.quoteSolid] at separates
      cases separates
  induction all with
  | nil => rfl
  | cons item rest ih =>
    have skipped : ∀ units, items marks none (blank :: units) = items marks none units := by
      intro units
      rw [items, if_pos separates]
    rw [List.flatMap_cons, List.cons_append, skipped, items_quoted]
    cases rest with
    | nil => simp [items, Item.close]
    | cons next others =>
      have ended : Item.take marks ⟨false, 0, item⟩ blank = none := by
        rw [Item.take, if_neg blankOther.1, if_neg blankOther.2, if_pos ⟨separates, rfl⟩]
      rw [List.flatMap_cons, List.cons_append, skipped] at ih
      rw [List.flatMap_cons, List.cons_append, items, ended]
      dsimp only
      rw [ih, Item.close, List.replicate_zero, List.append_nil]

end ArgumentQuoting
