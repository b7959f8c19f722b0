import Mathlib.Data.List.Basic

/-! Pieces collected one by one up to a limit. Once the whole exceeds it nothing is kept, and nothing is taken any
more. -/

set_option autoImplicit false

namespace Collector

variable {τ : Type}

/-- Pieces that can be joined, of which a whole that does not fit fits with no addition. -/
structure Pieces (τ : Type) where
  empty : τ
  join : τ → τ → τ
  fits : τ → Bool
  empty_join : ∀ piece, join empty piece = piece
  join_empty : ∀ piece, join piece empty = piece
  join_assoc : ∀ first second third, join (join first second) third = join first (join second third)
  fits_empty : fits empty = true
  fits_of_join : ∀ first second, fits (join first second) = true → fits first = true

structure State (τ : Type) where
  content : τ
  overflowed : Bool
  deriving DecidableEq, Repr

variable (pieces : Pieces τ)

def add (state : State τ) (piece : τ) : State τ :=
  if state.overflowed then state
  else if pieces.fits (pieces.join state.content piece) then ⟨pieces.join state.content piece, false⟩
  else ⟨pieces.empty, true⟩

def whole (parts : List τ) : τ :=
  parts.foldr pieces.join pieces.empty

/-- What is left of a whole: all of it, or nothing. -/
def collected (content : τ) : State τ :=
  if pieces.fits content then ⟨content, false⟩ else ⟨pieces.empty, true⟩

variable {pieces}

theorem add_overflowed {state : State τ} (overflowed : state.overflowed = true) (piece : τ) :
    add pieces state piece = state :=
  if_pos overflowed

theorem foldl_overflowed {state : State τ} (overflowed : state.overflowed = true) (parts : List τ) :
    parts.foldl (add pieces) state = state := by
  induction parts with
  | nil => rfl
  | cons part rest ih => rw [List.foldl_cons, add_overflowed overflowed, ih]

theorem add_collected (content piece : τ) :
    add pieces (collected pieces content) piece = collected pieces (pieces.join content piece) := by
  unfold collected
  cases fitting : pieces.fits content with
  | true => rfl
  | false =>
    -- what did not fit fits with no addition
    have long : ¬ pieces.fits (pieces.join content piece) = true := fun fits => by
      rw [pieces.fits_of_join content piece fits] at fitting
      cases fitting
    rw [if_neg (by decide), if_neg long, add_overflowed rfl]

theorem foldl_collected (content : τ) (parts : List τ) :
    parts.foldl (add pieces) (collected pieces content) = collected pieces (pieces.join content (whole pieces parts)) := by
  induction parts generalizing content with
  | nil => rw [whole, List.foldr_nil, pieces.join_empty, List.foldl_nil]
  | cons part rest ih =>
    rw [List.foldl_cons, add_collected, ih, pieces.join_assoc]
    rfl

/-- Collecting piece by piece is collecting the whole. -/
theorem foldl_add (parts : List τ) :
    parts.foldl (add pieces) ⟨pieces.empty, false⟩ = collected pieces (whole pieces parts) := by
  have fresh : collected pieces pieces.empty = ⟨pieces.empty, false⟩ := if_pos pieces.fits_empty
  rw [← fresh, foldl_collected, pieces.empty_join]

theorem collected_overflowed {content : τ} :
    (collected pieces content).overflowed = true ↔ pieces.fits content = false := by
  unfold collected
  cases pieces.fits content <;> simp

theorem collected_content {content : τ} (fits : pieces.fits content = true) :
    (collected pieces content).content = content := by
  rw [collected, if_pos fits]

end Collector
