import Mathlib.Data.List.Basic
import Mathlib.Data.List.Infix

/-! How often a word occurs in a text, and texts that hold one record that has it. -/

set_option autoImplicit false

namespace Occurrences

variable {σ : Type} [DecidableEq σ]

/-- How often the word starts in the text. -/
def occurrences (word : List σ) : List σ → Nat
  | [] => 0
  | symbol :: rest => (if word <+: symbol :: rest then 1 else 0) + occurrences word rest

/-- How many symbols stand before the first occurrence. -/
def firstAt (word : List σ) : List σ → Nat
  | [] => 0
  | symbol :: rest => if word <+: symbol :: rest then 0 else firstAt word rest + 1

variable {word : List σ}

theorem occurrences_eq_zero (present : word ≠ []) {text : List σ} : occurrences word text = 0 ↔ ¬word <:+: text := by
  induction text with
  | nil => simp [occurrences, present]
  | cons symbol rest ih =>
    rw [occurrences, List.infix_cons_iff, not_or, ← ih]
    split <;> simp_all

theorem infix_of_occurs {text : List σ} (some : occurrences word text ≠ 0) : word <:+: text := by
  induction text with
  | nil => exact absurd rfl some
  | cons symbol rest ih =>
    by_cases starts : word <+: symbol :: rest
    · exact starts.isInfix
    · rw [occurrences, if_neg starts, Nat.zero_add] at some
      exact (ih some).trans (List.suffix_cons symbol rest).isInfix

omit [DecidableEq σ] in
/-- A symbol that is not in the word stops its occurrences. -/
theorem prefix_stopped (first rest : List σ) {stop : σ} (absent : stop ∉ word) :
    word <+: first ++ stop :: rest ↔ word <+: first := by
  constructor
  · intro starts
    by_cases short : word.length ≤ first.length
    · exact List.prefix_of_prefix_length_le starts (List.prefix_append _ _) short
    · have further : first ++ [stop] <+: word := by
        refine List.prefix_of_prefix_length_le ?_ starts ?_
        · exact ⟨rest, by simp⟩
        · simp only [List.length_append, List.length_singleton]
          omega
      exact absurd (further.subset (by simp)) absent
  · intro starts
    exact starts.trans (List.prefix_append _ _)

theorem occurrences_stopped (present : word ≠ []) {stop : σ} (absent : stop ∉ word) (first rest : List σ) :
    occurrences word (first ++ stop :: rest) = occurrences word first + occurrences word rest := by
  induction first with
  | nil =>
    have none : ¬word <+: stop :: rest := by
      rw [← List.nil_append (stop :: rest), prefix_stopped [] rest absent, List.prefix_nil]
      exact present
    simp [occurrences, none]
  | cons symbol tail ih =>
    have same : word <+: symbol :: (tail ++ stop :: rest) ↔ word <+: symbol :: tail :=
      prefix_stopped (symbol :: tail) rest absent
    simp only [List.cons_append, occurrences, same, ih]
    omega

theorem firstAt_stopped {first record inner : List σ} {mark : σ} (absent : mark ∉ word) (opens : record = mark :: inner)
    (none : occurrences word first = 0) : firstAt word (first ++ record) = first.length + firstAt word record := by
  induction first with
  | nil => simp
  | cons symbol tail ih =>
    have same : word <+: symbol :: (tail ++ record) ↔ word <+: symbol :: tail := by
      rw [opens]
      exact prefix_stopped (symbol :: tail) inner absent
    rw [occurrences, Nat.add_eq_zero_iff] at none
    have later : ¬word <+: symbol :: tail := by simpa using none.1
    simp only [List.cons_append, firstAt, same, if_neg later, ih none.2, List.length_cons]
    omega

theorem firstAt_append {text rest : List σ} (some : occurrences word text ≠ 0) :
    firstAt word (text ++ rest) = firstAt word text := by
  induction text with
  | nil => exact absurd rfl some
  | cons symbol tail ih =>
    simp only [List.cons_append, firstAt]
    by_cases starts : word <+: symbol :: tail
    · have begins : word <+: symbol :: (tail ++ rest) := starts.trans (List.prefix_append (symbol :: tail) rest)
      rw [if_pos starts, if_pos begins]
    · rw [occurrences, if_neg starts, Nat.zero_add] at some
      -- A word that occurs later in the text is no longer than it.
      have later : ¬word <+: symbol :: (tail ++ rest) := by
        intro begins
        refine starts (List.prefix_of_prefix_length_le begins (List.prefix_append (symbol :: tail) rest) ?_)
        have short := (infix_of_occurs some).length_le
        simp only [List.length_cons]
        omega
      rw [if_neg starts, if_neg later, ih some]

/-- A record with a symbol at either end that is not in the word. -/
structure Enclosed (word record : List σ) : Prop where
  opens : ∃ mark inner, mark ∉ word ∧ record = mark :: inner
  closes : ∃ inner mark, mark ∉ word ∧ record = inner ++ [mark]

theorem occurrences_opened (present : word ≠ []) {record : List σ} {mark : σ} {inner : List σ} (absent : mark ∉ word)
    (opens : record = mark :: inner) (first : List σ) :
    occurrences word (first ++ record) = occurrences word first + occurrences word record := by
  subst opens
  have alone := occurrences_stopped present absent [] inner
  rw [List.nil_append] at alone
  rw [occurrences_stopped present absent, alone]
  simp [occurrences]

theorem Enclosed.occurrences (present : word ≠ []) {record : List σ} (enclosed : Enclosed word record)
    (before after : List σ) :
    Occurrences.occurrences word (before ++ record ++ after) =
      Occurrences.occurrences word before + Occurrences.occurrences word record +
        Occurrences.occurrences word after := by
  obtain ⟨mark, inner, absent, opens⟩ := enclosed.opens
  obtain ⟨start, close, missing, closes⟩ := enclosed.closes
  have front := occurrences_opened present absent opens before
  have ending : Occurrences.occurrences word (start ++ [close]) = Occurrences.occurrences word start := by
    rw [occurrences_stopped present missing, Nat.add_eq_left]
    rfl
  have whole : before ++ record ++ after = (before ++ start) ++ close :: after := by
    rw [closes]
    simp
  have joined : before ++ record = (before ++ start) ++ [close] := by
    rw [closes]
    simp
  have cut : Occurrences.occurrences word (before ++ record) = Occurrences.occurrences word (before ++ start) := by
    rw [joined, occurrences_stopped present missing, Nat.add_eq_left]
    rfl
  rw [whole, occurrences_stopped present missing, ← cut, front]

/-- No occurrence of the word reaches from the text into a record cut off at its end. -/
theorem Enclosed.occurrences_part (present : word ≠ []) {part record : List σ} (enclosed : Enclosed word record)
    (starts : part <+: record) (text : List σ) : Occurrences.occurrences word (text ++ part) =
      Occurrences.occurrences word text + Occurrences.occurrences word part := by
  obtain ⟨mark, inner, absent, opens⟩ := enclosed.opens
  obtain ⟨remainder, whole⟩ := starts
  cases part with
  | nil => simp [Occurrences.occurrences]
  | cons symbol rest =>
    rw [opens] at whole
    rw [(List.cons.inj whole).1]
    exact occurrences_opened present absent rfl text

/-- The text has the record, and the word nowhere but in it. -/
def Single (word record text : List σ) : Prop :=
  record <:+: text ∧ occurrences word text = occurrences word record

theorem single_append (present : word ≠ []) {record text : List σ} (enclosed : Enclosed word record) :
    Single word record (text ++ record) ↔ occurrences word text = 0 := by
  have joined := enclosed.occurrences present text []
  rw [List.append_nil] at joined
  rw [Single, joined]
  have suffix : record <:+: text ++ record := (List.suffix_append _ _).isInfix
  simp only [suffix, true_and, occurrences]
  omega

/-- A record cut off at its end is no record, also not with what stands before it, and no other record of the same
length that has the word in the same place. -/
theorem not_single_torn (present : word ≠ []) {text part record other : List σ} (enclosed : Enclosed word record)
    (another : Enclosed word other) (named : occurrences word record ≠ 0)
    (place : firstAt word other = firstAt word record) (none : occurrences word text = 0) (starts : part <+: other)
    (torn : part.length < record.length) : ¬Single word record (text ++ part) := by
  rintro ⟨⟨before, after, split⟩, count⟩
  obtain ⟨mark, inner, absent, opens⟩ := enclosed.opens
  obtain ⟨first, rest, missing, begins⟩ := another.opens
  obtain ⟨remainder, whole⟩ := starts
  cases part with
  | nil =>
    rw [List.append_nil, none] at count
    exact named count.symm
  | cons symbol tail =>
    have same : symbol = first := by
      rw [begins] at whole
      exact (List.cons.inj whole).1
    subst same
    rw [occurrences_opened present missing rfl, none, Nat.zero_add] at count
    have kept : occurrences word (symbol :: tail) ≠ 0 := by rwa [count]
    have counted := enclosed.occurrences present before after
    rw [split, occurrences_opened present missing rfl, none, Nat.zero_add, count] at counted
    have clear : occurrences word before = 0 := by omega
    have here := firstAt_stopped missing (rfl : symbol :: tail = symbol :: tail) none
    have joined : record ++ after = mark :: (inner ++ after) := by
      rw [opens]
      rfl
    have there := firstAt_stopped absent joined clear
    have head : firstAt word (record ++ after) = firstAt word (symbol :: tail) := by
      rw [firstAt_append named, ← place, ← whole, firstAt_append kept]
    rw [head, ← List.append_assoc, split, here] at there
    have lengths := congrArg List.length split
    simp only [List.length_append] at lengths
    omega

end Occurrences
