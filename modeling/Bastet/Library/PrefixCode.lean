import Mathlib.Data.List.Basic
import Mathlib.Logic.Function.Basic

/-! Codes that are read off the front of a longer word. What may follow a code says where it ends. -/

set_option autoImplicit false

namespace PrefixCode

variable {α σ : Type}

/-- A word that starts with the code of the item starts with the code of no other item. -/
def ReadOff (encode : α → List σ) (follows : List σ → Prop) (item : α) : Prop :=
  ∀ other rest remaining, follows rest → follows remaining →
    encode item ++ rest = encode other ++ remaining → item = other ∧ rest = remaining

def Readable (encode : α → List σ) (follows : List σ → Prop) : Prop :=
  ∀ item, ReadOff encode follows item

/-- Anything may follow the code. -/
def anything (_ : List σ) : Prop := True

/-- Nothing follows, or one of these symbols does. -/
def Next (marks : σ → Prop) (rest : List σ) : Prop :=
  ∀ symbol ∈ rest.head?, marks symbol

@[simp] theorem next_nil {marks : σ → Prop} : Next marks [] := by
  simp [Next]

@[simp] theorem next_cons {marks : σ → Prop} {symbol : σ} {rest : List σ} :
    Next marks (symbol :: rest) ↔ marks symbol := by
  simp [Next]

theorem Next.mono {marks others : σ → Prop} {rest : List σ} (next : Next marks rest)
    (each : ∀ symbol, marks symbol → others symbol) : Next others rest :=
  fun symbol member => each symbol (next symbol member)

variable {encode : α → List σ} {follows : List σ → Prop}

theorem Readable.injective (readable : Readable encode follows) (ends : follows []) : Function.Injective encode := by
  intro item other same
  exact (readable item other [] [] ends ends (by rw [same])).1

/-- A run of symbols of one kind ends at the first symbol of another kind. -/
theorem run_ends {kind : σ → Prop} {first second rest remaining : List σ} (run : ∀ symbol ∈ first, kind symbol)
    (other : ∀ symbol ∈ second, kind symbol) (stops : Next (fun symbol => ¬kind symbol) rest)
    (halts : Next (fun symbol => ¬kind symbol) remaining) (same : first ++ rest = second ++ remaining) :
    first = second ∧ rest = remaining := by
  induction first generalizing second with
  | nil =>
    cases second with
    | nil => exact ⟨rfl, same⟩
    | cons symbol tail =>
      simp only [List.nil_append, List.cons_append] at same
      rw [same, next_cons] at stops
      exact absurd (other symbol List.mem_cons_self) stops
  | cons symbol tail ih =>
    cases second with
    | nil =>
      simp only [List.nil_append, List.cons_append] at same
      rw [← same, next_cons] at halts
      exact absurd (run symbol List.mem_cons_self) halts
    | cons first tail =>
      simp only [List.cons_append, List.cons.injEq] at same
      obtain ⟨rfl, later⟩ := same
      obtain ⟨rfl, rest⟩ := ih (fun _ member => run _ (List.mem_cons_of_mem _ member))
        (fun _ member => other _ (List.mem_cons_of_mem _ member)) later
      exact ⟨rfl, rest⟩

/-- Codes one after the other, up to a mark that starts none of them. -/
theorem Readable.terminated {stop : σ} (each : Readable encode anything)
    (apart : ∀ item, ∃ symbol tail, encode item = symbol :: tail ∧ symbol ≠ stop) :
    Readable (fun items : List α => items.flatMap encode ++ [stop]) anything := by
  intro items
  induction items with
  | nil =>
    intro other rest remaining _ _ same
    cases other with
    | nil => simpa using same
    | cons item items =>
      obtain ⟨symbol, tail, code, differs⟩ := apart item
      simp only [List.flatMap_nil, List.nil_append, List.flatMap_cons, code, List.cons_append, List.cons.injEq] at same
      exact absurd same.1.symm differs
  | cons item items ih =>
    intro other rest remaining free unbound same
    cases other with
    | nil =>
      obtain ⟨symbol, tail, code, differs⟩ := apart item
      simp only [List.flatMap_nil, List.nil_append, List.flatMap_cons, code, List.cons_append, List.cons.injEq] at same
      exact absurd same.1 differs
    | cons next others =>
      simp only [List.flatMap_cons, List.append_assoc] at same
      obtain ⟨rfl, later⟩ := each item next _ _ trivial trivial same
      obtain ⟨rfl, rest⟩ := ih others rest remaining free unbound (by simpa only [List.append_assoc] using later)
      exact ⟨rfl, rest⟩

/-- As many codes one after the other. -/
theorem Readable.sequence (each : Readable encode anything) {items others : List α}
    (count : items.length = others.length) (same : items.flatMap encode = others.flatMap encode) : items = others := by
  induction items generalizing others with
  | nil => exact (List.length_eq_zero_iff.mp count.symm).symm
  | cons item items ih =>
    cases others with
    | nil => cases count
    | cons next others =>
      simp only [List.flatMap_cons] at same
      obtain ⟨rfl, later⟩ := each item next _ _ trivial trivial same
      have fewer : items.length = others.length := Nat.succ.inj count
      rw [ih fewer later]

theorem readable_of_width {width : Nat} (wide : ∀ item, (encode item).length = width)
    (injective : Function.Injective encode) : Readable encode anything := by
  intro item other rest remaining _ _ same
  obtain ⟨code, later⟩ := List.append_inj same ((wide item).trans (wide other).symm)
  exact ⟨injective code, later⟩

/-- A code of any length, after its length in a code of its own. -/
theorem readable_counted {γ : Type} {count : γ → List σ} {size : α → γ} (counts : Readable count anything)
    (sized : ∀ item other, size item = size other → (encode item).length = (encode other).length)
    (injective : Function.Injective encode) : Readable (fun item => count (size item) ++ encode item) anything := by
  intro item other rest remaining _ _ same
  simp only [List.append_assoc] at same
  obtain ⟨sizes, codes⟩ := counts _ _ _ _ trivial trivial same
  obtain ⟨code, later⟩ := List.append_inj codes (sized item other sizes)
  exact ⟨injective code, later⟩

section Separated

variable (encode)

/-- Codes with a separator between them. -/
def separated (separator : σ) : List α → List σ
  | [] => []
  | item :: rest => encode item ++ rest.flatMap fun item => separator :: encode item

variable {encode} {separator close : σ}

theorem separated_cons (item next : α) (rest : List α) :
    separated encode separator (item :: next :: rest) =
      encode item ++ separator :: separated encode separator (next :: rest) := by
  simp [separated]

/-- What follows an item of the list: a separator and the next one, or the closing mark. -/
theorem next_separated {marks : σ → Prop} (separates : marks separator) (closes : marks close) (items : List α)
    (rest : List σ) :
    Next marks ((items.flatMap fun item => separator :: encode item) ++ close :: rest) := by
  cases items <;> simp [separates, closes]

theorem remainder_readOff {marks : σ → Prop} (separates : marks separator) (closes : marks close)
    (apart : separator ≠ close) {items : List α} (each : ∀ item ∈ items, ReadOff encode (Next marks) item)
    {others : List α} {rest remaining : List σ}
    (same : (items.flatMap fun item => separator :: encode item) ++ close :: rest =
      (others.flatMap fun item => separator :: encode item) ++ close :: remaining) :
    items = others ∧ rest = remaining := by
  induction items generalizing others with
  | nil =>
    cases others with
    | nil => simpa using same
    | cons next others =>
      simp only [List.flatMap_nil, List.nil_append, List.flatMap_cons, List.cons_append, List.cons.injEq] at same
      exact absurd same.1.symm apart
  | cons item items ih =>
    cases others with
    | nil =>
      simp only [List.flatMap_nil, List.nil_append, List.flatMap_cons, List.cons_append, List.cons.injEq] at same
      exact absurd same.1 apart
    | cons next others =>
      simp only [List.flatMap_cons, List.cons_append, List.append_assoc, List.cons.injEq, true_and] at same
      obtain ⟨rfl, later⟩ := each item List.mem_cons_self next _ _
        (next_separated separates closes items rest) (next_separated separates closes others remaining) same
      obtain ⟨rfl, rest⟩ := ih (fun item member => each item (List.mem_cons_of_mem _ member)) later
      exact ⟨rfl, rest⟩

/-- A separated list with a closing mark, when no code starts with that mark. -/
theorem separated_readOff {marks : σ → Prop} (separates : marks separator) (closes : marks close)
    (apart : separator ≠ close) (begins : ∀ item, ∃ symbol tail, encode item = symbol :: tail ∧ symbol ≠ close)
    {items : List α} (each : ∀ item ∈ items, ReadOff encode (Next marks) item) :
    ReadOff (fun items => separated encode separator items ++ [close]) anything items := by
  intro others rest remaining _ _ same
  cases items with
  | nil =>
    cases others with
    | nil => simpa [separated] using same
    | cons next others =>
      obtain ⟨symbol, tail, code, differs⟩ := begins next
      simp only [separated, List.nil_append, code, List.cons_append, List.cons.injEq] at same
      exact absurd same.1.symm differs
  | cons item items =>
    cases others with
    | nil =>
      obtain ⟨symbol, tail, code, differs⟩ := begins item
      simp only [separated, List.nil_append, code, List.cons_append, List.cons.injEq] at same
      exact absurd same.1 differs
    | cons next others =>
      simp only [separated, List.append_assoc, List.cons_append, List.nil_append] at same
      obtain ⟨rfl, later⟩ := each item List.mem_cons_self next _ _
        (next_separated separates closes items rest) (next_separated separates closes others remaining) same
      obtain ⟨rfl, rest⟩ := remainder_readOff separates closes apart
        (fun item member => each item (List.mem_cons_of_mem _ member)) later
      exact ⟨rfl, rest⟩

end Separated

end PrefixCode
