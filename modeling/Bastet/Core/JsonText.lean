import Bastet.Core.Json
import Bastet.Library.PrefixCode

/-! The compact text of a JSON value is read back one way only. -/

set_option autoImplicit false

namespace Bastet.Core

open Function PrefixCode

namespace Json

@[elab_as_elim]
theorem induct {motive : Json → Prop} (null : motive .null) (bool : ∀ value, motive (.bool value))
    (number : ∀ value, motive (.number value)) (string : ∀ value, motive (.string value))
    (array : ∀ values, (∀ value ∈ values, motive value) → motive (.array values))
    (object : ∀ fields, (∀ field ∈ fields, motive field.2) → motive (.object fields)) :
    (value : Json) → motive value
  | .null => null
  | .bool value => bool value
  | .number value => number value
  | .string value => string value
  | .array values => array values fun value _ => induct null bool number string array object value
  | .object fields => object fields fun field _ => induct null bool number string array object field.2
termination_by value => sizeOf value
decreasing_by
  · have smaller := List.sizeOf_lt_of_mem ‹value ∈ values›
    simp only [Json.array.sizeOf_spec]
    omega
  · obtain ⟨name, value⟩ := field
    have smaller := List.sizeOf_lt_of_mem ‹(name, value) ∈ fields›
    simp only [Prod.mk.sizeOf_spec, Json.object.sizeOf_spec] at smaller ⊢
    omega

section Characters

def hexValue (digit : Char) : Nat :=
  if digit.toNat < 58 then digit.toNat - 48 else digit.toNat - 87

theorem hexValue_hexDigit {value : Nat} (small : value < 16) : hexValue (hexDigit value) = value := by
  have each : ∀ value < 16, hexValue (hexDigit value) = value := by decide
  exact each value small

/-- What stands for a character after a backslash, with the rest of the text. -/
def readEscape (letter : Char) (rest : List Char) : Char × List Char :=
  if letter = 'b' then (Char.ofNat 0x08, rest)
  else if letter = 't' then (Char.ofNat 0x09, rest)
  else if letter = 'n' then (Char.ofNat 0x0a, rest)
  else if letter = 'f' then (Char.ofNat 0x0c, rest)
  else if letter = 'r' then (Char.ofNat 0x0d, rest)
  else if letter = 'u' then
    match rest with
    | _ :: _ :: high :: low :: rest => (Char.ofNat (hexValue high * 16 + hexValue low), rest)
    | _ => (letter, rest)
  else (letter, rest)

/-- The first character of an escaped text, with what follows it. -/
def readCharacter : List Char → Option (Char × List Char)
  | [] => none
  | [letter] => some (letter, [])
  | first :: letter :: rest => some (if first = '\\' then readEscape letter rest else (first, letter :: rest))

theorem readCharacter_escape (character : Char) (rest : List Char) :
    readCharacter (escapeCharacter character ++ rest) = some (character, rest) := by
  have code : ∀ value, character.toNat = value → Char.ofNat value = character := by
    rintro _ rfl
    exact Char.ofNat_toNat character
  unfold escapeCharacter
  split_ifs with quote backslash backspace tab newline feed carriage control
  · simp [readCharacter, readEscape, quote]
  · simp [readCharacter, readEscape, backslash]
  · simpa [readCharacter, readEscape] using code _ backspace
  · simpa [readCharacter, readEscape] using code _ tab
  · simpa [readCharacter, readEscape] using code _ newline
  · simpa [readCharacter, readEscape] using code _ feed
  · simpa [readCharacter, readEscape] using code _ carriage
  · have high : hexValue (hexDigit (character.toNat / 16)) = character.toNat / 16 := hexValue_hexDigit (by omega)
    have low := hexValue_hexDigit (Nat.mod_lt character.toNat (by omega : 0 < 16))
    have value : hexValue (hexDigit (character.toNat / 16)) * 16 + hexValue (hexDigit (character.toNat % 16)) =
        character.toNat := by
      rw [high, low]
      omega
    simpa [readCharacter, readEscape] using code _ value.symm
  · cases rest <;> simp [readCharacter, backslash]

theorem escape_readable : Readable escapeCharacter anything := by
  intro character other rest remaining _ _ same
  have read := congrArg readCharacter same
  simpa only [readCharacter_escape, Option.some.injEq, Prod.mk.injEq] using read

/-- No escaped character starts with a quote. -/
theorem escape_begins (character : Char) :
    ∃ symbol tail, escapeCharacter character = symbol :: tail ∧ symbol ≠ '"' := by
  unfold escapeCharacter
  split_ifs <;> simp_all

/-- No character of an escaped text is a control character. -/
theorem escape_printable (character : Char) : ∀ symbol ∈ escapeCharacter character, 0x20 ≤ symbol.toNat := by
  have digit : ∀ value < 16, 0x20 ≤ (hexDigit value).toNat := by decide
  unfold escapeCharacter
  split_ifs with quote backslash backspace tab newline feed carriage control
  all_goals simp only [List.forall_mem_cons, List.not_mem_nil, false_implies, implies_true, and_true]
  · decide
  · decide
  · decide
  · decide
  · decide
  · decide
  · decide
  · exact ⟨by decide, by decide, by decide, by decide, digit _ (by omega), digit _ (by omega)⟩
  · omega

theorem toList_quote (value : String) :
    (quote value).toList = '"' :: (value.toList.flatMap escapeCharacter ++ ['"']) := by
  simp [quote]

theorem quote_readable : Readable (fun value => (quote value).toList) anything := by
  intro value other rest remaining free unbound same
  simp only [toList_quote, List.cons_append, List.cons.injEq, true_and] at same
  obtain ⟨characters, rest⟩ := escape_readable.terminated escape_begins value.toList other.toList rest remaining
    free unbound same
  exact ⟨String.toList_inj.mp characters, rest⟩

/-- The characters of an escaped text up to its closing quote, which is the last character. -/
def readBody : Nat → List Char → Option (List Char)
  | 0, _ => none
  | fuel + 1, text =>
    if text = ['"'] then some []
    else match readCharacter text with
      | some (character, rest) => (readBody fuel rest).map (character :: ·)
      | none => none

/-- The string a JSON text quotes. -/
def unquote (text : String) : Option String :=
  match text.toList with
  | '"' :: body => (readBody body.length body).map String.ofList
  | _ => none

theorem readBody_escape (characters : List Char) {fuel : Nat} (enough : characters.length < fuel) :
    readBody fuel (characters.flatMap escapeCharacter ++ ['"']) = some characters := by
  induction characters generalizing fuel with
  | nil =>
    obtain ⟨fuel, rfl⟩ : ∃ rest, fuel = rest + 1 := ⟨fuel - 1, by simp at enough; omega⟩
    simp [readBody]
  | cons character rest ih =>
    obtain ⟨fuel, rfl⟩ : ∃ rest, fuel = rest + 1 := ⟨fuel - 1, by simp at enough; omega⟩
    obtain ⟨symbol, tail, code, differs⟩ := escape_begins character
    have opens : ¬(character :: rest).flatMap escapeCharacter ++ ['"'] = ['"'] := by
      simp [code, differs]
    have read := ih (show rest.length < fuel by simpa using enough)
    rw [readBody, if_neg opens, List.flatMap_cons, List.append_assoc, readCharacter_escape]
    simp [read]

theorem unquote_quote (value : String) : unquote (quote value) = some value := by
  have longer : ∀ characters : List Char,
      characters.length < (characters.flatMap escapeCharacter ++ ['"']).length := by
    intro characters
    induction characters with
    | nil => simp
    | cons character rest ih =>
      obtain ⟨symbol, tail, code, -⟩ := escape_begins character
      simp only [List.length_append, List.length_cons, List.length_nil, List.flatMap_cons, code] at ih ⊢
      omega
  simp only [unquote, toList_quote]
  rw [readBody_escape _ (longer _)]
  simp

end Characters

section Values

/-- The characters the text of a value can start with. -/
def Starts : Json → Char → Prop
  | .null, first => first = 'n'
  | .bool true, first => first = 't'
  | .bool false, first => first = 'f'
  | .number _, first => first.isDigit = true
  | .string _, first => first = '"'
  | .array _, first => first = '['
  | .object _, first => first = '\x7b'

/-- What may stand after a value. -/
def Delimiter (symbol : Char) : Prop :=
  symbol = ',' ∨ symbol = ']' ∨ symbol = '\x7d'

theorem toString_digits (value : Nat) :
    (toString value).toList ≠ [] ∧ ∀ digit ∈ (toString value).toList, digit.isDigit = true := by
  constructor
  · simp [Nat.toString_eq_repr, Nat.toList_repr]
  · intro digit member
    rw [Nat.toString_eq_repr, Nat.toList_repr] at member
    exact Nat.isDigit_of_mem_toDigits (by omega) (by omega) member

theorem toString_injective {value other : Nat} (same : (toString value).toList = (toString other).toList) :
    value = other := by
  rw [Nat.toString_eq_repr, Nat.toString_eq_repr, Nat.toList_repr, Nat.toList_repr] at same
  rw [← Nat.ofDigitChars_ten_toDigits (n := value), same, Nat.ofDigitChars_ten_toDigits]

theorem compact_starts (value : Json) :
    ∃ first tail, value.compact.toList = first :: tail ∧ value.Starts first ∧ first ≠ ']' := by
  cases value with
  | null => simp [compact, Starts]
  | bool value => cases value <;> simp [compact, Starts]
  | number value =>
    obtain ⟨some, digits⟩ := toString_digits value
    cases text : (toString value).toList with
    | nil => exact absurd text some
    | cons first tail =>
      have digit := digits first (text ▸ List.mem_cons_self)
      exact ⟨first, tail, by simpa [compact] using text, digit, by rintro rfl; simp at digit⟩
  | string value => simp [compact, toList_quote, Starts]
  | array values => simp [compact, Starts]
  | object fields => simp [compact, Starts]

theorem common_start {value other : Json} {rest remaining : List Char}
    (same : value.compact.toList ++ rest = other.compact.toList ++ remaining) :
    ∃ first, value.Starts first ∧ other.Starts first := by
  obtain ⟨first, tail, text, starts, -⟩ := compact_starts value
  obtain ⟨second, follows, code, opens, -⟩ := compact_starts other
  rw [text, code] at same
  simp only [List.cons_append, List.cons.injEq] at same
  exact ⟨first, starts, same.1 ▸ opens⟩

theorem toList_compactItems (values : List Json) :
    (compactItems values).toList = separated (fun value => value.compact.toList) ',' values := by
  induction values with
  | nil => simp [compactItems, separated]
  | cons value rest ih =>
    cases rest with
    | nil => simp [compactItems, separated]
    | cons next rest => simp [compactItems, separated_cons, ih]

/-- The text of a field. -/
def fieldText (field : String × Json) : List Char :=
  (quote field.1).toList ++ ':' :: field.2.compact.toList

theorem toList_compactFields (fields : List (String × Json)) :
    (compactFields fields).toList = separated fieldText ',' fields := by
  induction fields with
  | nil => simp [compactFields, separated]
  | cons field rest ih =>
    cases rest with
    | nil => simp [compactFields, separated, fieldText]
    | cons next rest => simp [compactFields, separated_cons, fieldText, ih]

theorem fieldText_readOff {field : String × Json}
    (read : ReadOff (fun value => value.compact.toList) (Next Delimiter) field.2) :
    ReadOff fieldText (Next Delimiter) field := by
  intro other rest remaining ends halts same
  simp only [fieldText, List.append_assoc, List.cons_append] at same
  obtain ⟨name, later⟩ := quote_readable field.1 other.1 _ _ trivial trivial same
  simp only [List.cons.injEq, true_and] at later
  obtain ⟨value, rest⟩ := read other.2 rest remaining ends halts later
  exact ⟨Prod.ext name value, rest⟩

theorem compact_readOff (value : Json) : ReadOff (fun value => value.compact.toList) (Next Delimiter) value := by
  induction value using induct with
  | null =>
    intro other rest remaining _ _ same
    obtain ⟨first, starts, opens⟩ := common_start same
    cases other with
    | null => simpa [compact] using same
    | bool value => cases value <;> simp_all [Starts]
    | _ => simp_all [Starts]
  | bool value =>
    intro other rest remaining _ _ same
    obtain ⟨first, starts, opens⟩ := common_start same
    cases other with
    | bool other => cases value <;> cases other <;> simp_all [Starts, compact]
    | _ => cases value <;> simp_all [Starts]
  | number value =>
    intro other rest remaining ends halts same
    obtain ⟨first, starts, opens⟩ := common_start same
    cases other with
    | number other =>
      have undigit : ∀ symbol, Delimiter symbol → ¬symbol.isDigit = true := by
        rintro _ (rfl | rfl | rfl) <;> decide
      obtain ⟨digits, rest⟩ := run_ends (toString_digits value).2 (toString_digits other).2
        (ends.mono undigit) (halts.mono undigit) (by simpa only [compact] using same)
      exact ⟨congrArg _ (toString_injective digits), rest⟩
    | bool other => cases other <;> simp_all [Starts]
    | _ => simp_all [Starts]
  | string value =>
    intro other rest remaining _ _ same
    obtain ⟨first, starts, opens⟩ := common_start same
    cases other with
    | string other =>
      obtain ⟨text, rest⟩ := quote_readable value other rest remaining trivial trivial (by simpa only [compact] using same)
      exact ⟨congrArg _ text, rest⟩
    | bool other => cases other <;> simp_all [Starts]
    | _ => simp_all [Starts]
  | array values each =>
    intro other rest remaining _ _ same
    obtain ⟨first, starts, opens⟩ := common_start same
    cases other with
    | array others =>
      have begins : ∀ value : Json, ∃ symbol tail, value.compact.toList = symbol :: tail ∧ symbol ≠ ']' := by
        intro value
        obtain ⟨symbol, tail, text, -, apart⟩ := compact_starts value
        exact ⟨symbol, tail, text, apart⟩
      have items := separated_readOff (.inl rfl) (.inr (.inl rfl)) (by decide) begins each
      obtain ⟨values, rest⟩ := items others rest remaining trivial trivial
        (by simpa [compact, toList_compactItems] using same)
      exact ⟨congrArg _ values, rest⟩
    | bool other => cases other <;> simp_all [Starts]
    | _ => simp_all [Starts]
  | object fields each =>
    intro other rest remaining _ _ same
    obtain ⟨first, starts, opens⟩ := common_start same
    cases other with
    | object others =>
      have begins : ∀ field, ∃ symbol tail, fieldText field = symbol :: tail ∧ symbol ≠ '\x7d' := by
        intro field
        simp [fieldText, toList_quote]
      have items := separated_readOff (.inl rfl) (.inr (.inr rfl)) (by decide) begins
        fun field member => fieldText_readOff (each field member)
      obtain ⟨fields, rest⟩ := items others rest remaining trivial trivial
        (by simpa [compact, toList_compactFields] using same)
      exact ⟨congrArg _ fields, rest⟩
    | bool other => cases other <;> simp_all [Starts]
    | _ => simp_all [Starts]

theorem compact_injective : Function.Injective compact := by
  intro value other same
  exact (compact_readOff value other [] [] next_nil next_nil (by simp only [same])).1

end Values

section Identifiers

/-- The digits of two numbers determine them. -/
theorem mod_pow_of_digits {base value other : Nat} (count : Nat)
    (same : ∀ place < count, value / base ^ place % base = other / base ^ place % base) :
    value % base ^ count = other % base ^ count := by
  induction count with
  | zero => simp [Nat.mod_one]
  | succ count ih =>
    rw [Nat.mod_pow_succ, Nat.mod_pow_succ, same count (by omega), ih fun place small => same place (by omega)]

theorem hexDigit_ne_dash (value : Nat) : hexDigit (value % 16) ≠ '-' := by
  have each : ∀ value < 16, hexDigit value ≠ '-' := by decide
  exact each _ (Nat.mod_lt _ (by omega))

/-- The hyphens aside, the text is the sequence of the digits. -/
theorem uuidText_digits (id : Uuid) :
    (uuidText id).toList.filter (· ≠ '-') =
      (List.range 32).map fun place => hexDigit (id.toNat / 16 ^ (31 - place) % 16) := by
  simp only [uuidText, String.toList_ofList, List.filter_flatMap, List.map_eq_flatMap]
  congr 1
  funext place
  split_ifs <;> simp [hexDigit_ne_dash]

/-- The text holds hexadecimal digits and hyphens only. -/
theorem uuidText_plain (id : Uuid) : ∀ symbol ∈ (uuidText id).toList, symbol ≠ '"' ∧ symbol ≠ '\n' := by
  have digit : ∀ value < 16, hexDigit value ≠ '"' ∧ hexDigit value ≠ '\n' := by decide
  intro symbol member
  simp only [uuidText, String.toList_ofList, List.mem_flatMap, List.mem_range] at member
  obtain ⟨place, -, member⟩ := member
  split_ifs at member
  · rcases List.mem_cons.mp member with rfl | rest
    · decide
    · rw [List.mem_singleton.mp rest]
      exact digit _ (Nat.mod_lt _ (by omega))
  · rw [List.mem_singleton.mp member]
    exact digit _ (Nat.mod_lt _ (by omega))

theorem uuidText_injective : Injective uuidText := by
  intro first second same
  have texts := congrArg (fun text => text.toList.filter (· ≠ '-')) same
  simp only [uuidText_digits, List.map_inj_left, List.mem_range] at texts
  have digits : ∀ place < 32, first.toNat / 16 ^ place % 16 = second.toNat / 16 ^ place % 16 := by
    intro place small
    have digit := congrArg hexValue (texts (31 - place) (by omega))
    rw [hexValue_hexDigit (Nat.mod_lt _ (by omega)), hexValue_hexDigit (Nat.mod_lt _ (by omega))] at digit
    rwa [show 31 - (31 - place) = place by omega] at digit
  have values := mod_pow_of_digits 32 digits
  rw [Nat.mod_eq_of_lt (show first.toNat < 16 ^ 32 from first.isLt),
    Nat.mod_eq_of_lt (show second.toNat < 16 ^ 32 from second.isLt)] at values
  exact BitVec.eq_of_toNat_eq values

theorem uuid_injective {kind : EntityKind} : Injective (@uuid kind) := by
  intro first second same
  simp only [uuid, Json.string.injEq] at same
  exact StableId.value_injective (uuidText_injective same)

end Identifiers

end Json

end Bastet.Core
