import Bastet.Library.ArgumentQuoting
import Bastet.Library.Fallible
import Bastet.Library.KeyOrder
import Mathlib.Data.String.Basic

/-! The command line and the environment block of a native Windows launch, in UTF-16 units. -/

set_option autoImplicit false

namespace Bastet.Core

open Fallible

def maxCommandUnits : Nat := 32767
def maxEnvironmentUnits : Nat := 32767

inductive LaunchEncodingError where
  | invalid
  deriving DecidableEq, Repr

namespace WindowsLaunchEncoding

def usizeBound : Nat := 2 ^ 64

/-- A checked operation on lengths. -/
def checkedLength (length : Nat) : Except LaunchEncodingError Nat :=
  okOr (if length < usizeBound then some length else none) .invalid

/-- So many copies of a unit, unless they exceed the limit. -/
def append (output : List UInt16) (unit : UInt16) (count limit : Nat) : Except LaunchEncodingError (List UInt16) := do
  let length ← checkedLength (output.length + count)
  rejectIf (decide (limit < length)) .invalid
  return output ++ List.replicate count unit

/-- The backslashes to write before a unit that is none: a quote doubles them and adds one. -/
def slashCount (unit : UInt16) (slashes : Nat) : Except LaunchEncodingError Nat :=
  if unit = 34 then do
    let doubled ← checkedLength (slashes * 2)
    checkedLength (doubled + 1)
  else .ok slashes

/-- One unit of an argument, with the backslashes before it that are not written yet. -/
def appendUnit (state : List UInt16 × Nat) (unit : UInt16) : Except LaunchEncodingError (List UInt16 × Nat) :=
  if unit = 0 then .error .invalid
  else if unit = 92 then do
    let slashes ← checkedLength (state.2 + 1)
    return (state.1, slashes)
  else do
    let count ← slashCount unit state.2
    let output ← append state.1 92 count maxCommandUnits
    let output ← append output unit 1 maxCommandUnits
    return (output, 0)

def appendArgument (output : List UInt16) (argument : List UInt16) : Except LaunchEncodingError (List UInt16) := do
  let output ← append output 32 1 maxCommandUnits
  let output ← append output 34 1 maxCommandUnits
  let (output, slashes) ← foldEach appendUnit argument (output, 0)
  let doubled ← checkedLength (slashes * 2)
  let output ← append output 92 doubled maxCommandUnits
  append output 34 1 maxCommandUnits

def windowsCommandLine (executable : List UInt16) (arguments : List (List UInt16)) :
    Except LaunchEncodingError (List UInt16) := do
  rejectIf (executable.isEmpty || executable.any fun unit => unit == 0 || unit == 34) .invalid
  let output ← append [] 34 1 maxCommandUnits
  let output ← foldEach (fun output unit => append output unit 1 maxCommandUnits) executable output
  let output ← append output 34 1 maxCommandUnits
  let output ← foldEach appendArgument arguments output
  append output 0 1 maxCommandUnits

section CommandLine

open ArgumentQuoting

/-- The units that `CommandLineToArgvW` reads in their own way. -/
def argumentMarks : Marks UInt16 where
  quote := 34
  backslash := 92
  isBlank unit := unit == 32 || unit == 9
  apart := by decide
  quoteSolid := by decide
  backslashSolid := by decide

/-- The rules of `CommandLineToArgvW`: the first item ends at its second quote, whatever it holds. -/
def parseCommandLine : List UInt16 → Option (List UInt16 × List (List UInt16))
  | [] => none
  | unit :: rest =>
    if unit = argumentMarks.quote then
      some (rest.takeWhile (· ≠ argumentMarks.quote),
        items argumentMarks none (rest.dropWhile (· ≠ argumentMarks.quote)).tail)
    else
      some ((unit :: rest).takeWhile fun unit => !argumentMarks.isBlank unit,
        items argumentMarks none ((unit :: rest).dropWhile fun unit => !argumentMarks.isBlank unit))

/-- The text of a command line. -/
def commandText (executable : List UInt16) (arguments : List (List UInt16)) : List UInt16 :=
  34 :: executable ++ [34] ++ arguments.flatMap fun argument => 32 :: quoted argumentMarks argument

theorem checkedLength_ok {length result : Nat} :
    checkedLength length = .ok result ↔ length < usizeBound ∧ result = length := by
  unfold checkedLength
  split_ifs with below
  · simp [okOr, below, eq_comm]
  · simp [okOr, below]

theorem append_ok {output result : List UInt16} {unit : UInt16} {count limit : Nat} (small : limit < usizeBound) :
    append output unit count limit = .ok result ↔
      result = output ++ List.replicate count unit ∧ result.length ≤ limit := by
  unfold append
  simp only [bind_ok, checkedLength_ok, rejectIf_ok, exists_unit, decide_eq_false_iff_not, not_lt, pure_ok]
  constructor
  · rintro ⟨_, ⟨-, rfl⟩, within, rfl⟩
    exact ⟨rfl, by simpa using within⟩
  · rintro ⟨rfl, within⟩
    rw [List.length_append, List.length_replicate] at within
    exact ⟨_, ⟨Nat.lt_of_le_of_lt within small, rfl⟩, within, rfl⟩

/-- Codes appended one after the other, within a limit. -/
theorem foldEach_append_ok {α : Type} {step : List UInt16 → α → Except LaunchEncodingError (List UInt16)}
    {code : α → List UInt16} {fits : α → Prop} {limit : Nat}
    (each : ∀ output item result,
      step output item = .ok result ↔ fits item ∧ result = output ++ code item ∧ result.length ≤ limit)
    {items : List α} {output result : List UInt16} (within : output.length ≤ limit) :
    foldEach step items output = .ok result ↔
      (∀ item ∈ items, fits item) ∧ result = output ++ items.flatMap code ∧ result.length ≤ limit := by
  induction items generalizing output with
  | nil =>
    simp only [foldEach, Except.ok.injEq, List.flatMap_nil, List.append_nil]
    constructor
    · rintro rfl
      exact ⟨by simp, rfl, within⟩
    · rintro ⟨-, rfl, -⟩
      rfl
  | cons first rest ih =>
    simp only [foldEach, bind_ok, List.forall_mem_cons, List.flatMap_cons]
    constructor
    · rintro ⟨next, stepped, remaining⟩
      obtain ⟨fits, rfl, short⟩ := (each _ _ _).mp stepped
      obtain ⟨others, rfl, bounded⟩ := (ih short).mp remaining
      exact ⟨⟨fits, others⟩, List.append_assoc .., bounded⟩
    · rintro ⟨⟨fits, others⟩, rfl, bounded⟩
      have short : (output ++ code first).length ≤ limit := by
        simp only [List.length_append] at bounded ⊢
        omega
      refine ⟨_, (each _ _ _).mpr ⟨fits, rfl, short⟩, (ih short).mpr ⟨others, ?_, bounded⟩⟩
      rw [List.append_assoc]

theorem maxCommandUnits_small : maxCommandUnits < usizeBound := by
  decide

def slashesBefore (unit : UInt16) (slashes : Nat) : Nat :=
  if unit = 34 then 2 * slashes + 1 else slashes

theorem slashCount_ok {unit : UInt16} {slashes count : Nat} :
    slashCount unit slashes = .ok count ↔
      count = slashesBefore unit slashes ∧ (unit = 34 → count < usizeBound) := by
  unfold slashCount slashesBefore
  split_ifs with isQuote
  · simp only [bind_ok, checkedLength_ok]
    constructor
    · rintro ⟨_, ⟨-, rfl⟩, below, rfl⟩
      exact ⟨by omega, fun _ => below⟩
    · rintro ⟨rfl, below⟩
      have fits := below isQuote
      exact ⟨_, ⟨by omega, rfl⟩, by omega, by omega⟩
  · simp only [Except.ok.injEq]
    exact ⟨fun same => ⟨same.symm, fun quote => absurd quote isQuote⟩, fun same => same.1.symm⟩

theorem appendUnit_ok {output : List UInt16} {slashes : Nat} {unit : UInt16} (solid : unit ≠ 0) (other : unit ≠ 92)
    {after : List UInt16 × Nat} :
    appendUnit (output, slashes) unit = .ok after ↔
      after = (output ++ List.replicate (slashesBefore unit slashes) 92 ++ [unit], 0) ∧
        after.1.length ≤ maxCommandUnits := by
  rw [appendUnit, if_neg solid, if_neg other]
  simp only [bind_ok, slashCount_ok, append_ok maxCommandUnits_small, pure_ok]
  constructor
  · rintro ⟨_, ⟨rfl, -⟩, _, ⟨rfl, -⟩, _, ⟨rfl, short⟩, rfl⟩
    exact ⟨rfl, short⟩
  · rintro ⟨rfl, short⟩
    have small := maxCommandUnits_small
    simp only [List.length_append, List.length_replicate, List.length_singleton] at short
    refine ⟨_, ⟨rfl, fun _ => by omega⟩, _, ⟨rfl, ?_⟩, _, ⟨rfl, ?_⟩, rfl⟩
    · rw [List.length_append, List.length_replicate]
      omega
    · simp only [List.length_append, List.length_replicate]
      omega

theorem appendUnit_backslash {output : List UInt16} {slashes : Nat} {after : List UInt16 × Nat} :
    appendUnit (output, slashes) 92 = .ok after ↔ slashes + 1 < usizeBound ∧ after = (output, slashes + 1) := by
  rw [appendUnit, if_neg (by decide), if_pos rfl]
  simp only [bind_ok, checkedLength_ok, pure_ok]
  constructor
  · rintro ⟨_, ⟨below, rfl⟩, rfl⟩
    exact ⟨below, rfl⟩
  · rintro ⟨below, rfl⟩
    exact ⟨_, ⟨below, rfl⟩, rfl⟩

theorem body_other {unit : UInt16} (other : unit ≠ 92) (slashes : Nat) (rest : List UInt16) :
    body argumentMarks slashes (unit :: rest) =
      List.replicate (slashesBefore unit slashes) 92 ++ unit :: body argumentMarks 0 rest := by
  have noBackslash : unit ≠ argumentMarks.backslash := other
  rw [body, if_neg noBackslash, slashesBefore]
  split_ifs with isQuote isMark isMark
  · rw [isQuote]
    rfl
  · exact absurd isQuote isMark
  · exact absurd isMark isQuote
  · rfl

/-- What is left to write of an argument, from inside it. -/
def argumentRest (argument : List UInt16) (state : List UInt16 × Nat) :
    Except LaunchEncodingError (List UInt16) := do
  let (output, slashes) ← foldEach appendUnit argument state
  let doubled ← checkedLength (slashes * 2)
  let output ← append output 92 doubled maxCommandUnits
  append output 34 1 maxCommandUnits

theorem argumentRest_cons {unit : UInt16} {rest : List UInt16} {state : List UInt16 × Nat} {result : List UInt16} :
    argumentRest (unit :: rest) state = .ok result ↔
      ∃ after, appendUnit state unit = .ok after ∧ argumentRest rest after = .ok result := by
  unfold argumentRest
  simp only [foldEach, bind_ok]
  constructor
  · rintro ⟨last, ⟨after, stepped, others⟩, ends⟩
    exact ⟨after, stepped, last, others, ends⟩
  · rintro ⟨after, stepped, last, others, ends⟩
    exact ⟨last, ⟨after, stepped, others⟩, ends⟩

theorem argumentRest_ok {argument output result : List UInt16} {slashes : Nat} :
    argumentRest argument (output, slashes) = .ok result ↔
      0 ∉ argument ∧ result = output ++ body argumentMarks slashes argument ++ [34] ∧
        result.length ≤ maxCommandUnits := by
  have small := maxCommandUnits_small
  induction argument generalizing output slashes with
  | nil =>
    unfold argumentRest
    simp only [foldEach, ok_bind, bind_ok, checkedLength_ok, append_ok small, body]
    constructor
    · rintro ⟨_, ⟨-, rfl⟩, _, ⟨rfl, -⟩, rfl, short⟩
      exact ⟨by simp, by rw [Nat.mul_comm]; rfl, short⟩
    · rintro ⟨-, rfl, short⟩
      simp only [List.length_append, List.length_replicate, List.length_singleton] at short
      refine ⟨_, ⟨by omega, rfl⟩, _, ⟨rfl, ?_⟩, ?_, ?_⟩
      · rw [List.length_append, List.length_replicate]
        omega
      · rw [Nat.mul_comm]
        rfl
      · simp only [List.length_append, List.length_replicate, List.length_singleton]
        exact short
  | cons unit rest ih =>
    rw [argumentRest_cons]
    by_cases isNul : unit = 0
    · subst isNul
      simp [appendUnit]
    by_cases isBackslash : unit = 92
    · subst isBackslash
      have written : body argumentMarks slashes (92 :: rest) = body argumentMarks (slashes + 1) rest := if_pos rfl
      have counts : slashes + 1 ≤ (body argumentMarks (slashes + 1) rest).length := le_length_body _ _
      simp only [appendUnit_backslash, written]
      constructor
      · rintro ⟨_, ⟨-, rfl⟩, ends⟩
        obtain ⟨clean, rest⟩ := ih.mp ends
        exact ⟨by simp [clean], rest⟩
      · rintro ⟨clean, rfl, short⟩
        have below : slashes + 1 < usizeBound := by
          simp only [List.length_append, List.length_singleton] at short
          omega
        exact ⟨_, ⟨below, rfl⟩, ih.mpr ⟨by simpa using clean, rfl, short⟩⟩
    · simp only [appendUnit_ok isNul isBackslash, body_other isBackslash]
      constructor
      · rintro ⟨_, ⟨rfl, -⟩, ends⟩
        obtain ⟨clean, rfl, short⟩ := ih.mp ends
        exact ⟨by simp [clean, Ne.symm isNul], by simp, short⟩
      · rintro ⟨clean, rfl, short⟩
        refine ⟨_, ⟨rfl, ?_⟩, ih.mpr ⟨?_, by simp, short⟩⟩
        · simp only [List.length_append, List.length_cons, List.length_replicate] at short ⊢
          simp only [List.length_nil]
          omega
        · simp only [List.mem_cons, not_or] at clean
          exact clean.2

theorem appendArgument_ok (output argument result : List UInt16) :
    appendArgument output argument = .ok result ↔
      0 ∉ argument ∧ result = output ++ 32 :: quoted argumentMarks argument ∧ result.length ≤ maxCommandUnits := by
  have unfolded : appendArgument output argument = .ok result ↔
      ∃ spaced, append output 32 1 maxCommandUnits = .ok spaced ∧ ∃ opened,
        append spaced 34 1 maxCommandUnits = .ok opened ∧ argumentRest argument (opened, 0) = .ok result := by
    unfold appendArgument argumentRest
    simp only [bind_ok]
  have written : ∀ before : List UInt16, before ++ [32] ++ [34] ++ body argumentMarks 0 argument ++ [34] =
      before ++ 32 :: quoted argumentMarks argument := by
    intro before
    rw [quoted]
    simp only [List.append_assoc, List.cons_append, List.nil_append]
    rfl
  simp only [unfolded, append_ok maxCommandUnits_small, argumentRest_ok, List.replicate_one]
  constructor
  · rintro ⟨_, ⟨rfl, -⟩, _, ⟨rfl, -⟩, clean, rfl, short⟩
    exact ⟨clean, written output, short⟩
  · rintro ⟨clean, rfl, short⟩
    rw [← written output] at short ⊢
    simp only [List.length_append, List.length_singleton] at short
    refine ⟨_, ⟨rfl, ?_⟩, _, ⟨rfl, ?_⟩, clean, rfl, ?_⟩
    all_goals
      simp only [List.length_append, List.length_singleton]
      omega

/-- The command line is written exactly when it can be, and it is the text with its terminator. -/
theorem windowsCommandLine_ok {executable line : List UInt16} {arguments : List (List UInt16)} :
    windowsCommandLine executable arguments = .ok line ↔
      (executable ≠ [] ∧ 0 ∉ executable ∧ 34 ∉ executable) ∧ (∀ argument ∈ arguments, 0 ∉ argument) ∧
        line = commandText executable arguments ++ [0] ∧ line.length ≤ maxCommandUnits := by
  have small := maxCommandUnits_small
  have named : (executable.isEmpty || executable.any fun unit => unit == 0 || unit == 34) = false ↔
      executable ≠ [] ∧ 0 ∉ executable ∧ 34 ∉ executable := by
    rw [Bool.or_eq_false_iff, List.isEmpty_eq_false_iff, List.any_eq_false]
    refine and_congr_right fun _ => ⟨fun each => ⟨fun member => ?_, fun member => ?_⟩, fun both unit member => ?_⟩
    · exact each 0 member rfl
    · exact each 34 member rfl
    · rw [Bool.or_eq_true, beq_iff_eq, beq_iff_eq]
      rintro (rfl | rfl)
      · exact both.1 member
      · exact both.2 member
  have units : ∀ (output : List UInt16) (unit : UInt16) (result : List UInt16),
      append output unit 1 maxCommandUnits = .ok result ↔
        True ∧ result = output ++ [unit] ∧ result.length ≤ maxCommandUnits := by
    intro output unit result
    rw [append_ok small, true_and]
    rfl
  unfold windowsCommandLine
  simp only [bind_ok, exists_unit, rejectIf_ok, named, units, true_and, List.nil_append]
  constructor
  · rintro ⟨valid, _, ⟨rfl, opened⟩, _, copied, _, ⟨rfl, closed⟩, _, written, rfl, short⟩
    obtain ⟨-, rfl, -⟩ := (foldEach_append_ok units opened).mp copied
    obtain ⟨clean, rfl, -⟩ := (foldEach_append_ok appendArgument_ok closed).mp written
    refine ⟨valid, clean, ?_, short⟩
    simp [commandText]
  · rintro ⟨valid, clean, rfl, short⟩
    have text : commandText executable arguments = [34] ++ executable.flatMap (fun unit => [unit]) ++ [34] ++
        arguments.flatMap fun argument => 32 :: quoted argumentMarks argument := by
      simp [commandText]
    rw [text, List.length_append, List.length_append, List.length_append, List.length_append] at short
    have opened : [(34 : UInt16)].length ≤ maxCommandUnits := by omega
    refine ⟨valid, _, ⟨rfl, opened⟩, _, (foldEach_append_ok units opened).mpr ⟨fun _ _ => trivial, rfl, ?_⟩,
      _, ⟨rfl, ?_⟩, _, (foldEach_append_ok appendArgument_ok ?_).mpr ⟨clean, rfl, ?_⟩, by rw [text], ?_⟩
    all_goals
      simp only [text, List.length_append]
      omega

theorem parse_commandText {executable : List UInt16} (unquoted : 34 ∉ executable) (arguments : List (List UInt16)) :
    parseCommandLine (commandText executable arguments) = some (executable, arguments) := by
  have plain : ∀ unit ∈ executable, decide (unit ≠ argumentMarks.quote) = true := by
    intro unit member
    rw [decide_eq_true_eq]
    rintro rfl
    exact unquoted member
  have stops : decide ((34 : UInt16) ≠ argumentMarks.quote) = false := by decide
  have read : items argumentMarks none (arguments.flatMap fun item => 32 :: quoted argumentMarks item) = arguments :=
    items_separated rfl arguments
  rw [commandText, List.append_assoc, List.cons_append, parseCommandLine,
    if_pos (show 34 = argumentMarks.quote from rfl), List.singleton_append,
    List.takeWhile_append_of_pos plain, List.dropWhile_append_of_pos plain,
    List.takeWhile_cons_of_neg (by rw [stops]; exact Bool.false_ne_true),
    List.dropWhile_cons_of_neg (by rw [stops]; exact Bool.false_ne_true), List.append_nil, List.tail_cons, read]

end CommandLine

/-- A command line fails exactly when a part of it cannot be written or it gets too long, and what is written is read
back as it was given. -/
theorem command_lines_round_trip (executable : List UInt16) (arguments : List (List UInt16)) :
    ((∀ line, windowsCommandLine executable arguments ≠ .ok line) ↔
      executable = [] ∨ 0 ∈ executable ∨ 34 ∈ executable ∨ (∃ argument ∈ arguments, 0 ∈ argument) ∨
        maxCommandUnits < (commandText executable arguments ++ [0]).length) ∧
    ∀ line, windowsCommandLine executable arguments = .ok line →
      line = commandText executable arguments ++ [0] ∧
        parseCommandLine line.dropLast = some (executable, arguments) := by
  constructor
  · simp only [ne_eq, windowsCommandLine_ok]
    constructor
    · intro refused
      by_contra fine
      simp only [not_or, not_exists, not_and, not_lt] at fine
      obtain ⟨named, noNul, noQuote, clean, short⟩ := fine
      exact refused _ ⟨⟨named, noNul, noQuote⟩, clean, rfl, short⟩
    · rintro fails line ⟨⟨named, noNul, noQuote⟩, clean, rfl, short⟩
      rcases fails with empty | nul | quote | ⟨argument, member, nul⟩ | long
      · exact named empty
      · exact noNul nul
      · exact noQuote quote
      · exact clean argument member nul
      · exact Nat.not_lt.mpr short long
  · intro line written
    obtain ⟨⟨-, -, unquoted⟩, -, rfl, -⟩ := windowsCommandLine_ok.mp written
    exact ⟨rfl, by rw [List.dropLast_concat, parse_commandText unquoted]⟩

section Environment

/-- `str::to_ascii_uppercase`. -/
def asciiUppercase (text : String) : String :=
  text.map Char.toUpper

/-- `str::eq_ignore_ascii_case`. -/
def eqIgnoreAsciiCase (left right : String) : Bool :=
  left.map Char.toLower == right.map Char.toLower

/-- `str::encode_utf16`. -/
def encodeUtf16 (text : String) : List UInt16 :=
  text.toList.flatMap fun symbol =>
    if symbol.toNat < 0x10000 then [UInt16.ofNat symbol.toNat]
    else [UInt16.ofNat (0xD800 + (symbol.toNat - 0x10000) / 0x400),
      UInt16.ofNat (0xDC00 + (symbol.toNat - 0x10000) % 0x400)]

/-- The symbols of a key. -/
def isKeySymbol (symbol : Char) : Bool :=
  symbol.isAlphanum || symbol == '_'

/-- A key and its value. -/
abbrev Entry := String × List UInt16

def upperKey (entry : Entry) : String :=
  asciiUppercase entry.1

def entryUnits (entry : Entry) : List UInt16 :=
  encodeUtf16 entry.1 ++ 61 :: entry.2 ++ [0]

def checkEntry (entry : Entry) : Except LaunchEncodingError Unit :=
  rejectIf (entry.1.isEmpty || !entry.1.toList.all isKeySymbol || entry.2.contains 0) .invalid

def appendEntry (output : List UInt16) (entry : Entry) : Except LaunchEncodingError (List UInt16) :=
  foldEach (fun output unit => append output unit 1 maxEnvironmentUnits) (entryUnits entry) output

/-- A block without entries has a terminator of its own. -/
def terminate (output : List UInt16) : Except LaunchEncodingError (List UInt16) :=
  if output.isEmpty then append output 0 1 maxEnvironmentUnits else .ok output

def windowsEnvironmentBlock (entries : List Entry) : Except LaunchEncodingError (List UInt16) := do
  forEach checkEntry entries
  let ordered := KeyOrder.sorted upperKey entries
  rejectIf ((ordered.zip ordered.tail).any fun pair => eqIgnoreAsciiCase pair.1.1 pair.2.1) .invalid
  let output ← foldEach appendEntry ordered []
  let output ← terminate output
  append output 0 1 maxEnvironmentUnits

/-- The entries of a block: its texts up to the first empty one, each parted at its first equals sign. -/
def parseEnvironmentBlock (block : List UInt16) : List Entry :=
  ((block.splitOn 0).takeWhile fun text => !text.isEmpty).map fun text =>
    (String.ofList ((text.takeWhile (· ≠ 61)).map fun unit => Char.ofNat unit.toNat), (text.dropWhile (· ≠ 61)).tail)

/-- The units of a block. -/
def blockText (entries : List Entry) : List UInt16 :=
  entries.flatMap entryUnits ++ (if entries.isEmpty then [0, 0] else [0])

/-- An entry that can be written. -/
structure Entry.Valid (entry : Entry) : Prop where
  named : entry.1 ≠ ""
  word : ∀ symbol ∈ entry.1.toList, isKeySymbol symbol = true
  noNul : 0 ∉ entry.2

theorem checkEntry_ok {entry : Entry} : checkEntry entry = .ok () ↔ Entry.Valid entry := by
  rw [checkEntry, rejectIf_ok, Bool.or_eq_false_iff, Bool.or_eq_false_iff, Bool.not_eq_false', List.all_eq_true]
  constructor
  · rintro ⟨⟨named, word⟩, noNul⟩
    exact ⟨by simpa using named, word, by simpa using noNul⟩
  · intro valid
    exact ⟨⟨by simpa using valid.named, valid.word⟩, by simpa using valid.noNul⟩

section Case

theorem toNat_toLower (symbol : Char) :
    symbol.toLower.toNat = if 65 ≤ symbol.toNat ∧ symbol.toNat ≤ 90 then symbol.toNat + 32 else symbol.toNat := by
  have bounds : (symbol.val ≥ 'A'.val ∧ symbol.val ≤ 'Z'.val) ↔ 65 ≤ symbol.toNat ∧ symbol.toNat ≤ 90 := by
    simp only [ge_iff_le, UInt32.le_iff_toNat_le, Char.toNat]
    exact Iff.rfl
  unfold Char.toLower
  split_ifs with upper capital capital
  · change (symbol.toNat + 32) % 2 ^ 32 = symbol.toNat + 32
    omega
  · exact absurd (bounds.mp upper) capital
  · exact absurd (bounds.mpr capital) upper
  · rfl

theorem toNat_toUpper (symbol : Char) :
    symbol.toUpper.toNat = if 97 ≤ symbol.toNat ∧ symbol.toNat ≤ 122 then symbol.toNat - 32 else symbol.toNat := by
  have bounds : ('a'.val ≤ symbol.val ∧ symbol.val ≤ 'z'.val) ↔ 97 ≤ symbol.toNat ∧ symbol.toNat ≤ 122 := by
    simp only [UInt32.le_iff_toNat_le, Char.toNat]
    exact Iff.rfl
  unfold Char.toUpper
  split_ifs with lower small small
  · have step : ('A'.val - 'a'.val).toNat = 4294967264 := by decide
    have moved : (symbol.val + ('A'.val - 'a'.val)).toNat = (symbol.toNat + 4294967264) % 4294967296 := by
      rw [UInt32.toNat_add, step]
      rfl
    refine moved.trans ?_
    omega
  · exact absurd (bounds.mp lower) small
  · exact absurd (bounds.mpr small) lower
  · rfl

/-- Two symbols are one in lower case exactly when they are one in upper case. -/
theorem toLower_eq_iff (left right : Char) : left.toLower = right.toLower ↔ left.toUpper = right.toUpper := by
  rw [← Char.toNat_inj, ← Char.toNat_inj, toNat_toLower, toNat_toLower, toNat_toUpper, toNat_toUpper]
  split_ifs <;> omega

theorem eqIgnoreAsciiCase_iff {left right : String} :
    eqIgnoreAsciiCase left right = true ↔ asciiUppercase left = asciiUppercase right := by
  rw [eqIgnoreAsciiCase, beq_iff_eq, asciiUppercase, asciiUppercase, ← String.toList_inj, ← String.toList_inj,
    String.toList_map, String.toList_map, String.toList_map, String.toList_map]
  generalize left.toList = first
  generalize right.toList = second
  induction first generalizing second with
  | nil => cases second <;> simp
  | cons symbol rest ih =>
    cases second with
    | nil => simp
    | cons other others =>
      rw [List.map_cons, List.map_cons, List.map_cons, List.map_cons, List.cons.injEq, List.cons.injEq,
        toLower_eq_iff, ih]

end Case

theorem maxEnvironmentUnits_small : maxEnvironmentUnits < usizeBound := by
  decide

theorem unit_ok (output : List UInt16) (unit : UInt16) (result : List UInt16) :
    append output unit 1 maxEnvironmentUnits = .ok result ↔
      True ∧ result = output ++ [unit] ∧ result.length ≤ maxEnvironmentUnits := by
  rw [append_ok maxEnvironmentUnits_small, true_and]
  rfl

theorem appendEntry_ok (output : List UInt16) (entry : Entry) (result : List UInt16) :
    appendEntry output entry = .ok result ↔
      True ∧ result = output ++ entryUnits entry ∧ result.length ≤ maxEnvironmentUnits := by
  have copied : (entryUnits entry).flatMap (fun unit => [unit]) = entryUnits entry := by simp
  unfold appendEntry
  by_cases within : output.length ≤ maxEnvironmentUnits
  · rw [foldEach_append_ok unit_ok within, copied]
    simp
  · -- an entry has units, and the first of them is one too many
    have none : foldEach (fun output unit => append output unit 1 maxEnvironmentUnits) (entryUnits entry) output ≠
        .ok result := by
      intro stepped
      cases units : entryUnits entry with
      | nil => simp [entryUnits] at units
      | cons first rest =>
        rw [units] at stepped
        simp only [foldEach, bind_ok, unit_ok] at stepped
        obtain ⟨_, ⟨-, rfl, short⟩, -⟩ := stepped
        rw [List.length_append] at short
        omega
    simp only [none, false_iff, true_and, not_and]
    rintro rfl
    rw [List.length_append]
    omega

theorem terminate_append_ok {output result : List UInt16} (within : output.length ≤ maxEnvironmentUnits) :
    (∃ terminated, terminate output = .ok terminated ∧ append terminated 0 1 maxEnvironmentUnits = .ok result) ↔
      result = output ++ (if output.isEmpty then [0, 0] else [0]) ∧ result.length ≤ maxEnvironmentUnits := by
  unfold terminate
  split_ifs with empty
  · rw [List.isEmpty_iff] at empty
    subst empty
    simp only [unit_ok, true_and]
    constructor
    · rintro ⟨_, ⟨rfl, -⟩, rfl, short⟩
      exact ⟨rfl, short⟩
    · rintro ⟨rfl, short⟩
      exact ⟨_, ⟨rfl, by decide⟩, rfl, short⟩
  · simp only [unit_ok, true_and, Except.ok.injEq, exists_eq_left']

/-- A block is written exactly when it can be, with the entries in the order of their keys. -/
theorem windowsEnvironmentBlock_ok {entries : List Entry} {block : List UInt16} :
    windowsEnvironmentBlock entries = .ok block ↔
      (∀ entry ∈ entries, Entry.Valid entry) ∧ (entries.map upperKey).Nodup ∧
        block = blockText (KeyOrder.sorted upperKey entries) ∧ block.length ≤ maxEnvironmentUnits := by
  have distinct : ((KeyOrder.sorted upperKey entries).zip (KeyOrder.sorted upperKey entries).tail).any
      (fun pair => eqIgnoreAsciiCase pair.1.1 pair.2.1) = false ↔ (entries.map upperKey).Nodup := by
    have neighbours := @KeyOrder.neighbours_any Entry (fun first second => !eqIgnoreAsciiCase first.1 second.1)
      (KeyOrder.sorted upperKey entries)
    simp only [Bool.not_not] at neighbours
    rw [neighbours, KeyOrder.nodup_iff_sorted_neighbours]
    refine List.IsChain.iff fun first second => ?_
    rw [Bool.not_eq_true', Bool.eq_false_iff, ne_eq, eqIgnoreAsciiCase_iff]
    rfl
  have empties : ∀ ordered : List Entry, (ordered.flatMap entryUnits).isEmpty = ordered.isEmpty := by
    intro ordered
    cases ordered with
    | nil => rfl
    | cons entry rest => simp [entryUnits]
  have starts : ([] : List UInt16).length ≤ maxEnvironmentUnits := Nat.zero_le _
  unfold windowsEnvironmentBlock
  simp only [bind_ok, exists_unit, forEach_ok, checkEntry_ok, rejectIf_ok, distinct,
    foldEach_append_ok appendEntry_ok starts, List.nil_append]
  refine and_congr_right fun _ => and_congr_right fun _ => ?_
  rw [blockText, ← empties]
  constructor
  · rintro ⟨_, ⟨-, rfl, within⟩, terminated⟩
    exact (terminate_append_ok within).mp terminated
  · rintro ⟨written, short⟩
    have within : ((KeyOrder.sorted upperKey entries).flatMap entryUnits).length ≤ maxEnvironmentUnits := by
      rw [written, List.length_append] at short
      omega
    exact ⟨_, ⟨fun _ _ => trivial, rfl, within⟩, (terminate_append_ok within).mpr ⟨written, short⟩⟩

theorem isKeySymbol_bounds {symbol : Char} (word : isKeySymbol symbol = true) :
    0 < symbol.toNat ∧ symbol.toNat ≠ 61 ∧ symbol.toNat < 128 := by
  delta isKeySymbol Char.isAlphanum Char.isAlpha Char.isUpper Char.isLower Char.isDigit at word
  simp only [Bool.or_eq_true, decide_eq_true_eq, Bool.and_eq_true, beq_iff_eq, ge_iff_le,
    UInt32.le_iff_toNat_le] at word
  rcases word with ((capital | small) | digit) | rfl
  · change 65 ≤ symbol.toNat ∧ symbol.toNat ≤ 90 at capital
    omega
  · change 97 ≤ symbol.toNat ∧ symbol.toNat ≤ 122 at small
    omega
  · change 48 ≤ symbol.toNat ∧ symbol.toNat ≤ 57 at digit
    omega
  · decide

/-- A key is written one unit a symbol, and read back so. -/
theorem encodeUtf16_word {key : String} (word : ∀ symbol ∈ key.toList, isKeySymbol symbol = true) :
    0 ∉ encodeUtf16 key ∧ 61 ∉ encodeUtf16 key ∧
      (encodeUtf16 key).map (fun unit => Char.ofNat unit.toNat) = key.toList := by
  unfold encodeUtf16
  generalize key.toList = symbols at word ⊢
  induction symbols with
  | nil => simp
  | cons symbol rest ih =>
    obtain ⟨first, others⟩ := List.forall_mem_cons.mp word
    obtain ⟨positive, noEquals, small⟩ := isKeySymbol_bounds first
    obtain ⟨noNul, noMark, read⟩ := ih others
    have unit : (UInt16.ofNat symbol.toNat).toNat = symbol.toNat := by
      rw [UInt16.toNat_ofNat']
      omega
    have apart : ∀ other : UInt16, symbol.toNat ≠ other.toNat → other ≠ UInt16.ofNat symbol.toNat := by
      rintro other differs rfl
      exact differs unit.symm
    rw [List.flatMap_cons, if_pos (by omega), List.singleton_append]
    refine ⟨?_, ?_, ?_⟩
    · rw [List.mem_cons, not_or]
      exact ⟨apart 0 (Nat.pos_iff_ne_zero.mp positive), noNul⟩
    · rw [List.mem_cons, not_or]
      exact ⟨apart 61 noEquals, noMark⟩
    · rw [List.map_cons, read, unit, Char.ofNat_toNat]

/-- The text of an entry, without its terminator. -/
def entryText (entry : Entry) : List UInt16 :=
  encodeUtf16 entry.1 ++ 61 :: entry.2

theorem splitOn_blockText {entries : List Entry} (valid : ∀ entry ∈ entries, Entry.Valid entry) :
    ((blockText entries).splitOn 0).takeWhile (fun text => !text.isEmpty) = entries.map entryText := by
  have parted : ∀ rest : List UInt16, (entries.flatMap entryUnits ++ rest).splitOn 0 =
      entries.map entryText ++ rest.splitOn 0 := by
    intro rest
    induction entries with
    | nil => rfl
    | cons entry others ih =>
      obtain ⟨first, later⟩ := List.forall_mem_cons.mp valid
      have unbroken : 0 ∉ entryText entry := by
        rw [entryText, List.mem_append, List.mem_cons]
        rintro (inKey | isMark | inValue)
        · exact (encodeUtf16_word first.word).1 inKey
        · cases isMark
        · exact first.noNul inValue
      have units : entryUnits entry = entryText entry ++ [0] := rfl
      rw [List.flatMap_cons, units, List.append_assoc, List.append_assoc, List.singleton_append,
        List.splitOn_append_cons_self_of_not_mem unbroken, ih later]
      rfl
  have nonempty : ∀ text ∈ entries.map entryText, (!text.isEmpty) = true := by
    intro text member
    obtain ⟨entry, -, rfl⟩ := List.mem_map.mp member
    simp [entryText]
  have ended : ∀ rest : List UInt16, ((0 :: rest).splitOn 0).takeWhile (fun text => !text.isEmpty) = [] := by
    intro rest
    rw [← List.nil_append (0 :: rest), List.splitOn_append_cons_self_of_not_mem List.not_mem_nil]
    rfl
  rw [blockText, parted, List.takeWhile_append_of_pos nonempty]
  split_ifs <;> rw [ended, List.append_nil]

theorem parse_blockText {entries : List Entry} (valid : ∀ entry ∈ entries, Entry.Valid entry) :
    parseEnvironmentBlock (blockText entries) = entries := by
  rw [parseEnvironmentBlock, splitOn_blockText valid, List.map_map]
  conv_rhs => rw [← List.map_id entries]
  refine List.map_congr_left fun entry member => ?_
  obtain ⟨-, noMark, read⟩ := encodeUtf16_word (valid entry member).word
  have keyed : ∀ unit ∈ encodeUtf16 entry.1, decide (unit ≠ 61) = true := by
    intro unit inKey
    rw [decide_eq_true_eq]
    rintro rfl
    exact noMark inKey
  rw [Function.comp_apply, entryText, List.takeWhile_append_of_pos keyed, List.dropWhile_append_of_pos keyed,
    List.takeWhile_cons_of_neg (by simp), List.dropWhile_cons_of_neg (by simp), List.append_nil, List.tail_cons, read,
    String.ofList_toList]
  rfl

/-- The given entries in the order of their keys, which no two of them share. -/
structure InKeyOrder (given ordered : List Entry) : Prop where
  same : ordered.Perm given
  increasing : ordered.Pairwise fun first second => upperKey first < upperKey second

theorem nodup_upperKey {entries : List Entry} :
    (entries.map upperKey).Nodup ↔
      entries.Pairwise fun first second => eqIgnoreAsciiCase first.1 second.1 = false := by
  rw [List.Nodup, List.pairwise_map]
  refine iff_of_eq (congrArg (fun apart => List.Pairwise apart entries) ?_)
  funext first second
  rw [Bool.eq_false_iff, ne_eq, ne_eq, eqIgnoreAsciiCase_iff]
  rfl

theorem length_blockText {entries others : List Entry} (same : others.Perm entries) :
    (blockText others).length = (blockText entries).length := by
  have units : (others.flatMap entryUnits).length = (entries.flatMap entryUnits).length :=
    (same.flatMap_right entryUnits).length_eq
  have empty : others.isEmpty = entries.isEmpty := by
    rw [Bool.eq_iff_iff, List.isEmpty_iff_length_eq_zero, List.isEmpty_iff_length_eq_zero, same.length_eq]
  rw [blockText, blockText, List.length_append, List.length_append, units, empty]

theorem blockText_ends (entries : List Entry) : ∃ front, blockText entries = front ++ [0, 0] := by
  rcases List.eq_nil_or_concat entries with rfl | ⟨others, last, rfl⟩
  · exact ⟨[], rfl⟩
  · refine ⟨others.flatMap entryUnits ++ entryText last, ?_⟩
    have units : entryUnits last = entryText last ++ [0] := rfl
    simp [blockText, units]

theorem windowsEnvironmentBlock_congr {entries others : List Entry} (same : others.Perm entries) :
    windowsEnvironmentBlock others = windowsEnvironmentBlock entries := by
  have written : ∀ block, windowsEnvironmentBlock others = .ok block ↔ windowsEnvironmentBlock entries = .ok block := by
    intro block
    rw [windowsEnvironmentBlock_ok, windowsEnvironmentBlock_ok]
    have valid : (∀ entry ∈ others, Entry.Valid entry) ↔ ∀ entry ∈ entries, Entry.Valid entry :=
      forall_congr' fun entry => by rw [same.mem_iff]
    have distinct : (others.map upperKey).Nodup ↔ (entries.map upperKey).Nodup := (same.map upperKey).nodup_iff
    rw [valid, distinct]
    refine and_congr_right fun _ => and_congr_right fun apart => ?_
    rw [KeyOrder.sorted_congr same apart]
  cases given : windowsEnvironmentBlock entries with
  | ok block => exact (written block).mpr given
  | error error =>
    cases answer : windowsEnvironmentBlock others with
    | ok block =>
      rw [(written block).mp answer] at given
      cases given
    | error other =>
      cases error
      cases other
      rfl

/-- A block fails exactly when an entry cannot be written, two keys are one but for their case, or it gets too long.
What is written ends with two NULs and is read back as the given entries in the order of their keys, in whatever order
they were given. -/
theorem environment_blocks_round_trip (entries : List Entry) :
    ((∀ block, windowsEnvironmentBlock entries ≠ .ok block) ↔
      (∃ entry ∈ entries, entry.1 = "" ∨ (∃ symbol ∈ entry.1.toList, isKeySymbol symbol = false) ∨ 0 ∈ entry.2) ∨
        ¬entries.Pairwise (fun first second => eqIgnoreAsciiCase first.1 second.1 = false) ∨
        maxEnvironmentUnits < (blockText entries).length) ∧
    (∀ block, windowsEnvironmentBlock entries = .ok block →
      (∃ front, block = front ++ [0, 0]) ∧ InKeyOrder entries (parseEnvironmentBlock block) ∧
        block = blockText (parseEnvironmentBlock block)) ∧
    ∀ others, others.Perm entries → windowsEnvironmentBlock others = windowsEnvironmentBlock entries := by
  have sorts := KeyOrder.sorted_perm upperKey entries
  have lengths := length_blockText sorts
  refine ⟨?_, ?_, fun others same => windowsEnvironmentBlock_congr same⟩
  · simp only [ne_eq, windowsEnvironmentBlock_ok, nodup_upperKey]
    constructor
    · intro refused
      by_contra fine
      rw [not_or, not_or, not_not, not_lt] at fine
      obtain ⟨fits, apart, short⟩ := fine
      refine refused _ ⟨fun entry member => ?_, apart, rfl, lengths.trans_le short⟩
      have fit : ¬_ := fun bad => fits ⟨entry, member, bad⟩
      rw [not_or, not_or, not_exists] at fit
      obtain ⟨named, word, noNul⟩ := fit
      exact ⟨named, fun symbol inKey => by simpa using fun wrong => word symbol ⟨inKey, wrong⟩, noNul⟩
    · rintro fails block ⟨valid, apart, rfl, short⟩
      rcases fails with ⟨entry, member, unnamed | ⟨symbol, inKey, wrong⟩ | nul⟩ | alike | long
      · exact (valid entry member).named unnamed
      · rw [(valid entry member).word symbol inKey] at wrong
        cases wrong
      · exact (valid entry member).noNul nul
      · exact alike apart
      · exact Nat.not_lt.mpr (lengths.symm.trans_le short) long
  · intro block written
    obtain ⟨valid, apart, rfl, -⟩ := windowsEnvironmentBlock_ok.mp written
    have read : parseEnvironmentBlock (blockText (KeyOrder.sorted upperKey entries)) =
        KeyOrder.sorted upperKey entries :=
      parse_blockText fun entry member => valid entry (sorts.mem_iff.mp member)
    rw [read]
    exact ⟨blockText_ends _, ⟨sorts, KeyOrder.sorted_pairwise_lt apart⟩, rfl⟩

end Environment

end WindowsLaunchEncoding

end Bastet.Core
