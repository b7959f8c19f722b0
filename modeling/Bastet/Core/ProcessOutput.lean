import Bastet.Library.Chunked
import Bastet.Library.Fallible

/-! The line decoder of a process's output. Chunks end anywhere; lines end at newlines. -/

set_option autoImplicit false

namespace Bastet.Core

open Fallible

def maxLineBytes : Nat := 8 * 1024 * 1024

def newlineByte : UInt8 := 10
def carriageReturn : UInt8 := 13

/-- `String::from_utf8`. -/
def fromUtf8 (bytes : List UInt8) : Option String :=
  String.fromUTF8? ⟨bytes.toArray⟩

/-- What a sink is given: a line, or the one error after which there are none. -/
abbrev Line := Except Unit String

/-- A sink takes a line and says whether to go on. -/
abbrev Sink (Sunk : Type) := Line → Sunk → Bool × Sunk

structure LineDecoder where
  partialLine : List UInt8
  deriving DecidableEq, Repr

/-- Where the thread that reads the output is with one of its reads. -/
inductive Reading where
  | stopped
  | closed (stopped : Bool)
  | nothing
  | bytes (chunk : List UInt8) (stopped : Bool)
  | failed
  deriving DecidableEq, Repr

/-- The bytes of a read after which the thread goes on. -/
def Reading.chunk : Reading → Option (List UInt8)
  | .nothing => some []
  | .bytes chunk false => some chunk
  | .bytes _ true | .stopped | .closed _ | .failed => none

namespace LineDecoder

variable {Sunk : Type}

def new : LineDecoder :=
  ⟨[]⟩

def emit (self : LineDecoder) (sink : Sink Sunk) (newline : Bool) (sunk : Sunk) : Bool × LineDecoder × Sunk :=
  let line := if newline ∧ self.partialLine.getLast? = some carriageReturn then self.partialLine.dropLast
    else self.partialLine
  match fromUtf8 line with
  | some text => ((sink (.ok text) sunk).1, ⟨[]⟩, (sink (.ok text) sunk).2)
  | none => (false, ⟨[]⟩, (sink (.error ()) sunk).2)

/-- The loop of `push`, with the bytes it has passed since the last newline. -/
def pushFrom (self : LineDecoder) (sink : Sink Sunk) (segment : List UInt8) :
    List UInt8 → Sunk → Bool × LineDecoder × Sunk
  | [], sunk =>
    let extended : LineDecoder := ⟨self.partialLine ++ segment⟩
    if maxLineBytes < extended.partialLine.length then (false, extended, (sink (.error ()) sunk).2)
    else (true, extended, sunk)
  | byte :: rest, sunk =>
    if byte = newlineByte then
      let extended : LineDecoder := ⟨self.partialLine ++ segment⟩
      if maxLineBytes < extended.partialLine.length then (false, extended, (sink (.error ()) sunk).2)
      else match extended.emit sink true sunk with
        | (false, after, sunk) => (false, after, sunk)
        | (true, after, sunk) => after.pushFrom sink [] rest sunk
    else self.pushFrom sink (segment ++ [byte]) rest sunk

def push (self : LineDecoder) (bytes : List UInt8) (sink : Sink Sunk) (sunk : Sunk) : Bool × LineDecoder × Sunk :=
  self.pushFrom sink [] bytes sunk

def finish (self : LineDecoder) (sink : Sink Sunk) (sunk : Sunk) : Bool × LineDecoder × Sunk :=
  if self.partialLine.isEmpty then (true, self, sunk) else self.emit sink false sunk

/-- A push for each chunk, then the finish, unless one of them says to stop. -/
def decode (self : LineDecoder) (sink : Sink Sunk) : List (List UInt8) → Sunk → Sunk
  | [], sunk => (self.finish sink sunk).2.2
  | chunk :: rest, sunk =>
    match self.push chunk sink sunk with
    | (false, _, sunk) => sunk
    | (true, after, sunk) => after.decode sink rest sunk

/-- `read_stdout`: the decoder behind the reads of one thread. -/
def readStdout (self : LineDecoder) (sink : Sink Sunk) : List Reading → Sunk → Sunk
  | [], sunk => sunk
  | .stopped :: _, sunk => sunk
  | .closed stopped :: _, sunk => if stopped then sunk else (self.finish sink sunk).2.2
  | .nothing :: rest, sunk => self.readStdout sink rest sunk
  | .bytes chunk stopped :: rest, sunk =>
    if stopped then sunk
    else match self.push chunk sink sunk with
      | (false, _, sunk) => sunk
      | (true, after, sunk) => after.readStdout sink rest sunk
  | .failed :: _, sunk => (sink (.error ()) sunk).2

/-- The sink that accepts everything, and keeps it. -/
def record : Sink (List Line) :=
  fun line received => (true, received ++ [line])

/-- The results for a stream of bytes in these chunks. -/
def received (chunks : List (List UInt8)) : List Line :=
  new.decode record chunks []

end LineDecoder

section Pieces

/-- A piece that ends with a newline loses one carriage return. -/
def stripped (piece : List UInt8) : List UInt8 :=
  if piece.getLast? = some carriageReturn then piece.dropLast else piece

/-- The line of a piece, unless it is too long or no text. -/
def lineOf (piece text : List UInt8) : Line :=
  if maxLineBytes < piece.length then .error () else okOr (fromUtf8 text) ()

/-- What the pieces of a stream are to be decoded as; the last one was not ended by a newline. -/
def decodedPieces : List (List UInt8) → List Line
  | [] => []
  | [last] => if last.isEmpty then [] else [lineOf last last]
  | piece :: rest =>
    match lineOf piece (stripped piece) with
    | .ok text => .ok text :: decodedPieces rest
    | .error () => [.error ()]

/-- What a stream of bytes is to be decoded as. -/
def decodedLines (stream : List UInt8) : List Line :=
  decodedPieces (stream.splitOn newlineByte)

end Pieces

namespace LineDecoder

section Recorded

/-- What a decoder makes of bytes after those it holds: the results, and the bytes held then unless it stops. -/
def readFrom (held : List UInt8) : List UInt8 → List Line × Option (List UInt8)
  | [] => if maxLineBytes < held.length then ([.error ()], none) else ([], some held)
  | byte :: rest =>
    if byte = newlineByte then
      match lineOf held (stripped held) with
      | .ok text => (.ok text :: (readFrom [] rest).1, (readFrom [] rest).2)
      | .error () => ([.error ()], none)
    else readFrom (held ++ [byte]) rest

theorem lineOf_long {piece text : List UInt8} (long : maxLineBytes < piece.length) : lineOf piece text = .error () := by
  rw [lineOf, if_pos long]

theorem lineOf_short {piece text : List UInt8} (short : ¬maxLineBytes < piece.length) :
    lineOf piece text = okOr (fromUtf8 text) () := by
  rw [lineOf, if_neg short]

theorem emit_error {held : List UInt8} (newline : Bool) (before : List Line)
    (invalid : fromUtf8 (if newline then stripped held else held) = none) :
    (⟨held⟩ : LineDecoder).emit record newline before = (false, ⟨[]⟩, before ++ [.error ()]) := by
  cases newline <;> simp_all [emit, stripped, record]

theorem emit_ok {held : List UInt8} (newline : Bool) (before : List Line) {text : String}
    (valid : fromUtf8 (if newline then stripped held else held) = some text) :
    (⟨held⟩ : LineDecoder).emit record newline before = (true, ⟨[]⟩, before ++ [.ok text]) := by
  cases newline <;> simp_all [emit, stripped, record]

/-- What a recording decoder answers, by what was read. -/
def Answers (before : List Line) (answer : Bool × LineDecoder × List Line)
    (read : List Line × Option (List UInt8)) : Prop :=
  answer.2.2 = before ++ read.1 ∧ read.2 = if answer.1 then some answer.2.1.partialLine else none

/-- The recording decoder reads on from the bytes of its line and those it has passed. -/
theorem pushFrom_record (self : LineDecoder) (segment bytes : List UInt8) (before : List Line) :
    Answers before (self.pushFrom record segment bytes before) (readFrom (self.partialLine ++ segment) bytes) := by
  induction bytes generalizing self segment before with
  | nil =>
    simp only [pushFrom, readFrom]
    split_ifs <;> simp [Answers, record]
  | cons byte rest ih =>
    simp only [pushFrom, readFrom]
    split_ifs with ended long
    · rw [lineOf_long long]
      simp [Answers, record]
    · rw [lineOf_short long]
      cases decoded : fromUtf8 (stripped (self.partialLine ++ segment)) with
      | none =>
        rw [emit_error true before decoded]
        simp [Answers, okOr]
      | some text =>
        rw [emit_ok true before decoded]
        have later := ih ⟨[]⟩ [] (before ++ [.ok text])
        simpa [Answers, okOr] using later
    · have later := ih self (segment ++ [byte]) before
      rwa [← List.append_assoc] at later

theorem readFrom_long {held : List UInt8} (long : maxLineBytes < held.length) (bytes : List UInt8) :
    readFrom held bytes = ([.error ()], none) := by
  induction bytes generalizing held with
  | nil => rw [readFrom, if_pos long]
  | cons byte rest ih =>
    have longer : maxLineBytes < (held ++ [byte]).length := by
      rw [List.length_append]
      exact Nat.lt_add_right _ long
    rw [readFrom, lineOf_long long]
    split_ifs
    · rfl
    · exact ih longer

theorem readFrom_short {held chunk after : List UInt8} (read : (readFrom held chunk).2 = some after) :
    after.length ≤ maxLineBytes := by
  induction chunk generalizing held with
  | nil =>
    rw [readFrom] at read
    split_ifs at read with long
    cases read
    exact Nat.not_lt.mp long
  | cons byte rest ih =>
    rw [readFrom] at read
    split_ifs at read with ended
    · cases line : lineOf held (stripped held) with
      | error => rw [line] at read; cases read
      | ok text => rw [line] at read; exact ih read
    · exact ih read

theorem readFrom_append (held first second : List UInt8) :
    readFrom held (first ++ second) = Chunked.andThen (readFrom held first) fun after => readFrom after second := by
  induction first generalizing held with
  | nil =>
    rw [List.nil_append, readFrom]
    split_ifs with long
    · rw [readFrom_long long]
      rfl
    · rfl
  | cons byte rest ih =>
    rw [List.cons_append, readFrom, readFrom]
    split_ifs with ended
    · cases lineOf held (stripped held) with
      | error => rfl
      | ok text => rw [Chunked.andThen_cons, ← ih []]
    · exact ih _

/-- No read shows where a chunk ended. -/
theorem readFrom_seamless : Chunked.Seamless readFrom fun held => held.length ≤ maxLineBytes where
  nothing held short := by rw [readFrom, if_neg (Nat.not_lt.mpr short)]
  joined held first second _ := readFrom_append held first second
  kept _ _ _ _ := readFrom_short

/-- The results once the stream has ended. -/
def atEnd (read : List Line × Option (List UInt8)) : List Line :=
  match read.2 with
  | none => read.1
  | some held => read.1 ++ decodedPieces [held]

theorem finish_record {held : List UInt8} (short : held.length ≤ maxLineBytes) (before : List Line) :
    ((⟨held⟩ : LineDecoder).finish record before).2.2 = before ++ decodedPieces [held] := by
  rw [finish, decodedPieces, lineOf_short (Nat.not_lt.mpr short)]
  split_ifs with empty
  · rw [List.append_nil]
  · cases decoded : fromUtf8 held with
    | none => rw [emit_error false before decoded]; rfl
    | some text => rw [emit_ok false before decoded]; rfl

theorem decode_record {self : LineDecoder} (short : self.partialLine.length ≤ maxLineBytes)
    (chunks : List (List UInt8)) (before : List Line) :
    self.decode record chunks before = before ++ atEnd (Chunked.feed readFrom self.partialLine chunks) := by
  induction chunks generalizing self before with
  | nil => exact finish_record short before
  | cons chunk rest ih =>
    obtain ⟨results, held⟩ : Answers before (self.push chunk record before) (readFrom self.partialLine chunk) := by
      have answers := pushFrom_record self [] chunk before
      rwa [List.append_nil] at answers
    rw [decode, Chunked.feed]
    generalize self.push chunk record before = answer at results held ⊢
    obtain ⟨goes, after, sunk⟩ := answer
    cases read : readFrom self.partialLine chunk with
    | mk output state =>
      rw [read] at results held
      dsimp only at results held
      subst results held
      cases goes with
      | false => rfl
      | true =>
        have kept : after.partialLine.length ≤ maxLineBytes := readFrom_short (by rw [read]; rfl)
        dsimp only
        rw [ih kept, if_pos rfl, Chunked.andThen_going, List.append_assoc]
        congr 1
        unfold atEnd
        cases (Chunked.feed readFrom after.partialLine rest).2 <;> simp

theorem decodedPieces_cons {piece : List UInt8} {rest : List (List UInt8)} (more : rest ≠ []) :
    decodedPieces (piece :: rest) =
      match lineOf piece (stripped piece) with
      | .ok text => .ok text :: decodedPieces rest
      | .error () => [.error ()] := by
  cases rest with
  | nil => exact absurd rfl more
  | cons => rfl

theorem readFrom_pieces {held : List UInt8} (unbroken : newlineByte ∉ held) (stream : List UInt8) :
    atEnd (readFrom held stream) = decodedPieces ((held ++ stream).splitOn newlineByte) := by
  induction stream generalizing held with
  | nil =>
    rw [readFrom, List.append_nil, List.splitOn_eq_singleton unbroken]
    split_ifs with long
    · rw [decodedPieces, lineOf_long long, if_neg]
      · rfl
      · rw [List.isEmpty_iff]
        rintro rfl
        exact Nat.not_lt_zero _ long
    · rfl
  | cons byte rest ih =>
    rw [readFrom]
    split_ifs with ended
    · subst ended
      rw [List.splitOn_append_cons_self_of_not_mem unbroken, decodedPieces_cons (List.splitOn_ne_nil _ _)]
      cases lineOf held (stripped held) with
      | error => rfl
      | ok text =>
        have later := ih List.not_mem_nil
        rw [List.nil_append] at later
        dsimp only
        rw [← later]
        unfold atEnd
        cases (readFrom [] rest).2 <;> rfl
    · have longer : newlineByte ∉ held ++ [byte] := by
        simp [unbroken, Ne.symm ended]
      rw [ih longer, List.append_assoc, List.singleton_append]

end Recorded

/-- A thread that reads up to the end of the output decodes all of it, however its reads cut it. -/
theorem readStdout_record (readings : List Reading) (chunks : List (List UInt8))
    (goes : readings.map Reading.chunk = chunks.map some) {self : LineDecoder}
    (short : self.partialLine.length ≤ maxLineBytes) (before : List Line) :
    self.readStdout record (readings ++ [.closed false]) before = self.decode record chunks before := by
  induction readings generalizing self chunks before with
  | nil =>
    rw [List.map_nil, eq_comm, List.map_eq_nil_iff] at goes
    subst goes
    rfl
  | cons reading rest ih =>
    cases chunks with
    | nil => cases goes
    | cons chunk chunks =>
      rw [List.map_cons, List.map_cons, List.cons.injEq] at goes
      obtain ⟨first, others⟩ := goes
      cases reading with
      | stopped | closed | failed => cases first
      | nothing =>
        cases first
        have unchanged : self.push [] record before = (true, self, before) := by
          rw [push, pushFrom, List.append_nil, if_neg (Nat.not_lt.mpr short)]
        rw [decode, unchanged]
        exact ih chunks others short before
      | bytes piece stopped =>
        cases stopped with
        | true => cases first
        | false =>
          cases first
          have answers := (pushFrom_record self [] chunk before).2
          rw [List.append_nil] at answers
          rw [List.cons_append, readStdout, decode, if_neg Bool.false_ne_true]
          unfold push
          generalize self.pushFrom record [] chunk before = answer at answers ⊢
          obtain ⟨goes, after, sunk⟩ := answer
          cases goes with
          | false => rfl
          | true => exact ih chunks others (readFrom_short answers) sunk

/-- The results are those of the pieces of the stream, however it was cut into chunks. -/
theorem line_decoding_unchunked :
    (∀ chunks, received chunks = decodedLines chunks.flatten) ∧
      ∀ first second : List (List UInt8), first.flatten = second.flatten → received first = received second := by
  have decoded : ∀ chunks, received chunks = decodedLines chunks.flatten := by
    intro chunks
    have short : new.partialLine.length ≤ maxLineBytes := Nat.zero_le _
    rw [received, decode_record short, readFrom_seamless.feed_flatten short, List.nil_append, readFrom_pieces (by simp [new])]
    rfl
  refine ⟨decoded, fun first second same => ?_⟩
  rw [decoded, decoded, same]

end LineDecoder

end Bastet.Core
