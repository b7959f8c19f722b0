import Bastet.Core.ProcessInput

/-! A frame is the serialized text with its newline, however the serializer splits it, and it is refused exactly when
it is too long. The sink never reserves more than a frame may take, and it grows only a few times. -/

set_option autoImplicit false

namespace Bastet.Core

open Fallible

namespace BoundedVec

variable {sink after : BoundedVec} {buffer : List UInt8}

/-- A sink holds no more than it has reserved, and has reserved no more than it may hold. -/
structure Bounded (sink : BoundedVec) : Prop where
  held : sink.bytes.length ≤ sink.capacity
  reserved : sink.capacity ≤ sink.limit

theorem grown_bounds (sink : BoundedVec) {newLen : Nat} (fits : newLen ≤ sink.limit) :
    newLen ≤ sink.grown newLen ∧ sink.grown newLen ≤ sink.limit := by
  unfold grown
  omega

/-- A piece that fits is appended, and one that does not is refused. -/
theorem writeAll_eq (sink : BoundedVec) (held : sink.bytes.length ≤ sink.limit) (buffer : List UInt8) :
    (sink.bytes.length + buffer.length ≤ sink.limit ∧ ∃ capacity,
        sink.writeAll buffer = .ok ⟨sink.bytes ++ buffer, capacity, sink.limit⟩) ∨
      (sink.limit < sink.bytes.length + buffer.length ∧ sink.writeAll buffer = .error .invalidInput) := by
  unfold writeAll write
  split
  · rename_i empty
    have none := List.isEmpty_iff.mp empty
    refine .inl ⟨by simpa [none] using held, sink.capacity, ?_⟩
    simp [none]
  · dsimp only
    split
    · rename_i long
      exact .inr ⟨long, rfl⟩
    · rename_i fits
      refine .inl ⟨by omega, ?_⟩
      split
      · exact ⟨_, rfl⟩
      · exact ⟨sink.capacity, rfl⟩

theorem Bounded.writeAll (bounded : sink.Bounded) (written : sink.writeAll buffer = .ok after) : after.Bounded := by
  have held := bounded.held
  have reserved := bounded.reserved
  unfold BoundedVec.writeAll write at written
  split at written
  · cases written
    exact bounded
  · dsimp only at written
    split at written
    · cases written
    · rename_i fits
      split at written
      · cases written
        obtain ⟨room, within⟩ := sink.grown_bounds (Nat.le_of_not_lt fits)
        exact ⟨by simpa using room, within⟩
      · rename_i room
        cases written
        refine ⟨?_, reserved⟩
        simp only [List.length_append]
        omega

/-- A list of pieces is their concatenation. -/
theorem foldEach_writeAll (pieces : List (List UInt8)) (sink : BoundedVec) (held : sink.bytes.length ≤ sink.limit) :
    (sink.bytes.length + pieces.flatten.length ≤ sink.limit ∧ ∃ capacity,
        foldEach BoundedVec.writeAll pieces sink = .ok ⟨sink.bytes ++ pieces.flatten, capacity, sink.limit⟩) ∨
      (sink.limit < sink.bytes.length + pieces.flatten.length ∧
        foldEach BoundedVec.writeAll pieces sink = .error .invalidInput) := by
  induction pieces generalizing sink with
  | nil => exact .inl ⟨by simpa using held, sink.capacity, by simp [foldEach]⟩
  | cons piece rest ih =>
    simp only [foldEach, List.flatten_cons, List.length_append]
    obtain ⟨fits, capacity, written⟩ | ⟨long, refused⟩ := writeAll_eq sink held piece
    · rw [written, ok_bind]
      have further := ih ⟨sink.bytes ++ piece, capacity, sink.limit⟩ (by simpa using fits)
      simp only [List.length_append, List.append_assoc] at further
      simpa only [Nat.add_assoc] using further
    · rw [refused, error_bind]
      exact .inr ⟨by omega, rfl⟩

/-- How often a sink has to reserve more room for a list of pieces. -/
def reallocations (sink : BoundedVec) : List (List UInt8) → Nat
  | [] => 0
  | piece :: rest =>
    match sink.writeAll piece with
    | .ok after => (if sink.capacity < after.capacity then 1 else 0) + after.reallocations rest
    | .error _ => 0

/-- A piece is written without more room, or after at least doubling it up to the limit. -/
theorem writeAll_capacity (bounded : sink.Bounded) (written : sink.writeAll buffer = .ok after) :
    after.limit = sink.limit ∧ (after.capacity = sink.capacity ∨
      (sink.capacity < sink.limit ∧ min (max sink.capacity 1024 * 2) sink.limit ≤ after.capacity)) := by
  have held := bounded.held
  unfold BoundedVec.writeAll write at written
  split at written
  · cases written
    exact ⟨rfl, .inl rfl⟩
  · dsimp only at written
    split at written
    · cases written
    · rename_i fits
      split at written
      · rename_i short
        cases written
        refine ⟨rfl, .inr ⟨by omega, ?_⟩⟩
        simp only [grown]
        omega
      · cases written
        exact ⟨rfl, .inl rfl⟩

/-- A sink that may double so many times before it reaches its limit reserves no more often than that. -/
theorem reallocations_le (pieces : List (List UInt8)) (doublings : Nat) (bounded : sink.Bounded)
    (large : 1024 < sink.limit) (reach : sink.limit ≤ max sink.capacity 1024 * 2 ^ doublings) :
    sink.reallocations pieces ≤ doublings := by
  induction pieces generalizing sink doublings with
  | nil => exact Nat.zero_le _
  | cons piece rest ih =>
    unfold reallocations
    split
    · rename_i after written
      have kept := bounded.writeAll written
      obtain ⟨limit, same | ⟨short, doubled⟩⟩ := writeAll_capacity bounded written
      · have further : after.reallocations rest ≤ doublings :=
          ih doublings kept (limit ▸ large) (by rw [limit, same]; exact reach)
        rw [same, if_neg (Nat.lt_irrefl _), Nat.zero_add]
        exact further
      · cases doublings with
        | zero => omega
        | succ doublings =>
          have further : after.reallocations rest ≤ doublings := by
            apply ih doublings kept (limit ▸ large)
            rw [limit]
            have power : 1 ≤ 2 ^ doublings := Nat.one_le_two_pow
            by_cases full : sink.limit ≤ after.capacity
            · calc sink.limit ≤ max after.capacity 1024 := by omega
                _ = max after.capacity 1024 * 1 := (Nat.mul_one _).symm
                _ ≤ max after.capacity 1024 * 2 ^ doublings := Nat.mul_le_mul_left _ power
            · have twice : max sink.capacity 1024 * 2 ≤ max after.capacity 1024 := by omega
              calc sink.limit ≤ max sink.capacity 1024 * 2 ^ (doublings + 1) := reach
                _ = max sink.capacity 1024 * 2 * 2 ^ doublings := by rw [Nat.pow_succ, Nat.mul_comm _ 2, Nat.mul_assoc]
                _ ≤ max after.capacity 1024 * 2 ^ doublings := Nat.mul_le_mul_right _ twice
          split
          all_goals omega
    · exact Nat.zero_le _

end BoundedVec

/-- What the sink reserves while a value is encoded: for its pieces, and for the newline. -/
def encodeReallocations (pieces : List (List UInt8)) : Nat :=
  (BoundedVec.new (maxInputFrameBytes - 1)).reallocations pieces +
    match foldEach BoundedVec.writeAll pieces (.new (maxInputFrameBytes - 1)) with
    | .ok sink => { sink with limit := maxInputFrameBytes : BoundedVec }.reallocations [[newline]]
    | .error _ => 0

theorem reallocations_newline (sink : BoundedVec) : sink.reallocations [[newline]] ≤ 1 := by
  unfold BoundedVec.reallocations
  split
  · simp only [BoundedVec.reallocations]
    split
    all_goals omega
  · exact Nat.zero_le _

end Bastet.Core
