import Bastet.Library.Fallible
import Bastet.Library.Machine

/-! The stdin of an adapter's child: one bounded frame at a time, handed to a worker thread that writes it piece by
piece. Each look at a flag or at the clock, and each channel or pipe operation of the source, is one step, and the
caller, the worker, the clock and the cancellations take their steps in any order. -/

set_option autoImplicit false

namespace Bastet.Core

open Fallible

def maxInputFrameBytes : Nat := 8 * 1024 * 1024

/-- `io::ErrorKind`, as far as the writer's errors tell them apart. -/
inductive InputError where
  | brokenPipe
  | invalidInput
  | interrupted
  | timedOut
  | writeZero
  | other
  deriving DecidableEq, Repr

abbrev InputResult := Except InputError Unit

structure WriteRequest where
  frame : List UInt8
  deadline : Nat
  token : Nat
  deriving DecidableEq, Repr

/-- Where the owner's call of `write_frame_cancellable` or `close` stands. -/
inductive Calling where
  | idle
  | entering (request : WriteRequest)
  | starting (request : WriteRequest)
  | startingClock (request : WriteRequest)
  | offering (request : WriteRequest)
  | offeringClock (request : WriteRequest)
  | sending (request : WriteRequest)
  | returned (request : WriteRequest)
  | awaiting (request : WriteRequest)
  | receiving (request : WriteRequest)
  | expiring (request : WriteRequest)
  | stopping (failed : Option (WriteRequest × InputError))
  | dropping (failed : Option (WriteRequest × InputError))
  | joining (failed : Option (WriteRequest × InputError))
  deriving DecidableEq, Repr

/-- Where the worker thread stands: in `recv`, in the loop of `write_one`, or after it. -/
inductive Writing where
  | receiving
  | checking (request : WriteRequest) (offset : Nat)
  | clock (request : WriteRequest) (offset : Nat)
  | writing (request : WriteRequest) (offset : Nat)
  | ending (request : WriteRequest)
  | answering (result : InputResult)
  | answered (terminal : Bool)
  | exited
  deriving DecidableEq, Repr

/-- What the pipe does with the bytes it is offered. -/
inductive WriteReply where
  | accepted (count : Nat)
  | interrupted
  | wouldBlock
  | failed
  deriving DecidableEq, Repr

/-- The writer and its worker, with the pipe, the clock, the tokens, and the results of the calls so far. -/
structure ProcessInputWriter where
  calling : Calling
  writing : Writing
  poisoned : Bool
  sender : Bool
  stopped : Bool
  answer : Option InputResult
  stdin : List UInt8
  now : Nat
  cancelled : Nat → Bool
  results : List (WriteRequest × InputResult)

inductive InputAction where
  | tick
  | cancel (token : Nat)
  | write (request : WriteRequest)
  | close
  | caller
  | worker (reply : WriteReply)
  deriving DecidableEq, Repr

namespace ProcessInputWriter

def spawn : ProcessInputWriter :=
  ⟨.idle, .receiving, false, true, false, none, [], 0, fun _ => false, []⟩

variable (self : ProcessInputWriter)

def finish (request : WriteRequest) (result : InputResult) : ProcessInputWriter :=
  { self with calling := .idle, results := self.results ++ [(request, result)] }

def poisonAndClose (request : WriteRequest) (error : InputError) : ProcessInputWriter :=
  { self with calling := .stopping (some (request, error)) }

/-- The worker has neither the request nor its answer's sender any more. -/
def released : Bool :=
  match self.writing with
  | .receiving | .answered _ | .exited => true
  | _ => false

/-- The next step of the owner's call. -/
def call : ProcessInputWriter :=
  match self.calling with
  | .idle => self
  | .entering request =>
    if self.poisoned || !self.sender then self.finish request (.error .brokenPipe)
    else if maxInputFrameBytes < request.frame.length then self.finish request (.error .invalidInput)
    else { self with calling := .starting request }
  | .starting request =>
    if self.cancelled request.token then self.poisonAndClose request .interrupted
    else { self with calling := .startingClock request }
  | .startingClock request =>
    if request.deadline ≤ self.now then self.poisonAndClose request .timedOut
    else { self with calling := .offering request }
  | .offering request =>
    if self.cancelled request.token then self.poisonAndClose request .interrupted
    else { self with calling := .offeringClock request }
  | .offeringClock request =>
    if request.deadline ≤ self.now then self.poisonAndClose request .timedOut
    else { self with calling := .sending request }
  | .sending request =>
    -- a channel without capacity hands over to a receiver that waits
    match self.writing with
    | .receiving => { self with calling := .awaiting request, writing := .checking request 0, answer := none }
    | .exited => self.poisonAndClose request .brokenPipe
    | _ => { self with calling := .returned request }
  | .returned request =>
    if request.deadline ≤ self.now then self.poisonAndClose request .timedOut
    else { self with calling := .offering request }
  | .awaiting request =>
    if self.cancelled request.token then self.poisonAndClose request .interrupted
    else { self with calling := .receiving request }
  | .receiving request =>
    match self.answer with
    | some (.ok ()) => { self with answer := none }.finish request (.ok ())
    | some (.error error) => { self with answer := none }.poisonAndClose request error
    | none => if self.released then self.poisonAndClose request .brokenPipe else { self with calling := .expiring request }
  | .expiring request =>
    -- `recv_timeout` gave up, and the deadline may still be ahead
    if self.now < request.deadline then { self with calling := .awaiting request }
    else self.poisonAndClose request .timedOut
  -- `close`, with the write that poisoned the writer, if one did
  | .stopping failed =>
    { self with calling := .dropping failed, poisoned := self.poisoned || failed.isSome, stopped := true }
  | .dropping failed => { self with calling := .joining failed, sender := false }
  | .joining failed =>
    -- the join returns once the worker has left its loop
    match self.writing with
    | .exited =>
      match failed with
      | some (request, error) => self.finish request (.error error)
      | none => { self with calling := .idle }
    | _ => self

/-- The next step of the worker, with what the pipe does should it be written to. -/
def work (reply : WriteReply) : ProcessInputWriter :=
  match self.writing with
  | .receiving => if self.sender then self else { self with writing := .exited }
  | .checking request offset =>
    if request.frame.length ≤ offset then { self with writing := .ending request }
    else if self.stopped then { self with writing := .answering (.error .brokenPipe) }
    else { self with writing := .clock request offset }
  | .clock request offset =>
    if request.deadline ≤ self.now then { self with writing := .answering (.error .timedOut) }
    else { self with writing := .writing request offset }
  | .writing request offset =>
    match reply with
    | .accepted 0 => { self with writing := .answering (.error .writeZero) }
    | .accepted count =>
      let written := (request.frame.drop offset).take count
      { self with writing := .checking request (offset + written.length), stdin := self.stdin ++ written }
    -- nothing was written, and the worker goes round its loop with the same offset
    | .interrupted | .wouldBlock => { self with writing := .checking request offset }
    | .failed => { self with writing := .answering (.error .other) }
  | .ending request =>
    if request.deadline ≤ self.now then { self with writing := .answering (.error .timedOut) }
    else { self with writing := .answering (.ok ()) }
  | .answering result => { self with writing := .answered (!isOk result), answer := some result }
  | .answered terminal =>
    if terminal || self.stopped then { self with writing := .exited } else { self with writing := .receiving }
  | .exited => self

def next : InputAction → ProcessInputWriter
  | .tick => { self with now := self.now + 1 }
  | .cancel token => { self with cancelled := fun other => decide (other = token) || self.cancelled other }
  | .write request => if self.calling = .idle then { self with calling := .entering request } else self
  | .close => if self.calling = .idle then { self with calling := .stopping none } else self
  | .caller => self.call
  | .worker reply => self.work reply

end ProcessInputWriter

section Encoding

/-- The sink of `encode_json_line`. -/
structure BoundedVec where
  bytes : List UInt8
  capacity : Nat
  limit : Nat
  deriving DecidableEq, Repr

namespace BoundedVec

def new (limit : Nat) : BoundedVec := ⟨[], 0, limit⟩

/-- The capacity to which a sink without room grows. -/
def grown (self : BoundedVec) (newLen : Nat) : Nat :=
  min (max (max self.capacity 1024 * 2) newLen) self.limit

def write (self : BoundedVec) (buffer : List UInt8) : Except InputError BoundedVec :=
  let newLen := self.bytes.length + buffer.length
  if self.limit < newLen then .error .invalidInput
  else if self.capacity < newLen then .ok ⟨self.bytes ++ buffer, self.grown newLen, self.limit⟩
  else .ok { self with bytes := self.bytes ++ buffer }

/-- `write_all` writes nothing where there is nothing to write. -/
def writeAll (self : BoundedVec) (buffer : List UInt8) : Except InputError BoundedVec :=
  if buffer.isEmpty then .ok self else self.write buffer

end BoundedVec

def newline : UInt8 := 10

/-- `encode_json_line`, for a value that the serializer writes in these pieces. -/
def encodeJsonLine (pieces : List (List UInt8)) : Except InputError BoundedVec := do
  let sink ← foldEach BoundedVec.writeAll pieces (.new (maxInputFrameBytes - 1))
  BoundedVec.writeAll { sink with limit := maxInputFrameBytes } [newline]

end Encoding

end Bastet.Core
