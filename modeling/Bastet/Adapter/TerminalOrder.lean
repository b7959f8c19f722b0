import Bastet.Adapter.TrackedRuns
import Bastet.Adapter.AgyProcess

/-! The end of a run as its caller sees it: the receipt of what it changed, and then the update that ends it, once. -/

set_option autoImplicit false

namespace Bastet.Adapter

open Fallible EventStream Bastet.Core

section Order

variable [SerdeJson] [ReadJson] [Agy.MonotonicClock]

/-- Once a call has consumed the update that ends a run, the calls hand out a receipt, if the workspace has changed
and no receipt came from the provider, and then that update, at once or to the next call that asks. An Agy process
is asked by the polls that find its output in order. -/
theorem terminal_after_receipt :
    (∀ runId providerThreadId providerTurnId before run,
      Codex.TrackedRun.new runId providerThreadId providerTurnId before = .ok run →
      ∀ earlier observation later terminal files,
        (after Codex.TrackedRun.next run earlier).consumes observation = some terminal → observation.scan = .ok files →
        let given := updates Codex.TrackedRun.next run earlier
        let ordinary := Codex.TrackedRun.Ordinary ⟨providerThreadId, providerTurnId⟩
        Codex.CodexRunTracker.ends terminal = true ∧ (∀ update ∈ given, ordinary update) ∧
          ∃ shown rest, WorkspaceSnapshot.Shows before files shown ∧ (∀ update ∈ rest, ordinary update) ∧
            let receipt := if given.any Codex.CodexRunTracker.isReceipt then none else shown
            updates Codex.TrackedRun.next run (earlier ++ .update observation :: later) =
              given ++ ((receipt.map fun text => .evidence (.writeReceipt text)).toList ++
                ((if receipt.isNone || later.any Codex.Call.asks then [terminal] else []) ++ rest))) ∧
    (∀ runId conversationId timeout spawnedAt before process,
      Agy.AgyProcess.opened runId conversationId timeout spawnedAt before = .ok process →
      ∀ earlier poll later terminal files,
        (after Agy.AgyProcess.next process earlier).consumes poll = some terminal → poll.scan = .ok files →
        let given := updates Agy.AgyProcess.next process earlier
        Agy.isTerminal terminal = true ∧ (∀ update ∈ given, Agy.Ordinary update) ∧
          ∃ receipt rest, WorkspaceSnapshot.Shows before files receipt ∧ (∀ update ∈ rest, Agy.Ordinary update) ∧
            updates Agy.AgyProcess.next process (earlier ++ .poll poll :: later) =
              given ++ ((receipt.map .writeReceipt).toList ++
                ((if receipt.isNone || later.any Agy.Call.asks then [terminal] else []) ++ rest))) := by
  constructor
  · intro runId providerThreadId providerTurnId before run started earlier observation later terminal files consumed scanned
    obtain ⟨sound, unmarked⟩ := Codex.TrackedRun.new_ok started
    have disciplined := Codex.TrackedRun.disciplined ⟨providerThreadId, providerTurnId⟩ before
    have reached := disciplined.sound_after sound earlier
    obtain ⟨shown, told, shows⟩ := WorkspaceSnapshot.shown_shows before files
    have last : Codex.CodexRunTracker.ends terminal = true := by
      unfold Codex.TrackedRun.consumes at consumed
      split at consumed
      next => cases consumed
      next => exact (Option.filter_eq_some_iff.mp consumed).2
    have toldThen : WorkspaceSnapshot.shown (after Codex.TrackedRun.next run earlier).before observation.scan =
        .ok shown := by
      rw [reached.snapshot, scanned]
      exact told
    obtain ⟨ends, opened⟩ := Codex.TrackedRun.consumes_ends reached consumed toldThen
    have marks : ∀ reached call, Codex.TrackedRun.Sound ⟨providerThreadId, providerTurnId⟩ before reached →
        (Codex.TrackedRun.next reached call).1.tracker.stream.terminal = false →
          Codex.TrackedRun.marked (Codex.TrackedRun.next reached call).1 = (Codex.TrackedRun.marked reached ||
            (Codex.TrackedRun.next reached call).2.any Codex.CodexRunTracker.isReceipt) :=
      fun reached call sound unfinished => Codex.TrackedRun.receipt_marked sound call unfinished
    have marked := disciplined.marked_of_open marks sound opened
    obtain ⟨rest, through, before_, after_⟩ := disciplined.updates_through sound opened ends
    rw [show Codex.TrackedRun.marked run = false from unmarked, Bool.false_or] at marked
    rw [show (after Codex.TrackedRun.next run earlier).tracker.providerWriteReceipt = _ from marked] at through
    refine ⟨last, before_, shown, rest, shows, after_, ?_⟩
    rw [Option.isNone_map] at through
    exact through
  · intro runId conversationId timeout spawnedAt before process spawned earlier poll later terminal files consumed scanned
    have sound := Agy.AgyProcess.opened_ok spawned
    have disciplined := Agy.AgyProcess.disciplined before
    obtain ⟨receipt, told, shows⟩ := WorkspaceSnapshot.shown_shows before files
    obtain ⟨ends, last, opened⟩ := Agy.AgyProcess.consumes_ends (disciplined.sound_after sound earlier) consumed
      (by rw [scanned]; exact told)
    obtain ⟨rest, through, before_, after_⟩ := disciplined.updates_through sound opened ends
    refine ⟨last, before_, receipt, rest, shows, after_, ?_⟩
    rw [Option.isNone_map] at through
    exact through

end Order

end Bastet.Adapter

namespace Bastet.Agy

open EventStream Bastet.Core Bastet.Adapter

/-! ### A process that writes on after its result -/

def failedLine : String :=
  "\x7b\"event\":\"result\",\"result\":\x7b\"status\":\"ERROR\"\x7d\x7d"

def failedValue : Value :=
  .object [("event", .string "result"), ("result", .object [("status", .string "ERROR")])]

/-- The parse of the one line. -/
abbrev readFailed : ReadJson :=
  .single failedLine failedValue

/-- A clock that does not end soon. -/
abbrev longClock : MonotonicClock :=
  ⟨2 ^ 64⟩

def emptyWorkspace : WorkspaceSnapshot :=
  ⟨"/work", .empty⟩

def oneFile : Files :=
  ⟨[("notes.md", Vector.replicate 32 0)], List.nodup_singleton _⟩

/-- A run that may write, and has not said anything. -/
def writing : AgyProcess :=
  ⟨.new ⟨7⟩, 10, 10, false, none, none, some emptyWorkspace⟩

/-- The poll that reads the result, with a file in the workspace that was not there. -/
def resultPoll : Poll :=
  ⟨"now", 5, 0, false, true, [⟨0, .line failedLine, 0, false, true⟩], .ok oneFile⟩

/-- A poll after the queue has failed. -/
def Call.Fails (call : Call) : Prop :=
  ∃ poll, call = .poll poll ∧ poll.queueFailed = true

namespace AgyProcess

theorem updates_failed [SerdeJson] [ReadJson] [MonotonicClock] (process : AgyProcess) {calls : List Call}
    (failed : ∀ call ∈ calls, call.Fails) : updates AgyProcess.next process calls = [] := by
  induction calls with
  | nil => rfl
  | cons call rest ih =>
    obtain ⟨poll, rfl, queue⟩ := failed _ List.mem_cons_self
    rw [updates_cons, next_failed queue]
    exact ih fun call member => failed call (List.mem_cons_of_mem _ member)

/-- The update that ends the run waits behind the receipt, and is never handed out if the output overflows then. -/
theorem overflow_withholds_terminal :
    @opened .compact longClock ⟨7⟩ none 10 0 (some emptyWorkspace) = .ok writing ∧
    (@consumes .compact readFailed longClock writing resultPoll).isSome = true ∧
    ∀ later : List Call, (∀ call ∈ later, call.Fails) →
      (updates (@AgyProcess.next .compact readFailed longClock) writing (.poll resultPoll :: later)).countP isTerminal = 0 ∧
      (updates (@AgyProcess.next .compact readFailed longClock) writing (.poll resultPoll :: later)).countP
        AgyRunUpdate.isReceipt = 1 := by
  have read : (@consumes .compact readFailed longClock writing resultPoll).isSome = true ∧
      (@AgyProcess.next .compact readFailed longClock writing (.poll resultPoll)).2 = some (.writeReceipt
        (@WorkspaceSnapshot.receiptText .compact 1)) := by
    decide +kernel
  refine ⟨rfl, read.1, fun later failed => ?_⟩
  rw [updates_cons, read.2, @updates_failed .compact readFailed longClock _ _ failed]
  exact ⟨rfl, rfl⟩

end AgyProcess

end Bastet.Agy
