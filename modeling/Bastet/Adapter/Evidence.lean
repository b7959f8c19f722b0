import Bastet.Adapter.CodexTracker

/-! What a notification is evidence of, for one turn of one thread. -/

set_option autoImplicit false

namespace Bastet.Codex

open Fallible Bastet.Core Bastet.Adapter

namespace Evidence

/-- A text that is not blank. -/
def filled (value : Value) (key : String) : Option String :=
  ((value.get key).bind Value.asStr).filter fun text => !isBlank text

def count (value : Value) (key : String) : Option Nat :=
  (value.get key).bind Value.asU64

theorem requiredString_ok {value : Value} {key text : String} :
    requiredString value key = .ok text ↔ filled value key = some text :=
  okOr_ok

theorem requiredU64_ok {value : Value} {key : String} {number : Nat} :
    requiredU64 value key = .ok number ↔ count value key = some number :=
  okOr_ok

theorem filled_some {value : Value} {key text : String} :
    filled value key = some text ↔ (value.get key).bind Value.asStr = some text ∧ isBlank text = false := by
  rw [filled, Option.filter_eq_some_iff, Bool.not_eq_true']

theorem count_lt {value : Value} {key : String} {number : Nat} (counted : count value key = some number) :
    number < 2 ^ 64 := by
  obtain ⟨given, -, whole⟩ := Option.bind_eq_some_iff.mp counted
  cases given with
  | number number =>
    cases number with
    | posInt value =>
      cases whole
      exact value.toNat_lt
    | negInt | float => cases whole
  | null | bool | string | array | object => cases whole

end Evidence

open Evidence

/-- A file change that was completed, with every change in it described. -/
structure ChangeCompleted (item : Value) : Prop where
  kind : filled item "type" = some "fileChange"
  status : filled item "status" = some "completed"
  changes : ∃ changes, (item.get "changes").bind Value.asArray = some changes ∧ changes ≠ [] ∧
    ∀ change ∈ changes, validFileChange change = true

/-- The counts of a usage whose total covers them. -/
def Usage (params : Value) (inputTokens outputTokens : Nat) : Prop :=
  ∃ last totalTokens, ((params.get "tokenUsage").bind fun value => value.get "last") = some last ∧
    count last "inputTokens" = some inputTokens ∧ count last "outputTokens" = some outputTokens ∧
    count last "totalTokens" = some totalTokens ∧ inputTokens + outputTokens ≤ totalTokens

namespace CodexRunEvidence

/-- A notification about the turn. -/
structure Own (evidence : CodexRunEvidence) (params : Value) : Prop where
  thread : filled params "threadId" = some evidence.providerThreadId
  turn : filled params "turnId" = some evidence.providerTurnId

/-- A notification about another turn. -/
def Other (self : CodexRunEvidence) (params : Value) : Prop :=
  ∃ threadId turnId, filled params "threadId" = some threadId ∧ filled params "turnId" = some turnId ∧
    ¬ (threadId = self.providerThreadId ∧ turnId = self.providerTurnId)

/-- A diff of the turn with nothing but blanks in it. -/
def BlankDiff (self : CodexRunEvidence) (notification : AppServerNotification) : Prop :=
  notification.method = "turn/diff/updated" ∧ self.Own notification.params ∧
    ∃ diff, (notification.params.get "diff").bind Value.asStr = some diff ∧ isBlank diff = true

/-- The notifications that are read for evidence. -/
def methods : List String :=
  ["turn/diff/updated", "item/completed", "thread/tokenUsage/updated"]

/-- A notification that gives none: of another kind or another turn, or an item that changed no file. -/
inductive Silent (self : CodexRunEvidence) (notification : AppServerNotification) : Prop
  | method (unread : notification.method ∉ methods)
  | other (method : notification.method ∈ methods) (other : self.Other notification.params)
  | item {item : Value} {kind : String} (method : notification.method = "item/completed")
      (own : self.Own notification.params) (held : notification.params.get "item" = some item)
      (kindOf : filled item "type" = some kind) (unrelated : kind ≠ "fileChange")
  | undone {item : Value} {status : String} (method : notification.method = "item/completed")
      (own : self.Own notification.params) (held : notification.params.get "item" = some item)
      (kindOf : filled item "type" = some "fileChange") (statusOf : filled item "status" = some status)
      (undone : status = "failed" ∨ status = "declined")

variable [SerdeJson]

/-- What a notification gives evidence of. -/
inductive Gives (self : CodexRunEvidence) (notification : AppServerNotification) : CodexRunEvidenceUpdate → Prop
  | diff {diff : String} (method : notification.method = "turn/diff/updated") (own : self.Own notification.params)
      (given : (notification.params.get "diff").bind Value.asStr = some diff) (filled : diff ≠ "") :
      Gives self notification (self.receipt "codex.turn_diff.updated")
  | change {item : Value} (method : notification.method = "item/completed") (own : self.Own notification.params)
      (held : notification.params.get "item" = some item) (completed : ChangeCompleted item) :
      Gives self notification (self.receipt "codex.item_file_change.completed")
  | usage {inputTokens outputTokens : Nat} (method : notification.method = "thread/tokenUsage/updated")
      (own : self.Own notification.params) (used : Usage notification.params inputTokens outputTokens) :
      Gives self notification (.cost ⟨.providerReported, none, none, some inputTokens, some outputTokens, .finite 1⟩)

section Reading

variable {self : CodexRunEvidence} {params : Value}

omit [SerdeJson] in
theorem matchesRun_ok {own : Bool} : self.matchesRun params = .ok own ↔
    ∃ threadId turnId, filled params "threadId" = some threadId ∧ filled params "turnId" = some turnId ∧
      (threadId == self.providerThreadId && turnId == self.providerTurnId) = own := by
  simp only [matchesRun, bind_ok, requiredString_ok, pure_ok, exists_and_left]

omit [SerdeJson] in
/-- What is read of a notification about another turn, and about the own one. -/
theorem guarded_ok {rest : Except EvidenceError (Option CodexRunEvidenceUpdate)}
    {result : Option CodexRunEvidenceUpdate} :
    (self.matchesRun params >>= fun own => if (!own) = true then pure none else rest) = .ok result ↔
      self.Other params ∧ result = none ∨ self.Own params ∧ rest = .ok result := by
  rw [bind_ok]
  constructor
  · rintro ⟨own, matched, read⟩
    obtain ⟨threadId, turnId, thread, turn, same⟩ := matchesRun_ok.mp matched
    cases own with
    | false =>
      refine .inl ⟨⟨threadId, turnId, thread, turn, fun both => ?_⟩, ?_⟩
      · rw [both.1, both.2, beq_self_eq_true, beq_self_eq_true] at same
        cases same
      · exact (pure_ok.mp read).symm
    | true =>
      obtain ⟨sameThread, sameTurn⟩ := (Bool.and_eq_true _ _).mp same
      rw [eq_of_beq sameThread] at thread
      rw [eq_of_beq sameTurn] at turn
      exact .inr ⟨⟨thread, turn⟩, read⟩
  · rintro (⟨⟨threadId, turnId, thread, turn, differs⟩, rfl⟩ | ⟨⟨thread, turn⟩, read⟩)
    · refine ⟨false, matchesRun_ok.mpr ⟨threadId, turnId, thread, turn, ?_⟩, rfl⟩
      rw [Bool.eq_false_iff]
      intro same
      obtain ⟨sameThread, sameTurn⟩ := (Bool.and_eq_true _ _).mp same
      exact differs ⟨eq_of_beq sameThread, eq_of_beq sameTurn⟩
    · refine ⟨true, matchesRun_ok.mpr ⟨_, _, thread, turn, ?_⟩, read⟩
      rw [beq_self_eq_true, beq_self_eq_true]
      rfl

variable {result : Option CodexRunEvidenceUpdate}

theorem diffUpdated_ok : self.diffUpdated params = .ok result ↔
    self.Other params ∧ result = none ∨ self.Own params ∧ ∃ diff, filled params "diff" = some diff ∧
      result = some (self.receipt "codex.turn_diff.updated") := by
  refine guarded_ok.trans (or_congr_right (and_congr_right fun _ => ?_))
  simp only [bind_ok, requiredString_ok]
  refine exists_congr fun diff => and_congr_right fun given => ?_
  have some_ : diff.isEmpty = false := by
    by_contra empty
    obtain rfl : diff = "" := String.isEmpty_iff.mp (by simpa using empty)
    cases (filled_some.mp given).2
  rw [if_neg (by rw [some_]; exact Bool.false_ne_true), pure_ok, eq_comm]

omit [SerdeJson] in
theorem tokenUsageUpdated_ok : self.tokenUsageUpdated params = .ok result ↔
    self.Other params ∧ result = none ∨ self.Own params ∧ ∃ inputTokens outputTokens,
      Usage params inputTokens outputTokens ∧
      result = some (.cost ⟨.providerReported, none, none, some inputTokens, some outputTokens, .finite 1⟩) := by
  refine guarded_ok.trans (or_congr_right (and_congr_right fun _ => ?_))
  simp only [bind_ok, exists_unit, okOr_ok, requiredU64_ok, rejectIf_ok, pure_ok, decide_eq_false_iff_not, Nat.not_le,
    Nat.not_lt, Usage]
  constructor
  · rintro ⟨last, held, inputTokens, input, outputTokens, output, totalTokens, total, -, covered, rfl⟩
    exact ⟨inputTokens, outputTokens, ⟨last, totalTokens, held, input, output, total, covered⟩, rfl⟩
  · rintro ⟨inputTokens, outputTokens, ⟨last, totalTokens, held, input, output, total, covered⟩, rfl⟩
    exact ⟨last, held, inputTokens, input, outputTokens, output, totalTokens, total,
      covered.trans_lt (count_lt total), covered, rfl⟩

omit [SerdeJson] in
/-- The changes that are read of an item. -/
theorem changes_ok {item : Value} {error : EvidenceError} :
    (∃ changes, ((item.get "changes").bind Value.asArray).filter (fun changes => !changes.isEmpty) = some changes ∧
        rejectIf (changes.any fun change => !validFileChange change) error = .ok ()) ↔
      ∃ changes, (item.get "changes").bind Value.asArray = some changes ∧ changes ≠ [] ∧
        ∀ change ∈ changes, validFileChange change = true := by
  simp only [Option.filter_eq_some_iff, rejectIf_ok, List.any_eq_false, Bool.not_eq_true', Bool.not_eq_false,
    List.isEmpty_eq_false_iff, ne_eq, and_assoc]

theorem fileChangeCompleted_ok : self.fileChangeCompleted params = .ok result ↔
    self.Other params ∧ result = none ∨ self.Own params ∧ ∃ item, params.get "item" = some item ∧
      ((∃ kind, filled item "type" = some kind ∧ kind ≠ "fileChange" ∧ result = none) ∨
        (filled item "type" = some "fileChange" ∧ ∃ status, filled item "status" = some status ∧
          (status = "failed" ∨ status = "declined") ∧ result = none) ∨
        ChangeCompleted item ∧ result = some (self.receipt "codex.item_file_change.completed")) := by
  refine guarded_ok.trans (or_congr_right (and_congr_right fun _ => ?_))
  simp only [bind_ok, okOr_ok]
  refine exists_congr fun item => and_congr_right fun held => ?_
  simp only [requiredString_ok]
  constructor
  · rintro ⟨kind, kindOf, read⟩
    split_ifs at read with unrelated
    · exact .inl ⟨kind, kindOf, unrelated, (pure_ok.mp read).symm⟩
    rw [not_not] at unrelated
    subst unrelated
    obtain ⟨status, statusOf, read⟩ := bind_ok.mp read
    rw [requiredString_ok] at statusOf
    split_ifs at read with undone
    · exact .inr (.inl ⟨kindOf, status, statusOf, undone, (pure_ok.mp read).symm⟩)
    obtain ⟨_, completed, read⟩ := bind_ok.mp read
    obtain ⟨changes, given, read⟩ := bind_ok.mp read
    obtain ⟨_, described, read⟩ := bind_ok.mp read
    have done : status = "completed" := by simpa using rejectIf_ok.mp completed
    exact .inr (.inr ⟨⟨kindOf, done ▸ statusOf, changes_ok.mp ⟨changes, okOr_ok.mp given, described⟩⟩,
      (pure_ok.mp read).symm⟩)
  · rintro (⟨kind, kindOf, unrelated, rfl⟩ | ⟨kindOf, status, statusOf, undone, rfl⟩ | ⟨completed, rfl⟩)
    · exact ⟨kind, kindOf, if_pos unrelated⟩
    · refine ⟨_, kindOf, ?_⟩
      rw [if_neg (not_not.mpr rfl)]
      exact bind_ok.mpr ⟨status, requiredString_ok.mpr statusOf, if_pos undone⟩
    · refine ⟨_, completed.kind, ?_⟩
      obtain ⟨changes, given, described⟩ := changes_ok.mpr completed.changes
      rw [if_neg (not_not.mpr rfl)]
      refine bind_ok.mpr ⟨_, requiredString_ok.mpr completed.status, ?_⟩
      rw [if_neg (by decide)]
      exact bind_ok.mpr ⟨(), rfl, bind_ok.mpr ⟨changes, okOr_ok.mpr given, bind_ok.mpr ⟨(), described, rfl⟩⟩⟩

end Reading

section Ingest

variable (self : CodexRunEvidence) {notification : AppServerNotification}

theorem ingest_diff (method : notification.method = "turn/diff/updated") :
    self.ingest notification = self.diffUpdated notification.params :=
  if_pos method

theorem ingest_change (method : notification.method = "item/completed") :
    self.ingest notification = self.fileChangeCompleted notification.params := by
  rw [ingest, if_neg (by rw [method]; decide), if_pos method]

theorem ingest_usage (method : notification.method = "thread/tokenUsage/updated") :
    self.ingest notification = self.tokenUsageUpdated notification.params := by
  rw [ingest, if_neg (by rw [method]; decide), if_neg (by rw [method]; decide), if_pos method]

theorem ingest_unread (unread : notification.method ∉ methods) : self.ingest notification = .ok none := by
  simp only [methods, List.mem_cons, List.not_mem_nil, or_false, not_or] at unread
  obtain ⟨noDiff, noChange, noUsage⟩ := unread
  rw [ingest, if_neg noDiff, if_neg noChange, if_neg noUsage]

variable {self}

theorem Gives.ingest (clear : ¬ self.BlankDiff notification) {update : CodexRunEvidenceUpdate}
    (gives : self.Gives notification update) : self.ingest notification = .ok (some update) := by
  cases gives with
  | diff method own given something =>
    rw [ingest_diff self method]
    refine diffUpdated_ok.mpr (.inr ⟨own, _, filled_some.mpr ⟨given, ?_⟩, rfl⟩)
    rw [Bool.eq_false_iff]
    exact fun blank => clear ⟨method, own, _, given, blank⟩
  | change method own held completed =>
    rw [ingest_change self method]
    exact fileChangeCompleted_ok.mpr (.inr ⟨own, _, held, .inr (.inr ⟨completed, rfl⟩)⟩)
  | usage method own used =>
    rw [ingest_usage self method]
    exact tokenUsageUpdated_ok.mpr (.inr ⟨own, _, _, used, rfl⟩)

theorem Silent.ingest (silent : self.Silent notification) : self.ingest notification = .ok none := by
  cases silent with
  | method unread => exact ingest_unread self unread
  | other method other =>
    simp only [methods, List.mem_cons, List.not_mem_nil, or_false] at method
    rcases method with diff | change | usage
    · rw [ingest_diff self diff]
      exact diffUpdated_ok.mpr (.inl ⟨other, rfl⟩)
    · rw [ingest_change self change]
      exact fileChangeCompleted_ok.mpr (.inl ⟨other, rfl⟩)
    · rw [ingest_usage self usage]
      exact tokenUsageUpdated_ok.mpr (.inl ⟨other, rfl⟩)
  | item method own held kindOf unrelated =>
    rw [ingest_change self method]
    exact fileChangeCompleted_ok.mpr (.inr ⟨own, _, held, .inl ⟨_, kindOf, unrelated, rfl⟩⟩)
  | undone method own held kindOf statusOf undone =>
    rw [ingest_change self method]
    exact fileChangeCompleted_ok.mpr (.inr ⟨own, _, held, .inr (.inl ⟨kindOf, _, statusOf, undone, rfl⟩)⟩)

/-- What is read is given, or there was nothing to give. -/
theorem ingest_ok {result : Option CodexRunEvidenceUpdate} (read : self.ingest notification = .ok result) :
    (∃ update, result = some update ∧ self.Gives notification update) ∨ result = none ∧ self.Silent notification := by
  by_cases diff : notification.method = "turn/diff/updated"
  · rw [ingest_diff self diff] at read
    rcases diffUpdated_ok.mp read with ⟨other, rfl⟩ | ⟨own, text, given, rfl⟩
    · exact .inr ⟨rfl, .other (by simp [methods, diff]) other⟩
    · obtain ⟨given, notBlank⟩ := filled_some.mp given
      refine .inl ⟨_, rfl, .diff diff own given ?_⟩
      rintro rfl
      cases notBlank
  by_cases change : notification.method = "item/completed"
  · rw [ingest_change self change] at read
    rcases fileChangeCompleted_ok.mp read with ⟨other, rfl⟩ | ⟨own, item, held, read⟩
    · exact .inr ⟨rfl, .other (by simp [methods, change]) other⟩
    rcases read with ⟨kind, kindOf, unrelated, rfl⟩ | ⟨kindOf, status, statusOf, undone, rfl⟩ | ⟨completed, rfl⟩
    · exact .inr ⟨rfl, .item change own held kindOf unrelated⟩
    · exact .inr ⟨rfl, .undone change own held kindOf statusOf undone⟩
    · exact .inl ⟨_, rfl, .change change own held completed⟩
  by_cases usage : notification.method = "thread/tokenUsage/updated"
  · rw [ingest_usage self usage] at read
    rcases tokenUsageUpdated_ok.mp read with ⟨other, rfl⟩ | ⟨own, inputTokens, outputTokens, used, rfl⟩
    · exact .inr ⟨rfl, .other (by simp [methods, usage]) other⟩
    · exact .inl ⟨_, rfl, .usage usage own used⟩
  · have unread : notification.method ∉ methods := by simp [methods, diff, change, usage]
    rw [ingest_unread self unread] at read
    cases read
    exact .inr ⟨rfl, .method unread⟩

end Ingest

/-- The evidence of a notification, unless it is a diff of blanks only: what it gives, nothing where it is silent, and
otherwise an error. A receipt says what kind of evidence it is and names the turn, and no more. -/
theorem ingest_exact (self : CodexRunEvidence) (notification : AppServerNotification) :
    (¬ self.BlankDiff notification →
      (∀ update, self.ingest notification = .ok (some update) ↔ self.Gives notification update) ∧
      (self.ingest notification = .ok none ↔ self.Silent notification)) ∧
    ∀ text, self.ingest notification = .ok (some (.writeReceipt text)) →
      ∃ evidence ∈ ["codex.turn_diff.updated", "codex.item_file_change.completed"],
        text = SerdeJson.text (.object [("evidence", .string evidence), ("turn_id", .string self.providerTurnId)]) := by
  refine ⟨fun clear => ⟨fun update => ⟨fun read => ?_, Gives.ingest clear⟩, fun read => ?_, Silent.ingest⟩, ?_⟩
  · rcases ingest_ok read with ⟨_, ⟨⟩, gives⟩ | ⟨⟨⟩, -⟩
    exact gives
  · rcases ingest_ok read with ⟨_, ⟨⟩, -⟩ | ⟨-, silent⟩
    exact silent
  · intro text read
    rcases ingest_ok read with ⟨_, ⟨⟩, gives⟩ | ⟨⟨⟩, -⟩
    cases gives with
    | diff => exact ⟨_, List.mem_cons_self, rfl⟩
    | change => exact ⟨_, List.mem_cons_of_mem _ List.mem_cons_self, rfl⟩

end CodexRunEvidence

/-! ### Notifications that fail a run -/

def turnEvidence : CodexRunEvidence :=
  ⟨"thr_1", "turn_1"⟩

def aboutTurn (method : String) (fields : List (String × Value)) : AppServerNotification :=
  ⟨method, .object ([("threadId", .string "thr_1"), ("turnId", .string "turn_1")] ++ fields)⟩

def fileChange (status : String) (changes : List Value) : AppServerNotification :=
  aboutTurn "item/completed" [("item", .object [("type", .string "fileChange"), ("status", .string status),
    ("changes", .array changes)])]

def describedChange (path : String) : Value :=
  .object [("path", .string path), ("kind", .string "update"), ("diff", .string "+1")]

def usageOf (inputTokens outputTokens totalTokens : UInt64) : AppServerNotification :=
  aboutTurn "thread/tokenUsage/updated" [("tokenUsage", .object [("last", .object [
    ("inputTokens", .number (.posInt inputTokens)), ("outputTokens", .number (.posInt outputTokens)),
    ("totalTokens", .number (.posInt totalTokens))])])]

namespace CodexRunEvidence

/-- A usage with too small a total, a completed change of no file or of one without a name, one under way and a notification
without a thread are each an error, not nothing. -/
theorem drift_fails :
    @ingest .compact turnEvidence (usageOf 1 1 1) = .error .protocolDrift ∧
    @ingest .compact turnEvidence (fileChange "completed" []) = .error .protocolDrift ∧
    @ingest .compact turnEvidence (fileChange "completed" [describedChange ""]) = .error .protocolDrift ∧
    @ingest .compact turnEvidence (fileChange "inProgress" [describedChange "a"]) = .error .protocolDrift ∧
    @ingest .compact turnEvidence ⟨"turn/diff/updated", .object [("threadId", .string ""), ("turnId", .string "turn_1"),
      ("diff", .string "+1")]⟩ = .error .protocolDrift := by
  decide +kernel

end CodexRunEvidence

end Bastet.Codex
