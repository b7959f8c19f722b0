import Bastet.Daemon.ExecutorAccounting

/-! What a client is told of the runs its request has begun: exactly those that got a worker or wait in the store. -/

set_option autoImplicit false

namespace Bastet.Daemon

open Fallible Bastet.Core

section Tags

/-- Where a launch stands for its request. -/
inductive LaunchStanding where
  | waiting
  | starting
  | accepted
  | abandoned
  deriving DecidableEq, Repr

def LaunchPhase.standing : LaunchPhase → LaunchStanding
  | .begun => .waiting
  | .registered | .counted | .unspawned | .uncounted | .failing _ => .starting
  | .abandoned => .abandoned
  | _ => .accepted

theorem LaunchPhase.starting_iff {phase : LaunchPhase} :
    phase.starting = false ↔ phase.standing = .accepted ∨ phase.standing = .abandoned := by
  cases phase <;> simp [starting, standing]

structure Tag where
  request : Nat
  runId : RunId
  standing : LaunchStanding
  deriving DecidableEq, Repr

def Launch.tag (launch : Launch) : Tag :=
  ⟨launch.request, launch.runId, launch.phase.standing⟩

def GraphExecutor.tags (self : GraphExecutor) : List Tag :=
  self.launches.map Launch.tag

/-- The runs a request has begun: at most two. -/
def Few (tags : List Tag) (index pending : Nat) : Prop :=
  (tags.map Tag.request).count index + pending ≤ 2

/-- The runs a request has accepted. -/
structure Accepts (tags : List Tag) (index : Nat) (runIds : List RunId) : Prop where
  few : Few tags index 0
  once : runIds.Nodup
  mem_iff : ∀ runId, runId ∈ runIds ↔ ∃ tag ∈ tags, tag.request = index ∧ tag.runId = runId ∧ tag.standing = .accepted

/-- What the phase of a request says of the runs it has begun. -/
def Told (tags : List Tag) (index : Nat) : ExecutePhase → Prop
  | .arrived | .serving | .catalogRead _ => ∀ tag ∈ tags, tag.request ≠ index
  | .graphRead _ _ ready => (∀ tag ∈ tags, tag.request ≠ index) ∧ ready.length ≤ 2
  | .beginning pending previous => Few tags index pending.length ∧
    (∀ tag ∈ tags, tag.request = index → tag.standing = .waiting) ∧
    (previous = none → ∀ tag ∈ tags, tag.request ≠ index)
  | .launching runIds => Accepts tags index runIds
  | .answered (.ok runIds) => Accepts tags index runIds ∧ runIds ≠ [] ∧
    ∀ tag ∈ tags, tag.request = index → tag.standing = .accepted ∨ tag.standing = .abandoned
  | .answered (.error _) => ∀ tag ∈ tags, tag.request = index → tag.standing = .abandoned
  | .lost => True

variable {tags others : List Tag} {index pending : Nat} {phase : ExecutePhase}

/-- Two lists have the same runs of a request. -/
structure AgreeOn (index : Nat) (tags others : List Tag) : Prop where
  mem_iff : ∀ tag, tag.request = index → (tag ∈ others ↔ tag ∈ tags)
  count : (others.map Tag.request).count index = (tags.map Tag.request).count index

theorem AgreeOn.none (agree : AgreeOn index tags others) (none : ∀ tag ∈ tags, tag.request ≠ index) :
    ∀ tag ∈ others, tag.request ≠ index :=
  fun tag member same => none tag ((agree.mem_iff tag same).mp member) same

theorem AgreeOn.all (agree : AgreeOn index tags others) {holds : Tag → Prop}
    (all : ∀ tag ∈ tags, tag.request = index → holds tag) : ∀ tag ∈ others, tag.request = index → holds tag :=
  fun tag member same => all tag ((agree.mem_iff tag same).mp member) same

theorem AgreeOn.few (agree : AgreeOn index tags others) (few : Few tags index pending) : Few others index pending := by
  unfold Few at few ⊢
  rw [agree.count]
  exact few

theorem AgreeOn.accepts (agree : AgreeOn index tags others) {runIds : List RunId} (accepts : Accepts tags index runIds) :
    Accepts others index runIds where
  few := agree.few accepts.few
  once := accepts.once
  mem_iff runId := by
    rw [accepts.mem_iff]
    constructor
    · rintro ⟨tag, member, own, rest⟩
      exact ⟨tag, (agree.mem_iff tag own).mpr member, own, rest⟩
    · rintro ⟨tag, member, own, rest⟩
      exact ⟨tag, (agree.mem_iff tag own).mp member, own, rest⟩

/-- What a request is told is about its own runs. -/
theorem AgreeOn.told (agree : AgreeOn index tags others) (told : Told tags index phase) : Told others index phase := by
  cases phase with
  | arrived | serving | catalogRead => exact agree.none told
  | graphRead => exact ⟨agree.none told.1, told.2⟩
  | beginning => exact ⟨agree.few told.1, agree.all told.2.1, fun first => agree.none (told.2.2 first)⟩
  | launching => exact agree.accepts told
  | answered result =>
    cases result with
    | ok runIds => exact ⟨agree.accepts told.1, told.2.1, agree.all told.2.2⟩
    | error error => exact agree.all told
  | lost => trivial

/-- Another request begins a run. -/
theorem AgreeOn.append {tag : Tag} (apart : tag.request ≠ index) : AgreeOn index tags (tags ++ [tag]) where
  mem_iff other own := by
    rw [List.mem_append, List.mem_singleton]
    exact ⟨fun member => member.elim id fun same => absurd (same ▸ own) apart, .inl⟩
  count := by
    rw [List.map_append, List.count_append, List.map_singleton, List.count_singleton, if_neg (by simpa using apart),
      Nat.add_zero]

/-- A run of another request moves on. -/
theorem AgreeOn.set {position : Nat} {old new : Tag} (distinct : (tags.map Tag.runId).Nodup)
    (found : tags[position]? = some old) (same : new.runId = old.runId) (kept : new.request = old.request)
    (apart : old.request ≠ index) : AgreeOn index tags (tags.set position new) where
  mem_iff other own := by
    rw [Workers.mem_set distinct found same]
    constructor
    · rintro (rfl | ⟨member, _⟩)
      · exact absurd (kept.symm.trans own) apart
      · exact member
    · intro member
      refine .inr ⟨member, fun clash => ?_⟩
      obtain rfl := List.inj_on_of_nodup_map distinct member (List.mem_of_getElem? found) clash
      exact apart own
  count := by
    rw [Workers.map_set found kept]

/-- No run of the request was accepted. -/
theorem Accepts.nil (few : Few tags index 0)
    (unaccepted : ∀ tag ∈ tags, tag.request = index → tag.standing ≠ .accepted) : Accepts tags index [] where
  few := few
  once := List.nodup_nil
  mem_iff runId := by
    constructor
    · intro member
      cases member
    · rintro ⟨tag, member, own, _, accepted⟩
      exact absurd accepted (unaccepted tag member own)

/-- A run of the request moves on, and may be accepted now. -/
theorem Accepts.set {runIds : List RunId} {position : Nat} {old new : Tag} (accepts : Accepts tags index runIds)
    (distinct : (tags.map Tag.runId).Nodup) (found : tags[position]? = some old) (same : new.runId = old.runId)
    (kept : new.request = old.request) (own : old.request = index) (open_ : old.standing ≠ .accepted) :
    Accepts (tags.set position new) index (if new.standing = .accepted then runIds ++ [new.runId] else runIds) := by
  have member := List.mem_of_getElem? found
  have unaccepted : new.runId ∉ runIds := by
    intro told
    obtain ⟨tag, inside, _, clash, accepted⟩ := (accepts.mem_iff _).mp told
    obtain rfl := List.inj_on_of_nodup_map distinct inside member (clash.trans same)
    exact open_ accepted
  have moved := Workers.mem_set distinct found same
  have others : ∀ runId, (∃ tag ∈ tags.set position new, tag.request = index ∧ tag.runId = runId ∧
      tag.standing = .accepted) ↔ (runId = new.runId ∧ new.standing = .accepted) ∨ runId ∈ runIds := by
    intro runId
    rw [accepts.mem_iff]
    constructor
    · rintro ⟨tag, inside, asked, rfl, accepted⟩
      rcases (moved tag).mp inside with rfl | ⟨before, _⟩
      · exact .inl ⟨rfl, accepted⟩
      · exact .inr ⟨tag, before, asked, rfl, accepted⟩
    · rintro (⟨rfl, accepted⟩ | ⟨tag, before, asked, rfl, accepted⟩)
      · exact ⟨new, (moved new).mpr (.inl rfl), kept.trans own, rfl, accepted⟩
      · refine ⟨tag, (moved tag).mpr (.inr ⟨before, fun clash => ?_⟩), asked, rfl, accepted⟩
        obtain rfl := List.inj_on_of_nodup_map distinct before member clash
        exact open_ accepted
  refine ⟨?_, ?_, fun runId => ?_⟩
  · unfold Few
    rw [Workers.map_set found kept]
    exact accepts.few
  · split
    · rw [List.nodup_append]
      refine ⟨accepts.once, List.nodup_singleton _, fun first inside second last clash => ?_⟩
      obtain rfl := List.mem_singleton.mp last
      exact unaccepted (clash ▸ inside)
    · exact accepts.once
  · rw [others]
    split
    · rename_i accepted
      simp only [List.mem_append, List.mem_singleton, accepted, and_true]
      exact or_comm
    · rename_i unaccepted
      simp only [unaccepted, and_false, false_or]

/-- A request accepts no more runs than it has begun. -/
theorem Accepts.length_le {runIds : List RunId} (accepts : Accepts tags index runIds) : runIds.length ≤ 2 := by
  have inside : runIds ⊆ (tags.filter fun tag => tag.request = index).map Tag.runId := by
    intro runId told
    obtain ⟨tag, member, own, rfl, _⟩ := (accepts.mem_iff runId).mp told
    exact List.mem_map_of_mem (List.mem_filter.mpr ⟨member, decide_eq_true own⟩)
  have short := (accepts.once.subperm inside).length_le
  rw [List.length_map, ← List.countP_eq_length_filter] at short
  have few := accepts.few
  unfold Few at few
  rw [List.count, List.countP_map] at few
  calc runIds.length ≤ tags.countP fun tag => tag.request = index := short
    _ = tags.countP ((· == index) ∘ Tag.request) := List.countP_congr fun tag _ => by simp
    _ ≤ 2 := few

end Tags

section Claims

variable {graph : WorkflowGraph} {states : GraphNodeId → Option GraphNodeState} {owner : String} {limit : Nat}

/-- The claim loop stops at its limit. -/
theorem claimLoop_limit {nodes : List GraphNodeExecution} {claimed result : List GraphNodeId}
    (room : claimed.length ≤ limit) (ran : (GraphExecution.claimLoop graph states owner limit claimed nodes).1 = .ok result) :
    result.length ≤ limit := by
  induction nodes generalizing claimed with
  | nil => exact Except.ok.inj ran ▸ room
  | cons first rest ih =>
    simp only [GraphExecution.claimLoop] at ran
    split at ran
    · exact ih room ran
    · rename_i passed
      split at ran
      · cases ran
      · split at ran
        · refine ih ?_ ran
          rw [List.length_append, List.length_singleton]
          omega
        · exact ih room ran

theorem claimReady_limit {execution : GraphExecution} {claimed : List GraphNodeId}
    (ran : (execution.claimReady owner limit).1 = .ok claimed) : claimed.length ≤ limit := by
  unfold GraphExecution.claimReady at ran
  split at ran
  · cases ran
  · generalize loop : GraphExecution.claimLoop execution.graph (GraphExecution.snapshot execution.nodes) owner limit []
      execution.nodes = result at ran
    obtain ⟨result, nodes⟩ := result
    cases result with
    | error error => cases ran
    | ok claimed =>
      obtain rfl := Except.ok.inj ran
      exact claimLoop_limit (Nat.zero_le _) (congrArg Prod.fst loop)

end Claims

variable [Sha256] [SerdeJson]

/-- Every request is told what has become of the runs it has begun. -/
structure Answers (executor : GraphExecutor) : Prop where
  accounts : Accounts executor
  told : ∀ index request, executor.requests[index]? = some request → Told executor.tags index request.phase
  bounded : ∀ tag ∈ executor.tags, tag.request < executor.requests.length

namespace Answers

variable {self after : GraphExecutor} {index position : Nat} {request : ExecuteRequest} {phase : ExecutePhase}
  {launch : Launch} {means : Means}

omit [Sha256] [SerdeJson] in
theorem distinct (answers : Answers self) : (self.tags.map Tag.runId).Nodup := by
  rw [GraphExecutor.tags, List.map_map]
  exact answers.accounts.accounted.distinct

omit [Sha256] [SerdeJson] in
/-- A step that no request sees. -/
theorem unseen (answers : Answers self) (accounts : Accounts after) (tags : after.tags = self.tags)
    (requests : after.requests = self.requests) : Answers after := by
  refine ⟨accounts, ?_, ?_⟩
  · rw [tags, requests]
    exact answers.told
  · rw [tags, requests]
    exact answers.bounded

omit [Sha256] [SerdeJson] in
/-- A step of one request. -/
theorem advanced (answers : Answers self) (accounts : Accounts after) (found : self.requests[index]? = some request)
    (requests : after.requests = self.requests.set index { request with phase })
    (agree : ∀ other, other ≠ index → AgreeOn other self.tags after.tags) (told : Told after.tags index phase)
    (bounded : ∀ tag ∈ after.tags, tag.request = index ∨ tag ∈ self.tags) : Answers after := by
  have inside : index < self.requests.length := (List.getElem?_eq_some_iff.mp found).1
  refine ⟨accounts, fun other later reached => ?_, fun tag member => ?_⟩
  · rw [requests, List.getElem?_set] at reached
    by_cases same : index = other
    · subst same
      rw [if_pos rfl, if_pos inside] at reached
      exact Option.some.inj reached ▸ told
    · rw [if_neg same] at reached
      exact (agree other (Ne.symm same)).told (answers.told other later reached)
  · rw [requests, List.length_set]
    rcases bounded tag member with rfl | old
    · exact inside
    · exact answers.bounded tag old

omit [Sha256] [SerdeJson] in
/-- A step of one request that leaves the launches. -/
theorem answered (answers : Answers self) (accounts : Accounts (self.setRequest index request phase))
    (found : self.requests[index]? = some request) (told : Told self.tags index phase) :
    Answers (self.setRequest index request phase) :=
  answers.advanced accounts found rfl (fun _ _ => ⟨fun _ _ => Iff.rfl, rfl⟩) told fun _ member => .inr member

omit [Sha256] [SerdeJson] in
/-- What a request is told that goes on with what it has read, before it begins a run. -/
theorem told_ofResult {α : Type} {tags : List Tag} {proceed : α → ExecutePhase} {result : StoreResult α}
    (none : ∀ tag ∈ tags, tag.request ≠ index) (proceeds : ∀ value, result = .ok value → Told tags index (proceed value)) :
    Told tags index (.ofResult proceed result) := by
  cases result with
  | ok value => exact proceeds value rfl
  | error fault =>
    cases fault with
    | error error => exact fun tag member own => absurd own (none tag member)
    | panic message => trivial

omit [SerdeJson] in
/-- The nodes that a request begins are at most two. -/
theorem read_few {db : Database} {id : GraphRunId} {command : ExecuteReadyGraphCommand} {execution : GraphExecution}
    {ready : List GraphNodeId} (done : GraphExecutor.readGraph db id command = .ok (execution, ready)) :
    ready.length ≤ 2 := by
  simp only [GraphExecutor.readGraph, bind_ok, exists_unit, lift_ok, pure_ok, Prod.mk.injEq] at done
  obtain ⟨_, _, _, _, claimed, _, rfl, rfl⟩ := done
  exact claimReady_limit claimed

theorem bindings_few {db : Database} {catalog : IdentityCatalog} {execution : GraphExecution} {ready : List GraphNodeId}
    {pending : List (GraphNodeId × ProviderRunBinding)}
    (done : GraphExecutor.readBindings db catalog execution ready = .ok pending) : pending.length ≤ ready.length := by
  simp only [GraphExecutor.readBindings, bind_ok, exists_unit, pure_ok] at done
  obtain ⟨_, bindings, _, rfl⟩ := done
  rw [List.length_zip]
  exact Nat.min_le_left _ _

omit [Sha256] [SerdeJson] in
/-- A launch that moves on where it stands. -/
theorem tags_set {new : Launch} (found : self.launches[position]? = some launch) (same : new.tag = launch.tag) :
    (self.setLaunch position new).tags = self.tags :=
  Workers.map_set found same

omit [Sha256] [SerdeJson] in
/-- The same in an executor that has changed elsewhere too. -/
theorem tags_moved {executor : GraphExecutor} {new : Launch} (kept : executor.launches = self.launches)
    (found : self.launches[position]? = some launch) (same : new.tag = launch.tag) :
    (executor.setLaunch position new).tags = self.tags := by
  have tags : executor.tags = self.tags := congrArg (List.map Launch.tag) kept
  rw [← tags]
  exact tags_set (kept ▸ found) same

/-- A launch that is started for a request: it may be accepted now. -/
theorem startNext_tags (index : Nat) (request : ExecuteRequest) (means : Means) (runIds : List RunId)
    (found : self.launches[position]? = some launch)
    (starting : launch.phase.starting = true) : ∃ new : Tag, new.request = launch.request ∧ new.runId = launch.runId ∧
      (self.startNext index request means runIds position launch).tags = self.tags.set position new ∧
      (self.startNext index request means runIds position launch).requests = if new.standing = .accepted
        then self.requests.set index { request with phase := .launching (runIds ++ [new.runId]) }
        else self.requests := by
  have moves : ∀ {executor : GraphExecutor} {later : Launch}, executor.launches = self.launches →
      (executor.setLaunch position later).tags = self.tags.set position later.tag := by
    intro executor later same
    simp only [GraphExecutor.tags, GraphExecutor.setLaunch, same, List.map_set]
  obtain ⟨origin, receipt, phase, cancelled, outcome⟩ := launch
  cases phase with
  | begun =>
    simp only [GraphExecutor.startNext]
    split
    · exact ⟨⟨origin, receipt.runId, .accepted⟩, rfl, rfl, moves rfl, rfl⟩
    · split
      · exact ⟨⟨origin, receipt.runId, .starting⟩, rfl, rfl, moves rfl, rfl⟩
      · exact ⟨⟨origin, receipt.runId, .starting⟩, rfl, rfl, moves rfl, rfl⟩
  | registered => exact ⟨⟨origin, receipt.runId, .starting⟩, rfl, rfl, moves rfl, rfl⟩
  | counted =>
    simp only [GraphExecutor.startNext]
    split
    · exact ⟨⟨origin, receipt.runId, .accepted⟩, rfl, rfl, moves rfl, rfl⟩
    · exact ⟨⟨origin, receipt.runId, .starting⟩, rfl, rfl, moves rfl, rfl⟩
  | unspawned => exact ⟨⟨origin, receipt.runId, .starting⟩, rfl, rfl, moves rfl, rfl⟩
  | uncounted => exact ⟨⟨origin, receipt.runId, .starting⟩, rfl, rfl, moves rfl, rfl⟩
  | failing stage =>
    simp only [GraphExecutor.startNext]
    cases (persistStep self.process receipt .unavailable means.now means.costId stage).2 with
    | none => exact ⟨⟨origin, receipt.runId, .abandoned⟩, rfl, rfl, moves rfl, rfl⟩
    | some stage => exact ⟨⟨origin, receipt.runId, .starting⟩, rfl, rfl, moves rfl, rfl⟩
  | _ => cases starting

/-- The worker of a launch leaves it accepted. -/
theorem work_tags {now : Nat} {costId : CostRecordId} :
    (self.work position now costId).tags = self.tags ∧ (self.work position now costId).requests = self.requests := by
  cases found : self.launches[position]? with
  | none =>
    unfold GraphExecutor.work
    rw [found]
    exact ⟨rfl, rfl⟩
  | some launch =>
    obtain ⟨origin, receipt, phase, cancelled, outcome⟩ := launch
    unfold GraphExecutor.work
    rw [found]
    cases phase with
    | spawned =>
      dsimp only
      split <;> exact ⟨tags_set found rfl, rfl⟩
    | preflighting =>
      dsimp only
      split <;> exact ⟨tags_set found rfl, rfl⟩
    | entered =>
      dsimp only
      split
      · exact ⟨tags_set found rfl, rfl⟩
      · split <;> exact ⟨tags_set found rfl, rfl⟩
    | authorising =>
      dsimp only
      split
      · exact ⟨tags_set found rfl, rfl⟩
      · split <;> exact ⟨tags_set found rfl, rfl⟩
    | draining => exact ⟨tags_set found rfl, rfl⟩
    | persisting stage =>
      dsimp only
      cases (persistStep self.process receipt (outcome.getD .unavailable) now costId stage).2 with
      | none => exact ⟨tags_moved rfl found rfl, rfl⟩
      | some stage => exact ⟨tags_moved rfl found rfl, rfl⟩
    | closing => exact ⟨tags_moved rfl found rfl, rfl⟩
    | unregistered => exact ⟨tags_moved rfl found rfl, rfl⟩
    | _ => exact ⟨rfl, rfl⟩

omit [Sha256] [SerdeJson] in
theorem finishRunner_tags {ending : RunnerEnd} : (self.finishRunner position ending).tags = self.tags ∧
    (self.finishRunner position ending).requests = self.requests := by
  unfold GraphExecutor.finishRunner
  split
  · exact ⟨rfl, rfl⟩
  · rename_i launch found
    obtain ⟨origin, receipt, phase, cancelled, outcome⟩ := launch
    split
    · rename_i working _ _
      obtain rfl : phase = .atProvider := working
      exact ⟨tags_set found rfl, rfl⟩
    · exact ⟨rfl, rfl⟩

omit [Sha256] [SerdeJson] in
theorem signal_tags {runId : RunId} :
    (self.signal runId).tags = self.tags ∧ (self.signal runId).requests = self.requests := by
  unfold GraphExecutor.signal
  split
  · exact ⟨rfl, rfl⟩
  · rename_i position _
    cases found : self.launches[position]? with
    | none => exact ⟨rfl, rfl⟩
    | some launch => exact ⟨tags_set found rfl, rfl⟩

theorem shutDown_tags : (self.shutDown index).tags = self.tags ∧ (self.shutDown index).requests = self.requests := by
  unfold GraphExecutor.shutDown
  split
  · exact ⟨rfl, rfl⟩
  · dsimp only
    split <;> exact ⟨rfl, rfl⟩

/-- A node that is begun is a run of its request; after an error the request goes on with the runs it has. -/
theorem beginNext {now : Nat} {ids : RunIds} {nodeId : GraphNodeId} {binding : ProviderRunBinding}
    {pending : List (GraphNodeId × ProviderRunBinding)} {previous : Option BeginGraphNodeRunReceipt}
    (answers : Answers self) (found : self.requests[index]? = some request)
    (here : request.phase = .beginning ((nodeId, binding) :: pending) previous)
    (accounts : Accounts (self.beginNext index request now ids nodeId binding pending previous)) :
    Answers (self.beginNext index request now ids nodeId binding pending previous) := by
  have told := answers.told index request found
  rw [here] at told
  obtain ⟨few, waiting, first⟩ := told
  have passed : ∀ {phase : ExecutePhase} {executor : GraphExecutor}, executor.launches = self.launches →
      executor.requests = self.requests.set index { request with phase } → Accounts executor →
      Told self.tags index phase → Answers executor := by
    intro phase executor launches requests accounts told
    have tags : executor.tags = self.tags := by rw [GraphExecutor.tags, launches, GraphExecutor.tags]
    refine answers.advanced accounts found requests (fun _ _ => ?_) (tags ▸ told) fun _ member => .inr (tags ▸ member)
    rw [tags]
    exact ⟨fun _ _ => Iff.rfl, rfl⟩
  unfold GraphExecutor.beginNext at accounts ⊢
  dsimp only at accounts ⊢
  cases begun : self.process.read fun db => beginGraphNodeRunInner db now ids request.executionId
      (GraphExecutor.beginCommand request nodeId previous) (some binding) with
  | ok committed =>
    obtain ⟨db, receipt⟩ := committed
    simp only [begun] at accounts ⊢
    generalize begins : (({ self with
        process := self.process.next (.command (.beginGraphNodeRun now ids request.executionId
          (GraphExecutor.beginCommand request nodeId previous) (some binding)))
        launches := self.launches ++ [⟨index, receipt, .begun, false, none⟩] } : GraphExecutor).setRequest index request
          (.beginning pending (some receipt))) = after at accounts ⊢
    have tags : after.tags = self.tags ++ [⟨index, receipt.runId, .waiting⟩] := by
      rw [← begins, GraphExecutor.tags, GraphExecutor.tags]
      simp only [GraphExecutor.setRequest, List.map_append]
      rfl
    have requests : after.requests = self.requests.set index { request with phase := .beginning pending (some receipt) } := by
      rw [← begins]
      rfl
    refine answers.advanced accounts found requests (fun other apart => ?_) ?_ fun tag member => ?_
    · rw [tags]
      exact .append (Ne.symm apart)
    · rw [tags]
      refine ⟨?_, fun tag member own => ?_, fun none => by cases none⟩
      · unfold Few at few ⊢
        rw [List.map_append, List.count_append, List.map_singleton, List.count_singleton_self]
        rw [List.length_cons] at few
        omega
      · rcases List.mem_append.mp member with old | new
        · exact waiting tag old own
        · obtain rfl := List.mem_singleton.mp new
          rfl
    · rw [tags] at member
      rcases List.mem_append.mp member with old | new
      · exact .inr old
      · obtain rfl := List.mem_singleton.mp new
        exact .inl rfl
  | error fault =>
    cases fault with
    | error error =>
      simp only [begun] at accounts ⊢
      refine passed rfl rfl accounts ?_
      cases previous with
      | none => exact fun tag member own => absurd own (first rfl tag member)
      | some receipt =>
        -- the loop ends early: every run begun so far still waits to be started
        refine Accepts.nil (Nat.le_trans (Nat.add_le_add_left (Nat.zero_le _) _) few) fun tag member own accepted => ?_
        rw [waiting tag member own] at accepted
        cases accepted
    | panic message =>
      simp only [begun] at accounts ⊢
      exact passed rfl rfl accounts trivial

/-- A launch that is taken up is one of the request's that is being started. -/
theorem startNext {runIds : List RunId} (answers : Answers self) (found : self.requests[index]? = some request)
    (here : request.phase = .launching runIds) (located : self.launches[position]? = some launch)
    (own : launch.request = index) (starting : launch.phase.starting = true)
    (accounts : Accounts (self.startNext index request means runIds position launch)) :
    Answers (self.startNext index request means runIds position launch) := by
  obtain ⟨new, kept, same, tags, requests⟩ := startNext_tags index request means runIds located starting
  have told := answers.told index request found
  rw [here] at told
  have at_ : self.tags[position]? = some launch.tag := by
    rw [GraphExecutor.tags, List.getElem?_map, located]
    rfl
  have open_ : launch.tag.standing ≠ .accepted := by
    intro accepted
    have closed := LaunchPhase.starting_iff.mpr (.inl accepted)
    rw [starting] at closed
    cases closed
  have accepts := Accepts.set told answers.distinct at_ same kept own open_
  rw [← tags] at accepts
  have phases : (self.startNext index request means runIds position launch).requests = self.requests.set index
      { request with phase := .launching (if new.standing = .accepted then runIds ++ [new.runId] else runIds) } := by
    rw [requests]
    split
    · rfl
    · rw [← here]
      obtain ⟨bound, at_⟩ := List.getElem?_eq_some_iff.mp found
      rw [← at_, List.set_getElem_self]
  refine answers.advanced accounts found phases (fun other apart => ?_) accepts fun tag member => ?_
  · rw [tags]
    exact .set answers.distinct at_ same kept fun clash => apart (clash.symm.trans own)
  · rw [tags, Workers.mem_set answers.distinct at_ same] at member
    rcases member with rfl | ⟨old, _⟩
    · exact .inl (kept.trans own)
    · exact .inr old

/-- Every step of a request keeps what it is told. -/
theorem handle (answers : Answers self) (accounts : Accounts (self.handle index means)) :
    Answers (self.handle index means) := by
  unfold GraphExecutor.handle at accounts ⊢
  cases found : self.requests[index]? with
  | none =>
    rw [found] at accounts
    exact answers
  | some request =>
    rw [found] at accounts
    dsimp only at accounts ⊢
    have told := answers.told index request found
    cases here : request.phase with
    | arrived =>
      rw [here] at told
      simp only [here] at accounts
      exact answers.answered accounts found (told_ofResult told fun _ _ => told)
    | serving =>
      rw [here] at told
      simp only [here] at accounts
      exact answers.answered accounts found (told_ofResult told fun _ _ => told)
    | catalogRead catalog =>
      rw [here] at told
      simp only [here] at accounts
      refine answers.answered accounts found (told_ofResult told fun value read => ⟨told, ?_⟩)
      exact read_few (DaemonProcess.read_ok read)
    | graphRead catalog execution ready =>
      rw [here] at told
      simp only [here] at accounts
      refine answers.answered accounts found (told_ofResult told.1 fun pending read => ⟨?_, ?_, fun _ => told.1⟩)
      · unfold Few
        have short := bindings_few (DaemonProcess.read_ok read)
        have none : (self.tags.map Tag.request).count index = 0 := by
          rw [List.count_eq_zero]
          intro member
          obtain ⟨tag, inside, own⟩ := List.mem_map.mp member
          exact told.1 tag inside own
        have few := told.2
        omega
      · exact fun tag member own => absurd own (told.1 tag member)
    | beginning pending previous =>
      cases pending with
      | nil =>
        rw [here] at told
        simp only [here] at accounts
        refine answers.answered accounts found (Accepts.nil told.1 fun tag member own accepted => ?_)
        rw [told.2.1 tag member own] at accepted
        cases accepted
      | cons next rest =>
        simp only [here] at accounts
        exact answers.beginNext found here accounts
    | launching runIds =>
      rw [here] at told
      simp only [here] at accounts
      dsimp only
      cases searched : self.launches.findIdx? fun launch => launch.request = index && launch.phase.starting with
      | none =>
        simp only [searched] at accounts ⊢
        -- no launch of the request is being started
        have settled : ∀ tag ∈ self.tags, tag.request = index →
            tag.standing = .accepted ∨ tag.standing = .abandoned := by
          intro tag member own
          obtain ⟨launch, inside, rfl⟩ := List.mem_map.mp member
          have passed := List.findIdx?_eq_none_iff.mp searched launch inside
          rw [show launch.request = index from own] at passed
          simp only [decide_true, Bool.true_and] at passed
          exact LaunchPhase.starting_iff.mp passed
        refine answers.answered accounts found ?_
        cases runIds with
        | nil =>
          intro tag member own
          rcases settled tag member own with accepted | abandoned
          · have accepts : tag.runId ∈ [] := (told.mem_iff _).mpr ⟨tag, member, own, rfl, accepted⟩
            cases accepts
          · exact abandoned
        | cons first rest => exact ⟨told, List.cons_ne_nil _ _, settled⟩
      | some position =>
        simp only [searched] at accounts ⊢
        obtain ⟨bound, taken, _⟩ := List.findIdx?_eq_some_iff_getElem.mp searched
        have located : self.launches[position]? = some self.launches[position] := List.getElem?_eq_getElem bound
        simp only [Bool.and_eq_true, decide_eq_true_eq] at taken
        rw [located] at accounts ⊢
        exact answers.startNext found here located taken.1 taken.2 accounts
    | answered result =>
      exact answers
    | lost => exact answers

omit [Sha256] [SerdeJson] in
/-- A run that was accepted or abandoned stays so when the process ends. -/
theorem lose_tag {launch : Launch} (settled : launch.tag.standing = .accepted ∨ launch.tag.standing = .abandoned) :
    launch.lose.tag = launch.tag := by
  obtain ⟨origin, receipt, phase, cancelled, outcome⟩ := launch
  cases phase <;> simp_all [Launch.lose, Launch.tag, Launch.runId, LaunchPhase.standing, LaunchPhase.closed]

/-- The end of the process leaves what was answered. -/
theorem restarted {now : Nat} (answers : Answers self) (accounts : Accounts (self.next (.store (.restart now)))) :
    Answers (self.next (.store (.restart now))) where
  accounts := accounts
  told index later reached := by
    simp only [GraphExecutor.next, List.getElem?_map, Option.map_eq_some_iff] at reached
    obtain ⟨request, found, rfl⟩ := reached
    have told := answers.told index request found
    have agree : (∀ tag ∈ self.tags, tag.request = index → tag.standing = .accepted ∨ tag.standing = .abandoned) →
        AgreeOn index self.tags (self.next (.store (.restart now))).tags := by
      intro settled
      constructor
      · intro tag own
        simp only [GraphExecutor.next, GraphExecutor.tags, List.map_map, List.mem_map, Function.comp_apply] at settled ⊢
        constructor
        · rintro ⟨launch, member, rfl⟩
          have same : launch.lose.tag.request = launch.tag.request := by
            unfold Launch.lose
            split <;> rfl
          rw [lose_tag (settled _ ⟨launch, member, rfl⟩ (same.symm.trans own))]
          exact ⟨launch, member, rfl⟩
        · rintro ⟨launch, member, rfl⟩
          exact ⟨launch, member, lose_tag (settled _ ⟨launch, member, rfl⟩ own)⟩
      · simp only [GraphExecutor.next, GraphExecutor.tags, List.map_map]
        congr 1
        refine List.map_congr_left fun launch _ => ?_
        simp only [Function.comp_apply, Launch.tag, Launch.lose]
        split <;> rfl
    cases here : request.phase with
    | answered result =>
      rw [here] at told
      simp only [ExecutePhase.closed, if_true, here]
      cases result with
      | ok runIds => exact (agree told.2.2).told told
      | error error => exact (agree fun tag member own => .inr (told tag member own)).told told
    | lost =>
      simp only [ExecutePhase.closed, if_true, here]
      trivial
    | _ => trivial
  bounded := by
    simp only [GraphExecutor.next, GraphExecutor.tags, List.length_map, List.map_map]
    intro tag member
    obtain ⟨launch, inside, rfl⟩ := List.mem_map.mp member
    have same : launch.lose.tag.request = launch.tag.request := by
      unfold Launch.lose
      split <;> rfl
    rw [Function.comp_apply, same]
    exact answers.bounded _ (List.mem_map_of_mem inside)

/-- Every step of the executor keeps what the requests are told. -/
theorem next (self : GraphExecutor) (action : ExecutorAction) (answers : Answers self) : Answers (self.next action) := by
  have accounts := answers.accounts.next self action
  cases action with
  | request executionId command =>
    refine ⟨accounts, fun index request reached => ?_, fun tag member => ?_⟩
    · simp only [GraphExecutor.next, List.getElem?_append] at reached
      split at reached
      · exact answers.told index request reached
      · rename_i outside
        -- the launches are of the requests before it
        obtain ⟨_, rfl⟩ := List.getElem?_eq_some_iff.mp reached
        simp only [List.getElem_singleton]
        intro tag member own
        have bounded := answers.bounded tag member
        omega
    · rw [GraphExecutor.next, List.length_append]
      exact Nat.lt_add_right _ (answers.bounded tag member)
  | handle => exact answers.handle accounts
  | work => exact answers.unseen accounts work_tags.1 work_tags.2
  | finishRunner => exact answers.unseen accounts finishRunner_tags.1 finishRunner_tags.2
  | signal => exact answers.unseen accounts signal_tags.1 signal_tags.2
  | requestShutdown => exact answers.unseen accounts rfl rfl
  | shutDown => exact answers.unseen accounts shutDown_tags.1 shutDown_tags.2
  | store step =>
    cases step with
    | restart now => exact answers.restarted accounts
    | _ => exact answers.unseen accounts rfl rfl

theorem run (process : DaemonProcess) (actions : List ExecutorAction) :
    Answers ((GraphExecutor.start process).run actions) := by
  refine Machine.run_preserves next ⟨.start process, fun _ _ found => ?_, fun _ member => ?_⟩ actions
  · cases found
  · cases member

end Answers

end Bastet.Daemon
