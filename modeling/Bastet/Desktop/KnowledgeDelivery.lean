import Bastet.Library.Interrupted
import Bastet.Library.Occurrences
import Bastet.Core.JsonText
import Bastet.Core.Mvp
import Bastet.Core.Deliverable

/-! Delivery of accepted knowledge into a BastetMind vault: an output file and an entry in the index and in the log,
written one after the other. -/

set_option autoImplicit false

namespace Bastet.Desktop

open Fallible Interrupted Occurrences Bastet.Core

abbrev File := List UInt8

/-- The check of `deliver_knowledge`: a date is `YYYY-MM-DD`. -/
def isDeliveryDate (deliveredOn : String) : Bool :=
  let bytes := asBytes deliveredOn
  bytes.length = 10 && bytes.zipIdx.all fun (byte, index) =>
    if index = 4 ∨ index = 7 then byte = 0x2d else 0x30 ≤ byte ∧ byte ≤ 0x39

structure DeliveryDate where
  text : String
  valid : isDeliveryDate text = true

def DeliveryDate.parse (deliveredOn : String) : Except String DeliveryDate :=
  if valid : isDeliveryDate deliveredOn = true then .ok ⟨deliveredOn, valid⟩
  else .error "delivery date must be YYYY-MM-DD"

/-- What a valid vault holds: its index, its log, and the files of its output directory by their names. -/
structure Vault where
  index : File
  log : File
  outputs : String → Option File

/-- A directory that may be a vault. -/
structure Root where
  canonicalRoot : Except String Unit
  canonicalOutput : Except String Unit
  agents : Bool
  index : Option File
  log : Option File
  outputInside : Bool
  outputs : String → Option File

def Root.vault (root : Root) : Except String Vault := do
  root.canonicalRoot
  root.canonicalOutput
  let index ← okOr root.index "BASTET_MIND_ROOT is not a valid BastetMind vault"
  let log ← okOr root.log "BASTET_MIND_ROOT is not a valid BastetMind vault"
  rejectIf (!root.agents || !root.outputInside) "BASTET_MIND_ROOT is not a valid BastetMind vault"
  .ok ⟨index, log, root.outputs⟩

/-- What a crash cannot divide: a new empty file, or one byte at the end of a file. -/
inductive Effect where
  | create (file : String)
  | output (file : String) (byte : UInt8)
  | index (byte : UInt8)
  | log (byte : UInt8)
  deriving DecidableEq, Repr

def Vault.write (vault : Vault) : Effect → Vault
  | .create file => { vault with outputs := Function.update vault.outputs file (some []) }
  | .output file byte =>
    { vault with outputs := Function.update vault.outputs file ((vault.outputs file).map (· ++ [byte])) }
  | .index byte => { vault with index := vault.index ++ [byte] }
  | .log byte => { vault with log := vault.log ++ [byte] }

theorem after_index (vault : Vault) (bytes : File) :
    after Vault.write vault (bytes.map .index) = { vault with index := vault.index ++ bytes } := by
  induction bytes generalizing vault with
  | nil => simp [after]
  | cons byte rest ih =>
    refine (ih _).trans ?_
    simp [Vault.write]

theorem after_log (vault : Vault) (bytes : File) :
    after Vault.write vault (bytes.map .log) = { vault with log := vault.log ++ bytes } := by
  induction bytes generalizing vault with
  | nil => simp [after]
  | cons byte rest ih =>
    refine (ih _).trans ?_
    simp [Vault.write]

/-- A file of the vault that entries are appended to. -/
structure Ledger where
  file : Vault → File
  update : Vault → File → Vault
  effect : UInt8 → Effect
  unchanged : ∀ vault, update vault (file vault) = vault
  writes : ∀ vault bytes, after Vault.write vault (bytes.map effect) = update vault (file vault ++ bytes)

def indexFile : Ledger where
  file := Vault.index
  update vault index := { vault with index }
  effect := .index
  unchanged _ := rfl
  writes := after_index

def logFile : Ledger where
  file := Vault.log
  update vault log := { vault with log }
  effect := .log
  unchanged _ := rfl
  writes := after_log

def isText (file : File) : Bool :=
  decide (ByteArray.mk file.toArray).IsValidUTF8

/-- `std::fs::read_to_string`. -/
def readToString (file : File) : Except String File :=
  if isText file then .ok file else .error "stream did not contain valid UTF-8"

def appendOnce (ledger : Ledger) (marker content : String) : Stage Vault Effect String := fun vault => do
  let text ← readToString (ledger.file vault)
  if asBytes marker <:+: text then .ok [] else .ok ((asBytes content).map ledger.effect)

def writeOutput (file body : String) : Stage Vault Effect String := fun vault =>
  match vault.outputs file with
  | none => .ok (.create file :: (asBytes body).map (.output file))
  | some found => do
    let text ← readToString found
    rejectIf (text ≠ asBytes body) "BastetMind delivery path conflicts with different content"
    .ok []

section Delivery

variable (deliveryId : KnowledgeDeliveryId) (preview : String) (deliveredOn : DeliveryDate)

def marker : String :=
  "bastet-delivery:" ++ Json.uuidText deliveryId.value

def name : String :=
  "Bastet Workstation Delivery " ++ Json.uuidText deliveryId.value

def path : String :=
  name deliveryId ++ ".md"

def body : String :=
  "---\ntype: output\nstatus: active\ncreated: " ++ deliveredOn.text ++ "\nupdated: " ++ deliveredOn.text ++
    "\naliases: []\ntags: [Bastet-Workstation]\nsources: [\"[[40-輸出成果/Bastet Workstation Master Plan]]\"]" ++
    "\nconfidence: high\n---\n\n<!-- " ++ marker deliveryId ++ " -->\n\n# " ++ name deliveryId ++ "\n\n" ++
    trim preview ++ "\n"

def indexEntry : String :=
  "\n- [[40-輸出成果/" ++ name deliveryId ++ "]] — Bastet Workstation 明確交付。 <!-- " ++ marker deliveryId ++ " -->\n"

def logEntry : String :=
  "\n\n## [" ++ deliveredOn.text ++ "] knowledge delivery | Bastet Workstation\n\n- 新增 [[40-輸出成果/" ++
    name deliveryId ++ "]]；來源為已接受且已遮蔽的 Workstation artifact。 <!-- " ++ marker deliveryId ++ " -->\n"

def stages : List (Stage Vault Effect String) :=
  [writeOutput (path deliveryId) (body deliveryId preview deliveredOn),
    appendOnce indexFile (marker deliveryId) (indexEntry deliveryId),
    appendOnce logFile (marker deliveryId) (logEntry deliveryId deliveredOn)]

/-- The receipt of a delivery, or why it stopped. -/
def deliverBastetMind (vault : Vault) : Except String String := do
  (run Vault.write (stages deliveryId preview deliveredOn) vault).2
  .ok ("bastetmind:" ++ marker deliveryId)

/-- The request of the desktop: the receipt is then recorded with the delivery. -/
def deliverKnowledge (agentMemory : KnowledgeDeliveryId → String → Except String String) (root : Option Root)
    (deliveries : List KnowledgeDelivery) (deliveredOn : String) : Except String String := do
  let day ← DeliveryDate.parse deliveredOn
  let delivery ← okOr (deliveries.find? fun delivery => delivery.metadata.id = deliveryId)
    "knowledge delivery not found"
  rejectIf (delivery.state ≠ .prepared) "knowledge delivery is not prepared"
  match delivery.target with
  | .agentMemoryOs => agentMemory deliveryId delivery.preview
  | .bastetMind => do
    let root ← okOr root "BASTET_MIND_ROOT is not configured"
    let vault ← root.vault
    deliverBastetMind deliveryId delivery.preview day vault

/-- The vault a delivery leaves, whether it stopped or not. -/
def delivered (vault : Vault) : Vault :=
  finished Vault.write (stages deliveryId preview deliveredOn) vault

/-- The vault a crash leaves, after so many of the writes of a delivery. -/
def crashed (vault : Vault) (count : Nat) : Vault :=
  cutOff Vault.write (stages deliveryId preview deliveredOn) vault count

end Delivery

/-! What one delivery does to a vault. -/

theorem isText_asBytes (text : String) : isText (asBytes text) = true :=
  decide_eq_true text.isValidUTF8

theorem isText_append {first second : File} (before : isText first = true) (later : isText second = true) :
    isText (first ++ second) = true := by
  have both := (of_decide_eq_true before).append (of_decide_eq_true later)
  refine decide_eq_true (both.casesOn fun text same => ⟨text, ?_⟩)
  rw [← same]
  apply ByteArray.ext
  simp

theorem readToString_ok {file text : File} : readToString file = .ok text ↔ isText file = true ∧ text = file := by
  unfold readToString
  cases valid : isText file with
  | false => simp
  | true => simpa using eq_comm

theorem after_output (vault : Vault) (file : String) (bytes : File) :
    after Vault.write vault (bytes.map (.output file)) =
      { vault with outputs := Function.update vault.outputs file ((vault.outputs file).map (· ++ bytes)) } := by
  induction bytes generalizing vault with
  | nil =>
    simp only [List.append_nil, Option.map_id', Function.update_eq_self]
    rfl
  | cons byte rest ih =>
    refine (ih _).trans ?_
    simp [Vault.write, Function.comp_def]

theorem writeOutput_ok {file body : String} {vault : Vault} {writes : List Effect} :
    writeOutput file body vault = .ok writes ↔
      vault.outputs file = none ∧ writes = .create file :: (asBytes body).map (.output file) ∨
        vault.outputs file = some (asBytes body) ∧ writes = [] := by
  unfold writeOutput
  cases vault.outputs file with
  | none => simp [eq_comm]
  | some found =>
    simp only [bind_ok, readToString_ok, rejectIf_ok, exists_unit, decide_eq_false_iff_not, not_not, reduceCtorEq,
      false_and, false_or, Option.some.injEq, Except.ok.injEq]
    constructor
    · rintro ⟨text, ⟨_, rfl⟩, same, rfl⟩
      exact ⟨same, rfl⟩
    · rintro ⟨rfl, rfl⟩
      exact ⟨_, ⟨isText_asBytes body, rfl⟩, rfl, rfl⟩

theorem writeOutput_absent {file : String} (body : String) {vault : Vault} (absent : vault.outputs file = none) :
    writeOutput file body vault = .ok (.create file :: (asBytes body).map (.output file)) :=
  writeOutput_ok.mpr (.inl ⟨absent, rfl⟩)

theorem writeOutput_after {file body : String} {vault : Vault} {writes : List Effect}
    (planned : writeOutput file body vault = .ok writes) :
    after Vault.write vault writes =
      { vault with outputs := Function.update vault.outputs file (some (asBytes body)) } := by
  rcases writeOutput_ok.mp planned with ⟨_, rfl⟩ | ⟨same, rfl⟩
  · refine (after_output _ _ _).trans ?_
    simp [Vault.write]
  · rw [← same, Function.update_eq_self]
    rfl

/-- A file after its entry is appended, unless the marker is in it. -/
def appended (marker content : String) (file : File) : File :=
  if asBytes marker <:+: file then file else file ++ asBytes content

section Append

variable {ledger : Ledger} {marker content : String} {vault : Vault}

theorem appendOnce_ok {writes : List Effect} :
    appendOnce ledger marker content vault = .ok writes ↔
      isText (ledger.file vault) = true ∧
        writes = if asBytes marker <:+: ledger.file vault then [] else (asBytes content).map ledger.effect := by
  simp only [appendOnce, bind_ok, readToString_ok]
  constructor
  · rintro ⟨text, ⟨valid, rfl⟩, planned⟩
    refine ⟨valid, ?_⟩
    split_ifs at planned ⊢ <;> exact (Except.ok.inj planned).symm
  · rintro ⟨valid, rfl⟩
    refine ⟨_, ⟨valid, rfl⟩, ?_⟩
    split <;> rfl

theorem appendOnce_after {writes : List Effect} (planned : appendOnce ledger marker content vault = .ok writes) :
    after Vault.write vault writes = ledger.update vault (appended marker content (ledger.file vault)) := by
  rw [(appendOnce_ok.mp planned).2, appended]
  split
  · exact (ledger.unchanged vault).symm
  · exact ledger.writes vault _

variable {rest : List (Stage Vault Effect String)}

theorem run_appendOnce :
    (run Vault.write (appendOnce ledger marker content :: rest) vault).2 = .ok () ↔
      isText (ledger.file vault) = true ∧
        (run Vault.write rest (ledger.update vault (appended marker content (ledger.file vault)))).2 = .ok () := by
  rw [run_ok]
  constructor
  · rintro ⟨writes, planned, ends⟩
    rw [appendOnce_after planned] at ends
    exact ⟨(appendOnce_ok.mp planned).1, ends⟩
  · rintro ⟨valid, ends⟩
    have planned : appendOnce ledger marker content vault = .ok _ := appendOnce_ok.mpr ⟨valid, rfl⟩
    rw [← appendOnce_after planned] at ends
    exact ⟨_, planned, ends⟩

theorem finished_appendOnce (valid : isText (ledger.file vault) = true) :
    finished Vault.write (appendOnce ledger marker content :: rest) vault =
      finished Vault.write rest (ledger.update vault (appended marker content (ledger.file vault))) := by
  have planned : appendOnce ledger marker content vault = .ok _ := appendOnce_ok.mpr ⟨valid, rfl⟩
  rw [finished_cons planned, appendOnce_after planned]

end Append

/-- A cut at an entry that is still to be appended leaves part of it, or all. -/
theorem cutOff_appendOnce {ledger : Ledger} {marker content : String} {vault : Vault}
    {rest : List (Stage Vault Effect String)} (valid : isText (ledger.file vault) = true)
    (unmarked : ¬asBytes marker <:+: ledger.file vault) (count : Nat) :
    cutOff Vault.write (appendOnce ledger marker content :: rest) vault count =
      if count < (asBytes content).length then
        ledger.update vault (ledger.file vault ++ (asBytes content).take count)
      else
        cutOff Vault.write rest (ledger.update vault (ledger.file vault ++ asBytes content))
          (count - (asBytes content).length) := by
  have planned : appendOnce ledger marker content vault = .ok ((asBytes content).map ledger.effect) :=
    appendOnce_ok.mpr ⟨valid, (if_neg unmarked).symm⟩
  rw [cutOff_cons planned, List.length_map, ← List.map_take, ledger.writes, ledger.writes]

/-! The bytes a delivery is known by: those of its id, which the texts it writes hold within their first and last line. -/

section Identity

variable (deliveryId : KnowledgeDeliveryId)

def idBytes : File :=
  asBytes (Json.uuidText deliveryId.value)

theorem newline_not_in_id : 0x0a ∉ idBytes deliveryId := by
  intro member
  obtain ⟨character, found, same⟩ := character_of_byte member (by decide)
  have newline : character = '\n' := Char.toNat_inj.mp same
  exact (Json.uuidText_plain deliveryId.value character found).2 newline

/-- The hyphens of an id. -/
theorem hyphens_of_id : (idBytes deliveryId).count 0x2d = 4 := by
  have digit : ∀ value < 16, (String.utf8EncodeChar (Json.hexDigit value)).count 0x2d = 0 := by decide
  simp only [idBytes, asBytes_eq, Json.uuidText, String.toList_ofList, List.flatMap_assoc, List.count_flatMap]
  have each : ∀ place, (List.count 0x2d ∘ fun place =>
      (if place = 8 ∨ place = 12 ∨ place = 16 ∨ place = 20 then
        ['-', Json.hexDigit (deliveryId.value.toNat / 16 ^ (31 - place) % 16)]
      else [Json.hexDigit (deliveryId.value.toNat / 16 ^ (31 - place) % 16)]).flatMap String.utf8EncodeChar) place =
      if place = 8 ∨ place = 12 ∨ place = 16 ∨ place = 20 then 1 else 0 := by
    intro place
    have last := digit _ (Nat.mod_lt (deliveryId.value.toNat / 16 ^ (31 - place)) (by omega : 0 < 16))
    have hyphen : (String.utf8EncodeChar '-').count 0x2d = 1 := by decide
    simp only [Function.comp_apply]
    split <;> simp [last, hyphen]
  rw [List.map_congr_left fun place _ => each place]
  decide

theorem id_present : idBytes deliveryId ≠ [] := by
  intro empty
  have hyphens := hyphens_of_id deliveryId
  rw [empty] at hyphens
  cases hyphens

theorem id_in_marker : idBytes deliveryId <:+: asBytes (marker deliveryId) := by
  rw [marker, asBytes_append]
  exact (List.suffix_append _ _).isInfix

theorem marker_in_index : asBytes (marker deliveryId) <:+: asBytes (indexEntry deliveryId) := by
  unfold indexEntry
  rw [asBytes_append, asBytes_append]
  exact List.infix_append _ _ _

theorem marker_in_log (deliveredOn : DeliveryDate) :
    asBytes (marker deliveryId) <:+: asBytes (logEntry deliveryId deliveredOn) := by
  unfold logEntry
  rw [asBytes_append, asBytes_append]
  exact List.infix_append _ _ _

theorem enclosed_lines {opening middle closing : String} (opens : (asBytes opening).head? = some 0x0a)
    (closes : (asBytes closing).getLast? = some 0x0a) :
    Enclosed (idBytes deliveryId) (asBytes (opening ++ middle ++ closing)) := by
  have absent := newline_not_in_id deliveryId
  obtain ⟨rest, first⟩ := List.head?_eq_some_iff.mp opens
  obtain ⟨start, last⟩ := List.getLast?_eq_some_iff.mp closes
  rw [asBytes_append, asBytes_append]
  constructor
  · exact ⟨0x0a, rest ++ asBytes middle ++ asBytes closing, absent, by simp [first]⟩
  · exact ⟨asBytes opening ++ asBytes middle ++ start, 0x0a, absent, by simp [last]⟩

theorem indexEntry_enclosed : Enclosed (idBytes deliveryId) (asBytes (indexEntry deliveryId)) := by
  have lines : indexEntry deliveryId = "\n- [[40-輸出成果/" ++ (name deliveryId ++
      ("]] — Bastet Workstation 明確交付。 <!-- " ++ marker deliveryId)) ++ " -->\n" := by
    unfold indexEntry
    simp only [String.append_assoc]
  rw [lines]
  exact enclosed_lines deliveryId (by decide) (by decide)

theorem logEntry_enclosed (deliveredOn : DeliveryDate) :
    Enclosed (idBytes deliveryId) (asBytes (logEntry deliveryId deliveredOn)) := by
  have lines : logEntry deliveryId deliveredOn = "\n\n## [" ++ (deliveredOn.text ++
      ("] knowledge delivery | Bastet Workstation\n\n- 新增 [[40-輸出成果/" ++ (name deliveryId ++
        ("]]；來源為已接受且已遮蔽的 Workstation artifact。 <!-- " ++ marker deliveryId)))) ++ " -->\n" := by
    unfold logEntry
    simp only [String.append_assoc]
  rw [lines]
  exact enclosed_lines deliveryId (by decide) (by decide)

theorem hyphens_of_date (deliveredOn : DeliveryDate) : (asBytes deliveredOn.text).count 0x2d ≤ 2 := by
  have valid := deliveredOn.valid
  simp only [isDeliveryDate, Bool.and_eq_true, decide_eq_true_eq, List.all_eq_true] at valid
  obtain ⟨length, each⟩ := valid
  generalize asBytes deliveredOn.text = bytes at length each
  calc bytes.count 0x2d = (bytes.zipIdx.map Prod.fst).count 0x2d := by rw [List.zipIdx_map_fst]
    _ = bytes.zipIdx.countP fun entry => entry.1 == 0x2d := by rw [List.count, List.countP_map]; rfl
    _ ≤ bytes.zipIdx.countP fun entry => entry.2 == 4 || entry.2 == 7 := by
      refine List.countP_mono_left fun entry member hyphen => ?_
      have digit := each entry member
      split at digit <;> simp_all
    _ = (bytes.zipIdx.map Prod.snd).countP fun index => index == 4 || index == 7 := by rw [List.countP_map]; rfl
    _ = 2 := by rw [List.zipIdx_map_snd, length]; decide

theorem length_of_date (deliveredOn : DeliveryDate) : (asBytes deliveredOn.text).length = 10 := by
  have valid := deliveredOn.valid
  simp only [isDeliveryDate, Bool.and_eq_true, decide_eq_true_eq] at valid
  exact valid.1

theorem body_length (preview : String) (first second : DeliveryDate) :
    (asBytes (body deliveryId preview first)).length = (asBytes (body deliveryId preview second)).length := by
  unfold body
  simp only [asBytes_append, List.length_append, length_of_date]

theorem body_injective {preview : String} {first second : DeliveryDate}
    (same : asBytes (body deliveryId preview first) = asBytes (body deliveryId preview second)) : first = second := by
  unfold body at same
  simp only [asBytes_append, List.append_assoc, List.append_cancel_left_eq] at same
  have dates := (List.append_inj same ((length_of_date first).trans (length_of_date second).symm)).1
  obtain ⟨text, valid⟩ := first
  cases asBytes_injective dates
  rfl

/-- What stands before the line of a log entry. -/
def logHeading (deliveredOn : DeliveryDate) : File :=
  asBytes "\n\n## [" ++ asBytes deliveredOn.text ++ asBytes "] knowledge delivery | Bastet Workstation\n"

def logLine : File :=
  asBytes ("- 新增 [[40-輸出成果/" ++ name deliveryId ++
    "]]；來源為已接受且已遮蔽的 Workstation artifact。 <!-- " ++ marker deliveryId ++ " -->\n")

theorem logEntry_lines (deliveredOn : DeliveryDate) :
    asBytes (logEntry deliveryId deliveredOn) = logHeading deliveredOn ++ 0x0a :: logLine deliveryId := by
  have newline : ∀ rest, 0x0a :: asBytes rest = asBytes ("\n" ++ rest) := fun rest => (asBytes_append "\n" rest).symm
  have lines : "] knowledge delivery | Bastet Workstation\n\n- 新增 [[40-輸出成果/" =
      "] knowledge delivery | Bastet Workstation\n" ++ ("\n" ++ "- 新增 [[40-輸出成果/") := by decide
  unfold logEntry logHeading logLine
  rw [newline, ← asBytes_append, ← asBytes_append, ← asBytes_append, lines]
  simp only [String.append_assoc]

/-- The hyphens of a date are too few for an id. -/
theorem id_not_in_heading (deliveredOn : DeliveryDate) :
    occurrences (idBytes deliveryId) (logHeading deliveredOn) = 0 := by
  rw [occurrences_eq_zero (id_present deliveryId)]
  intro inside
  have hyphens := inside.sublist.count_le 0x2d
  have date := hyphens_of_date deliveredOn
  have none : (asBytes "\n\n## [").count 0x2d = 0 ∧
      (asBytes "] knowledge delivery | Bastet Workstation\n").count 0x2d = 0 := by decide
  rw [hyphens_of_id, logHeading, List.count_append, List.count_append, none.1, none.2] at hyphens
  omega

/-! The entries of all days name the delivery in the same places. -/

theorem logEntry_occurrences (first second : DeliveryDate) :
    occurrences (idBytes deliveryId) (asBytes (logEntry deliveryId first)) =
      occurrences (idBytes deliveryId) (asBytes (logEntry deliveryId second)) := by
  have present := id_present deliveryId
  have absent := newline_not_in_id deliveryId
  rw [logEntry_lines, logEntry_lines, occurrences_stopped present absent, occurrences_stopped present absent,
    id_not_in_heading, id_not_in_heading]

theorem logEntry_length (first second : DeliveryDate) :
    (asBytes (logEntry deliveryId first)).length = (asBytes (logEntry deliveryId second)).length := by
  simp only [logEntry_lines, logHeading, List.length_append, length_of_date]

theorem logEntry_firstAt (first second : DeliveryDate) :
    firstAt (idBytes deliveryId) (asBytes (logEntry deliveryId first)) =
      firstAt (idBytes deliveryId) (asBytes (logEntry deliveryId second)) := by
  have absent := newline_not_in_id deliveryId
  have headings : (logHeading first).length = (logHeading second).length := by
    simp only [logHeading, List.length_append, length_of_date]
  rw [logEntry_lines, logEntry_lines, firstAt_stopped absent rfl (id_not_in_heading deliveryId first),
    firstAt_stopped absent rfl (id_not_in_heading deliveryId second), headings]

end Identity

section Outcome

variable {deliveryId : KnowledgeDeliveryId} {preview : String} {deliveredOn : DeliveryDate} {vault : Vault}

variable (deliveryId preview deliveredOn vault) in
/-- The vaults a delivery does not refuse. -/
structure Accepts : Prop where
  output : vault.outputs (path deliveryId) = none ∨
    vault.outputs (path deliveryId) = some (asBytes (body deliveryId preview deliveredOn))
  indexText : isText vault.index = true
  logText : isText vault.log = true

theorem Accepts.planned (accepts : Accepts deliveryId preview deliveredOn vault) :
    ∃ writes, writeOutput (path deliveryId) (body deliveryId preview deliveredOn) vault = .ok writes := by
  rcases accepts.output with absent | same
  · exact ⟨_, writeOutput_ok.mpr (.inl ⟨absent, rfl⟩)⟩
  · exact ⟨_, writeOutput_ok.mpr (.inr ⟨same, rfl⟩)⟩

theorem run_accepts : (run Vault.write (stages deliveryId preview deliveredOn) vault).2 = .ok () ↔
    Accepts deliveryId preview deliveredOn vault := by
  constructor
  · intro ends
    obtain ⟨writes, placed, ends⟩ := run_ok.mp ends
    rw [writeOutput_after placed, run_appendOnce, run_appendOnce] at ends
    exact ⟨(writeOutput_ok.mp placed).imp And.left And.left, ends.1, ends.2.1⟩
  · intro accepts
    obtain ⟨writes, placed⟩ := accepts.planned
    refine run_ok.mpr ⟨writes, placed, ?_⟩
    rw [writeOutput_after placed, run_appendOnce, run_appendOnce]
    exact ⟨accepts.indexText, accepts.logText, rfl⟩

theorem deliverBastetMind_ok {receipt : String} :
    deliverBastetMind deliveryId preview deliveredOn vault = .ok receipt ↔
      Accepts deliveryId preview deliveredOn vault ∧ receipt = "bastetmind:" ++ marker deliveryId := by
  simp only [deliverBastetMind, bind_ok, exists_unit, run_accepts, Except.ok.injEq]
  exact and_congr_right fun _ => eq_comm

theorem delivered_eq (accepts : Accepts deliveryId preview deliveredOn vault) :
    delivered deliveryId preview deliveredOn vault =
      { index := appended (marker deliveryId) (indexEntry deliveryId) vault.index
        log := appended (marker deliveryId) (logEntry deliveryId deliveredOn) vault.log
        outputs := Function.update vault.outputs (path deliveryId)
          (some (asBytes (body deliveryId preview deliveredOn))) } := by
  obtain ⟨outputs, placed⟩ := accepts.planned
  unfold delivered stages
  rw [finished_cons placed, writeOutput_after placed, finished_appendOnce accepts.indexText,
    finished_appendOnce accepts.logText, finished_nil]
  rfl

/-- The other files of the output directory are left alone. -/
theorem delivered_elsewhere (accepts : Accepts deliveryId preview deliveredOn vault) {file : String}
    (other : file ≠ path deliveryId) :
    (delivered deliveryId preview deliveredOn vault).outputs file = vault.outputs file := by
  rw [delivered_eq accepts]
  exact Function.update_of_ne other _ _

section Appended

variable {word record : File} {marker content : String} {file : File}

/-- An entry is appended to a file that does not name the delivery, and stays the only one. -/
theorem appended_single (present : word ≠ []) (enclosed : Enclosed word (asBytes content))
    (named : word <:+: asBytes marker) (fresh : ¬word <:+: file) :
    Single word (asBytes content) (appended marker content file) := by
  have unmarked : ¬asBytes marker <:+: file := fun marked => fresh (named.trans marked)
  rw [appended, if_neg unmarked, single_append present enclosed, occurrences_eq_zero present]
  exact fresh

theorem appended_kept (marked : asBytes marker <:+: record) (single : Single word record file) :
    appended marker content file = file :=
  if_pos (marked.trans single.1)

theorem single_of_appended (present : word ≠ []) (enclosed : Enclosed word (asBytes content))
    (same : occurrences word (asBytes content) = occurrences word record)
    (single : Single word record (appended marker content file)) : ¬word <:+: file ∨ Single word record file := by
  unfold appended at single
  split at single
  · exact .inr single
  · have count := enclosed.occurrences present file []
    rw [List.append_nil, single.2, same] at count
    rw [← occurrences_eq_zero present]
    have nothing : occurrences word [] = 0 := rfl
    omega

end Appended

variable (deliveryId preview vault) in
/-- The delivery is in the vault: its file is complete, and one entry names it in the index and one in the log. -/
structure Delivered : Prop where
  output : ∃ day, vault.outputs (path deliveryId) = some (asBytes (body deliveryId preview day))
  index : Single (idBytes deliveryId) (asBytes (indexEntry deliveryId)) vault.index
  log : ∃ day, Single (idBytes deliveryId) (asBytes (logEntry deliveryId day)) vault.log

variable (deliveryId preview deliveredOn vault) in
/-- The vaults a delivery completes: nothing of it is there but its whole file, of the same day, and whole entries. -/
structure Recoverable : Prop where
  accepts : Accepts deliveryId preview deliveredOn vault
  index : ¬idBytes deliveryId <:+: vault.index ∨
    Single (idBytes deliveryId) (asBytes (indexEntry deliveryId)) vault.index
  log : ¬idBytes deliveryId <:+: vault.log ∨
    ∃ day, Single (idBytes deliveryId) (asBytes (logEntry deliveryId day)) vault.log

theorem delivers_iff :
    deliverBastetMind deliveryId preview deliveredOn vault = .ok ("bastetmind:" ++ marker deliveryId) ∧
        Delivered deliveryId preview (delivered deliveryId preview deliveredOn vault) ↔
      Recoverable deliveryId preview deliveredOn vault := by
  have present := id_present deliveryId
  have named := id_in_marker deliveryId
  have enclosed := indexEntry_enclosed deliveryId
  have closed := logEntry_enclosed deliveryId
  rw [deliverBastetMind_ok]
  constructor
  · rintro ⟨⟨accepts, -⟩, -, index, day, log⟩
    rw [delivered_eq accepts] at index log
    refine ⟨accepts, single_of_appended present enclosed rfl index, ?_⟩
    have same := logEntry_occurrences deliveryId deliveredOn day
    exact (single_of_appended present (closed deliveredOn) same log).imp id fun single => ⟨day, single⟩
  · rintro ⟨accepts, index, log⟩
    refine ⟨⟨accepts, rfl⟩, ?_⟩
    rw [delivered_eq accepts]
    refine ⟨⟨deliveredOn, Function.update_self ..⟩, ?_, ?_⟩
    · rcases index with fresh | single
      · exact appended_single present enclosed named fresh
      · exact (appended_kept (marker_in_index deliveryId) single).symm ▸ single
    · rcases log with fresh | ⟨day, single⟩
      · exact ⟨deliveredOn, appended_single present (closed deliveredOn) named fresh⟩
      · exact ⟨day, (appended_kept (marker_in_log deliveryId day) single).symm ▸ single⟩

variable (deliveryId vault) in
/-- A vault nothing of the delivery is in. -/
structure Fresh : Prop where
  output : vault.outputs (path deliveryId) = none
  indexText : isText vault.index = true
  index : ¬idBytes deliveryId <:+: vault.index
  logText : isText vault.log = true
  log : ¬idBytes deliveryId <:+: vault.log

/-- A crash before the body is whole leaves an empty file or the part that was written. -/
theorem crashed_body (fresh : Fresh deliveryId vault) {count : Nat}
    (torn : count < (asBytes (body deliveryId preview deliveredOn)).length) :
    (crashed deliveryId preview deliveredOn vault (count + 1)).outputs (path deliveryId) =
      some ((asBytes (body deliveryId preview deliveredOn)).take count) := by
  have placed := writeOutput_absent (body deliveryId preview deliveredOn) fresh.output
  unfold crashed stages
  rw [cutOff_cons placed, if_pos (by rw [List.length_cons, List.length_map]; omega), List.take_succ_cons,
    ← List.map_take]
  refine (congrArg (Vault.outputs · (path deliveryId)) (after_output _ _ _)).trans ?_
  simp [Vault.write]

/-- A crash later than that leaves the whole body and what was written of the entries. -/
theorem crashed_entries (fresh : Fresh deliveryId vault) (count : Nat) :
    crashed deliveryId preview deliveredOn vault ((asBytes (body deliveryId preview deliveredOn)).length + 1 + count) =
      { index := vault.index ++ (asBytes (indexEntry deliveryId)).take count
        log := vault.log ++
          (asBytes (logEntry deliveryId deliveredOn)).take (count - (asBytes (indexEntry deliveryId)).length)
        outputs := Function.update vault.outputs (path deliveryId)
          (some (asBytes (body deliveryId preview deliveredOn))) } := by
  have placed := writeOutput_absent (body deliveryId preview deliveredOn) fresh.output
  have unindexed : ¬asBytes (marker deliveryId) <:+: vault.index :=
    fun marked => fresh.index ((id_in_marker deliveryId).trans marked)
  have unlogged : ¬asBytes (marker deliveryId) <:+: vault.log :=
    fun marked => fresh.log ((id_in_marker deliveryId).trans marked)
  have writes : (Effect.create (path deliveryId) ::
      (asBytes (body deliveryId preview deliveredOn)).map (.output (path deliveryId))).length =
      (asBytes (body deliveryId preview deliveredOn)).length + 1 := by
    rw [List.length_cons, List.length_map]
  unfold crashed stages
  rw [cutOff_cons placed, writes, if_neg (by omega), Nat.add_sub_cancel_left, writeOutput_after placed,
    cutOff_appendOnce fresh.indexText unindexed]
  split
  next early =>
    rw [Nat.sub_eq_zero_of_le early.le, List.take_zero, List.append_nil]
    rfl
  next late =>
    rw [List.take_of_length_le (Nat.le_of_not_lt late)]
    refine (cutOff_appendOnce fresh.logText unlogged _).trans ?_
    split
    · rfl
    next all =>
      rw [cutOff_nil, List.take_of_length_le (Nat.le_of_not_lt all)]
      rfl

theorem crashed_whole (fresh : Fresh deliveryId vault) :
    (crashed deliveryId preview deliveredOn vault
        ((asBytes (body deliveryId preview deliveredOn)).length + 1)).outputs (path deliveryId) =
      some (asBytes (body deliveryId preview deliveredOn)) := by
  have left := congrArg (Vault.outputs · (path deliveryId))
    (crashed_entries fresh 0 : crashed deliveryId preview deliveredOn vault _ = _)
  exact left.trans (Function.update_self ..)

/-- What a crash leaves of an entry is whole, or is still text and does not name the delivery. -/
def Harmless (word file entry : File) (written : Nat) : Prop :=
  entry.length ≤ written ∨ isText (file ++ entry.take written) = true ∧ ¬word <:+: entry.take written

theorem harmless_iff {ι : Type} {word file : File} (entries : ι → File) (entry : ι) (present : word ≠ [])
    (enclosed : ∀ other, Enclosed word (entries other)) (named : word <:+: entries entry)
    (counts : ∀ other, occurrences word (entries entry) = occurrences word (entries other))
    (places : ∀ other, firstAt word (entries entry) = firstAt word (entries other))
    (lengths : ∀ other, (entries entry).length = (entries other).length) (text : isText (entries entry) = true)
    (valid : isText file = true) (fresh : ¬word <:+: file) (written : Nat) :
    (isText (file ++ (entries entry).take written) = true ∧
        (¬word <:+: file ++ (entries entry).take written ∨
          ∃ other, Single word (entries other) (file ++ (entries entry).take written))) ↔
      Harmless word file (entries entry) written := by
  have none := (occurrences_eq_zero present).mpr fresh
  unfold Harmless
  by_cases whole : (entries entry).length ≤ written
  · rw [List.take_of_length_le whole]
    simp only [whole, true_or, iff_true]
    exact ⟨isText_append valid text, .inr ⟨entry, (single_append present (enclosed entry)).mpr none⟩⟩
  · have starts := List.take_prefix written (entries entry)
    have parts := (enclosed entry).occurrences_part present starts file
    have names : occurrences word (entries entry) ≠ 0 := fun zero => (occurrences_eq_zero present).mp zero named
    simp only [whole, false_or]
    refine and_congr_right fun _ => ?_
    rw [← occurrences_eq_zero present, ← occurrences_eq_zero present, parts, none, Nat.zero_add, or_iff_left]
    rintro ⟨other, single⟩
    have shorter : ((entries entry).take written).length < (entries other).length := by
      rw [← lengths other, List.length_take]
      omega
    exact not_single_torn present (enclosed other) (enclosed entry) (counts other ▸ names) (places other) none starts
      shorter single

variable (deliveryId preview vault) in
/-- The crash was before the first write, or after the body and inside no entry that it left named or broken, and the
delivery is tried again on the same day. -/
def CleanBreak (first second : DeliveryDate) (count : Nat) : Prop :=
  count = 0 ∨ ∃ written, count = (asBytes (body deliveryId preview first)).length + 1 + written ∧ first = second ∧
    Harmless (idBytes deliveryId) vault.index (asBytes (indexEntry deliveryId)) written ∧
    Harmless (idBytes deliveryId) vault.log (asBytes (logEntry deliveryId first))
      (written - (asBytes (indexEntry deliveryId)).length)

theorem harmless_index (fresh : Fresh deliveryId vault) (written : Nat) :
    (isText (vault.index ++ (asBytes (indexEntry deliveryId)).take written) = true ∧
        (¬idBytes deliveryId <:+: vault.index ++ (asBytes (indexEntry deliveryId)).take written ∨
          Single (idBytes deliveryId) (asBytes (indexEntry deliveryId))
            (vault.index ++ (asBytes (indexEntry deliveryId)).take written))) ↔
      Harmless (idBytes deliveryId) vault.index (asBytes (indexEntry deliveryId)) written := by
  have named := (id_in_marker deliveryId).trans (marker_in_index deliveryId)
  have entries := harmless_iff (fun _ : Unit => asBytes (indexEntry deliveryId)) () (id_present deliveryId)
    (fun _ => indexEntry_enclosed deliveryId) named (fun _ => rfl) (fun _ => rfl) (fun _ => rfl) (isText_asBytes _)
    fresh.indexText fresh.index written
  simpa only [exists_const] using entries

theorem harmless_log (fresh : Fresh deliveryId vault) (day : DeliveryDate) (written : Nat) :
    (isText (vault.log ++ (asBytes (logEntry deliveryId day)).take written) = true ∧
        (¬idBytes deliveryId <:+: vault.log ++ (asBytes (logEntry deliveryId day)).take written ∨
          ∃ other, Single (idBytes deliveryId) (asBytes (logEntry deliveryId other))
            (vault.log ++ (asBytes (logEntry deliveryId day)).take written))) ↔
      Harmless (idBytes deliveryId) vault.log (asBytes (logEntry deliveryId day)) written := by
  have named := (id_in_marker deliveryId).trans (marker_in_log deliveryId day)
  exact harmless_iff (fun day => asBytes (logEntry deliveryId day)) day (id_present deliveryId)
    (logEntry_enclosed deliveryId) named (logEntry_occurrences deliveryId day) (logEntry_firstAt deliveryId day)
    (logEntry_length deliveryId day) (isText_asBytes _) fresh.logText fresh.log written

theorem recoverable_torn (fresh : Fresh deliveryId vault) {first second : DeliveryDate} {count : Nat}
    (torn : count < (asBytes (body deliveryId preview first)).length) :
    ¬Recoverable deliveryId preview second (crashed deliveryId preview first vault (count + 1)) := by
  rintro ⟨⟨output, -, -⟩, -, -⟩
  rw [crashed_body fresh torn] at output
  rcases output with absent | same
  · cases absent
  · have lengths := congrArg List.length (Option.some.inj same)
    rw [List.length_take, body_length deliveryId preview second first] at lengths
    omega

theorem recoverable_entries (fresh : Fresh deliveryId vault) (first second : DeliveryDate) (written : Nat) :
    Recoverable deliveryId preview second
        (crashed deliveryId preview first vault ((asBytes (body deliveryId preview first)).length + 1 + written)) ↔
      first = second ∧ Harmless (idBytes deliveryId) vault.index (asBytes (indexEntry deliveryId)) written ∧
        Harmless (idBytes deliveryId) vault.log (asBytes (logEntry deliveryId first))
          (written - (asBytes (indexEntry deliveryId)).length) := by
  rw [crashed_entries fresh, ← harmless_index fresh, ← harmless_log fresh]
  constructor
  · rintro ⟨⟨output, indexText, logText⟩, index, log⟩
    simp only [Function.update_self, reduceCtorEq, false_or, Option.some.injEq] at output
    exact ⟨body_injective deliveryId output, ⟨indexText, index⟩, ⟨logText, log⟩⟩
  · rintro ⟨rfl, ⟨indexText, index⟩, ⟨logText, log⟩⟩
    exact ⟨⟨.inr (Function.update_self ..), indexText, logText⟩, index, log⟩

/-- Which crashes of a first delivery, and which days, a retry completes. -/
theorem recoverable_crashed (fresh : Fresh deliveryId vault) (first second : DeliveryDate) (count : Nat) :
    Recoverable deliveryId preview second (crashed deliveryId preview first vault count) ↔
      CleanBreak deliveryId preview vault first second count := by
  cases count with
  | zero =>
    have recoverable : Recoverable deliveryId preview second vault :=
      ⟨⟨.inl fresh.output, fresh.indexText, fresh.logText⟩, .inl fresh.index, .inl fresh.log⟩
    exact ⟨fun _ => .inl rfl, fun _ => recoverable⟩
  | succ count =>
    by_cases torn : count < (asBytes (body deliveryId preview first)).length
    · refine iff_of_false (recoverable_torn fresh torn) ?_
      rintro (none | ⟨written, same, _⟩) <;> omega
    · obtain ⟨written, reached⟩ := Nat.exists_eq_add_of_le (Nat.le_of_not_lt torn)
      have place : count + 1 = (asBytes (body deliveryId preview first)).length + 1 + written := by omega
      rw [place, recoverable_entries fresh]
      constructor
      · intro clean
        exact .inr ⟨written, rfl, clean⟩
      · rintro (none | ⟨others, same, clean⟩)
        · omega
        · have equal : others = written := by omega
          exact equal ▸ clean

theorem appended_marked {content : String} (marked : asBytes (marker deliveryId) <:+: asBytes content) (file : File) :
    asBytes (marker deliveryId) <:+: appended (marker deliveryId) content file := by
  unfold appended
  split
  · assumption
  · exact marked.trans (List.suffix_append _ _).isInfix

theorem isText_appended {content : String} {file : File} (valid : isText file = true) :
    isText (appended (marker deliveryId) content file) = true := by
  unfold appended
  split
  · exact valid
  · exact isText_append valid (isText_asBytes content)

/-- A delivery whose file is there and whose marker is in the index and the log writes nothing. -/
theorem run_settled (output : vault.outputs (path deliveryId) = some (asBytes (body deliveryId preview deliveredOn)))
    (indexText : isText vault.index = true) (indexed : asBytes (marker deliveryId) <:+: vault.index)
    (logText : isText vault.log = true) (logged : asBytes (marker deliveryId) <:+: vault.log) :
    run Vault.write (stages deliveryId preview deliveredOn) vault = ([], .ok ()) := by
  have placed : writeOutput (path deliveryId) (body deliveryId preview deliveredOn) vault = .ok [] :=
    writeOutput_ok.mpr (.inr ⟨output, rfl⟩)
  have index : appendOnce indexFile (marker deliveryId) (indexEntry deliveryId) vault = .ok [] :=
    appendOnce_ok.mpr ⟨indexText, (if_pos indexed).symm⟩
  have log : appendOnce logFile (marker deliveryId) (logEntry deliveryId deliveredOn) vault = .ok [] :=
    appendOnce_ok.mpr ⟨logText, (if_pos logged).symm⟩
  unfold stages
  rw [run_skip placed, run_skip index, run_skip log]
  rfl

/-- After a delivery the same delivery on the same day writes nothing. -/
theorem deliver_again {receipt : String}
    (ends : deliverBastetMind deliveryId preview deliveredOn vault = .ok receipt) :
    run Vault.write (stages deliveryId preview deliveredOn) (delivered deliveryId preview deliveredOn vault) =
      ([], .ok ()) := by
  obtain ⟨accepts, -⟩ := deliverBastetMind_ok.mp ends
  rw [delivered_eq accepts]
  exact run_settled (Function.update_self ..) (isText_appended accepts.indexText)
    (appended_marked (marker_in_index deliveryId) _) (isText_appended accepts.logText)
    (appended_marked (marker_in_log deliveryId _) _)

/-- What a request gives for a vault is a receipt that can be recorded. -/
theorem deliverKnowledge_recorded {agentMemory : KnowledgeDeliveryId → String → Except String String}
    {root : Option Root} {deliveries : List KnowledgeDelivery} {day receipt : String} {delivery : KnowledgeDelivery}
    (found : deliveries.find? (fun delivery => delivery.metadata.id = deliveryId) = some delivery)
    (target : delivery.target = .bastetMind)
    (ends : deliverKnowledge deliveryId agentMemory root deliveries day = .ok receipt) :
    delivery.recordDelivered receipt =
      .ok { delivery with state := .delivered, destinationReceipt := some ("bastetmind:" ++ marker deliveryId) } := by
  simp only [deliverKnowledge, found, bind_ok, okOr_ok, Option.some.injEq, rejectIf_ok, exists_unit] at ends
  obtain ⟨date, _, _, same, prepared, ends⟩ := ends
  subst same
  simp only [target, bind_ok, okOr_ok] at ends
  obtain ⟨directory, _, vault, _, ends⟩ := ends
  obtain ⟨_, rfl⟩ := deliverBastetMind_ok.mp ends
  have present : isBlank ("bastetmind:" ++ marker deliveryId) = false := by
    simp [isBlank, isWhitespace]
  simp only [decide_eq_false_iff_not, not_not] at prepared
  simp [KnowledgeDelivery.recordDelivered, prepared, present, rejectIf]

variable (deliveryId preview deliveredOn vault) in
/-- The delivery succeeds and leaves the vault with the whole of it, once. -/
def Completes : Prop :=
  deliverBastetMind deliveryId preview deliveredOn vault = .ok ("bastetmind:" ++ marker deliveryId) ∧
    Delivered deliveryId preview (delivered deliveryId preview deliveredOn vault)

/-- A retry completes what a crash left of a delivery exactly when the vault it finds is recoverable; in a vault that
was fresh before, exactly when the break was clean. -/
theorem retry_completes (deliveryId : KnowledgeDeliveryId) (preview : String) (vault : Vault)
    (first second : DeliveryDate) (count : Nat) :
    let left := crashed deliveryId preview first vault count
    (Completes deliveryId preview second left ↔ Recoverable deliveryId preview second left) ∧
      (Fresh deliveryId vault →
        (Completes deliveryId preview second left ↔ CleanBreak deliveryId preview vault first second count)) := by
  refine ⟨delivers_iff, fun fresh => ?_⟩
  exact delivers_iff.trans (recoverable_crashed fresh first second count)

theorem deliver_conflict {found : File} (present : vault.outputs (path deliveryId) = some found)
    (text : isText found = true) (differs : found ≠ asBytes (body deliveryId preview deliveredOn)) :
    deliverBastetMind deliveryId preview deliveredOn vault =
      .error "BastetMind delivery path conflicts with different content" := by
  have refused : writeOutput (path deliveryId) (body deliveryId preview deliveredOn) vault =
      .error "BastetMind delivery path conflicts with different content" := by
    unfold writeOutput readToString
    rw [present]
    simp only [text, if_true, ok_bind, differs, ne_eq, not_false_eq_true, decide_true]
    rfl
  unfold deliverBastetMind stages
  rw [run, refused]
  rfl

end Outcome

def emptyVault : Vault :=
  ⟨[], [], fun _ => none⟩

def seventh : DeliveryDate :=
  ⟨"2026-09-07", by decide⟩

def eighth : DeliveryDate :=
  ⟨"2026-09-08", by decide⟩

theorem emptyVault_fresh (deliveryId : KnowledgeDeliveryId) : Fresh deliveryId emptyVault := by
  have nothing : ¬idBytes deliveryId <:+: [] := by
    rw [List.infix_nil]
    exact id_present deliveryId
  exact ⟨rfl, isText_asBytes "", nothing, isText_asBytes "", nothing⟩

/-- A crash that left the new file empty, and one between the body and the index that is followed by another day. -/
theorem broken_deliveries :
    deliverBastetMind ⟨0⟩ "Redacted result" seventh (crashed ⟨0⟩ "Redacted result" seventh emptyVault 1) =
        .error "BastetMind delivery path conflicts with different content" ∧
      deliverBastetMind ⟨0⟩ "Redacted result" eighth
          (crashed ⟨0⟩ "Redacted result" seventh emptyVault
            ((asBytes (body ⟨0⟩ "Redacted result" seventh)).length + 1)) =
        .error "BastetMind delivery path conflicts with different content" := by
  have positive : 0 < (asBytes (body ⟨0⟩ "Redacted result" seventh)).length := by
    unfold body
    simp only [asBytes_append, List.length_append, length_of_date]
    omega
  constructor
  · refine deliver_conflict (crashed_body (emptyVault_fresh _) positive) (isText_asBytes "") fun same => ?_
    have lengths := congrArg List.length same
    rw [List.take_zero, List.length_nil] at lengths
    omega
  · refine deliver_conflict (crashed_whole (emptyVault_fresh _)) (isText_asBytes _) fun same => ?_
    have days := congrArg DeliveryDate.text (body_injective _ same)
    revert days
    decide

end Bastet.Desktop
