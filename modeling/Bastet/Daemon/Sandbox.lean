import Bastet.Library.Fallible
import Bastet.Library.Mounts
import Bastet.Library.SExpression
import Mathlib.Data.String.Basic

/-! Launch plans of sandboxed processes: a policy text for one platform, a list of arguments for another. -/

set_option autoImplicit false

namespace Bastet.Daemon.Sandbox

open Fallible

/-- A string of the system: text, or bytes that are none, with the text shown for them. -/
inductive OsString where
  | utf8 (text : String)
  | other (lossy : String)
  deriving DecidableEq, Repr

def OsString.toStr : OsString → Option String
  | .utf8 text => some text
  | .other _ => none

def OsString.toStringLossy : OsString → String
  | .utf8 text => text
  | .other lossy => lossy

/-- A path, by its root and the names on the way. -/
structure Path where
  hasRoot : Bool
  names : List OsString
  deriving DecidableEq, Repr

namespace Path

def isAbsolute (self : Path) : Bool :=
  self.hasRoot

def parent (self : Path) : Option Path :=
  if self.names.isEmpty then none else some { self with names := self.names.dropLast }

/-- The path and the ways up from it, the shortest last. -/
def ancestors (self : Path) : List Path :=
  self.names.inits.reverse.map fun names => { self with names }

def join (hasRoot : Bool) (names : List String) : String :=
  (if hasRoot then "/" else "") ++ "/".intercalate names

def toStr (self : Path) : Option String :=
  (self.names.mapM OsString.toStr).map (join self.hasRoot)

def display (self : Path) : String :=
  join self.hasRoot (self.names.map OsString.toStringLossy)

def hasParentDir (self : Path) : Bool :=
  self.names.any fun name => name = .utf8 ".."

/-- A name that stands for itself in the text of a path. -/
def IsName (name : OsString) : Prop :=
  name.toStringLossy.toList ≠ [] ∧ name.toStringLossy.toList ≠ ['.'] ∧ '/' ∉ name.toStringLossy.toList

/-- A lexically normalized path. -/
def Normal (self : Path) : Prop :=
  ∀ name ∈ self.names, IsName name

/-- The names in the text of a path. -/
def namesOf (text : String) : List OsString :=
  ((text.toList.splitOn '/').filter fun name => decide (name ≠ [] ∧ name ≠ ['.'])).map fun name =>
    .utf8 (String.ofList name)

end Path

/-- What the checks ask the file system. -/
class FileSystem where
  canonicalize : Path → Option Path
  isFile : String → Bool

inductive SandboxPlatform where
  | macosSeatbelt
  | linuxBubblewrap
  | windowsAppContainer
  deriving DecidableEq, Repr

inductive SandboxError where
  | nonAbsoluteWorkspace
  | unsafeWorkspace
  | enforcerUnavailable (name : String)
  deriving DecidableEq, Repr

structure SandboxProfile where
  workspaceRoot : Path
  readOnlyRoots : List Path
  allowWorkspaceWrite : Bool
  allowNetwork : Bool
  deriving DecidableEq, Repr

/-- A command and the directory it starts in. -/
structure Command where
  program : String
  arguments : List String
  currentDir : Path
  deriving DecidableEq, Repr

def requireExecutable [FileSystem] (path name : String) : Except SandboxError Unit :=
  if FileSystem.isFile path then .ok () else .error (.enforcerUnavailable name)

/-- The arguments of `sandbox_linux::launch_command`. -/
def linuxArguments (workspaceRoot : Path) (readOnlyRoots : List Path) (allowWorkspaceWrite allowNetwork : Bool)
    (executable : String) : List String :=
  ["--unshare-user", "--die-with-parent", "--new-session", "--unshare-pid", "--unshare-ipc", "--unshare-uts"] ++
    readOnlyRoots.flatMap (fun root => ["--ro-bind", root.display, root.display]) ++
    [if allowWorkspaceWrite then "--bind" else "--ro-bind", workspaceRoot.display, workspaceRoot.display] ++
    (if allowNetwork then [] else ["--unshare-net"]) ++ ["--", executable]

namespace SandboxProfile

def readPaths (self : SandboxProfile) : List Path :=
  self.workspaceRoot :: self.readOnlyRoots

/-- A symbol that a policy text cannot hold. -/
def unsafeSymbols : List Char := ['\x00', '\n', '\r', '"']

def isUnsafe [FileSystem] (path : Path) : Bool :=
  path.parent.isNone || (FileSystem.canonicalize path).any (fun resolved => resolved.parent.isNone) ||
    path.hasParentDir || path.toStr.all fun root => root.toList.any fun symbol => symbol ∈ unsafeSymbols

def validate [FileSystem] (self : SandboxProfile) : Except SandboxError Unit := do
  rejectIf (self.readPaths.any fun path => !path.isAbsolute) .nonAbsoluteWorkspace
  rejectIf (self.readPaths.any isUnsafe) .unsafeWorkspace

def baseProfile : String :=
  "(version 1) (deny default) (allow process*) (allow sysctl-read) (allow mach-lookup)"

def readRules (root : Path) : String :=
  " (allow file-read* (subpath \"" ++ root.display ++ "\"))" ++
    String.join (root.ancestors.tail.map fun parent => " (allow file-read* (literal \"" ++ parent.display ++ "\"))")

def macosProfile (self : SandboxProfile) : String :=
  baseProfile ++ String.join (self.readPaths.map readRules) ++
    (if self.allowWorkspaceWrite then " (allow file-write* (subpath \"" ++ self.workspaceRoot.display ++ "\"))"
      else "") ++
    (if self.allowNetwork then " (allow network*)" else "")

def launchCommand [FileSystem] (self : SandboxProfile) (platform : SandboxPlatform) (executable : String)
    (arguments : List String) : Except SandboxError Command := do
  self.validate
  match platform with
  | .macosSeatbelt =>
    rejectIf (self.readPaths.any fun path => path.display.toList.contains '\\') .unsafeWorkspace
    requireExecutable "/usr/bin/sandbox-exec" "sandbox-exec"
    return ⟨"/usr/bin/sandbox-exec", ["-p", self.macosProfile, "--", executable] ++ arguments, self.workspaceRoot⟩
  | .linuxBubblewrap =>
    requireExecutable "/usr/bin/bwrap" "bubblewrap"
    return ⟨"/usr/bin/bwrap",
      linuxArguments self.workspaceRoot self.readOnlyRoots self.allowWorkspaceWrite self.allowNetwork executable ++
        arguments, self.workspaceRoot⟩
  | .windowsAppContainer => .error (.enforcerUnavailable "Windows AppContainer broker")

end SandboxProfile

/-! ### What a policy text says -/

/-- A rule of a policy text. -/
inductive Rule where
  | plain (verb argument : String)
  | onPath (verb operation kind path : String)
  deriving DecidableEq, Repr

namespace Rule

open SExpression (Expr)

def expr : Rule → Expr
  | .plain verb argument => .list [.atom verb.toList, .atom argument.toList]
  | .onPath verb operation kind path =>
    .list [.atom verb.toList, .atom operation.toList, .list [.atom kind.toList, .text path.toList]]

def ofExpr : Expr → Option Rule
  | .list [.atom verb, .atom argument] => some (.plain (.ofList verb) (.ofList argument))
  | .list [.atom verb, .atom operation, .list [.atom kind, .text path]] =>
    some (.onPath (.ofList verb) (.ofList operation) (.ofList kind) (.ofList path))
  | _ => none

theorem ofExpr_expr (rule : Rule) : ofExpr rule.expr = some rule := by
  cases rule <;> simp only [expr, ofExpr, String.ofList_toList]

theorem ofExprs (rules : List Rule) : (rules.map expr).mapM ofExpr = some rules := by
  induction rules with
  | nil => rfl
  | cons rule rest ih =>
    rw [List.map_cons, List.mapM_cons, ofExpr_expr, ih]
    rfl

end Rule

def parsePolicy (text : String) : Option (List Rule) :=
  (SExpression.parse text.toList).bind fun items => items.mapM Rule.ofExpr

/-- A piece of a policy text that says just these rules. -/
def Means (text : String) (rules : List Rule) : Prop :=
  SExpression.Reads text.toList (rules.map Rule.expr)

namespace Means

variable {text other : String} {rules others : List Rule}

theorem nothing : Means "" [] :=
  SExpression.Reads.nil

theorem append (one : Means text rules) (two : Means other others) : Means (text ++ other) (rules ++ others) := by
  rw [Means, String.toList_append, List.map_append]
  exact SExpression.Reads.append one two

theorem join {α : Type} {items : List α} {write : α → String} {meaning : α → List Rule}
    (each : ∀ item ∈ items, Means (write item) (meaning item)) :
    Means (String.join (items.map write)) (items.flatMap meaning) := by
  induction items with
  | nil =>
    rw [List.map_nil, String.join_nil]
    exact nothing
  | cons item rest ih =>
    rw [List.map_cons, String.join_cons, List.flatMap_cons]
    exact (each item List.mem_cons_self).append (ih fun other member => each other (List.mem_cons_of_mem _ member))

theorem parse (means : Means text rules) : parsePolicy text = some rules := by
  rw [parsePolicy, SExpression.Reads.parse means]
  exact Rule.ofExprs rules

end Means

/-- A path text that ends no string and escapes nothing in it. -/
def Plain (path : String) : Prop :=
  ∀ symbol ∈ path.toList, symbol ≠ '"' ∧ symbol ≠ '\\'

/-- A rule on a path says nothing else, whatever the path. -/
theorem means_onPath (head operation kind : String) {path : String}
    (scanned : SExpression.scan .between head.toList =
      ([.opens, .atom "allow".toList, .atom operation.toList, .opens, .atom kind.toList], .inText []))
    (plain : Plain path) : Means (head ++ path ++ "\"))") [.onPath "allow" operation kind path] := by
  have closing : "\"))".toList = ['"', ')', ')'] := String.toList_ofList
  rw [Means, String.toList_append, String.toList_append, List.append_assoc, SExpression.Reads, SExpression.scan_append,
    scanned, SExpression.scan_append, SExpression.scan_text plain, closing, List.nil_append]
  rfl

namespace SandboxProfile

/-- The rules that every policy starts with. -/
def baseRules : List Rule :=
  [.plain "version" "1", .plain "deny" "default", .plain "allow" "process*", .plain "allow" "sysctl-read",
    .plain "allow" "mach-lookup"]

/-- The rules that let a root be read, and the directories above it be opened. -/
def rootRules (root : Path) : List Rule :=
  .onPath "allow" "file-read*" "subpath" root.display ::
    root.ancestors.tail.map fun parent => .onPath "allow" "file-read*" "literal" parent.display

/-- The rules a profile is to have. -/
def rules (self : SandboxProfile) : List Rule :=
  baseRules ++ self.readPaths.flatMap rootRules ++
    (if self.allowWorkspaceWrite then [.onPath "allow" "file-write*" "subpath" self.workspaceRoot.display] else []) ++
    (if self.allowNetwork then [.plain "allow" "network*"] else [])

end SandboxProfile

/-! ### Texts of paths -/

namespace Path

variable {path : Path}

theorem toList_join (hasRoot : Bool) (names : List String) :
    (join hasRoot names).toList = (if hasRoot then ['/'] else []) ++ ['/'].intercalate (names.map String.toList) := by
  have slash : "/".toList = ['/'] := String.toList_ofList
  rw [join, String.toList_append, String.toList_intercalate, slash]
  cases hasRoot
  · rfl
  · rw [if_pos rfl, if_pos rfl, slash]

theorem mapM_toStr {names : List OsString} {parts : List String} (collected : names.mapM OsString.toStr = some parts) :
    names.map OsString.toStringLossy = parts ∧ ∀ name ∈ names, ∃ part, name = .utf8 part := by
  induction names generalizing parts with
  | nil =>
    cases collected
    exact ⟨rfl, fun name member => absurd member List.not_mem_nil⟩
  | cons name rest ih =>
    cases name with
    | other lossy => cases collected
    | utf8 text =>
      simp only [List.mapM_cons, OsString.toStr, Option.bind_eq_bind, Option.bind_some, Option.bind_eq_some_iff] at collected
      obtain ⟨others, read, made⟩ := collected
      obtain ⟨same, valid⟩ := ih read
      cases made
      refine ⟨congrArg (text :: ·) same, fun name member => ?_⟩
      rcases List.mem_cons.mp member with rfl | earlier
      · exact ⟨text, rfl⟩
      · exact valid name earlier

theorem toStr_some {text : String} (valid : path.toStr = some text) :
    path.display = text ∧ ∀ name ∈ path.names, ∃ part, name = .utf8 part := by
  obtain ⟨parts, collected, rfl⟩ := Option.map_eq_some_iff.mp valid
  obtain ⟨same, valid⟩ := mapM_toStr collected
  exact ⟨congrArg (join path.hasRoot) same, valid⟩

theorem mem_intercalate {separator symbol : Char} {parts : List (List Char)}
    (member : symbol ∈ [separator].intercalate parts) : symbol = separator ∨ ∃ part ∈ parts, symbol ∈ part := by
  induction parts with
  | nil => cases member
  | cons part rest ih =>
    cases rest with
    | nil => exact .inr ⟨part, List.mem_cons_self, by simpa using member⟩
    | cons next others =>
      rw [List.intercalate_cons_cons, List.mem_append, List.mem_append, List.mem_singleton] at member
      rcases member with (own | separated) | later
      · exact .inr ⟨part, List.mem_cons_self, own⟩
      · exact .inl separated
      · rcases ih later with separated | ⟨found, present, held⟩
        · exact .inl separated
        · exact .inr ⟨found, List.mem_cons_of_mem _ present, held⟩

theorem intercalate_mem {separator symbol : Char} {parts : List (List Char)} {part : List Char} (member : part ∈ parts)
    (held : symbol ∈ part) : symbol ∈ [separator].intercalate parts := by
  induction parts with
  | nil => cases member
  | cons first rest ih =>
    cases rest with
    | nil =>
      cases List.mem_singleton.mp member
      simpa using held
    | cons next others =>
      rw [List.intercalate_cons_cons, List.mem_append, List.mem_append]
      rcases List.mem_cons.mp member with rfl | later
      · exact .inl (.inl held)
      · exact .inr (ih later)

theorem mem_display {symbol : Char} (shown : symbol ∈ path.display.toList) :
    symbol = '/' ∨ ∃ name ∈ path.names, symbol ∈ name.toStringLossy.toList := by
  rw [display, toList_join, List.mem_append] at shown
  rcases shown with root | within
  · cases rooted : path.hasRoot with
    | false =>
      rw [rooted, if_neg (by decide)] at root
      cases root
    | true =>
      rw [rooted, if_pos rfl] at root
      exact .inl (List.mem_singleton.mp root)
  · rcases mem_intercalate within with slash | ⟨part, member, held⟩
    · exact .inl slash
    · rw [List.map_map] at member
      obtain ⟨name, present, rfl⟩ := List.mem_map.mp member
      exact .inr ⟨name, present, held⟩

theorem display_mem {name : OsString} (member : name ∈ path.names) {symbol : Char}
    (held : symbol ∈ name.toStringLossy.toList) : symbol ∈ path.display.toList := by
  rw [display, toList_join, List.map_map, List.mem_append]
  exact .inr (intercalate_mem (List.mem_map.mpr ⟨name, member, rfl⟩) held)

theorem splitOn_parts {parts : List (List Char)} (each : ∀ part ∈ parts, part ≠ [] ∧ part ≠ ['.'] ∧ '/' ∉ part) :
    (('/' :: ['/'].intercalate parts).splitOn '/').filter (fun name => decide (name ≠ [] ∧ name ≠ ['.'])) = parts := by
  rw [List.splitOn_cons_eq_if_modifyHead, if_pos (beq_self_eq_true '/'), List.filter_cons_of_neg (by simp)]
  by_cases empty : parts = []
  · subst empty
    rfl
  · rw [List.splitOn_intercalate '/' (fun part member => (each part member).2.2) empty, List.filter_eq_self]
    intro part member
    exact decide_eq_true ⟨(each part member).1, (each part member).2.1⟩

/-- The text of a path gives its names back. -/
theorem namesOf_display (absolute : path.hasRoot = true) (valid : ∀ name ∈ path.names, ∃ part, name = .utf8 part)
    (normal : path.Normal) : namesOf path.display = path.names := by
  let parts := path.names.map fun name => name.toStringLossy.toList
  have shown : path.display.toList = '/' :: ['/'].intercalate parts := by
    rw [display, toList_join, absolute, if_pos rfl, List.map_map]
    rfl
  have kept : (('/' :: ['/'].intercalate parts).splitOn '/').filter
      (fun name => decide (name ≠ [] ∧ name ≠ ['.'])) = parts := by
    refine splitOn_parts fun part member => ?_
    obtain ⟨name, present, rfl⟩ := List.mem_map.mp member
    exact normal name present
  rw [namesOf, shown, kept, List.map_map]
  refine (List.map_congr_left fun name member => ?_).trans (List.map_id _)
  obtain ⟨part, rfl⟩ := valid name member
  exact congrArg OsString.utf8 String.ofList_toList

/-- A path's ancestors are itself and those of its parent. -/
theorem ancestors_eq (path : Path) : path.ancestors = path :: path.parent.elim [] ancestors := by
  obtain ⟨rooted, names⟩ := path
  rcases List.eq_nil_or_concat names with rfl | ⟨above, name, rfl⟩
  · rfl
  · simp [ancestors, parent, List.inits_append]

theorem mem_ancestors {other : Path} :
    other ∈ path.ancestors ↔ ∃ names, names <+: path.names ∧ other = { path with names } := by
  simp only [ancestors, List.mem_map, List.mem_reverse, List.mem_inits, eq_comm]

/-- The ancestors but the path itself are its proper beginnings. -/
theorem mem_ancestors_tail {other : Path} :
    other ∈ path.ancestors.tail ↔ ∃ names, names <+: path.names ∧ names ≠ path.names ∧ other = { path with names } := by
  obtain ⟨rooted, names⟩ := path
  rw [ancestors_eq, List.tail_cons]
  rcases List.eq_nil_or_concat names with rfl | ⟨above, name, rfl⟩
  · constructor
    · rintro ⟨⟩
    · rintro ⟨names, start, short, -⟩
      exact absurd (List.prefix_nil.mp start) short
  · rw [List.concat_eq_append]
    have up : parent ⟨rooted, above ++ [name]⟩ = some ⟨rooted, above⟩ := by simp [parent]
    rw [up, Option.elim_some, mem_ancestors]
    constructor
    · rintro ⟨names, start, rfl⟩
      refine ⟨names, start.trans (List.prefix_append _ _), fun whole => ?_, rfl⟩
      have shorter : names.length ≤ above.length := start.length_le
      rw [whole, List.length_append, List.length_singleton] at shorter
      omega
    · rintro ⟨names, start, short, rfl⟩
      rcases List.prefix_concat_iff.mp start with whole | within
      · exact absurd whole short
      · exact ⟨names, within, rfl⟩

end Path

/-! ### What a policy text grants -/

/-- What a sandbox lets its process do: paths are readable or writable with all that is below them. -/
@[ext]
structure Access where
  readable : List OsString → Prop
  writable : List OsString → Prop
  network : Prop

/-- The rules of an operation that cover a path. -/
def covered (rules : List Rule) (operation : String) (host : List OsString) : Prop :=
  ∃ path, .onPath "allow" operation "subpath" path ∈ rules ∧ Path.namesOf path <+: host

/-- The directories that may be opened, but not what is in them. -/
def opened (rules : List Rule) (host : List OsString) : Prop :=
  ∃ path, .onPath "allow" "file-read*" "literal" path ∈ rules ∧ Path.namesOf path = host

/-- What rules allow where everything else is denied. -/
def policyAccess (rules : List Rule) : Access :=
  ⟨covered rules "file-read*", covered rules "file-write*", .plain "allow" "network*" ∈ rules⟩

namespace SandboxProfile

/-- What a profile is to grant. -/
def granted (self : SandboxProfile) : Access :=
  ⟨fun host => ∃ root ∈ self.readPaths, root.names <+: host,
    fun host => self.allowWorkspaceWrite = true ∧ self.workspaceRoot.names <+: host,
    self.allowNetwork = true⟩

/-- Whether a backslash could escape what follows it in a policy text. -/
def hasBackslash (self : SandboxProfile) : Bool :=
  self.readPaths.any fun path => path.display.toList.contains '\\'

section Accepted

variable [FileSystem] {self : SandboxProfile}

theorem isUnsafe_false {path : Path} (safe : isUnsafe path = false) :
    (∀ name ∈ path.names, ∃ part, name = .utf8 part) ∧ '"' ∉ path.display.toList := by
  simp only [isUnsafe, Bool.or_eq_false_iff] at safe
  obtain ⟨-, unsafeText⟩ := safe
  cases read : path.toStr with
  | none =>
    rw [read] at unsafeText
    cases unsafeText
  | some text =>
    obtain ⟨same, valid⟩ := Path.toStr_some read
    simp only [read, Option.all_some, List.any_eq_false, decide_eq_true_eq] at unsafeText
    refine ⟨valid, fun quoted => unsafeText '"' ?_ (by decide)⟩
    rwa [← same]

theorem validate_ok (accepted : self.validate = .ok ()) {path : Path} (member : path ∈ self.readPaths) :
    path.hasRoot = true ∧ (∀ name ∈ path.names, ∃ part, name = .utf8 part) ∧ '"' ∉ path.display.toList := by
  simp only [validate, bind_ok, exists_unit, rejectIf_ok, List.any_eq_false, Bool.not_eq_true, Bool.not_eq_false',
    Path.isAbsolute] at accepted
  obtain ⟨absolute, safe⟩ := accepted
  exact ⟨absolute path member, isUnsafe_false (safe path member)⟩

/-- Texts of accepted paths and of what is above them stay within their strings. -/
theorem plain_above (accepted : self.validate = .ok ()) (escapeFree : self.hasBackslash = false) {path : Path}
    (member : path ∈ self.readPaths) {names : List OsString} (start : names <+: path.names) :
    Plain { path with names }.display := by
  intro symbol shown
  rcases Path.mem_display shown with rfl | ⟨name, above, held⟩
  · decide
  have within : symbol ∈ path.display.toList := Path.display_mem (start.subset above) held
  have noQuote := (validate_ok accepted member).2.2
  have noBackslash : '\\' ∉ path.display.toList := by
    simpa using List.any_eq_false.mp escapeFree path member
  exact ⟨fun same => noQuote (same ▸ within), fun same => noBackslash (same ▸ within)⟩

/-! ### The policy text of a profile -/

/-- The tokens of a rule on a path, up to the path. -/
def headTokens (operation kind : String) : List SExpression.Token :=
  [.opens, .atom "allow".toList, .atom operation.toList, .opens, .atom kind.toList]

omit [FileSystem] in
/-- How the fixed pieces of a policy are read: the beginning, the rule of the network, and the heads of the rules on
a path. -/
theorem pieces_scanned :
    SExpression.scan .between baseProfile.toList =
        (SExpression.tokensAll (baseRules.map Rule.expr), .between) ∧
      SExpression.scan .between " (allow network*)".toList =
        (SExpression.tokensAll [Rule.expr (.plain "allow" "network*")], .between) ∧
      SExpression.scan .between " (allow file-read* (subpath \"".toList =
        (headTokens "file-read*" "subpath", .inText []) ∧
      SExpression.scan .between " (allow file-read* (literal \"".toList =
        (headTokens "file-read*" "literal", .inText []) ∧
      SExpression.scan .between " (allow file-write* (subpath \"".toList =
        (headTokens "file-write*" "subpath", .inText []) := by
  decide +kernel

omit [FileSystem] in
theorem baseProfile_means : Means baseProfile baseRules :=
  pieces_scanned.1

omit [FileSystem] in
theorem network_means : Means " (allow network*)" [.plain "allow" "network*"] :=
  pieces_scanned.2.1

theorem readRules_means (accepted : self.validate = .ok ()) (escapeFree : self.hasBackslash = false) {root : Path}
    (member : root ∈ self.readPaths) : Means (readRules root) (rootRules root) := by
  have plain : Plain root.display := plain_above accepted escapeFree member List.prefix_rfl
  obtain ⟨-, -, subpath, literal, -⟩ := pieces_scanned
  have below := means_onPath " (allow file-read* (subpath \"" "file-read*" "subpath" subpath plain
  have above : Means
      (String.join (root.ancestors.tail.map fun parent => " (allow file-read* (literal \"" ++ parent.display ++ "\"))"))
      (root.ancestors.tail.flatMap fun parent => [.onPath "allow" "file-read*" "literal" parent.display]) := by
    refine Means.join fun parent above => ?_
    obtain ⟨names, start, -, rfl⟩ := Path.mem_ancestors_tail.mp above
    exact means_onPath " (allow file-read* (literal \"" "file-read*" "literal" literal
      (plain_above accepted escapeFree member start)
  rw [← List.map_eq_flatMap] at above
  exact below.append above

theorem macosProfile_means (accepted : self.validate = .ok ()) (escapeFree : self.hasBackslash = false) :
    Means self.macosProfile self.rules := by
  have reading : Means (String.join (self.readPaths.map readRules)) (self.readPaths.flatMap rootRules) :=
    Means.join fun root member => readRules_means accepted escapeFree member
  have workspace : self.workspaceRoot ∈ self.readPaths := List.mem_cons_self
  have writing := means_onPath " (allow file-write* (subpath \"" "file-write*" "subpath" pieces_scanned.2.2.2.2
    (plain_above accepted escapeFree workspace List.prefix_rfl)
  refine ((baseProfile_means.append reading).append ?_).append ?_
  · cases self.allowWorkspaceWrite
    · exact Means.nothing
    · exact writing
  · cases self.allowNetwork
    · exact Means.nothing
    · exact network_means

/-! ### Which rules there are -/

omit [FileSystem] in
theorem mem_rules {rule : Rule} : rule ∈ self.rules ↔
    rule ∈ baseRules ∨ (∃ root ∈ self.readPaths, rule ∈ rootRules root) ∨
      (self.allowWorkspaceWrite = true ∧
        rule = .onPath "allow" "file-write*" "subpath" self.workspaceRoot.display) ∨
      self.allowNetwork = true ∧ rule = .plain "allow" "network*" := by
  simp only [rules, List.mem_append, List.mem_flatMap, List.mem_ite_nil_right, List.mem_singleton, or_assoc]

omit [FileSystem] in
theorem subpath_mem {operation path : String} :
    .onPath "allow" operation "subpath" path ∈ self.rules ↔
      (operation = "file-read*" ∧ ∃ root ∈ self.readPaths, root.display = path) ∨
      (operation = "file-write*" ∧ self.allowWorkspaceWrite = true ∧ self.workspaceRoot.display = path) := by
  rw [mem_rules]
  constructor
  · rintro (base | ⟨root, member, rule⟩ | ⟨allowed, same⟩ | ⟨-, same⟩)
    · simp [baseRules] at base
    · simp only [rootRules, List.mem_cons, Rule.onPath.injEq, List.mem_map] at rule
      rcases rule with ⟨-, rfl, -, rfl⟩ | ⟨parent, -, -, -, differs, -⟩
      · exact .inl ⟨rfl, root, member, rfl⟩
      · exact absurd differs (by decide)
    · simp only [Rule.onPath.injEq] at same
      obtain ⟨-, rfl, -, rfl⟩ := same
      exact .inr ⟨rfl, allowed, rfl⟩
    · cases same
  · rintro (⟨rfl, root, member, rfl⟩ | ⟨rfl, allowed, rfl⟩)
    · exact .inr (.inl ⟨root, member, List.mem_cons_self⟩)
    · exact .inr (.inr (.inl ⟨allowed, rfl⟩))

omit [FileSystem] in
theorem literal_mem {path : String} :
    .onPath "allow" "file-read*" "literal" path ∈ self.rules ↔
      ∃ root ∈ self.readPaths, ∃ parent ∈ root.ancestors.tail, parent.display = path := by
  rw [mem_rules]
  constructor
  · rintro (base | ⟨root, member, rule⟩ | ⟨-, same⟩ | ⟨-, same⟩)
    · simp [baseRules] at base
    · simp only [rootRules, List.mem_cons, Rule.onPath.injEq, List.mem_map] at rule
      rcases rule with ⟨-, -, differs, -⟩ | ⟨parent, above, -, -, -, rfl⟩
      · exact absurd differs (by decide)
      · exact ⟨root, member, parent, above, rfl⟩
    · simp only [Rule.onPath.injEq] at same
      exact absurd same.2.1 (by decide)
    · cases same
  · rintro ⟨root, member, parent, above, rfl⟩
    exact .inr (.inl ⟨root, member, List.mem_cons_of_mem _ (List.mem_map.mpr ⟨parent, above, rfl⟩)⟩)

omit [FileSystem] in
theorem network_mem : .plain "allow" "network*" ∈ self.rules ↔ self.allowNetwork = true := by
  rw [mem_rules]
  constructor
  · rintro (base | ⟨root, -, rule⟩ | ⟨-, same⟩ | ⟨allowed, -⟩)
    · simp [baseRules] at base
    · simp only [rootRules, List.mem_cons, List.mem_map, reduceCtorEq, and_false, exists_false, or_self] at rule
    · cases same
    · exact allowed
  · intro allowed
    exact .inr (.inr (.inr ⟨allowed, rfl⟩))

variable (accepted : self.validate = .ok ()) (normal : ∀ path ∈ self.readPaths, path.Normal)

include accepted normal

theorem namesOf_above {root : Path} (member : root ∈ self.readPaths) {names : List OsString}
    (start : names <+: root.names) : Path.namesOf { root with names }.display = names := by
  obtain ⟨absolute, valid, -⟩ := validate_ok accepted member
  exact @Path.namesOf_display { root with names } absolute
    (fun name above => valid name (start.subset above))
    (fun name above => normal root member name (start.subset above))

theorem namesOf_root {root : Path} (member : root ∈ self.readPaths) : Path.namesOf root.display = root.names :=
  namesOf_above accepted normal member List.prefix_rfl

/-- The rules allow what the profile grants. -/
theorem policyAccess_rules : policyAccess self.rules = self.granted := by
  have workspace : self.workspaceRoot ∈ self.readPaths := List.mem_cons_self
  ext host
  · simp only [policyAccess, covered, subpath_mem, granted]
    constructor
    · rintro ⟨path, ⟨-, root, member, rfl⟩ | ⟨differs, -⟩, covers⟩
      · exact ⟨root, member, by rwa [namesOf_root accepted normal member] at covers⟩
      · exact absurd differs (by decide)
    · rintro ⟨root, member, covers⟩
      exact ⟨root.display, .inl ⟨trivial, root, member, rfl⟩, by rwa [namesOf_root accepted normal member]⟩
  · simp only [policyAccess, covered, subpath_mem, granted]
    constructor
    · rintro ⟨path, ⟨differs, -⟩ | ⟨-, allowed, rfl⟩, covers⟩
      · exact absurd differs (by decide)
      · exact ⟨allowed, by rwa [namesOf_root accepted normal workspace] at covers⟩
    · rintro ⟨allowed, covers⟩
      exact ⟨_, .inr ⟨trivial, allowed, rfl⟩, by rwa [namesOf_root accepted normal workspace]⟩
  · exact network_mem

/-- The directories above the roots may be opened, and no others. -/
theorem opened_rules {host : List OsString} :
    opened self.rules host ↔ ∃ root ∈ self.readPaths, host <+: root.names ∧ host ≠ root.names := by
  simp only [opened, literal_mem]
  constructor
  · rintro ⟨path, ⟨root, member, parent, above, rfl⟩, rfl⟩
    obtain ⟨names, start, short, rfl⟩ := Path.mem_ancestors_tail.mp above
    rw [namesOf_above accepted normal member start]
    exact ⟨root, member, start, short⟩
  · rintro ⟨root, member, start, short⟩
    have above := Path.mem_ancestors_tail.mpr ⟨host, start, short, rfl⟩
    exact ⟨_, ⟨root, member, _, above, rfl⟩, namesOf_above accepted normal member start⟩

end Accepted

end SandboxProfile

/-! ### What the arguments of bubblewrap set up -/

/-- A namespace: what is mounted in it, the latest first, and whether it has the network of the host. -/
structure Setup where
  mounts : List (Mounts.Mount OsString)
  network : Bool

namespace Setup

/-- Nothing is mounted at first. -/
def initial : Setup :=
  ⟨[], true⟩

/-- The flags without an argument that neither mount anything nor change the network. -/
def bareFlags : List String :=
  ["--unshare-user", "--die-with-parent", "--new-session", "--unshare-pid", "--unshare-ipc", "--unshare-uts"]

def mount (self : Setup) (writable : Bool) (source target : String) : Setup :=
  { self with mounts := ⟨Path.namesOf source, Path.namesOf target, writable⟩ :: self.mounts }

/-- The arguments are applied in order, up to the command. -/
def apply (self : Setup) : List String → Option Setup
  | [] => none
  | flag :: rest =>
    if flag = "--" then some self
    else if flag = "--unshare-net" then apply { self with network := false } rest
    else if flag ∈ bareFlags then apply self rest
    else
      match rest with
      | source :: target :: others =>
        if flag = "--bind" then apply (self.mount true source target) others
        else if flag = "--ro-bind" then apply (self.mount false source target) others
        else none
      | _ => none

def access (self : Setup) : Access :=
  ⟨Mounts.Readable self.mounts, Mounts.Writable self.mounts, self.network = true⟩

theorem apply_bare (self : Setup) {flags : List String} (bare : ∀ flag ∈ flags, flag ∈ bareFlags) (rest : List String) :
    self.apply (flags ++ rest) = self.apply rest := by
  induction flags with
  | nil => rfl
  | cons flag others ih =>
    have member := bare flag List.mem_cons_self
    have different : ∀ flag ∈ bareFlags, flag ≠ "--" ∧ flag ≠ "--unshare-net" := by decide
    rw [List.cons_append, apply.eq_def]
    dsimp only
    rw [if_neg (different flag member).1, if_neg (different flag member).2, if_pos member]
    exact ih fun other later => bare other (List.mem_cons_of_mem _ later)

theorem apply_bind (self : Setup) (writable : Bool) (source target : String) (rest : List String) :
    self.apply ((if writable then "--bind" else "--ro-bind") :: source :: target :: rest) =
      (self.mount writable source target).apply rest := by
  cases writable
  · rw [if_neg (by decide), apply, if_neg (by decide), if_neg (by decide), if_neg (by decide)]
    exact (if_neg (by decide)).trans (if_pos rfl)
  · rw [if_pos rfl, apply, if_neg (by decide), if_neg (by decide), if_neg (by decide)]
    exact if_pos rfl

theorem apply_end (self : Setup) (command : List String) : self.apply ("--" :: command) = some self := by
  rw [apply.eq_def]
  exact if_pos rfl

theorem apply_network (self : Setup) (allowed : Bool) (rest : List String) :
    self.apply ((if allowed then [] else ["--unshare-net"]) ++ rest) =
      { self with network := self.network && allowed }.apply rest := by
  cases allowed
  · rw [if_neg (by decide), Bool.and_false, List.singleton_append, apply.eq_def]
    exact (if_neg (by decide)).trans (if_pos rfl)
  · rw [if_pos rfl, Bool.and_true, List.nil_append]

theorem apply_readOnly (self : Setup) (roots : List Path) (rest : List String) :
    self.apply (roots.flatMap (fun root => ["--ro-bind", root.display, root.display]) ++ rest) =
      (roots.foldl (fun setup root => setup.mount false root.display root.display) self).apply rest := by
  induction roots generalizing self with
  | nil => rfl
  | cons root others ih =>
    rw [List.flatMap_cons, List.append_assoc, List.foldl_cons, ← ih]
    exact self.apply_bind false root.display root.display _

/-- A path mounted on itself. -/
def inPlace (writable : Bool) (path : String) : Mounts.Mount OsString :=
  ⟨Path.namesOf path, Path.namesOf path, writable⟩

theorem mount_each (self : Setup) (roots : List Path) :
    roots.foldl (fun setup root => setup.mount false root.display root.display) self =
      ⟨(roots.map fun root => inPlace false root.display).reverse ++ self.mounts, self.network⟩ := by
  induction roots generalizing self with
  | nil => rfl
  | cons root others ih =>
    rw [List.foldl_cons, ih, List.map_cons, List.reverse_cons, List.append_assoc]
    rfl

/-- The workspace is mounted last, over what was mounted before. -/
theorem apply_linuxArguments (workspaceRoot : Path) (readOnlyRoots : List Path) (allowWorkspaceWrite allowNetwork : Bool)
    (executable : String) (arguments : List String) :
    initial.apply (linuxArguments workspaceRoot readOnlyRoots allowWorkspaceWrite allowNetwork executable ++ arguments) =
      some ⟨inPlace allowWorkspaceWrite workspaceRoot.display ::
        (readOnlyRoots.map fun root => inPlace false root.display).reverse, allowNetwork⟩ := by
  have bare : ∀ flag ∈ bareFlags, flag ∈ bareFlags := fun _ member => member
  rw [linuxArguments, List.append_assoc, List.append_assoc, List.append_assoc, List.append_assoc]
  refine (apply_bare _ bare _).trans ?_
  rw [apply_readOnly, mount_each]
  refine (apply_bind _ _ _ _ _).trans ((apply_network _ _ _).trans ((apply_end _ _).trans ?_))
  dsimp only [mount, initial]
  rw [List.append_nil, Bool.true_and]
  rfl

end Setup

namespace SandboxProfile

section Accepted

variable [FileSystem] {self : SandboxProfile} (accepted : self.validate = .ok ())
  (normal : ∀ path ∈ self.readPaths, path.Normal)

include accepted normal

/-- What the arguments of bubblewrap set up is what the profile grants. -/
theorem setupAccess : Setup.access ⟨Setup.inPlace self.allowWorkspaceWrite self.workspaceRoot.display ::
    (self.readOnlyRoots.map fun root => Setup.inPlace false root.display).reverse, self.allowNetwork⟩ = self.granted := by
  have names := fun {root : Path} (member : root ∈ self.readPaths) => namesOf_root accepted normal member
  have workspace : self.workspaceRoot ∈ self.readPaths := List.mem_cons_self
  have mounted : ∀ {mount}, mount ∈ Setup.inPlace self.allowWorkspaceWrite self.workspaceRoot.display ::
      (self.readOnlyRoots.map fun root => Setup.inPlace false root.display).reverse →
      mount.InPlace ∧ ∃ root ∈ self.readPaths, mount.target = root.names := by
    intro mount member
    rcases List.mem_cons.mp member with rfl | earlier
    · exact ⟨rfl, _, workspace, names workspace⟩
    · obtain ⟨root, present, rfl⟩ := List.mem_map.mp (List.mem_reverse.mp earlier)
      have read : root ∈ self.readPaths := List.mem_cons_of_mem _ present
      exact ⟨rfl, root, read, names read⟩
  ext host
  · refine (Mounts.readable_iff fun mount member => (mounted member).1).trans ⟨?_, ?_⟩
    · rintro ⟨mount, member, covers⟩
      obtain ⟨-, root, read, target⟩ := mounted member
      exact ⟨root, read, target ▸ covers⟩
    · rintro ⟨root, read, covers⟩
      rw [← names read] at covers
      rcases List.mem_cons.mp read with rfl | present
      · exact ⟨_, List.mem_cons_self, covers⟩
      · have earlier := List.mem_map_of_mem (f := fun root : Path => Setup.inPlace false root.display) present
        exact ⟨_, List.mem_cons_of_mem _ (List.mem_reverse.mpr earlier), covers⟩
  · refine (Mounts.writable_iff (fun mount member => (mounted member).1) fun mount member => ?_).trans ?_
    · obtain ⟨root, -, rfl⟩ := List.mem_map.mp (List.mem_reverse.mp member)
      rfl
    · rw [granted, Setup.inPlace, names workspace]
  · exact Iff.rfl

end Accepted

/-- A command is planned only for accepted profiles, and runs under the policy or the mounts of its profile. -/
theorem launchCommand_ok [FileSystem] {self : SandboxProfile} {platform : SandboxPlatform} {executable : String}
    {arguments : List String} {command : Command}
    (planned : self.launchCommand platform executable arguments = .ok command) :
    self.validate = .ok () ∧ command.currentDir = self.workspaceRoot ∧
      (platform = .macosSeatbelt ∧ self.hasBackslash = false ∧
          command.arguments = ["-p", self.macosProfile, "--", executable] ++ arguments ∨
        platform = .linuxBubblewrap ∧ command.arguments = linuxArguments self.workspaceRoot self.readOnlyRoots
          self.allowWorkspaceWrite self.allowNetwork executable ++ arguments) := by
  simp only [launchCommand, bind_ok, exists_unit] at planned
  obtain ⟨accepted, planned⟩ := planned
  cases platform with
  | macosSeatbelt =>
    simp only [bind_ok, exists_unit, rejectIf_ok, pure_ok] at planned
    obtain ⟨escapeFree, -, rfl⟩ := planned
    exact ⟨accepted, rfl, .inl ⟨rfl, escapeFree, rfl⟩⟩
  | linuxBubblewrap =>
    simp only [bind_ok, exists_unit, pure_ok] at planned
    obtain ⟨-, rfl⟩ := planned
    exact ⟨accepted, rfl, .inr ⟨rfl, rfl⟩⟩
  | windowsAppContainer => cases planned

/-- The rules of the policy are those of the profile, whatever its paths are, and allow what it grants; what bubblewrap
sets up is the same. -/
theorem plans_grant_profile [FileSystem] (self : SandboxProfile) (accepted : self.validate = .ok ())
    (normal : ∀ path ∈ self.readPaths, path.Normal) :
    (self.hasBackslash = false → parsePolicy self.macosProfile = some self.rules) ∧
    policyAccess self.rules = self.granted ∧
    (∀ host, opened self.rules host ↔ ∃ root ∈ self.readPaths, host <+: root.names ∧ host ≠ root.names) ∧
    ∀ executable arguments, ∃ setup,
      Setup.initial.apply (linuxArguments self.workspaceRoot self.readOnlyRoots self.allowWorkspaceWrite
        self.allowNetwork executable ++ arguments) = some setup ∧ setup.access = self.granted :=
  ⟨fun escapeFree => (macosProfile_means accepted escapeFree).parse, policyAccess_rules accepted normal,
    fun _ => opened_rules accepted normal,
    fun executable arguments => ⟨_, Setup.apply_linuxArguments _ _ _ _ executable arguments, setupAccess accepted normal⟩⟩

/-- A workspace inside a read-only root, and names a shell would take apart. -/
def nested : SandboxProfile where
  workspaceRoot := ⟨true, [.utf8 "srv", .utf8 "a (b) 'c'"]⟩
  readOnlyRoots := [⟨true, [.utf8 "srv"]⟩, ⟨true, [.utf8 "usr", .utf8 "lib"]⟩]
  allowWorkspaceWrite := true
  allowNetwork := false

/-- A file system without links. -/
abbrev plainFiles : FileSystem where
  canonicalize := some
  isFile _ := true

theorem nested_normal : ∀ path ∈ nested.readPaths, path.Normal := by
  simp [nested, readPaths, Path.Normal, Path.IsName, OsString.toStringLossy]

theorem nested_granted :
    parsePolicy nested.macosProfile = some nested.rules ∧ policyAccess nested.rules = nested.granted := by
  have accepted : @validate plainFiles nested = .ok () := by rfl
  have plans := @plans_grant_profile plainFiles nested accepted nested_normal
  exact ⟨plans.1 (by decide +kernel), plans.2.1⟩

end SandboxProfile

end Bastet.Daemon.Sandbox
