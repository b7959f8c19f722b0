import Mathlib.Data.List.Infix

/-! Bind mounts. Of the mounts over a path the latest one counts, and leads to a path of the host. -/

set_option autoImplicit false

namespace Mounts

variable {ν : Type} [DecidableEq ν]

/-- A path of the host, by the names on the way to it, bound to a path inside. -/
structure Mount (ν : Type) where
  source : List ν
  target : List ν
  writable : Bool
  deriving DecidableEq, Repr

/-- The mount that counts for a path, of mounts with the latest one first. -/
def effective (mounts : List (Mount ν)) (path : List ν) : Option (Mount ν) :=
  mounts.find? fun mount => mount.target.isPrefixOf path

/-- Where a mount leads to. -/
def Mount.hostPath (mount : Mount ν) (path : List ν) : List ν :=
  mount.source ++ path.drop mount.target.length

def Readable (mounts : List (Mount ν)) (host : List ν) : Prop :=
  ∃ path mount, effective mounts path = some mount ∧ mount.hostPath path = host

def Writable (mounts : List (Mount ν)) (host : List ν) : Prop :=
  ∃ path mount, effective mounts path = some mount ∧ mount.hostPath path = host ∧ mount.writable = true

/-- A mount that binds a path to itself. -/
def Mount.InPlace (mount : Mount ν) : Prop :=
  mount.source = mount.target

variable {mounts : List (Mount ν)} {mount : Mount ν} {path : List ν}

theorem effective_some (found : effective mounts path = some mount) : mount ∈ mounts ∧ mount.target <+: path := by
  unfold effective at found
  have covers := List.find?_some found
  exact ⟨List.mem_of_find?_eq_some found, List.isPrefixOf_iff_prefix.mp covers⟩

omit [DecidableEq ν] in
theorem Mount.InPlace.hostPath (inPlace : mount.InPlace) (covers : mount.target <+: path) : mount.hostPath path = path := by
  obtain ⟨rest, rfl⟩ := covers
  rw [Mount.hostPath, inPlace, List.drop_left]

/-- Mounts in place show what they cover, however they are nested. -/
theorem readable_iff (inPlace : ∀ mount ∈ mounts, mount.InPlace) {host : List ν} :
    Readable mounts host ↔ ∃ mount ∈ mounts, mount.target <+: host := by
  constructor
  · rintro ⟨path, mount, found, rfl⟩
    obtain ⟨member, covers⟩ := effective_some found
    rw [(inPlace mount member).hostPath covers]
    exact ⟨mount, member, covers⟩
  · rintro ⟨mount, member, covers⟩
    cases found : effective mounts host with
    | none =>
      have passed := List.find?_eq_none.mp found mount member
      exact absurd (List.isPrefixOf_iff_prefix.mpr covers) passed
    | some latest =>
      obtain ⟨present, above⟩ := effective_some found
      exact ⟨host, latest, found, (inPlace latest present).hostPath above⟩

/-- If only the latest of the mounts may be writable, what is writable is what it covers. -/
theorem writable_iff {latest : Mount ν} (inPlace : ∀ mount ∈ latest :: mounts, mount.InPlace)
    (readOnly : ∀ mount ∈ mounts, mount.writable = false) {host : List ν} :
    Writable (latest :: mounts) host ↔ latest.writable = true ∧ latest.target <+: host := by
  constructor
  · rintro ⟨path, mount, found, rfl, writable⟩
    obtain ⟨member, covers⟩ := effective_some found
    rw [(inPlace mount member).hostPath covers]
    rcases List.mem_cons.mp member with rfl | earlier
    · exact ⟨writable, covers⟩
    · rw [readOnly mount earlier] at writable
      cases writable
  · rintro ⟨writable, covers⟩
    have found : effective (latest :: mounts) host = some latest := by
      rw [effective, List.find?_cons_of_pos]
      exact List.isPrefixOf_iff_prefix.mpr covers
    exact ⟨host, latest, found, (inPlace latest List.mem_cons_self).hostPath covers, writable⟩

end Mounts
