/-
**The resolver override on Linux (`dns.rs`).**

* `applyResolvConf`, `restoreResolvConf` — `/etc/resolv.conf` is backed up and written, and put back.
* `DnsGuard.install`, `DnsGuard.drop` — the guard.
* `apply_unseen`, `apply_file`, `apply_link` — what the change does to each kind of node.
* `resolver_reversible_iff` — the change is reversible exactly when it does not stop half-way: after it took
  a link away, after it opened the file, or with a backup that overlooks what is there.
-/

import ChameleonPQ.Client.KillSwitch
import ChameleonPQ.Client.Routes
import ChameleonPQ.Library.IpText
import ChameleonPQ.Library.Paths

namespace ChameleonPQ

open Library Library.IpText Library.Paths

/-- `impl Display for IpAddr`. -/
def IpAddr.text : IpAddr → List Char
  | .v4 ip => ipv4Text ip.bytes
  | .v6 ip => ipv6Text ip.bytes

/-- `Restore`: what the path was. -/
inductive Restore where
  | file (bytes : Bytes)
  | symlink (target : String)
  | absent
  deriving DecidableEq

/-- `RESOLV_CONF`. -/
def resolvConf : String := "/etc/resolv.conf"

/-- `resolv_conf_body`. -/
def resolvConfBody (servers : List IpAddr) : Bytes :=
  ("# Written by Chameleon-PQ (DNS-leak protection); restored on disconnect.\n".toList ++
    servers.flatMap fun ip => "nameserver ".toList ++ ip.text ++ ['\n']).flatMap String.utf8EncodeChar

/-- `ChameleonError::Dns`, for an operation on the path. -/
def dnsError (operation path : String) (e : IoError) : String := operation ++ " " ++ path ++ ": " ++ e

/-- The operations of `apply_resolv_conf` that fail. -/
structure ApplyFaults where
  metadata : Option IoError
  readLink : Option IoError
  remove : Option IoError
  read : Option IoError
  write : Option WriteFault

/-- The operations of `restore_resolv_conf` that fail. -/
structure RestoreFaults where
  write : Option WriteFault
  remove : Option IoError
  symlink : Option IoError

/-- The backup of `apply_resolv_conf`: a link is taken away, so that nothing is written through it. -/
def backUp (path : String) (faults : ApplyFaults) (place : Place) : Except String Restore × Place :=
  match place.symlinkMetadata faults.metadata with
  | .ok (.symlink _) =>
    match place.readLink faults.readLink with
    | .error e => (.error (dnsError "read_link" path e), place)
    | .ok target =>
      match place.removeFile faults.remove with
      | (.error e, place) => (.error (dnsError "remove" path e), place)
      | (.ok (), place) => (.ok (.symlink target), place)
  | .ok _ =>
    match place.read faults.read with
    | .error e => (.error (dnsError "read" path e), place)
    | .ok bytes => (.ok (.file bytes), place)
  | .error _ => (.ok .absent, place)

/-- `apply_resolv_conf`. -/
def applyResolvConf (path : String) (servers : List IpAddr) (faults : ApplyFaults) (place : Place) :
    Except String Restore × Place :=
  match backUp path faults place with
  | (.error e, place) => (.error e, place)
  | (.ok restore, place) =>
    match place.write faults.write (resolvConfBody servers) with
    | (.error e, place) => (.error (dnsError "write" path e), place)
    | (.ok (), place) => (.ok restore, place)

/-- `restore_resolv_conf`, with the outcome it ignores. -/
def restoreResolvConf (restore : Restore) (faults : RestoreFaults) (place : Place) :
    Except IoError Unit × Place :=
  match restore with
  | .file bytes => place.write faults.write bytes
  | .symlink target => (place.removeFile faults.remove).2.symlink faults.symlink target
  | .absent => place.removeFile faults.remove

/-- `DnsGuard`. -/
structure DnsGuard where
  restore : Restore
  deriving DecidableEq

namespace DnsGuard

/-- `install`. -/
def install (servers : List IpAddr) (tun : String) (faults : ApplyFaults) (place : Place) :
    Except String DnsGuard × Place :=
  if servers = [] then (.error "no DNS servers configured", place)
  else if KillSwitch.unsafeName tun then (.error ("refusing unsafe tun name '" ++ tun ++ "'"), place)
  else
    match applyResolvConf resolvConf servers faults place with
    | (.error e, place) => (.error e, place)
    | (.ok restore, place) => (.ok ⟨restore⟩, place)

/-- `drop`. -/
def drop (me : DnsGuard) (faults : RestoreFaults) (place : Place) : Except IoError Unit × Place :=
  restoreResolvConf me.restore faults place

end DnsGuard

/-! ### What each kind of node goes through -/

section Apply

variable {path : String} {servers : List IpAddr} {faults : ApplyFaults} {before : Place}

/-- What the write makes of a backup. -/
def written (path : String) (servers : List IpAddr) (faults : ApplyFaults) (restore : Restore)
    (place : Place) : Except String Restore × Place :=
  match faults.write with
  | none => (.ok restore, place.setContent (resolvConfBody servers))
  | some (.unopened e) => (.error (dnsError "write" path e), place)
  | some (.brokenOff octets e) =>
    (.error (dnsError "write" path e), place.setContent ((resolvConfBody servers).take octets))

theorem apply_of_backUp {restore : Restore} {place : Place}
    (backed : backUp path faults before = (.ok restore, place)) :
    applyResolvConf path servers faults before = written path servers faults restore place := by
  rw [applyResolvConf, backed]
  unfold written
  rcases faults.write with _ | _ | _ <;> rfl

/-- Nothing stands there, or the lookup fails. -/
theorem apply_unseen (unseen : faults.metadata ≠ none ∨ before.node = .absent) :
    applyResolvConf path servers faults before = written path servers faults .absent before := by
  refine apply_of_backUp ?_
  have fails : ∃ e, before.symlinkMetadata faults.metadata = .error e := by
    unfold Place.symlinkMetadata
    rcases unseen with overlooked | absent
    · obtain ⟨e, fault⟩ := Option.ne_none_iff_exists'.mp overlooked
      exact ⟨e, by rw [fault]⟩
    · cases faults.metadata with
      | none => exact ⟨notFound, by rw [absent]⟩
      | some e => exact ⟨e, rfl⟩
  obtain ⟨e, fails⟩ := fails
  rw [backUp, fails]

/-- A file is read. -/
theorem apply_file {bytes : Bytes} (seen : faults.metadata = none) (isFile : before.node = .file bytes) :
    (faults.read = none ∧
      applyResolvConf path servers faults before = written path servers faults (.file bytes) before) ∨
    (faults.read ≠ none ∧ ∃ e, applyResolvConf path servers faults before = (.error e, before)) := by
  have lookup : before.symlinkMetadata faults.metadata = .ok (.file bytes) := by
    simp [Place.symlinkMetadata, seen, isFile]
  cases reads : faults.read with
  | none =>
    refine .inl ⟨rfl, apply_of_backUp ?_⟩
    rw [backUp, lookup, reads]
    simp [Place.read, Place.content, isFile]
  | some e =>
    refine .inr ⟨Option.some_ne_none e, dnsError "read" path e, ?_⟩
    rw [applyResolvConf, backUp, lookup, reads]
    rfl

/-- A link is read and taken away. -/
theorem apply_link {target : String} (seen : faults.metadata = none) (isLink : before.node = .symlink target) :
    (faults.readLink = none ∧ faults.remove = none ∧
      applyResolvConf path servers faults before =
        written path servers faults (.symlink target) { before with node := .absent }) ∨
    (¬ (faults.readLink = none ∧ faults.remove = none) ∧
      ∃ e, applyResolvConf path servers faults before = (.error e, before)) := by
  have lookup : before.symlinkMetadata faults.metadata = .ok (.symlink target) := by
    simp [Place.symlinkMetadata, seen, isLink]
  cases reads : faults.readLink with
  | none =>
    have found : before.readLink none = .ok target := by simp [Place.readLink, isLink]
    cases removes : faults.remove with
    | none =>
      refine .inl ⟨rfl, rfl, apply_of_backUp ?_⟩
      have removed : before.removeFile none = (.ok (), { before with node := .absent }) :=
        Place.removeFile_ok_iff.mpr ⟨rfl, by simp [isLink], rfl⟩
      rw [backUp, lookup, reads, removes]
      simp only [found, removed]
    | some e =>
      refine .inr ⟨by simp, dnsError "remove" path e, ?_⟩
      have removed : before.removeFile (some e) = (.error e, before) := by rw [Place.removeFile]
      rw [applyResolvConf, backUp, lookup, reads, removes]
      simp only [found, removed]
  | some e =>
    refine .inr ⟨by simp, dnsError "read_link" path e, ?_⟩
    have found : before.readLink (some e) = .error e := by rw [Place.readLink]
    rw [applyResolvConf, backUp, lookup, reads]
    simp only [found]

end Apply

/-! ### Reversibility -/

/-- **Reversible**: an error leaves the path as it was; else a later undo that succeeds puts back what was
there, whoever wrote to the file meanwhile. -/
def Reversible {Guard : Type} (undo : Guard → RestoreFaults → Place → Except IoError Unit × Place)
    (before : Place) (outcome : Except String Guard × Place) : Prop :=
  match outcome with
  | (.error _, after) => after = before
  | (.ok guard, after) => ∀ faults meanwhile restored, meanwhile.node.kind = after.node.kind →
      undo guard faults meanwhile = (.ok (), restored) → restored.node = before.node

section Reversibility

variable (servers : List IpAddr) (faults : ApplyFaults) (before : Place)

/-- **The change does not stop half-way**, and its backup sees what is there. -/
structure Harmless : Prop where
  /-- The lookup fails on something that is there only if nothing is written either. -/
  seen : faults.metadata ≠ none → before.node ≠ .absent → faults.write ≠ none
  /-- Once a link is taken away, the write succeeds. -/
  linked : faults.metadata = none → before.node.kind = .symlink → faults.readLink = none →
    faults.remove = none → faults.write = none
  /-- A write that breaks off leaves what was there. -/
  whole : ∀ octets e, faults.write = some (.brokenOff octets e) →
    (faults.metadata = none → before.node.kind ≠ .symlink ∧ (before.node.kind = .file → faults.read = none)) →
      before.content = some ((resolvConfBody servers).take octets)

variable {servers faults before} {path : String}

/-- What was there, by the backup. -/
def Restore.node : Restore → Node
  | file bytes => .file bytes
  | symlink target => .symlink target
  | absent => .absent

/-- What a restore leaves, when it does not write through a link. -/
theorem restore_node {restore : Restore} {restoring : RestoreFaults} {place restored : Place}
    (direct : restore.node.kind = .file → place.node.kind ≠ .symlink)
    (undone : restoreResolvConf restore restoring place = (.ok (), restored)) : restored.node = restore.node := by
  cases restore with
  | file bytes =>
    obtain ⟨-, rfl⟩ := Place.write_ok_iff.mp undone
    rw [Place.setContent_node, if_neg (direct rfl)]
    rfl
  | symlink target =>
    obtain ⟨-, -, rfl⟩ := Place.symlink_ok_iff.mp undone
    rfl
  | absent =>
    obtain ⟨-, -, rfl⟩ := Place.removeFile_ok_iff.mp undone
    rfl

/-- A restore can succeed where something stands. -/
theorem restore_succeeds (restore : Restore) {place : Place} (stands : place.node ≠ .absent) :
    ∃ restored, restoreResolvConf restore ⟨none, none, none⟩ place = (.ok (), restored) := by
  cases restore with
  | file bytes => exact ⟨_, Place.write_ok_iff.mpr ⟨rfl, rfl⟩⟩
  | symlink target =>
    refine ⟨_, Place.symlink_ok_iff.mpr ⟨rfl, ?_, rfl⟩⟩
    rw [Place.removeFile_ok_iff.mpr ⟨rfl, stands, rfl⟩]
  | absent => exact ⟨_, Place.removeFile_ok_iff.mpr ⟨rfl, stands, rfl⟩⟩

/-- **A backup is good** exactly when it says what was there. -/
theorem reversible_ok_iff {restore : Restore} {after : Place} (stands : after.node ≠ .absent)
    (direct : restore.node.kind = .file → after.node.kind ≠ .symlink) :
    Reversible restoreResolvConf before (.ok restore, after) ↔ restore.node = before.node := by
  constructor
  · intro reversible
    obtain ⟨restored, undone⟩ := restore_succeeds restore stands
    exact (restore_node direct undone).symm.trans (reversible _ _ _ rfl undone)
  · intro same restoring meanwhile restored kind undone
    exact (restore_node (fun isFile => kind ▸ direct isFile) undone).trans same

/-- The write, after a backup that left `place`. -/
theorem reversible_written_iff {restore : Restore} {place : Place}
    (direct : restore.node.kind = .file → place.node.kind ≠ .symlink) :
    Reversible restoreResolvConf before (written path servers faults restore place) ↔
      (faults.write = none → restore.node = before.node) ∧
      (∀ e, faults.write = some (.unopened e) → place = before) ∧
      ∀ octets e, faults.write = some (.brokenOff octets e) →
        place.setContent ((resolvConfBody servers).take octets) = before := by
  unfold written
  rcases faults.write with _ | e | ⟨octets, e⟩
  · have notThrough : restore.node.kind = .file →
        (place.setContent (resolvConfBody servers)).node.kind ≠ .symlink := fun isFile => by
      rw [place.setContent_node, if_neg (direct isFile)]
      exact fun link => by cases link
    simpa using @reversible_ok_iff before restore _ (place.setContent_node_ne_absent _) notThrough
  · simp [Reversible]
  · simp [Reversible]

/-- The guard is the change under its checks. -/
theorem reversible_install {tun : String} (servers : List IpAddr)
    (reversible : Reversible restoreResolvConf before (applyResolvConf resolvConf servers faults before)) :
    Reversible DnsGuard.drop before (DnsGuard.install servers tun faults before) := by
  unfold DnsGuard.install
  split_ifs
  · rfl
  · rfl
  · revert reversible
    rcases applyResolvConf resolvConf servers faults before with ⟨_ | restore, place⟩
    · exact id
    · exact id

/-- A path whose node the lookup does not see. -/
theorem reversible_unseen_iff (unseen : faults.metadata ≠ none ∨ before.node = .absent) :
    Reversible restoreResolvConf before (applyResolvConf path servers faults before) ↔
      Harmless servers faults before := by
  rw [apply_unseen unseen, reversible_written_iff fun isFile => (by cases isFile)]
  constructor
  · rintro ⟨done, -, brokenOff⟩
    refine ⟨fun _ stands writes => stands (done writes).symm, fun seen link => ?_, fun octets e breaks _ => ?_⟩
    · have absent := unseen.resolve_left fun overlooked => overlooked seen
      rw [absent] at link
      cases link
    · exact (Place.setContent_eq_iff _).mp (brokenOff octets e breaks)
  · intro harmless
    refine ⟨fun writes => ?_, fun _ _ => rfl, fun octets e breaks => ?_⟩
    · by_contra stands
      have overlooked := unseen.resolve_right fun absent => stands absent.symm
      exact harmless.seen overlooked (fun absent => stands absent.symm) writes
    · refine (Place.setContent_eq_iff _).mpr (harmless.whole octets e breaks fun seen => ?_)
      rw [unseen.resolve_left fun overlooked => overlooked seen]
      exact ⟨fun link => (by cases link), fun isFile => (by cases isFile)⟩

/-- A file. -/
theorem reversible_file_iff {bytes : Bytes} (seen : faults.metadata = none) (isFile : before.node = .file bytes) :
    Reversible restoreResolvConf before (applyResolvConf path servers faults before) ↔
      Harmless servers faults before := by
  have noLink : before.node.kind ≠ .symlink := fun link => by
    rw [isFile] at link
    cases link
  rcases apply_file seen isFile with ⟨reads, applied⟩ | ⟨unread, e, applied⟩
  · rw [applied, reversible_written_iff fun _ => noLink]
    constructor
    · rintro ⟨-, -, brokenOff⟩
      exact ⟨fun overlooked => absurd seen overlooked, fun _ link => absurd link noLink,
        fun octets e breaks _ => (Place.setContent_eq_iff _).mp (brokenOff octets e breaks)⟩
    · exact fun harmless => ⟨fun _ => isFile.symm, fun _ _ => rfl, fun octets e breaks =>
        (Place.setContent_eq_iff _).mpr (harmless.whole octets e breaks fun _ => ⟨noLink, fun _ => reads⟩)⟩
  · rw [applied]
    refine iff_of_true rfl ⟨fun overlooked => absurd seen overlooked, fun _ link => absurd link noLink, ?_⟩
    exact fun _ _ _ reaches => absurd ((reaches seen).2 (congrArg Node.kind isFile)) unread

/-- A link. -/
theorem reversible_link_iff {target : String} (seen : faults.metadata = none)
    (isLink : before.node = .symlink target) :
    Reversible restoreResolvConf before (applyResolvConf path servers faults before) ↔
      Harmless servers faults before := by
  have link : before.node.kind = .symlink := congrArg Node.kind isLink
  have changed : ∀ place : Place, place.node.kind ≠ .symlink → place ≠ before :=
    fun place noLink same => noLink (same ▸ link)
  rcases apply_link seen isLink with ⟨reads, removes, applied⟩ | ⟨stops, e, applied⟩
  · rw [applied, reversible_written_iff fun isFile => (by cases isFile)]
    constructor
    · rintro ⟨-, unopened, brokenOff⟩
      refine ⟨fun overlooked => absurd seen overlooked, fun _ _ _ _ => ?_, fun _ _ _ reaches =>
        absurd link (reaches seen).1⟩
      match fails : faults.write with
      | none => rfl
      | some (.unopened e) => exact absurd (unopened e fails) (changed _ fun none => by cases none)
      | some (.brokenOff octets e) => exact absurd (brokenOff octets e fails) (changed _ fun none => by cases none)
    · intro harmless
      have writes := harmless.linked seen link reads removes
      exact ⟨fun _ => isLink.symm, fun e fails => (by rw [writes] at fails; cases fails),
        fun octets e fails => (by rw [writes] at fails; cases fails)⟩
  · rw [applied]
    refine iff_of_true rfl ⟨fun overlooked => absurd seen overlooked, fun _ _ reads removes =>
      absurd ⟨reads, removes⟩ stops, fun _ _ _ reaches => absurd link (reaches seen).1⟩

/-- **Reversible exactly when harmless**: the change to the path, and with it the guard. -/
theorem resolver_reversible_iff (servers : List IpAddr) (tun : String) (faults : ApplyFaults) (before : Place) :
    (Reversible restoreResolvConf before (applyResolvConf resolvConf servers faults before) ∧
        Reversible DnsGuard.drop before (DnsGuard.install servers tun faults before)) ↔
      Harmless servers faults before := by
  rw [and_iff_left_of_imp (reversible_install servers)]
  by_cases seen : faults.metadata = none
  · cases node : before.node with
    | absent => exact reversible_unseen_iff (.inr node)
    | file bytes => exact reversible_file_iff seen node
    | symlink target => exact reversible_link_iff seen node
  · exact reversible_unseen_iff (.inl seen)

end Reversibility

/-- The stub resolver's link. -/
def sampleLink : Place := ⟨.symlink "../run/systemd/resolve/stub-resolv.conf", fun _ => none⟩

/-- The write that follows the removal finds no room for a new file. -/
def sampleFull : ApplyFaults :=
  ⟨none, none, none, none, some (.unopened "No space left on device (os error 28)")⟩

/-- **The link is lost**: it is taken away, the write fails, and the error leaves no resolver behind. -/
theorem link_lost : ¬ ∀ (servers : List IpAddr) (faults : ApplyFaults) (before : Place),
    Reversible restoreResolvConf before (applyResolvConf resolvConf servers faults before) := by
  intro claim
  have lost : (sampleLink.removeFile none).2 = sampleLink :=
    claim [.v4 ⟨[1, 1, 1, 1], rfl⟩] sampleFull sampleLink
  cases congrArg Place.node lost

end ChameleonPQ
