/-
**Generated pairs stay matched.**

* `BelongTogether` — two configurations that trust each other; `BelongTogether.verify_sign`, what one end signs
  its partner verifies.
* `AllOrNothing` — the disk holds the generated pair, which belongs together, or exactly what was there.
* `applyIdentity_strands_no_server` — no server's file of the identity step stands without its client's.
* `runInit_matched`, `applyIdentity_matched` — either command leaves a matched pair when it succeeds.
* `generatedPair_undivided` — both keep to all or nothing as long as nothing parts the pair; for a pair that is new
  to the disk this is exact.
* `applyIdentity_refines` — the step leaves what the identity step of the setup leaves, complete or broken off.
-/

import ChameleonPQ.Client.Start
import ChameleonPQ.Server.WritePair

namespace ChameleonPQ

open Library Library.Paths Library.Provision

/-! ### Configurations that belong together -/

section Trust

variable (prims : Primitives)

/-- The peer keys a configuration names are the public keys of its peer's own. -/
structure Trusts (own peer : AppConfig) : Prop where
  ed25519 : ∃ seed, peer.identity.seedBytes = .ok seed ∧
    own.identity.peerPubBytes = .ok (prims.ed25519Public seed.bytes)
  mldsa : ∃ secret, peer.identity.mldsaSecretBytes = .ok (some secret) ∧
    own.identity.peerMldsaPubBytes = .ok (some (prims.mldsaPublic secret))

/-- **Two configurations belong together**: each one's peer keys are the other's identity, and they share one
secret. -/
structure BelongTogether (server client : AppConfig) : Prop where
  serverTrusts : Trusts prims server client
  clientTrusts : Trusts prims client server
  psk : ∃ secret, server.obfuscation.pskBytes = .ok (some secret) ∧ client.obfuscation.pskBytes = .ok (some secret)

variable {prims}

section ReadBack

variable (own peer : KeyMat)

theorem seedBytes_identityOf : (identityOf own peer).seedBytes = .ok own.edSeed := by
  rw [IdentityConfig.seedBytes, identityOf, hexTo32_hexText, Octets.fill_bytes]

theorem peerPubBytes_identityOf : (identityOf own peer).peerPubBytes = .ok peer.edPub := by
  rw [IdentityConfig.peerPubBytes, identityOf, hexTo32_hexText, Octets.fill_bytes]

theorem mldsaSecretBytes_identityOf : (identityOf own peer).mldsaSecretBytes = .ok (some own.mldsaSk) := by
  simp only [IdentityConfig.mldsaSecretBytes, identityOf, hexToVec_hexText]
  rfl

theorem peerMldsaPubBytes_identityOf : (identityOf own peer).peerMldsaPubBytes = .ok (some peer.mldsaPub) := by
  simp only [IdentityConfig.peerMldsaPubBytes, identityOf, hexToVec_hexText]
  rfl

theorem pskBytes_obfuscationOf (keys : PairKeys) : (obfuscationOf keys).pskBytes = .ok (some keys.psk.bytes) := by
  simp only [ObfuscationConfig.pskBytes, obfuscationOf, hexToVec_hexText]
  rfl

end ReadBack

/-- A fresh identity is trusted where its public keys are named. -/
theorem trusts_identityOf {own peer : AppConfig} {ownKeys : KeyMat} (seed : Octets 32) (mldsaSk : Bytes)
    (ownIdentity : own.identity = identityOf ownKeys (genNode prims seed mldsaSk))
    (peerIdentity : peer.identity = identityOf (genNode prims seed mldsaSk) ownKeys) : Trusts prims own peer where
  ed25519 := ⟨seed, peerIdentity ▸ seedBytes_identityOf _ _, ownIdentity ▸ peerPubBytes_identityOf _ _⟩
  mldsa := ⟨mldsaSk, peerIdentity ▸ mldsaSecretBytes_identityOf _ _,
    ownIdentity ▸ peerMldsaPubBytes_identityOf _ _⟩

/-- **A generated pair belongs together.** -/
theorem buildPair_belongTogether (params : PairParams) (draws : PairDraws) :
    BelongTogether prims (buildPair params (draws.keys prims)).1.toAppConfig
      (buildPair params (draws.keys prims)).2.toAppConfig where
  serverTrusts := trusts_identityOf draws.clientSeed draws.clientMldsa rfl rfl
  clientTrusts := trusts_identityOf draws.serverSeed draws.serverMldsa rfl rfl
  psk := ⟨draws.psk.bytes, pskBytes_obfuscationOf _, pskBytes_obfuscationOf _⟩

variable {server client : AppConfig} {keys : MlDsaKeys} {serverAuth clientAuth : Authenticator}

/-- Of two ML-DSA keys the authenticator is a hybrid one, where the crate takes them. -/
theorem buildAuth_hybrid {config : AppConfig} {auth : Authenticator} {seed peerPub : Octets 32}
    {secret peerMldsa : Bytes} (built : buildAuth keys config = .ok auth)
    (seedRead : config.identity.seedBytes = .ok seed) (peerRead : config.identity.peerPubBytes = .ok peerPub)
    (secretRead : config.identity.mldsaSecretBytes = .ok (some secret))
    (peerMldsaRead : config.identity.peerMldsaPubBytes = .ok (some peerMldsa)) :
    auth = .hybrid [.ed25519 seed.bytes peerPub, .mlDsa secret peerMldsa] := by
  have shape : buildAuth keys config =
      (AuthLeg.fromKeys keys secret peerMldsa).map fun mldsa => .hybrid [.ed25519 seed.bytes peerPub, mldsa] := by
    simp only [buildAuth, seedRead, peerRead, secretRead, peerMldsaRead]
    rfl
  rw [shape, AuthLeg.fromKeys] at built
  split at built
  · cases built
  · split at built
    · cases built
    · exact (Except.ok.inj built).symm

/-- **Partners are configured with each other's keys.** -/
theorem BelongTogether.cross (together : BelongTogether prims server client)
    (serverBuilt : buildAuth keys server = .ok serverAuth) (clientBuilt : buildAuth keys client = .ok clientAuth) :
    Authenticator.Cross prims serverAuth clientAuth := by
  obtain ⟨clientSeed, clientSeedRead, serverPeer⟩ := together.serverTrusts.ed25519
  obtain ⟨serverSeed, serverSeedRead, clientPeer⟩ := together.clientTrusts.ed25519
  obtain ⟨clientSecret, clientSecretRead, serverPeerMldsa⟩ := together.serverTrusts.mldsa
  obtain ⟨serverSecret, serverSecretRead, clientPeerMldsa⟩ := together.clientTrusts.mldsa
  rw [buildAuth_hybrid serverBuilt serverSeedRead serverPeer serverSecretRead serverPeerMldsa,
    buildAuth_hybrid clientBuilt clientSeedRead clientPeer clientSecretRead clientPeerMldsa]
  exact .hybrid (.cons (.ed25519 _ _) (.cons (.mlDsa _ _) .nil))

/-- **What one partner signs, the other verifies.** -/
theorem BelongTogether.verify_sign (together : BelongTogether prims server client)
    (serverBuilt : buildAuth keys server = .ok serverAuth) (clientBuilt : buildAuth keys client = .ok clientAuth)
    (correct : prims.SignatureCorrect) (message : Octets 32) :
    clientAuth.verify prims message (serverAuth.sign prims message) = .ok () ∧
      serverAuth.verify prims message (clientAuth.sign prims message) = .ok () := by
  have cross := together.cross serverBuilt clientBuilt
  exact ⟨Authenticator.verify_sign cross correct message, Authenticator.verify_sign cross.symm correct message⟩

end Trust

/-! ### The new pair, or what was there -/

section Kept

variable {toml : TomlReader} {prims : Primitives}

namespace GeneratedPair

variable (pair : GeneratedPair toml prims)

/-- The two files hold the pair. -/
structure OnDisk (files : PairFiles) : Prop where
  server : files.server.content = some pair.serverOctets
  client : files.client.content = some pair.clientOctets

/-- Neither file holds its half already. -/
structure New (files : PairFiles) : Prop where
  server : files.server.content ≠ some pair.serverOctets
  client : files.client.content ≠ some pair.clientOctets

end GeneratedPair

/-- Both files are loaded, as configurations that belong together. -/
def Matched (toml : TomlReader) (prims : Primitives) (paths : PairPaths) (files : PairFiles) : Prop :=
  ∃ server client, loadConfig toml paths.server files.server = .ok server ∧
    loadConfig toml paths.client files.client = .ok client ∧
      BelongTogether prims server.toAppConfig client.toAppConfig

/-- **The disk holds the generated pair, which belongs together, or exactly what was there.** -/
def AllOrNothing (generated : Except Failure (GeneratedPair toml prims)) (paths : PairPaths)
    (before after : PairFiles) : Prop :=
  (∃ pair, generated = .ok pair ∧ pair.OnDisk after ∧ Matched toml prims paths after) ∨ after = before

theorem loadConfig_of_content {path : String} {place : Place} {text : List Char}
    (holds : place.content = some (utf8 text)) : loadConfig toml path place = fromTomlStr toml text := by
  rw [loadConfig, holds]
  dsimp only
  rw [fromUtf8_utf8]

section Passes

variable {text : List Char} {file : ConfigFile}

theorem fromTomlStr_of_read (read : toml text = .ok file) :
    fromTomlStr toml text = file.validate.map fun _ => file := by
  rw [fromTomlStr, ConfigText.ofText, read]
  rfl

/-- The self-check is the validation. -/
theorem isOk_fromTomlStr_iff (read : toml text = .ok file) :
    (fromTomlStr toml text).isOk = true ↔ file.validate = .ok () := by
  rw [fromTomlStr_of_read read]
  cases file.validate with
  | error e => exact ⟨(nomatch ·), (nomatch ·)⟩
  | ok _ => exact ⟨fun _ => rfl, fun _ => rfl⟩

/-- What passed the self-check is loaded as it was read. -/
theorem fromTomlStr_of_passes (read : toml text = .ok file) (passes : (fromTomlStr toml text).isOk = true) :
    fromTomlStr toml text = .ok file := by
  rw [fromTomlStr_of_read read, (isOk_fromTomlStr_iff read).mp passes]
  rfl

end Passes

/-- **A pair is generated exactly when the loader takes the MTU.** -/
theorem generate_ok_iff (reads : ReadsPair toml) (params : ValidParams) (draws : PairDraws) :
    (∃ pair, generate toml prims params draws = .ok pair) ↔ 576 ≤ params.1.mtu ∧ params.1.mtu ≤ safeTunMtu := by
  obtain ⟨serverRead, clientRead⟩ := reads params.1 (draws.keys prims) params.2
  rw [← buildPair_accepted_iff params.1 (draws.keys prims)]
  refine Iff.trans ?_ (and_congr (isOk_fromTomlStr_iff serverRead) (isOk_fromTomlStr_iff clientRead))
  unfold generate
  split
  · rename_i e server
    exact ⟨fun made => (nomatch made), fun passes => by rw [server] at passes; cases passes.1⟩
  · rename_i e _ client
    exact ⟨fun made => (nomatch made), fun passes => by rw [client] at passes; cases passes.2⟩
  · rename_i server client
    exact ⟨fun _ => ⟨by rw [server]; rfl, by rw [client]; rfl⟩, fun _ => ⟨_, rfl⟩⟩

/-- **A generated pair on disk is matched.** -/
theorem GeneratedPair.OnDisk.matched {pair : GeneratedPair toml prims} {paths : PairPaths} {files : PairFiles}
    (onDisk : pair.OnDisk files) (reads : ReadsPair toml) : Matched toml prims paths files := by
  obtain ⟨serverRead, clientRead⟩ := reads pair.params (pair.draws.keys prims) pair.wellFormed
  refine ⟨_, _, ?_, ?_, buildPair_belongTogether pair.params pair.draws⟩
  · rw [loadConfig_of_content onDisk.server]
    exact fromTomlStr_of_passes serverRead pair.serverPasses
  · rw [loadConfig_of_content onDisk.client]
    exact fromTomlStr_of_passes clientRead pair.clientPasses

theorem allOrNothing_ok_iff (reads : ReadsPair toml) {pair : GeneratedPair toml prims} {paths : PairPaths}
    {before after : PairFiles} :
    AllOrNothing (.ok pair) paths before after ↔ pair.OnDisk after ∨ after = before := by
  constructor
  · rintro (⟨other, same, onDisk, -⟩ | same)
    · cases same
      exact .inl onDisk
    · exact .inr same
  · rintro (onDisk | same)
    · exact .inl ⟨pair, rfl, onDisk, onDisk.matched reads⟩
    · exact .inr same

end Kept

/-! ### `init` keeps the pair together -/

/-- When a file that is there is not overwritten. -/
theorem refused_iff {there force : Bool} : (there && !force) = true ↔ there = true ∧ force = false := by
  rw [Bool.and_eq_true_iff, Bool.not_eq_true']

/-- `write_secret` stops before it opens the file. -/
def StopsBefore (force : Bool) (fault : Option WriteFault) (place : Place) : Prop :=
  (place.content.isSome = true ∧ force = false) ∨ ∃ e, fault = some (.unopened e)

section WriteSecret

variable (path : String) (contents : Bytes) {force : Bool} {fault : Option WriteFault} {place : Place}

theorem writeSecret_stops (stops : StopsBefore force fault place) :
    ∃ e, writeSecret path contents force fault place = (.error e, place) := by
  unfold writeSecret
  split
  · exact ⟨_, rfl⟩
  · rename_i free
    rcases stops with kept | ⟨e, rfl⟩
    · exact absurd (refused_iff.mpr kept) free
    · exact ⟨_, rfl⟩

/-- A write that opens the file leaves the whole text there, or the first octets of it. -/
theorem writeSecret_opens (opens : ¬ StopsBefore force fault place) :
    (fault = none ∧ writeSecret path contents force fault place = (.ok (), place.setContent contents)) ∨
      ∃ n e, fault = some (.brokenOff n e) ∧
        writeSecret path contents force fault place = (.error (.text e), place.setContent (contents.take n)) := by
  have free : ¬ (place.content.isSome && !force) = true := fun refused => opens (.inl (refused_iff.mp refused))
  match fault with
  | none => exact .inl ⟨rfl, if_neg free⟩
  | some (.unopened e) => exact absurd (.inr ⟨e, rfl⟩) opens
  | some (.brokenOff n e) => exact .inr ⟨n, e, rfl, if_neg free⟩

end WriteSecret

section Init

variable {toml : TomlReader} {prims : Primitives}

/-- **Nothing parts the pair while `init` writes it**: it stops before it opens the server's file; or the write
of the server's file breaks off and leaves what was there; or that write succeeds, and the client's file is
absent or may be overwritten and takes the whole text. -/
inductive GeneratedPair.InitUndivided (pair : GeneratedPair toml prims) (force : Bool) (faults : InitFaults)
    (before : PairFiles) : Prop
  | stopped : StopsBefore force faults.server before.server → InitUndivided pair force faults before
  | unchanged (n : Nat) (e : IoError) : faults.server = some (.brokenOff n e) →
      before.server.content = some (pair.serverOctets.take n) → InitUndivided pair force faults before
  | whole : faults.server = none → ¬ StopsBefore force faults.client before.client →
      (∀ n e, faults.client = some (.brokenOff n e) → pair.clientOctets.length ≤ n) →
      InitUndivided pair force faults before

/-- What the two writes can answer and leave. -/
inductive GeneratedPair.Left (pair : GeneratedPair toml prims) (force : Bool) (faults : InitFaults)
    (before : PairFiles) : Except Failure Unit × PairFiles → Prop
  | nothing (refusal : Failure) : StopsBefore force faults.server before.server →
      Left pair force faults before (.error refusal, before)
  | serverPart (n : Nat) (e : IoError) : ¬ StopsBefore force faults.server before.server →
      faults.server = some (.brokenOff n e) →
      Left pair force faults before
        (.error (.text e), ⟨before.server.setContent (pair.serverOctets.take n), before.client⟩)
  | serverOnly (refusal : Failure) : ¬ StopsBefore force faults.server before.server → faults.server = none →
      StopsBefore force faults.client before.client →
      Left pair force faults before (.error refusal, ⟨before.server.setContent pair.serverOctets, before.client⟩)
  | clientPart (n : Nat) (e : IoError) : ¬ StopsBefore force faults.server before.server → faults.server = none →
      ¬ StopsBefore force faults.client before.client → faults.client = some (.brokenOff n e) →
      Left pair force faults before (.error (.text e),
        ⟨before.server.setContent pair.serverOctets, before.client.setContent (pair.clientOctets.take n)⟩)
  | both : faults.server = none → ¬ StopsBefore force faults.client before.client → faults.client = none →
      Left pair force faults before (.ok (),
        ⟨before.server.setContent pair.serverOctets, before.client.setContent pair.clientOctets⟩)

variable {force : Bool} {faults : InitFaults} {before : PairFiles}

theorem writePair_left (paths : PairPaths) (pair : GeneratedPair toml prims) :
    pair.Left force faults before (writePair paths force pair faults before) := by
  unfold writePair
  by_cases stops : StopsBefore force faults.server before.server
  · obtain ⟨e, wrote⟩ := writeSecret_stops paths.server pair.serverOctets stops
    rw [wrote]
    exact .nothing e stops
  · rcases writeSecret_opens paths.server pair.serverOctets stops with ⟨whole, wrote⟩ | ⟨n, e, broken, wrote⟩
    · rw [wrote]
      dsimp only
      by_cases clientStops : StopsBefore force faults.client before.client
      · obtain ⟨e, wrote⟩ := writeSecret_stops paths.client pair.clientOctets clientStops
        rw [wrote]
        exact .serverOnly e stops whole clientStops
      · rcases writeSecret_opens paths.client pair.clientOctets clientStops with ⟨all, wrote⟩ | ⟨n, e, broken, wrote⟩
        · rw [wrote]
          exact .both whole clientStops all
        · rw [wrote]
          exact .clientPart n e stops whole clientStops broken
    · rw [wrote]
      exact .serverPart n e stops broken

variable {pair : GeneratedPair toml prims} {outcome : Except Failure Unit × PairFiles}

/-- Where both writes succeed, the pair is on disk. -/
theorem GeneratedPair.Left.onDisk (left : pair.Left force faults before outcome) (ok : outcome.1 = .ok ()) :
    pair.OnDisk outcome.2 := by
  cases left with
  | both => exact ⟨Place.setContent_content _, Place.setContent_content _⟩
  | _ => cases ok

/-- **An undivided pair is on disk, or nothing has changed.** -/
theorem GeneratedPair.InitUndivided.kept (undivided : pair.InitUndivided force faults before)
    (left : pair.Left force faults before outcome) : pair.OnDisk outcome.2 ∨ outcome.2 = before := by
  cases left with
  | nothing => exact .inr rfl
  | serverPart n e opens broken =>
    cases undivided with
    | stopped stops => exact absurd stops opens
    | unchanged m f known same =>
      cases broken.symm.trans known
      rw [(Place.setContent_eq_iff _).mpr same]
      exact .inr rfl
    | whole whole => cases broken.symm.trans whole
  | serverOnly _ opens whole stops =>
    cases undivided with
    | stopped stops => exact absurd stops opens
    | unchanged m f known => cases whole.symm.trans known
    | whole _ clientOpens => exact absurd stops clientOpens
  | clientPart n e opens whole _ broken =>
    cases undivided with
    | stopped stops => exact absurd stops opens
    | unchanged m f known => cases whole.symm.trans known
    | whole _ _ enough =>
      rw [List.take_of_length_le (enough n e broken)]
      exact .inl ⟨Place.setContent_content _, Place.setContent_content _⟩
  | both => exact .inl ⟨Place.setContent_content _, Place.setContent_content _⟩

/-- **A pair that is new to the disk is parted otherwise.** -/
theorem GeneratedPair.InitUndivided.of_kept (new : pair.New before) (left : pair.Left force faults before outcome)
    (kept : pair.OnDisk outcome.2 ∨ outcome.2 = before) : pair.InitUndivided force faults before := by
  -- Once the server's file has the whole text, the disk has changed.
  have changed : ∀ client, (⟨before.server.setContent pair.serverOctets, client⟩ : PairFiles) ≠ before := by
    intro client same
    exact new.server ((Place.setContent_eq_iff _).mp (congrArg PairFiles.server same))
  cases left with
  | nothing _ stops => exact .stopped stops
  | serverPart n e _ broken =>
    rcases kept with onDisk | same
    · exact absurd onDisk.client new.client
    · exact .unchanged n e broken ((Place.setContent_eq_iff _).mp (congrArg PairFiles.server same))
  | serverOnly =>
    rcases kept with onDisk | same
    · exact absurd onDisk.client new.client
    · exact absurd same (changed _)
  | clientPart n e _ whole clientOpens broken =>
    rcases kept with onDisk | same
    · have taken : pair.clientOctets.take n = pair.clientOctets :=
        Option.some.inj ((Place.setContent_content _).symm.trans onDisk.client)
      refine .whole whole clientOpens fun m f known => ?_
      cases broken.symm.trans known
      exact (List.take_eq_self_iff _).mp taken
    · exact absurd same (changed _)
  | both whole clientOpens clientWhole =>
    refine .whole whole clientOpens fun n e broken => ?_
    cases clientWhole.symm.trans broken

end Init

/-! ### The identity step keeps the pair together -/

/-- The identity step stops before the client's file is placed. -/
def IdentityArgs.PlacesNothing (args : IdentityArgs) (faults : IdentityFaults) (before : PairFiles) : Prop :=
  (before.client.content.isSome = true ∧ args.force = false) ∨ (args.clientDir ≠ "" ∧ faults.createDir ≠ none) ∨
    faults.client ≠ none

/-- Nothing fails once the client's file is placed: neither the backup, where there is a server's file, nor the
server's file. -/
structure IdentityFaults.Completes (faults : IdentityFaults) (before : PairFiles) : Prop where
  backup : before.server.content.isSome = true → faults.copy = none ∧ faults.owner = none
  server : faults.server = none

/-- **Nothing parts the pair in the identity step.** -/
def IdentityArgs.Undivided (args : IdentityArgs) (faults : IdentityFaults) (before : PairFiles) : Prop :=
  args.PlacesNothing faults before ∨ faults.Completes before

theorem writeFile_fails (temp : String) (contents : Bytes) {fault : Option ReplaceFault} (fails : fault ≠ none)
    (place : Place) : ∃ e left, writeFile temp contents fault place = (.error e, place, left) := by
  obtain ⟨e, left, failed⟩ := place.replace_fails fails contents
  unfold writeFile
  rw [failed]
  rcases fault with _ | _ | _ | _
  all_goals exact ⟨_, _, rfl⟩

theorem backUpServer_cases (faults : IdentityFaults) (server : Place) :
    ((server.content.isSome = true → faults.copy = none ∧ faults.owner = none) ∧
      ∃ backup, backUpServer faults server = (.ok (), backup)) ∨
    ¬ (server.content.isSome = true → faults.copy = none ∧ faults.owner = none) ∧
      ∃ e backup, backUpServer faults server = (.error e, backup) := by
  unfold backUpServer
  split
  · rename_i there
    have copied : (server.copy faults.copy).1 = .ok () ↔ faults.copy = none := Place.copy_ok_iff there
    rcases copy : server.copy faults.copy with ⟨_ | _, backup⟩
    · rw [copy] at copied
      exact .inr ⟨fun fine => (nomatch copied.mpr (fine there).1), _, _, rfl⟩
    · rw [copy] at copied
      match owner : faults.owner with
      | none => exact .inl ⟨fun _ => ⟨copied.mp rfl, rfl⟩, _, rfl⟩
      | some e => exact .inr ⟨fun fine => (nomatch (fine there).2), _, _, rfl⟩
  · exact .inl ⟨fun there => absurd there ‹_›, _, rfl⟩

section Identity

variable {toml : TomlReader} {prims : Primitives} {pair : GeneratedPair toml prims} {args : IdentityArgs}
  {faults : IdentityFaults} {before : PairFiles}

/-- The step stops before it places the client's file. -/
theorem applyIdentity_stops (pair : GeneratedPair toml prims) (nothing : args.PlacesNothing faults before) :
    ∃ e left, applyIdentity args pair faults before = (.error e, before, left) := by
  unfold applyIdentity
  split
  · exact ⟨_, _, rfl⟩
  · rename_i free
    split
    · exact ⟨_, _, rfl⟩
    · rename_i made
      rcases nothing with kept | ⟨own, fails⟩ | fails
      · exact absurd (refused_iff.mpr kept) free
      · rw [if_neg own] at made
        exact absurd made fails
      · obtain ⟨e, left, wrote⟩ := writeFile_fails args.temps.client pair.clientOctets fails before.client
        rw [wrote]
        exact ⟨e, _, rfl⟩

/-- **What the step leaves** once it has placed the client's file. -/
theorem applyIdentity_places (pair : GeneratedPair toml prims) (places : ¬ args.PlacesNothing faults before) :
    (faults.Completes before ∧ ∃ backup, applyIdentity args pair faults before =
      (.ok (), ⟨{ before.server with node := .file pair.serverOctets },
        { before.client with node := .file pair.clientOctets }⟩, { backup })) ∨
    ¬ faults.Completes before ∧ ∃ e left, applyIdentity args pair faults before =
      (.error e, { before with client := { before.client with node := .file pair.clientOctets } }, left) := by
  have free : ¬ (before.client.content.isSome && !args.force) = true := fun refused =>
    places (.inl (refused_iff.mp refused))
  have made : (if args.clientDir = "" then none else faults.createDir) = none := by
    split
    · rfl
    · exact not_not.mp fun fails => places (.inr (.inl ⟨‹_›, fails⟩))
  have client : faults.client = none := not_not.mp fun fails => places (.inr (.inr fails))
  have placed : writeFile args.temps.client pair.clientOctets faults.client before.client =
      (.ok (), { before.client with node := .file pair.clientOctets }, none) := by
    rw [client]
    rfl
  unfold applyIdentity
  rw [if_neg free, made]
  dsimp only
  rw [placed]
  dsimp only
  rcases backUpServer_cases faults before.server with ⟨backedUp, backup, ran⟩ | ⟨fails, e, backup, ran⟩
  · rw [ran]
    dsimp only
    by_cases server : faults.server = none
    · rw [server]
      exact .inl ⟨⟨backedUp, server⟩, _, rfl⟩
    · obtain ⟨e, left, wrote⟩ := writeFile_fails args.temps.server pair.serverOctets server before.server
      rw [wrote]
      exact .inr ⟨fun completes => server completes.server, _, _, rfl⟩
  · rw [ran]
    exact .inr ⟨fun completes => fails completes.backup, _, _, rfl⟩

/-- **What the step leaves.** -/
theorem applyIdentity_cases (args : IdentityArgs) (pair : GeneratedPair toml prims) (faults : IdentityFaults)
    (before : PairFiles) :
    (args.PlacesNothing faults before ∧ ∃ e left, applyIdentity args pair faults before = (.error e, before, left)) ∨
    (¬ args.PlacesNothing faults before ∧ faults.Completes before ∧
      ∃ backup, applyIdentity args pair faults before =
        (.ok (), ⟨{ before.server with node := .file pair.serverOctets },
          { before.client with node := .file pair.clientOctets }⟩, { backup })) ∨
    (¬ args.PlacesNothing faults before ∧ ¬ faults.Completes before ∧
      ∃ e left, applyIdentity args pair faults before =
        (.error e, { before with client := { before.client with node := .file pair.clientOctets } }, left)) := by
  by_cases nothing : args.PlacesNothing faults before
  · exact .inl ⟨nothing, applyIdentity_stops pair nothing⟩
  · rcases applyIdentity_places pair nothing with ⟨completes, ran⟩ | ⟨fails, ran⟩
    · exact .inr (.inl ⟨nothing, completes, ran⟩)
    · exact .inr (.inr ⟨nothing, fails, ran⟩)

/-- A step that succeeds leaves no temporary file beside the two; only a `write_file` that fails does. -/
theorem applyIdentity_temporaries (ok : (applyIdentity args pair faults before).1 = .ok ()) :
    (applyIdentity args pair faults before).2.2.clientTemp = none ∧
      (applyIdentity args pair faults before).2.2.serverTemp = none := by
  rcases applyIdentity_cases args pair faults before with
    ⟨-, e, left, ran⟩ | ⟨-, -, backup, ran⟩ | ⟨-, -, e, left, ran⟩
  all_goals rw [ran] at ok ⊢
  · cases ok
  · exact ⟨rfl, rfl⟩
  · cases ok

/-- **An undivided pair is on disk, or nothing has changed.** -/
theorem IdentityArgs.Undivided.kept (undivided : args.Undivided faults before) :
    pair.OnDisk (applyIdentity args pair faults before).2.1 ∨
      (applyIdentity args pair faults before).2.1 = before := by
  rcases applyIdentity_cases args pair faults before with
    ⟨-, e, left, ran⟩ | ⟨-, -, left, ran⟩ | ⟨places, fails, -⟩
  · rw [ran]
    exact .inr rfl
  · rw [ran]
    exact .inl ⟨rfl, rfl⟩
  · exact absurd undivided (not_or.mpr ⟨places, fails⟩)

/-- **The step strands no server's keys**: it leaves the server's file as it was, or both files of the pair. -/
theorem applyIdentity_strands_no_server (args : IdentityArgs) (pair : GeneratedPair toml prims)
    (faults : IdentityFaults) (before : PairFiles) :
    (applyIdentity args pair faults before).2.1.server = before.server ∨
      pair.OnDisk (applyIdentity args pair faults before).2.1 := by
  rcases applyIdentity_cases args pair faults before with
    ⟨-, e, left, ran⟩ | ⟨-, -, left, ran⟩ | ⟨-, -, e, left, ran⟩
  all_goals rw [ran]
  · exact .inl rfl
  · exact .inr ⟨rfl, rfl⟩
  · exact .inl rfl

/-- **A pair that is new to the disk is parted otherwise.** -/
theorem IdentityArgs.Undivided.of_kept (new : pair.New before)
    (kept : pair.OnDisk (applyIdentity args pair faults before).2.1 ∨
      (applyIdentity args pair faults before).2.1 = before) : args.Undivided faults before := by
  rcases applyIdentity_cases args pair faults before with
    ⟨nothing, -⟩ | ⟨-, completes, -⟩ | ⟨-, -, e, left, ran⟩
  · exact .inl nothing
  · exact .inr completes
  · rw [ran] at kept
    rcases kept with onDisk | same
    · exact absurd onDisk.server new.server
    · have placed : { before.client with node := Node.file pair.clientOctets } = before.client :=
        congrArg PairFiles.client same
      exact absurd (congrArg Place.content placed).symm new.client

end Identity

/-! ### Both commands -/

section Both

variable (toml : TomlReader) (prims : Primitives)

/-- `init` keeps the pair together. -/
def InitKeeps (args : InitArgs) (line : Except IoError (List Char)) (draws : PairDraws) (faults : InitFaults)
    (before : PairFiles) : Prop :=
  AllOrNothing (args.generated toml prims line draws) args.paths before
    (runInit toml prims args line draws faults before).2

/-- Nothing parts the pair that `init` generates. -/
def InitArgs.Undivided (args : InitArgs) (line : Except IoError (List Char)) (draws : PairDraws) (faults : InitFaults)
    (before : PairFiles) : Prop :=
  ∀ pair, args.generated toml prims line draws = .ok pair → pair.InitUndivided args.force faults before

variable {toml prims}

/-- The identity step keeps the pair together. -/
def IdentityKeeps (args : IdentityArgs) (pair : GeneratedPair toml prims) (faults : IdentityFaults)
    (before : PairFiles) : Prop :=
  AllOrNothing (.ok pair) args.paths before (applyIdentity args pair faults before).2.1

section Init

variable {args : InitArgs} {line : Except IoError (List Char)} {draws : PairDraws} {faults : InitFaults}
  {before : PairFiles}

/-- What was refused before a pair is generated changes nothing. -/
theorem initKeeps_of_refused {e : Failure} (refused : args.generated toml prims line draws = .error e) :
    InitKeeps toml prims args line draws faults before := by
  rw [InitKeeps, runInit, refused]
  exact .inr rfl

theorem initKeeps_iff (reads : ReadsPair toml) {pair : GeneratedPair toml prims}
    (generated : args.generated toml prims line draws = .ok pair) :
    InitKeeps toml prims args line draws faults before ↔
      pair.OnDisk (writePair args.paths args.force pair faults before).2 ∨
        (writePair args.paths args.force pair faults before).2 = before := by
  rw [InitKeeps, runInit, generated]
  exact allOrNothing_ok_iff reads

theorem InitArgs.Undivided.keeps (reads : ReadsPair toml)
    (undivided : args.Undivided toml prims line draws faults before) :
    InitKeeps toml prims args line draws faults before := by
  cases generated : args.generated toml prims line draws with
  | error e => exact initKeeps_of_refused generated
  | ok pair =>
    exact (initKeeps_iff reads generated).mpr ((undivided pair generated).kept (writePair_left args.paths pair))

theorem InitArgs.Undivided.of_keeps (reads : ReadsPair toml)
    (new : ∀ pair, args.generated toml prims line draws = .ok pair → pair.New before)
    (keeps : InitKeeps toml prims args line draws faults before) :
    args.Undivided toml prims line draws faults before := fun pair generated =>
  .of_kept (new pair generated) (writePair_left args.paths pair) ((initKeeps_iff reads generated).mp keeps)

/-- **An `init` that succeeds leaves a matched pair**, whatever was there. -/
theorem runInit_matched (reads : ReadsPair toml)
    (ok : (runInit toml prims args line draws faults before).1 = .ok ()) :
    Matched toml prims args.paths (runInit toml prims args line draws faults before).2 := by
  unfold runInit at ok ⊢
  split at ok
  · cases ok
  · exact ((writePair_left args.paths _).onDisk ok).matched reads

end Init

section Identity

variable {args : IdentityArgs} {pair : GeneratedPair toml prims} {faults : IdentityFaults} {before : PairFiles}

/-- **An identity step that succeeds leaves a matched pair**, whatever was there. -/
theorem applyIdentity_matched (reads : ReadsPair toml) (ok : (applyIdentity args pair faults before).1 = .ok ()) :
    Matched toml prims args.paths (applyIdentity args pair faults before).2.1 := by
  rcases applyIdentity_cases args pair faults before with
    ⟨-, e, left, ran⟩ | ⟨-, -, left, ran⟩ | ⟨-, -, e, left, ran⟩
  all_goals rw [ran] at ok ⊢
  · cases ok
  · have onDisk : pair.OnDisk ⟨{ before.server with node := .file pair.serverOctets },
        { before.client with node := .file pair.clientOctets }⟩ := ⟨rfl, rfl⟩
    exact onDisk.matched reads
  · cases ok

theorem IdentityArgs.Undivided.keeps (reads : ReadsPair toml) (undivided : args.Undivided faults before) :
    IdentityKeeps args pair faults before :=
  (allOrNothing_ok_iff reads).mpr undivided.kept

theorem IdentityArgs.Undivided.of_keeps (reads : ReadsPair toml) (new : pair.New before)
    (keeps : IdentityKeeps args pair faults before) : args.Undivided faults before :=
  .of_kept new ((allOrNothing_ok_iff reads).mp keeps)

end Identity

/-- **The disk holds the new pair or what was there, as long as nothing parts the pair**, in `init` and in the
identity step; for a pair that is new to the disk, exactly then. It is about the two files: the temporary file of
a `write_file` that failed may remain beside them. -/
theorem generatedPair_undivided (reads : ReadsPair toml) :
    (∀ args line draws faults before,
      (args.Undivided toml prims line draws faults before → InitKeeps toml prims args line draws faults before) ∧
      ((∀ pair, args.generated toml prims line draws = .ok pair → pair.New before) →
        (InitKeeps toml prims args line draws faults before ↔
          args.Undivided toml prims line draws faults before))) ∧
    (∀ (args : IdentityArgs) (pair : GeneratedPair toml prims) faults before,
      (args.Undivided faults before → IdentityKeeps args pair faults before) ∧
      (pair.New before → (IdentityKeeps args pair faults before ↔ args.Undivided faults before))) := by
  constructor
  · intro args line draws faults before
    exact ⟨fun undivided => undivided.keeps reads,
      fun new => ⟨.of_keeps reads new, fun undivided => undivided.keeps reads⟩⟩
  · intro args pair faults before
    exact ⟨fun undivided => undivided.keeps reads,
      fun new => ⟨.of_keeps reads new, fun undivided => undivided.keeps reads⟩⟩

/-- `init --server-addr 203.0.113.5:51820`. -/
def sampleInitArgs : InitArgs where
  serverAddr := some ⟨⟨[203, 0, 113, 5], 51820⟩, .inl rfl⟩
  outDir := "."
  bind := ⟨⟨[0, 0, 0, 0], 51820⟩, .inl rfl⟩
  tunNet := "10.99.0"
  mtu := 1200
  splitTunnel := false
  killSwitch := false
  profile := "off"
  force := false

/-- The identity step of `setup --server-addr 203.0.113.5:51820`. -/
def sampleIdentityArgs : IdentityArgs where
  paths := ⟨"/etc/chameleon-pq/server-config.toml", "/root/chameleon-pq-client.toml"⟩
  temps := ⟨"/etc/chameleon-pq/server-config.tmp-1", "/root/chameleon-pq-client.tmp-1"⟩
  clientDir := "/root"
  force := false

def sampleDraws : PairDraws := ⟨.fill 32 [1], [1], .fill 32 [2], [2], .fill 32 [3]⟩

/-- No file is there. -/
def emptyDisk : PairFiles := ⟨⟨.absent, fun _ => none⟩, ⟨.absent, fun _ => none⟩⟩

theorem new_emptyDisk {toml : TomlReader} {prims : Primitives} (pair : GeneratedPair toml prims) :
    pair.New emptyDisk :=
  ⟨Option.some_ne_none _ ∘ Eq.symm, Option.some_ne_none _ ∘ Eq.symm⟩

/-- The sample options are taken. -/
theorem sampleInitArgs_generated : ∃ pair,
    sampleInitArgs.generated readConfig .transparent (.error notFound) sampleDraws = .ok pair := by
  have taken : sampleInitArgs.params (.error notFound) =
      .ok ⟨⟨⟨[203, 0, 113, 5], 51820⟩, ⟨[0, 0, 0, 0], 51820⟩, ⟨[10, 99, 0], rfl⟩, 1200, true, false, .off⟩,
        .inl rfl, .inl rfl⟩ := by
    rfl
  rw [InitArgs.generated, taken]
  exact (generate_ok_iff readConfig_readsPair _ _).mpr (by decide)

/-- The client's temporary file is written, and cannot take its place. -/
def clientUnplaced : IdentityFaults := ⟨none, some (.unplaced "Read-only file system (os error 30)"), none, none, none⟩

/-- Both commands keep the sample pair together, and nothing parts it: without a fault, with a server's file that
cannot be opened, and with a client's file that is not placed. -/
theorem generatedPair_undivided_sample : ∃ pair : GeneratedPair readConfig .transparent,
    InitKeeps readConfig .transparent sampleInitArgs (.error notFound) sampleDraws ⟨none, none⟩ emptyDisk ∧
      InitKeeps readConfig .transparent sampleInitArgs (.error notFound) sampleDraws
        ⟨some (.unopened "Permission denied (os error 13)"), none⟩ emptyDisk ∧
      IdentityKeeps sampleIdentityArgs pair ⟨none, none, none, none, none⟩ emptyDisk ∧
      IdentityKeeps sampleIdentityArgs pair clientUnplaced emptyDisk ∧
      (IdentityKeeps sampleIdentityArgs pair clientUnplaced emptyDisk →
        sampleIdentityArgs.Undivided clientUnplaced emptyDisk) := by
  obtain ⟨pair, -⟩ := sampleInitArgs_generated
  obtain ⟨ofInit, ofIdentity⟩ := @generatedPair_undivided readConfig .transparent readConfig_readsPair
  refine ⟨pair, (ofInit _ _ _ _ _).1 fun pair _ => ?_,
    (ofInit _ _ _ _ _).1 fun pair _ => .stopped (.inr ⟨_, rfl⟩),
    (ofIdentity _ _ _ _).1 (.inr ⟨fun _ => ⟨rfl, rfl⟩, rfl⟩),
    (ofIdentity _ _ _ _).1 (.inl (.inr (.inr (Option.some_ne_none _)))),
    ((ofIdentity _ _ _ _).2 (new_emptyDisk pair)).mp⟩
  refine .whole rfl ?_ nofun
  rintro (⟨there, -⟩ | ⟨e, fault⟩)
  · cases there
  · cases fault

/-- A client's file is left of an earlier pair. -/
def staleClient : PairFiles := ⟨⟨.absent, fun _ => none⟩, ⟨.file (ascii "old"), fun _ => none⟩⟩

/-- A client's text begins with a comment. -/
theorem clientOctets_head (pair : GeneratedPair readConfig .transparent) : pair.clientOctets.head? = some 0x23 := rfl

/-- **Both commands part a pair**: `init` leaves a new server's file beside the old client's that it refuses to
overwrite, and the identity step a new client's file when the server's is not placed. -/
theorem pair_parted :
    (¬ ∀ args line draws faults before, InitKeeps readConfig .transparent args line draws faults before) ∧
    (¬ ∀ args (pair : GeneratedPair readConfig .transparent) faults before,
      IdentityKeeps args pair faults before) := by
  obtain ⟨pair, generated⟩ := sampleInitArgs_generated
  constructor
  · intro keeps
    have new : ∀ pair, sampleInitArgs.generated readConfig .transparent (.error notFound) sampleDraws = .ok pair →
        pair.New staleClient := by
      intro pair _
      refine ⟨nofun, fun same => ?_⟩
      have head := clientOctets_head pair
      rw [← Option.some.inj same] at head
      cases head
    have undivided := InitArgs.Undivided.of_keeps readConfig_readsPair new
      (keeps sampleInitArgs (.error notFound) sampleDraws ⟨none, none⟩ staleClient)
    cases undivided pair generated with
    | stopped stops =>
      rcases stops with ⟨there, -⟩ | ⟨e, fault⟩
      · cases there
      · cases fault
    | unchanged _ _ broken => cases broken
    | whole _ opens => exact opens (.inl ⟨rfl, rfl⟩)
  · intro keeps
    have undivided := IdentityArgs.Undivided.of_keeps readConfig_readsPair (new_emptyDisk pair)
      (keeps sampleIdentityArgs pair
        ⟨none, none, none, none, some (.unplaced "No space left on device (os error 28)")⟩ emptyDisk)
    rcases undivided with (⟨there, -⟩ | ⟨-, fails⟩ | fails) | completes
    · cases there
    · exact fails rfl
    · exact fails rfl
    · cases completes.server

end Both

/-! ### The setup's step -/

section Setup

variable {toml : TomlReader} {prims : Primitives}

/-- What stands in a file, as the setup reads it. -/
def configText (toml : TomlReader) (place : Place) : Option ConfigText :=
  place.content.map fun octets =>
    (fromUtf8 octets).elim (.garbled "stream did not contain valid UTF-8") (ConfigText.ofText toml)

theorem configText_of_content {place : Place} {text : List Char} {file : ConfigFile} (read : toml text = .ok file)
    (holds : place.content = some (utf8 text)) : configText toml place = some (.parsed file) := by
  rw [configText, holds, Option.map_some, fromUtf8_utf8, Option.elim_some, ConfigText.ofText, read]

/-- **The step leaves what a broken run of the setup's identity step leaves, and what a complete one leaves when
it succeeds**, where the directory and the account are there for the server's file. -/
theorem applyIdentity_refines (reads : ReadsPair toml) (args : IdentityArgs) (pair : GeneratedPair toml prims)
    (faults : IdentityFaults) (before : PairFiles) {setup : SetupArgs} (force : setup.force = args.force)
    {p : Progress} (server : p.server = configText toml before.server)
    (client : p.client = configText toml before.client)
    (placed : faults.server = none → p.dir.isSome = true ∧ p.account = true) :
    ∃ last, Broken [stepIdentity setup (buildPair pair.params (pair.draws.keys prims))] p last ∧
      last.server = configText toml (applyIdentity args pair faults before).2.1.server ∧
      last.client = configText toml (applyIdentity args pair faults before).2.1.client ∧
      ((applyIdentity args pair faults before).1 = .ok () →
        complete [stepIdentity setup (buildPair pair.params (pair.draws.keys prims))] p = some last) := by
  obtain ⟨serverRead, clientRead⟩ := reads pair.params (pair.draws.keys prims) pair.wellFormed
  -- Where the client's file may be written, the first operation of the setup's step does not fail.
  have free : ¬ args.PlacesNothing faults before → ¬ (p.client.isSome && !setup.force) = true := by
    intro places
    rw [client, configText, Option.isSome_map, force]
    exact fun refused => places (.inl (refused_iff.mp refused))
  have clientText : configText toml { before.client with node := .file pair.clientOctets } =
      some (.parsed (clientFile pair.params (pair.draws.keys prims))) := configText_of_content clientRead rfl
  have serverText : configText toml { before.server with node := .file pair.serverOctets } =
      some (.parsed (serverFile pair.params (pair.draws.keys prims))) := configText_of_content serverRead rfl
  rcases applyIdentity_cases args pair faults before with
    ⟨-, e, left, ran⟩ | ⟨places, completes, left, ran⟩ | ⟨places, -, e, left, ran⟩
  · rw [ran]
    exact ⟨p, .stopped _ _, server, client, nofun⟩
  · obtain ⟨dir, account⟩ := placed completes.server
    have performed : perform (stepIdentity setup (buildPair pair.params (pair.draws.keys prims))).operations p =
        some { p with
          client := some (.parsed (clientFile pair.params (pair.draws.keys prims)))
          backups := p.backups ++ p.server.toList
          server := some (.parsed (serverFile pair.params (pair.draws.keys prims))) } := by
      show (if (p.client.isSome && !setup.force) = true then none else some _).bind _ = _
      rw [if_neg (free places)]
      show (if (p.dir.isSome && p.account) = true then some _ else none).bind some = _
      rw [dir, account]
      rfl
    rw [ran]
    exact ⟨_, .applied rfl performed (.stopped _ _), serverText.symm, clientText.symm,
      fun _ => (complete_singleton _ p).trans performed⟩
  · have performed :
        perform ((stepIdentity setup (buildPair pair.params (pair.draws.keys prims))).operations.take 1) p =
          some { p with client := some (.parsed (clientFile pair.params (pair.draws.keys prims))) } := by
      show (if (p.client.isSome && !setup.force) = true then none else some _).bind some = _
      rw [if_neg (free places)]
      rfl
    rw [ran]
    exact ⟨_, .cut 1 rfl performed, server, clientText.symm, nofun⟩

end Setup

end ChameleonPQ
