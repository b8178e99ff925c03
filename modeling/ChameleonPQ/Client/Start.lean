/-
**Starting a client (`client.rs`, `main.rs`).**

A configuration that passed validation is read again at the start: the authenticator is built from its keys,
and the library's client installs the full-tunnel routes and the resolver override it asks for. The
command-line client runs the tunnel without them.

* `buildAuth`, `hsObfKey` — what the keys are made into.
* `Client.connect`, `runClient` — the two starts, against what the system answers.
* `tryInstall_succeeds`, `install_resolver` — where the commands succeed, what is asked for is installed.
* `protections_honoured_iff` — a configuration is honoured exactly when its keys fit, and what the start path
  reads of it is complete.
-/

import ChameleonPQ.Client.Resolver
import ChameleonPQ.Config
import ChameleonPQ.Crypto.Authenticator
import ChameleonPQ.Crypto.Transparent
import ChameleonPQ.Session.Session

namespace ChameleonPQ

open Library Library.IpText Library.Paths

/-! ### What the configuration is made into -/

/-- `str::parse::<Ipv4Addr>`. -/
def parseIpv4Addr (text : String) : Option (Octets 4) := parseIpv4 text.toList

/-- `str::parse::<IpAddr>`. -/
def parseIpAddr (text : String) : Option IpAddr :=
  (parseIpv4 text.toList).map .v4 <|> (parseIpv6 text.toList).map .v6

/-- `dns_servers`: an entry that is no address is dropped. -/
def TunConfig.dnsServers (tun : TunConfig) : List IpAddr := tun.dns.filterMap parseIpAddr

/-- Whether the ML-DSA crate takes the octets of a key. -/
structure MlDsaKeys where
  secretKeyFromBytes : Bytes → Bool
  publicKeyFromBytes : Bytes → Bool

variable (keys : MlDsaKeys)

/-- `MlDsaAuth::from_keys`. -/
def AuthLeg.fromKeys (secret peerPub : Bytes) : Result AuthLeg :=
  if keys.secretKeyFromBytes secret = false then .error (.kdf "invalid ML-DSA secret key")
  else if keys.publicKeyFromBytes peerPub = false then .error (.kdf "invalid ML-DSA peer public key")
  else .ok (.mlDsa secret peerPub)

/-- `build_auth`; a seed of 32 octets makes an Ed25519 key pair. -/
def buildAuth (config : AppConfig) : Result Authenticator := do
  let seed ← config.identity.seedBytes
  let peerPub ← config.identity.peerPubBytes
  let ed := AuthLeg.ed25519 seed.bytes peerPub
  let secret ← config.identity.mldsaSecretBytes
  let peerMldsa ← config.identity.peerMldsaPubBytes
  match secret, peerMldsa with
  | some secret, some peerMldsa => (AuthLeg.fromKeys keys secret peerMldsa).map fun mldsa => .hybrid [ed, mldsa]
  | _, _ => .ok (.single ed)

section HsObf

variable (prims : Primitives)

/-- `derive_hs_obf_key`. -/
def deriveHsObfKey (ownEdPub peerEdPub : Octets 32) (psk : Option Bytes) : Octets 32 :=
  let ikm := match psk with
    | some secret => secret
    | none =>
      if lexLe ownEdPub.bytes peerEdPub.bytes then ownEdPub.bytes ++ peerEdPub.bytes
      else peerEdPub.bytes ++ ownEdPub.bytes
  prims.hkdfSha256 (ascii "Chameleon-PQ-v1-hs-obf") ikm (ascii "handshake obfuscation key")

/-- `hs_obf_key`. -/
def hsObfKey (config : AppConfig) : Result (Option (Octets 32)) :=
  if config.obfuscation.handshake = false then .ok none
  else do
    let seed ← config.identity.seedBytes
    let peerPub ← config.identity.peerPubBytes
    let psk ← config.obfuscation.pskBytes
    return some (deriveHsObfKey prims (prims.ed25519Public seed.bytes) peerPub psk)

end HsObf

/-! ### The two starts -/

/-- What the system answers to a start, and the peer to its handshake. -/
structure Os where
  backend : RouteBackend
  gateway : Option (Octets 4)
  bind : Result Unit
  handshake : Authenticator → Option (Octets 32) → Result Session
  createTun : Result Unit
  /-- The route commands that fail, at each attempt. -/
  routeFaults : Nat → RouteFaults
  dnsFaults : ApplyFaults

/-- What a start changes of the system. -/
structure SystemState where
  routes : RouteTable
  resolver : Place

/-- `Client`: what a running client holds. -/
structure ConnectedClient where
  session : Session
  routes : Option FullTunnelRoutes
  dns : Option DnsGuard

/-- The attempts at the full-tunnel routes. -/
def tryInstall (os : Os) (gw : Octets 4) (server : IpAddr) (tun : String) :
    List Nat → RouteTable → Option FullTunnelRoutes × RouteTable
  | [], table => (none, table)
  | attempt :: rest, table =>
    match FullTunnelRoutes.install os.backend (os.routeFaults attempt) os.gateway gw server tun table with
    | (.ok routes, table) => (some routes, table)
    | (.error _, table) => tryInstall os gw server tun rest table

namespace ConnectedClient

/-- The routes of `connect`: without the peer's address, or after eight attempts, it goes on without. -/
def installRoutes (config : AppConfig) (server : IpAddr) (os : Os) (table : RouteTable) :
    Option FullTunnelRoutes × RouteTable :=
  if config.tun.routeAll then
    match config.tun.peerAddress.bind parseIpv4Addr with
    | some gw => tryInstall os gw server config.tun.name (List.range' 1 8) table
    | none => (none, table)
  else (none, table)

/-- The resolver override of `connect`: without a resolver, or after a failure, it goes on without. -/
def installDns (config : AppConfig) (os : Os) (place : Place) : Option DnsGuard × Place :=
  if config.tun.routeAll = true ∧ config.tun.dns ≠ [] then
    let servers := config.tun.dnsServers
    if servers = [] then (none, place)
    else
      match DnsGuard.install servers config.tun.name os.dnsFaults place with
      | (.ok dns, place) => (some dns, place)
      | (.error _, place) => (none, place)
  else (none, place)

variable (prims : Primitives)

/-- `Client::connect`. -/
def connect (config : AppConfig) (server : IpAddr) (auth : Authenticator) (os : Os) (system : SystemState) :
    Result ConnectedClient × SystemState :=
  let established : Result Session := do
    os.bind
    let hsObf ← hsObfKey prims config
    os.handshake auth hsObf
  match established with
  | .error e => (.error e, system)
  | .ok session =>
    let (routes, table) := installRoutes config server os system.routes
    let (dns, place) := installDns config os system.resolver
    (.ok ⟨session, routes, dns⟩, ⟨table, place⟩)

end ConnectedClient

variable (prims : Primitives)

/-- `run_client`, until the tunnel runs. -/
def runClient (config : AppConfig) (auth : Authenticator) (os : Os) (system : SystemState) :
    Result ConnectedClient × SystemState :=
  let running : Result Session := do
    os.bind
    let hsObf ← hsObfKey prims config
    let session ← os.handshake auth hsObf
    os.createTun
    return session
  (running.map fun session => ⟨session, none, none⟩, system)

/-- How a client is started. -/
inductive StartPath where
  | library
  | commandLine
  deriving DecidableEq

/-- A start: the authenticator is built first. -/
def StartPath.launch (path : StartPath) (config : AppConfig) (server : IpAddr) (os : Os) (system : SystemState) :
    Result ConnectedClient × SystemState :=
  match buildAuth keys config with
  | .error e => (.error e, system)
  | .ok auth =>
    match path with
    | .library => ConnectedClient.connect prims config server auth os system
    | .commandLine => runClient prims config auth os system

/-! ### What is asked for -/

/-- No operation fails for a reason of its own. -/
def ApplyFaults.never : ApplyFaults := ⟨none, none, none, none, none⟩

/-- **The system's commands succeed**: none fails for a reason of its own, and no route refuses a half. -/
structure Os.Succeeds (os : Os) (config : AppConfig) (system : SystemState) : Prop where
  lower : ∀ attempt, (os.routeFaults attempt).lower = false
  upper : ∀ attempt, (os.routeFaults attempt).upper = false
  free : ∀ gw half, half = lowerHalf ∨ half = upperHalf →
    os.backend.refuses (system.routes half) ⟨gw, some config.tun.name, os.backend.metric⟩ = false
  dns : os.dnsFaults = .never

/-- **The protections are there**: both halves lead through the tunnel to the configured peer, and the resolver is
overridden with every configured address. -/
structure Protected (config : AppConfig) (os : Os) (client : ConnectedClient) (after : SystemState) : Prop where
  routes : config.tun.routeAll = true → ∃ routes, client.routes = some routes ∧
    config.tun.peerAddress.bind parseIpv4Addr = some routes.peerGw ∧
      ∀ half, half = lowerHalf ∨ half = upperHalf →
        ⟨routes.peerGw, some config.tun.name, os.backend.metric⟩ ∈ after.routes half
  dns : config.tun.dns ≠ [] → client.dns ≠ none ∧
    ∃ servers, List.Forall₂ (fun entry ip => parseIpAddr entry = some ip) config.tun.dns servers ∧
      after.resolver.content = some (resolvConfBody servers)

/-- **A configuration is honoured** by a start path: its authenticator can be built, and a start that reaches a
running tunnel has installed what is asked for. -/
def Honoured (config : AppConfig) (path : StartPath) : Prop :=
  (∃ auth, buildAuth keys config = .ok auth) ∧
    ∀ server os system client after, os.Succeeds config system →
      path.launch keys prims config server os system = (.ok client, after) → Protected config os client after

/-- **What the start reads is complete.** -/
structure Complete (config : AppConfig) (path : StartPath) : Prop where
  /-- The ML-DSA crate takes the two keys, where they are given. -/
  fits : ∀ secret peerPub, config.identity.mldsaSecretBytes = .ok (some secret) →
    config.identity.peerMldsaPubBytes = .ok (some peerPub) →
      keys.secretKeyFromBytes secret = true ∧ keys.publicKeyFromBytes peerPub = true
  /-- The library's client finds the peer's address, the resolvers' addresses, and a name it can embed. -/
  library : path = .library → config.tun.routeAll = true →
    config.tun.peerAddress.bind parseIpv4Addr ≠ none ∧
      (config.tun.dns ≠ [] → (∀ entry ∈ config.tun.dns, parseIpAddr entry ≠ none) ∧
        KillSwitch.unsafeName config.tun.name = false)
  /-- The command-line client looks at neither option. -/
  commandLine : path = .commandLine → config.tun.routeAll = false

/-! ### Where the commands succeed -/

section Succeeds

variable {keys : MlDsaKeys} {prims : Primitives} {config : AppConfig} {server : IpAddr} {os : Os}
  {system after : SystemState} {client : ConnectedClient} {path : StartPath}

open FullTunnelRoutes

/-- **A full-tunnel install succeeds**, and adds both halves. -/
theorem install_succeeds {backend : RouteBackend} {faults : RouteFaults} {gateway : Option (Octets 4)}
    {gw : Octets 4} {tun : String} {table : RouteTable} (lower : faults.lower = false) (upper : faults.upper = false)
    (free : ∀ half, half = lowerHalf ∨ half = upperHalf →
      backend.refuses (table half) ⟨gw, some tun, backend.metric⟩ = false) :
    ∃ routes after, install backend faults gateway gw server tun table = (.ok routes, after) ∧
      routes.peerGw = gw ∧
        ∀ half, half = lowerHalf ∨ half = upperHalf → ⟨gw, some tun, backend.metric⟩ ∈ after half := by
  obtain ⟨me, pinned, pin, peer, same⟩ : ∃ me pinned,
      pinEndpoint backend faults gateway server ⟨gw, tun, none, false⟩ table = (me, pinned) ∧ me.peerGw = gw ∧
        ∀ half, half = lowerHalf ∨ half = upperHalf → pinned half = table half := by
    rcases pinEndpoint_cases ⟨gw, tun, none, false⟩ with ⟨-, route, pin⟩ | ⟨-, pin⟩
    · refine ⟨_, _, pin, rfl, fun half which => Function.update_of_ne ?_ ..⟩
      rcases which with rfl | rfl
      · exact (pinOf_ne_lowerHalf server).symm
      · exact (pinOf_ne_upperHalf server).symm
    · exact ⟨_, _, pin, rfl, fun _ _ => rfl⟩
  let lowerTable := Function.update pinned lowerHalf (halfRoute backend gw tun :: table lowerHalf)
  let bothTable := Function.update lowerTable upperHalf (halfRoute backend gw tun :: table upperHalf)
  have lowerAdded : routeOp backend faults.lower .add lowerHalf gw (some tun) pinned = (.ok (), lowerTable) := by
    rcases routeOp_add_half (same lowerHalf (.inl rfl)) with ⟨-, added⟩ | ⟨refused, -⟩
    · exact added
    · exact absurd ⟨lower, free lowerHalf (.inl rfl)⟩ refused
  have upperSame : lowerTable upperHalf = table upperHalf :=
    (Function.update_of_ne lowerHalf_ne_upperHalf.symm ..).trans (same upperHalf (.inr rfl))
  have upperAdded : routeOp backend faults.upper .add upperHalf gw (some tun) lowerTable = (.ok (), bothTable) := by
    rcases routeOp_add_half upperSame with ⟨-, added⟩ | ⟨refused, -⟩
    · exact added
    · exact absurd ⟨upper, free upperHalf (.inr rfl)⟩ refused
  refine ⟨me, bothTable, ?_, peer, ?_⟩
  · simp only [install, pin, lowerAdded, upperAdded]
  · rintro half (rfl | rfl)
    · rw [show bothTable lowerHalf = halfRoute backend gw tun :: table lowerHalf from
        (Function.update_of_ne lowerHalf_ne_upperHalf ..).trans (Function.update_self ..)]
      exact List.mem_cons_self
    · rw [show bothTable upperHalf = halfRoute backend gw tun :: table upperHalf from Function.update_self ..]
      exact List.mem_cons_self

/-- The first attempt succeeds. -/
theorem tryInstall_succeeds (succeeds : os.Succeeds config system) (gw : Octets 4) :
    ∃ routes after, tryInstall os gw server config.tun.name (List.range' 1 8) system.routes =
        (some routes, after) ∧ routes.peerGw = gw ∧
      ∀ half, half = lowerHalf ∨ half = upperHalf →
        ⟨gw, some config.tun.name, os.backend.metric⟩ ∈ after half := by
  obtain ⟨routes, after, installed, peer, present⟩ := install_succeeds (succeeds.lower 1) (succeeds.upper 1)
    (succeeds.free gw)
  refine ⟨routes, after, ?_, peer, present⟩
  show tryInstall os gw server config.tun.name (1 :: List.range' 2 7) system.routes = (some routes, after)
  rw [tryInstall, installed]

/-- **A resolver override succeeds**, whatever stood at the path. -/
theorem install_resolver {servers : List IpAddr} {tun : String} {place : Place} (some' : servers ≠ [])
    (safe : KillSwitch.unsafeName tun = false) :
    ∃ dns after, DnsGuard.install servers tun .never place = (.ok dns, after) ∧
      after.content = some (resolvConfBody servers) := by
  have seen : ApplyFaults.never.metadata = none := rfl
  obtain ⟨restore, backed, applied⟩ : ∃ restore backed,
      applyResolvConf resolvConf servers .never place = written resolvConf servers .never restore backed := by
    match node : place.node with
    | .absent => exact ⟨_, _, apply_unseen (.inr node)⟩
    | .file bytes =>
      rcases apply_file seen node with ⟨-, applied⟩ | ⟨unread, -⟩
      · exact ⟨_, _, applied⟩
      · exact absurd rfl unread
    | .symlink target =>
      rcases apply_link seen node with ⟨-, -, applied⟩ | ⟨stops, -⟩
      · exact ⟨_, _, applied⟩
      · exact absurd ⟨rfl, rfl⟩ stops
  refine ⟨⟨restore⟩, backed.setContent (resolvConfBody servers), ?_, Place.setContent_content _⟩
  rw [DnsGuard.install, if_neg some', if_neg (by rw [safe]; exact Bool.false_ne_true), applied]
  rfl

/-! ### Honoured configurations -/

/-- The authenticator can be built exactly when the crate takes the keys. -/
theorem buildAuth_iff (readable : config.Readable) : (∃ auth, buildAuth keys config = .ok auth) ↔
    ∀ secret peerPub, config.identity.mldsaSecretBytes = .ok (some secret) →
      config.identity.peerMldsaPubBytes = .ok (some peerPub) →
        keys.secretKeyFromBytes secret = true ∧ keys.publicKeyFromBytes peerPub = true := by
  obtain ⟨⟨seed, seedRead⟩, ⟨peerPub, peerRead⟩, mldsa, -⟩ := readable
  rcases mldsa with ⟨noSecret, noPeer⟩ | ⟨secret, peerMldsa, secretRead, peerMldsaRead⟩
  · refine iff_of_true ⟨.single (.ed25519 seed.bytes peerPub), ?_⟩ fun secret _ given => ?_
    · simp only [buildAuth, seedRead, peerRead, noSecret, noPeer]
      rfl
    · cases noSecret.symm.trans given
  · have built : buildAuth keys config =
        (AuthLeg.fromKeys keys secret peerMldsa).map fun mldsa => .hybrid [.ed25519 seed.bytes peerPub, mldsa] := by
      simp only [buildAuth, seedRead, peerRead, secretRead, peerMldsaRead]
      rfl
    have given : (∀ other otherPeer, config.identity.mldsaSecretBytes = .ok (some other) →
          config.identity.peerMldsaPubBytes = .ok (some otherPeer) →
            keys.secretKeyFromBytes other = true ∧ keys.publicKeyFromBytes otherPeer = true) ↔
        keys.secretKeyFromBytes secret = true ∧ keys.publicKeyFromBytes peerMldsa = true := by
      constructor
      · exact fun all => all secret peerMldsa secretRead peerMldsaRead
      · intro fits other otherPeer otherRead otherPeerRead
        obtain rfl := Option.some.inj (Except.ok.inj (secretRead.symm.trans otherRead))
        obtain rfl := Option.some.inj (Except.ok.inj (peerMldsaRead.symm.trans otherPeerRead))
        exact fits
    rw [given, built, AuthLeg.fromKeys]
    split_ifs with secretFits peerFits
    · exact iff_of_false (fun ⟨_, built⟩ => by cases built) fun fits =>
        Bool.false_ne_true (secretFits.symm.trans fits.1)
    · exact iff_of_false (fun ⟨_, built⟩ => by cases built) fun fits =>
        Bool.false_ne_true (peerFits.symm.trans fits.2)
    · exact iff_of_true ⟨_, rfl⟩
        ⟨Bool.eq_true_of_not_eq_false secretFits, Bool.eq_true_of_not_eq_false peerFits⟩

/-- The obfuscation key of an accepted configuration can be derived. -/
theorem hsObfKey_exists (readable : config.Readable) : ∃ hsObf, hsObfKey prims config = .ok hsObf := by
  obtain ⟨⟨seed, seedRead⟩, ⟨peerPub, peerRead⟩, -, ⟨psk, pskRead⟩⟩ := readable
  unfold hsObfKey
  split
  · exact ⟨none, rfl⟩
  · exact ⟨some _, by simp only [seedRead, peerRead, pskRead]; rfl⟩

/-- What a start of the library's client has done when it reaches a running tunnel. -/
theorem launch_library (launched : StartPath.library.launch keys prims config server os system = (.ok client, after)) :
    ConnectedClient.installRoutes config server os system.routes = (client.routes, after.routes) ∧
      ConnectedClient.installDns config os system.resolver = (client.dns, after.resolver) := by
  unfold StartPath.launch at launched
  split at launched
  · cases launched
  · dsimp only [ConnectedClient.connect] at launched
    split at launched
    · cases launched
    · cases launched
      exact ⟨rfl, rfl⟩

/-- A start of the command-line client changes nothing of the system. -/
theorem launch_commandLine
    (launched : StartPath.commandLine.launch keys prims config server os system = (.ok client, after)) :
    client.routes = none ∧ client.dns = none ∧ after = system := by
  unfold StartPath.launch at launched
  split at launched
  · cases launched
  · obtain ⟨running, same⟩ := Prod.mk.inj launched
    obtain ⟨session, rfl⟩ := AppConfig.map_eq_ok running
    exact ⟨rfl, rfl, same.symm⟩

/-- Entries that are addresses are kept in their order. -/
theorem dnsServers_forall₂ {tun : TunConfig} (addresses : ∀ entry ∈ tun.dns, parseIpAddr entry ≠ none) :
    List.Forall₂ (fun entry ip => parseIpAddr entry = some ip) tun.dns tun.dnsServers := by
  have kept : ∀ entries : List String, (∀ entry ∈ entries, parseIpAddr entry ≠ none) →
      List.Forall₂ (fun entry ip => parseIpAddr entry = some ip) entries (entries.filterMap parseIpAddr) := by
    intro entries addresses
    induction entries with
    | nil => exact .nil
    | cons entry rest ih =>
      obtain ⟨ip, read⟩ := Option.ne_none_iff_exists'.mp (addresses entry List.mem_cons_self)
      rw [List.filterMap_cons_some read]
      exact .cons read (ih fun other later => addresses other (List.mem_cons_of_mem _ later))
  exact kept tun.dns addresses

theorem address_of_forall₂ {entries : List String} {servers : List IpAddr}
    (addresses : List.Forall₂ (fun entry ip => parseIpAddr entry = some ip) entries servers) :
    ∀ entry ∈ entries, ∃ ip, parseIpAddr entry = some ip := by
  induction addresses with
  | nil => exact fun _ none => by cases none
  | cons read _ ih => exact List.forall_mem_cons.mpr ⟨⟨_, read⟩, ih⟩

/-- A name that cannot be embedded leaves the resolver alone. -/
theorem installDns_badName {place : Place} (bad : KillSwitch.unsafeName config.tun.name = true) :
    (ConnectedClient.installDns config os place).1 = none := by
  unfold ConnectedClient.installDns
  split
  · dsimp only
    split
    · rfl
    · rename_i some'
      rw [DnsGuard.install, if_neg some', if_pos bad]
  · rfl

/-- A start of the library's client that is complete has installed what is asked for. -/
theorem protected_library (accepted : config.Accepted) (complete : Complete keys config .library)
    (succeeds : os.Succeeds config system)
    (launched : StartPath.library.launch keys prims config server os system = (.ok client, after)) :
    Protected config os client after := by
  obtain ⟨routed, resolved⟩ := launch_library launched
  refine ⟨fun all => ?_, fun asked => ?_⟩
  · obtain ⟨gw, peer⟩ := Option.ne_none_iff_exists'.mp (complete.library rfl all).1
    obtain ⟨routes, table, tried, rfl, present⟩ := @tryInstall_succeeds config server os system succeeds gw
    have installed : ConnectedClient.installRoutes config server os system.routes = (some routes, table) := by
      simp only [ConnectedClient.installRoutes, all, peer, tried, if_true]
    obtain ⟨guard, rfl⟩ := Prod.mk.inj (installed.symm.trans routed)
    exact ⟨routes, guard.symm, peer, present⟩
  · have all : config.tun.routeAll = true := by
      by_contra split
      exact asked (accepted.fullTunnel (Bool.eq_false_of_not_eq_true split)).2
    obtain ⟨addresses, safe⟩ := (complete.library rfl all).2 asked
    have servers := dnsServers_forall₂ addresses
    have some' : config.tun.dnsServers ≠ [] := fun none => by
      rw [none] at servers
      exact asked (List.forall₂_nil_right_iff.mp servers)
    obtain ⟨dns, place, applied, content⟩ := @install_resolver _ _ system.resolver some' safe
    have installed : ConnectedClient.installDns config os system.resolver = (some dns, place) := by
      rw [ConnectedClient.installDns, if_pos ⟨all, asked⟩]
      simp only [if_neg some', succeeds.dns, applied]
    obtain ⟨guard, rfl⟩ := Prod.mk.inj (installed.symm.trans resolved)
    exact ⟨guard ▸ Option.some_ne_none dns, _, servers, content⟩

/-- A system that gives way: no route is there, nothing fails, and the peer answers. -/
def yielding (session : Session) : Os where
  backend := .ip
  gateway := none
  bind := .ok ()
  handshake _ _ := .ok session
  createTun := .ok ()
  routeFaults _ := ⟨false, false, false, false, false, false, false, false⟩
  dnsFaults := .never

/-- The system of a first start. -/
def pristine : SystemState := ⟨fun _ => [], ⟨.absent, fun _ => none⟩⟩

theorem yielding_succeeds (session : Session) : (yielding session).Succeeds config pristine :=
  ⟨fun _ => rfl, fun _ => rfl, fun _ _ _ => rfl, rfl⟩

/-- A start there reaches a running tunnel. -/
theorem launch_yielding (readable : config.Readable) {auth : Authenticator} (built : buildAuth keys config = .ok auth)
    (path : StartPath) (server : IpAddr) (session : Session) :
    ∃ client after, path.launch keys prims config server (yielding session) pristine = (.ok client, after) := by
  obtain ⟨hsObf, derived⟩ := @hsObfKey_exists prims config readable
  unfold StartPath.launch
  rw [built]
  cases path with
  | library =>
    let routed := ConnectedClient.installRoutes config server (yielding session) pristine.routes
    let resolved := ConnectedClient.installDns config (yielding session) pristine.resolver
    refine ⟨⟨session, routed.1, resolved.1⟩, ⟨routed.2, resolved.2⟩, ?_⟩
    simp only [ConnectedClient.connect, derived]
    rfl
  | commandLine =>
    refine ⟨⟨session, none, none⟩, pristine, ?_⟩
    simp only [runClient, derived]
    rfl

/-- **A configuration is honoured exactly when what the start reads is complete.** -/
theorem protections_honoured_iff (keys : MlDsaKeys) (prims : Primitives) (accepted : config.validate = .ok ())
    (path : StartPath) : Honoured keys prims config path ↔ Complete keys config path := by
  have readable := AppConfig.readable_of_validate accepted
  have kept := AppConfig.accepted_of_validate accepted
  constructor
  · rintro ⟨⟨auth, built⟩, honoured⟩
    let session : Session := .fromHandshakeWithAlgo prims 0 (.zero 32) true .aegis256X2
    let server : IpAddr := .v4 (.zero 4)
    obtain ⟨client, after, launched⟩ := @launch_yielding keys prims config readable auth built path server session
    have shielded := honoured server _ _ client after (yielding_succeeds session) launched
    refine ⟨(buildAuth_iff readable).mp ⟨auth, built⟩, ?_, ?_⟩
    · rintro rfl all
      obtain ⟨routed, resolved⟩ := launch_library launched
      refine ⟨fun noPeer => ?_, fun asked => ?_⟩
      · obtain ⟨routes, guard, -⟩ := shielded.routes all
        simp only [ConnectedClient.installRoutes, all, noPeer, if_true] at routed
        cases (Prod.mk.inj routed).1.trans guard
      · obtain ⟨overridden, servers, addresses, -⟩ := shielded.dns asked
        refine ⟨fun entry among => ?_, ?_⟩
        · obtain ⟨ip, read⟩ := address_of_forall₂ addresses entry among
          rw [read]
          exact Option.some_ne_none ip
        · by_contra bad
          exact overridden ((installDns_badName (Bool.eq_true_of_not_eq_false bad)).symm.trans
            (congrArg Prod.fst resolved)).symm
    · rintro rfl
      obtain ⟨noRoutes, -, -⟩ := launch_commandLine launched
      by_contra all
      obtain ⟨routes, guard, -⟩ := shielded.routes (Bool.eq_true_of_not_eq_false all)
      cases noRoutes.symm.trans guard
  · intro complete
    refine ⟨(buildAuth_iff readable).mpr complete.fits, ?_⟩
    intro server os system client after succeeds launched
    cases path with
    | library => exact protected_library kept complete succeeds launched
    | commandLine =>
      have split := complete.commandLine rfl
      exact ⟨fun all => absurd (split.symm.trans all) Bool.false_ne_true,
        fun asked => absurd (kept.fullTunnel split).2 asked⟩

end Succeeds

/-! ### A full tunnel -/

/-- A client's configuration with a full tunnel and two resolvers. -/
def sampleFullTunnel : AppConfig where
  identity :=
    { ed25519SeedHex := "0101010101010101010101010101010101010101010101010101010101010101"
      peerEd25519PubHex := "0909090909090909090909090909090909090909090909090909090909090909"
      mldsaSecretHex := none
      peerMldsaPubHex := none }
  tun :=
    { mtu := 1200, routeAll := true, peerAddress := some "10.99.0.1", killSwitch := false
      dns := ["1.1.1.1", "2606:4700:4700::1111"] }
  obfuscation := { enabled := true, padding := .full, handshake := true, pskHex := none }
  traffic :=
    { profile := .off, enabled := true, mode := .adaptive, ratePps := 256, burst := 2
      cooldownMs := 500, coverBudgetPackets := 64, coverRatio := 0.25 }

theorem sampleFullTunnel_accepted : sampleFullTunnel.validate = .ok () := by rfl

theorem protections_honoured_iff_sample :
    Honoured ⟨fun _ => true, fun _ => true⟩ .transparent sampleFullTunnel .library := by
  refine (protections_honoured_iff _ _ sampleFullTunnel_accepted .library).mpr ⟨fun _ _ _ _ => ⟨rfl, rfl⟩, ?_, ?_⟩
  · exact fun _ _ => ⟨by decide +kernel, fun _ => ⟨by decide +kernel, by decide +kernel⟩⟩
  · exact fun none => by cases none

/-- **The command-line client leaves the full tunnel out**: the same configuration is accepted, the tunnel
runs, and no route is installed. -/
theorem route_all_ignored : ¬ ∀ (keys : MlDsaKeys) (prims : Primitives) (config : AppConfig) (path : StartPath),
    config.validate = .ok () → Honoured keys prims config path := by
  intro claim
  obtain ⟨⟨auth, built⟩, honoured⟩ := claim ⟨fun _ => true, fun _ => true⟩ .transparent sampleFullTunnel
    .commandLine sampleFullTunnel_accepted
  let session : Session := .fromHandshakeWithAlgo .transparent 7 (.zero 32) true .aegis256X2
  let server : IpAddr := .v4 ⟨[203, 0, 113, 7], rfl⟩
  have readable := AppConfig.readable_of_validate sampleFullTunnel_accepted
  obtain ⟨client, after, launched⟩ :=
    @launch_yielding _ .transparent _ readable auth built .commandLine server session
  have shielded := honoured server _ _ client after (yielding_succeeds session) launched
  obtain ⟨routes, guard, -⟩ := shielded.routes rfl
  cases (launch_commandLine launched).1.symm.trans guard

end ChameleonPQ
