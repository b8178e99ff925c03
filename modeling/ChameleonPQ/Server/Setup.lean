/-
**`chameleon-pq setup` (`sysconf.rs`).**

* `System` — what the steps read and change of the machine; `Host` — what they only read.
* `stepUser` … `stepServices` — the steps: a test, and operations that fail where the machine lacks what they
  need.
* `plan` — the steps of a run, or why it refuses before anything is written.
* `setup` — a run that accepts every step; `Interrupted` — one that declines some or breaks off.

A file is written through a temporary file and a rename, so it is there with its whole content or as it was.
The prompts are answered before the run, and a dry run changes nothing.
-/

import ChameleonPQ.Library.Provision
import ChameleonPQ.Server.InitPair
import Mathlib.Data.Finset.Lattice.Basic

namespace ChameleonPQ

open Library Library.IpText Library.Provision

/-- `TUN_NAME`. -/
def tunName : String := "chameleon0"

/-- `NFT_TABLE`. -/
def nftTable : String := "chameleon_pq"

/-! ### What a run is told -/

/-- `Firewall`: the one that is active; with none, the nftables table does the NAT. -/
inductive Firewall where
  | firewalld
  | ufw
  | nft
  deriving DecidableEq, Repr

/-- `ServerFacts`. -/
structure ServerFacts where
  port : UInt16
  tunCidr : String

/-- `SetupArgs`, with the answers to the prompts. -/
structure SetupArgs where
  pair : PairParams
  force : Bool
  noFirewall : Bool

/-- What a run refuses, before anything is written. -/
inductive SetupError where
  | privilegedPort (port : UInt16)
  | clientExists
  | existingInvalid (error : ChameleonError)
  | badTunAddress (address : String)
  | badNetmask (mask : String)
  | netmaskNotContiguous (mask : String)
  | generatedInvalid (error : ChameleonError)
  | binaryHidden

/-- The texts of the two systemd units. -/
structure UnitTexts where
  main : String
  nft : String

/-- What the steps only read: the tools' answers, and what a package has installed. -/
structure Host where
  umask : UInt32
  firewalldRunning : Bool
  ufwActive : Bool
  egressDev : Option String
  zoneOfInterface : String → Option String
  defaultZone : Option String
  /-- What `ufw status` prints before the rules, and for each rule. -/
  statusHeading : List String
  verboseHeading : List String
  statusLines : String → List String
  packaged : Option UnitTexts
  rendered : UnitTexts
  exeHidden : Bool

/-- `detect_firewall`. -/
def Host.detectFirewall (host : Host) : Firewall :=
  if host.firewalldRunning then .firewalld else if host.ufwActive then .ufw else .nft

/-- The zone of the egress interface, else the default one. -/
def Host.zone (host : Host) : String :=
  (((host.egressDev.bind host.zoneOfInterface).filter (· ≠ "")).or host.defaultZone).getD "public"

/-! ### The machine -/

/-- The configuration directory: its mode, and whether its group is the service's. -/
structure DirMeta where
  mode : UInt32
  serviceGroup : Bool

/-- What stands in a configuration file. -/
inductive ConfigText where
  | garbled (reason : String)
  | parsed (file : ConfigFile)

/-- `AppConfig::load`. -/
def ConfigText.load : ConfigText → Result ConfigFile
  | garbled reason => .error (configError ("TOML parse error: " ++ reason))
  | parsed file => file.validate.map fun _ => file

/-- What a zone of firewalld may have. -/
inductive ZoneValue where
  | port (spec : String)
  | masquerade
  | interface (name : String)
  deriving DecidableEq, Repr

/-- One setting of firewalld. -/
structure Setting where
  zone : String
  value : ZoneValue
  deriving DecidableEq, Repr

/-- A server that runs: the configuration and the unit it was started with. -/
structure RunningServer where
  config : ConfigText
  unitText : Option String

/-- What systemd has loaded, enabled and started. The rules unit has loaded a table when it is active. -/
structure Services where
  loadedMain : Option String
  loadedNft : Option String
  mainEnabled : Bool
  nftEnabled : Bool
  main : Option RunningServer
  nftActive : Bool
  table : Option String

/-- What the steps change. -/
@[ext] structure System where
  account : Bool
  dir : Option DirMeta
  server : Option ConfigText
  client : Option ConfigText
  backups : List ConfigText
  sysctlFile : Option String
  ipForward : Bool
  permanent : Finset Setting
  running : Finset Setting
  ufwRules : Finset String
  nftFile : Option String
  mainUnit : Option String
  nftUnit : Option String
  services : Services

/-- The machine during a run, and the run's note that it has changed firewalld's permanent settings. -/
structure Progress extends System where
  changed : Bool

/-! ### Pure helpers -/

/-- The bits of an address, the first one first. -/
def bitsOf (octets : Bytes) : List Bool :=
  octets.flatMap fun b => (List.range 8).map fun i => b.toNat.testBit (7 - i)

/-- `cidr_of`. -/
def cidrOf (addr mask : String) : Except SetupError String :=
  match parseIpv4 addr.toList, parseIpv4 mask.toList with
  | none, _ => .error (.badTunAddress addr)
  | _, none => .error (.badNetmask mask)
  | some a, some m =>
    let bits := bitsOf m.bytes
    let leadingOnes := (bits.takeWhile (·)).length
    let trailingZeros := (bits.reverse.takeWhile (!·)).length
    if leadingOnes + trailingZeros ≠ 32 then .error (.netmaskNotContiguous mask)
    else .ok (String.ofList (ipv4Text (a.bytes.zipWith (· &&& ·) m.bytes) ++ '/' :: Nat.toDigits 10 leadingOnes))

/-- `render_nft`. -/
def renderNft (tunCidr : String) (withNat : Bool) : String :=
  "# Managed by `chameleon-pq setup` — safe to re-run, only touches table inet " ++ nftTable ++ ".\n" ++
  "add table inet " ++ nftTable ++ "\n" ++
  "delete table inet " ++ nftTable ++ "\n" ++
  "table inet " ++ nftTable ++ " \x7b\n" ++
  "    chain mss \x7b\n" ++
  "        type filter hook forward priority mangle; policy accept;\n" ++
  "        tcp flags & (syn | rst) == syn oifname \"" ++ tunName ++ "\" tcp option maxseg size set rt mtu\n" ++
  "        tcp flags & (syn | rst) == syn iifname \"" ++ tunName ++ "\" tcp option maxseg size set rt mtu\n" ++
  "    \x7d\n" ++
  (if withNat then
    "    chain postrouting \x7b\n" ++
    "        type nat hook postrouting priority srcnat; policy accept;\n" ++
    "        ip saddr " ++ tunCidr ++ " oifname != \"" ++ tunName ++ "\" oifname != \"lo\" masquerade\n" ++
    "    \x7d\n"
  else "") ++
  "\x7d\n"

/-! ### The steps -/

section Steps

variable (args : SetupArgs) (host : Host) (facts : ServerFacts)

/-- `step_user`. -/
def stepUser : GuardedStep Progress where
  done p := p.account
  operations := [fun p => some { p with account := true }]

/-- Mode 0750; the owner is not looked at. -/
def dirDone (dir : Option DirMeta) : Bool :=
  match dir with
  | none => false
  | some dir => dir.mode &&& 0o777 == 0o750

/-- `step_config_dir`: `create_dir_all`, then `set_mode_owner`, which needs the account. -/
def stepConfigDir : GuardedStep Progress where
  done p := dirDone p.dir
  operations :=
    [fun p => some { p with dir := some (p.dir.getD ⟨0o777 &&& ~~~host.umask, false⟩) },
      fun p => if p.account then some { p with dir := p.dir.map fun dir => { dir with serviceGroup := true } } else none,
      fun p => some { p with dir := p.dir.map fun dir => { dir with mode := 0o750 } }]

/-- `step_identity`. The backup and the server's file go to the configuration directory and to the service's
group. -/
def stepIdentity (files : ConfigFile × ConfigFile) : GuardedStep Progress where
  done _ := false
  operations :=
    [fun p =>
        if p.client.isSome && !args.force then none else some { p with client := some (.parsed files.2) },
      fun p => some { p with backups := p.backups ++ p.server.toList },
      fun p => if p.dir.isSome && p.account then some { p with server := some (.parsed files.1) } else none]

/-- The body of the sysctl file. -/
def sysctlBody : String :=
  "# Chameleon-PQ full-tunnel server: forward tunnel traffic to the internet.\n" ++ "net.ipv4.ip_forward = 1\n"

/-- `step_sysctl`. -/
def stepSysctl : GuardedStep Progress where
  done p := decide (p.sysctlFile = some sysctlBody) && p.ipForward
  operations :=
    [fun p => some { p with sysctlFile := some sysctlBody },
      fun p => some { p with ipForward := true }]

/-- `{port}/udp`. -/
def ServerFacts.pspec : String := toString facts.port ++ "/udp"

/-- `fw_step`. -/
def fwStep (setting : Setting) : GuardedStep Progress where
  done p := decide (setting ∈ p.permanent)
  operations := [fun p => some { p with permanent := insert setting p.permanent, changed := true }]

/-- What the server needs of firewalld. -/
def firewalldSettings : List Setting :=
  [⟨host.zone, .port facts.pspec⟩, ⟨host.zone, .masquerade⟩, ⟨"trusted", .interface tunName⟩]

/-- The reload: only when a step of this run changed the permanent settings. -/
def stepReload : GuardedStep Progress where
  done p := !p.changed
  operations := [fun p => some { p with running := p.permanent }]

/-- The words of `ufw allow`. -/
def ufwPortRule : String := "allow " ++ facts.pspec

/-- The words of `ufw route allow`. -/
def ufwRouteRule : String :=
  "route allow in on " ++ tunName ++ (host.egressDev.elim "" fun dev => " out on " ++ dev)

/-- A line that allows the port. -/
def allowsPort (line : String) : Bool :=
  facts.pspec.toList.isPrefixOf line.toList && decide ("ALLOW".toList <:+: line.toList)

/-- A line of `ufw status` allows the port. -/
def portAllowed (rules : Finset String) : Bool :=
  decide ((∃ line ∈ host.statusHeading, allowsPort facts line) ∨
    ∃ rule ∈ rules, ∃ line ∈ host.statusLines rule, allowsPort facts line)

/-- `ufw status verbose` shows a text; none of the texts looked for spans two lines. -/
def shows (rules : Finset String) (text : String) : Bool :=
  decide ((∃ line ∈ host.verboseHeading, text.toList <:+: line.toList) ∨
    ∃ rule ∈ rules, ∃ line ∈ host.statusLines rule, text.toList <:+: line.toList)

/-- The tunnel's interface is shown, and the egress device. -/
def routeAllowed (rules : Finset String) : Bool :=
  shows host rules tunName && (host.egressDev.getD "" == "" || shows host rules (host.egressDev.getD ""))

/-- A rule of ufw; one that is there is not added again. -/
def ufwStep (shown : Finset String → Bool) (rule : String) : GuardedStep Progress where
  done p := shown p.ufwRules
  operations := [fun p => some { p with ufwRules := insert rule p.ufwRules }]

/-- `steps_firewall`. -/
def stepsFirewall : Firewall → List (GuardedStep Progress)
  | .firewalld => (firewalldSettings host facts).map fwStep ++ [stepReload]
  | .ufw => [ufwStep (portAllowed host facts) (ufwPortRule facts), ufwStep (routeAllowed host) (ufwRouteRule host)]
  | .nft => []

/-- `step_nft_file`. -/
def stepNftFile (withNat : Bool) : GuardedStep Progress where
  done p := decide (p.nftFile = some (renderNft facts.tunCidr withNat))
  operations :=
    [fun p => if p.dir.isSome then some { p with nftFile := some (renderNft facts.tunCidr withNat) } else none]

/-- `step_units`. -/
def stepUnits : GuardedStep Progress where
  done p := decide (p.mainUnit = some host.rendered.main) && decide (p.nftUnit = some host.rendered.nft)
  operations :=
    [fun p => some { p with mainUnit := some host.rendered.main },
      fun p => some { p with nftUnit := some host.rendered.nft }]

/-- Both services run, and the server's is enabled. -/
def Services.up (services : Services) : Bool :=
  services.main.isSome && services.mainEnabled && services.nftActive

/-- `systemctl daemon-reload`: a unit of the machine's own goes before a packaged one. -/
def daemonReload (p : Progress) : Services :=
  { p.services with
    loadedMain := p.mainUnit.or (host.packaged.map (·.main))
    loadedNft := p.nftUnit.or (host.packaged.map (·.nft)) }

/-- `systemctl restart`: the rules unit drops its table when it stops; a unit whose `ConditionPathExists` fails
stays down. -/
def restartServices (p : Progress) : Services :=
  { p.services with
    main := p.server.map fun config => ⟨config, p.services.loadedMain⟩
    nftActive := p.nftFile.isSome
    table := p.nftFile.or (if p.services.nftActive then none else p.services.table) }

/-- `step_services`. -/
def stepServices (restart : Bool) : GuardedStep Progress where
  done p := !restart && p.services.up
  operations :=
    [fun p => some { p with services := daemonReload host p },
      fun p =>
        if p.services.loadedMain.isSome && p.services.loadedNft.isSome then
          some { p with services := { p.services with mainEnabled := true, nftEnabled := true } }
        else none,
      fun p => some { p with services := restartServices p }]

end Steps

/-! ### A run -/

section Run

variable (args : SetupArgs) (host : Host) (keys : PairKeys)

/-- An existing server configuration is kept, unless forced. -/
def keepExisting (system : System) : Bool := system.server.isSome && !args.force

/-- What a run knows of the server it generates. -/
def generatedFacts : ServerFacts where
  port := args.pair.bindAddr.port
  tunCidr := String.ofList (ipv4Text (args.pair.tunNet.bytes ++ [0]) ++ "/24".toList)

/-- A run that keeps the configuration reads it. -/
def gatherKept (text : ConfigText) : Except SetupError (ServerFacts × Option (ConfigFile × ConfigFile)) :=
  match text.load with
  | .error error => .error (.existingInvalid error)
  | .ok file => (cidrOf file.address file.netmask).map fun tunCidr => (⟨file.bindAddr.port, tunCidr⟩, none)

/-- Another generates a pair, unless a client's configuration stands in the way. -/
def gatherFresh (system : System) : Except SetupError (ServerFacts × Option (ConfigFile × ConfigFile)) :=
  if system.client.isSome && !args.force then .error .clientExists
  else
    match (buildPair args.pair keys).1.validate, (buildPair args.pair keys).2.validate with
    | .error error, _ | _, .error error => .error (.generatedInvalid error)
    | .ok _, .ok _ => .ok (generatedFacts args, some (buildPair args.pair keys))

/-- What the run knows of the server, and the pair it is to write. -/
def gather (system : System) : Except SetupError (ServerFacts × Option (ConfigFile × ConfigFile)) :=
  match system.server, args.force with
  | some text, false => gatherKept text
  | _, _ => gatherFresh args keys system

/-- The firewall a run sets up; none with `--no-firewall`. -/
def firewallOf : Option Firewall := if args.noFirewall then none else some host.detectFirewall

/-- The table does the NAT unless firewalld does. -/
def withNat : Bool := firewallOf args host == some .nft || firewallOf args host == some .ufw

/-- The steps for what was gathered. -/
def stepsFor (keep : Bool) (facts : ServerFacts) (files : Option (ConfigFile × ConfigFile)) :
    List (GuardedStep Progress) :=
  [stepUser, stepConfigDir host] ++ (files.map (stepIdentity args)).toList ++ [stepSysctl] ++
    ((firewallOf args host).elim [] (stepsFirewall host facts)) ++ [stepNftFile facts (withNat args host)] ++
    (if host.packaged.isSome then [] else [stepUnits host]) ++ [stepServices host (!keep)]

/-- `run`, up to the plan. -/
def plan (system : System) : Except SetupError (List (GuardedStep Progress)) :=
  if args.pair.bindAddr.port < 1024 then .error (.privilegedPort args.pair.bindAddr.port)
  else
    match gather args keys system with
    | .error error => .error error
    | .ok (facts, files) =>
      if host.packaged.isNone && host.exeHidden then .error .binaryHidden
      else .ok (stepsFor args host (keepExisting args system) facts files)

/-- **A run that accepts every step**; `none` when it refuses or an operation fails. -/
def setup (system : System) : Option System :=
  match plan args host keys system with
  | .error _ => none
  | .ok steps => (complete steps ⟨system, false⟩).map (·.toSystem)

/-- **A run in which steps may be declined and which may break off anywhere.** -/
def Interrupted (first left : System) : Prop :=
  ∃ steps p, plan args host keys first = .ok steps ∧ Broken steps ⟨first, false⟩ p ∧ p.toSystem = left

end Run

end ChameleonPQ
