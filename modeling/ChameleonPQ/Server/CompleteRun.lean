/-
**A server setup that accepts every step.**

* `settle` — what the run leaves, part by part; `complete_stepsFor`, step after step.
* `gather_fresh_ok`, `gather_keep_ok`, `gather_generated` — what a run gathers does not depend on the keys it
  draws, and a kept configuration says what the generated one was generated from.
* `setup_eq_settle` — a run that is not refused leaves what `settle` says; `setup_eq_none`, a refused one.
-/

import ChameleonPQ.Server.Setup

namespace ChameleonPQ

open Library Library.IpText Library.Provision

/-! ### What a run leaves -/

section Settle

variable (args : SetupArgs) (host : Host) (keep : Bool) (facts : ServerFacts)
  (files : Option (ConfigFile × ConfigFile))

/-- The directory. -/
def settledDir (dir : Option DirMeta) : Option DirMeta := if dirDone dir then dir else some ⟨0o750, true⟩

/-- The settings of firewalld the server needs. -/
def needed : Finset Setting := (firewalldSettings host facts).toFinset

/-- The permanent settings of firewalld and those in force. -/
def settledFirewalld (settings : Finset Setting × Finset Setting) : Finset Setting × Finset Setting :=
  if needed host facts ⊆ settings.1 then settings
  else (settings.1 ∪ needed host facts, settings.1 ∪ needed host facts)

/-- A rule of ufw. -/
def settledRule (shown : Finset String → Bool) (rule : String) (rules : Finset String) : Finset String :=
  if shown rules then rules else insert rule rules

/-- The rules of ufw. -/
def settledUfw (rules : Finset String) : Finset String :=
  settledRule (routeAllowed host) (ufwRouteRule host)
    (settledRule (portAllowed host facts) (ufwPortRule facts) rules)

/-- What the firewall in use adds of it. -/
def settledSettings (settings : Finset Setting × Finset Setting) : Finset Setting × Finset Setting :=
  if firewallOf args host = some .firewalld then settledFirewalld host facts settings else settings

/-- What the firewall in use adds of it. -/
def settledRules (rules : Finset String) : Finset String :=
  if firewallOf args host = some .ufw then settledUfw host facts rules else rules

/-- A unit of the machine's own. -/
def settledUnit (text : UnitTexts → String) (unit : Option String) : Option String :=
  if host.packaged.isSome then unit else some (text host.rendered)

/-- The unit systemd then reads. -/
def unitRead (text : UnitTexts → String) (unit : Option String) : Option String :=
  (settledUnit host text unit).or (host.packaged.map text)

/-- The services, started on what the run has written. -/
def installed (server : Option ConfigText) (mainUnit nftUnit : Option String) : Services where
  loadedMain := unitRead host (·.main) mainUnit
  loadedNft := unitRead host (·.nft) nftUnit
  mainEnabled := true
  nftEnabled := true
  main := server.map fun config => ⟨config, unitRead host (·.main) mainUnit⟩
  nftActive := true
  table := some (renderNft facts.tunCidr (withNat args host))

/-- The server's configuration. -/
def settledServer (server : Option ConfigText) : Option ConfigText :=
  files.elim server fun files => some (.parsed files.1)

/-- The client's. -/
def settledClient (client : Option ConfigText) : Option ConfigText :=
  files.elim client fun files => some (.parsed files.2)

/-- **What a run that accepts every step leaves.** -/
def settle (system : System) : System where
  account := true
  dir := settledDir system.dir
  server := settledServer files system.server
  client := settledClient files system.client
  backups := files.elim system.backups fun _ => system.backups ++ system.server.toList
  sysctlFile := some sysctlBody
  ipForward := true
  permanent := (settledSettings args host facts (system.permanent, system.running)).1
  running := (settledSettings args host facts (system.permanent, system.running)).2
  ufwRules := settledRules args host facts system.ufwRules
  nftFile := some (renderNft facts.tunCidr (withNat args host))
  mainUnit := settledUnit host (·.main) system.mainUnit
  nftUnit := settledUnit host (·.nft) system.nftUnit
  services :=
    if keep && system.services.up then system.services
    else installed args host facts (settledServer files system.server) system.mainUnit system.nftUnit

end Settle

/-! ### One step after the other -/

section Steps

variable {args : SetupArgs} {host : Host} {keep : Bool} {facts : ServerFacts} {p : Progress}

theorem take_user : stepUser.take p = some { p with account := true } := by
  unfold GuardedStep.take
  split
  · rename_i done
    exact congrArg some (by rw [← show p.account = true from done])
  · rfl

theorem take_configDir (account : p.account = true) :
    (stepConfigDir host).take p = some { p with dir := settledDir p.dir } := by
  unfold GuardedStep.take settledDir
  by_cases done : dirDone p.dir = true
  · rw [if_pos done]
    exact if_pos done
  · rw [if_neg done]
    refine (if_neg done).trans ?_
    rw [stepConfigDir, perform_cons, Option.bind_some, perform_cons, if_pos account]
    rfl

theorem take_identity {pair : ConfigFile × ConfigFile} (clear : (p.client.isSome && !args.force) = false)
    (dir : p.dir.isSome = true) (account : p.account = true) :
    (stepIdentity args pair).take p =
      some { p with
        client := some (.parsed pair.2), backups := p.backups ++ p.server.toList
        server := some (.parsed pair.1) } := by
  unfold GuardedStep.take
  refine (if_neg Bool.false_ne_true).trans ?_
  rw [stepIdentity, perform_cons, if_neg (by rw [clear]; exact Bool.false_ne_true), Option.bind_some, perform_cons,
    Option.bind_some, perform_cons, if_pos (Bool.and_eq_true_iff.mpr ⟨dir, account⟩)]
  rfl

theorem take_sysctl : stepSysctl.take p = some { p with sysctlFile := some sysctlBody, ipForward := true } := by
  unfold GuardedStep.take
  split
  · rename_i done
    obtain ⟨body, forward⟩ := Bool.and_eq_true_iff.mp done
    rw [← of_decide_eq_true body, ← forward]
  · rfl

theorem take_fwStep (setting : Setting) :
    (fwStep setting).take p = some (if setting ∈ p.permanent then p else
      { p with permanent := insert setting p.permanent, changed := true }) := by
  unfold GuardedStep.take
  by_cases there : setting ∈ p.permanent
  · rw [if_pos there]
    exact if_pos (decide_eq_true there)
  · rw [if_neg there]
    exact if_neg (fun done => there (of_decide_eq_true done))

/-- The settings are added one by one; the run notes that it had to. -/
theorem complete_fwSteps (settings : List Setting) (p : Progress) :
    complete (settings.map fwStep) p =
      some { p with
        permanent := p.permanent ∪ settings.toFinset
        changed := p.changed || !decide (settings.toFinset ⊆ p.permanent) } := by
  induction settings generalizing p with
  | nil =>
    rw [List.toFinset_nil, Finset.union_empty, decide_eq_true (Finset.empty_subset _), Bool.not_true, Bool.or_false]
    rfl
  | cons setting rest ih =>
    by_cases there : setting ∈ p.permanent
    · have grown : p.permanent ∪ (setting :: rest).toFinset = p.permanent ∪ rest.toFinset := by
        rw [List.toFinset_cons, Finset.union_insert, Finset.insert_eq_of_mem (Finset.mem_union_left _ there)]
      have test : decide ((setting :: rest).toFinset ⊆ p.permanent) = decide (rest.toFinset ⊆ p.permanent) := by
        rw [decide_eq_decide, List.toFinset_cons, Finset.insert_subset_iff]
        exact and_iff_right there
      rw [List.map_cons, complete_cons, take_fwStep, if_pos there, Option.bind_some, ih, grown, test]
    · have grown : p.permanent ∪ (setting :: rest).toFinset = insert setting p.permanent ∪ rest.toFinset := by
        rw [List.toFinset_cons, Finset.union_insert, Finset.insert_union]
      have test : decide ((setting :: rest).toFinset ⊆ p.permanent) = false := by
        rw [decide_eq_false_iff_not, List.toFinset_cons, Finset.insert_subset_iff]
        exact fun both => there both.1
      rw [List.map_cons, complete_cons, take_fwStep, if_neg there, Option.bind_some, ih, grown, test, Bool.true_or,
        Bool.not_false, Bool.or_true]

theorem complete_firewalld (unchanged : p.changed = false) :
    ∃ changed, complete (stepsFirewall host facts .firewalld) p =
      some { p with
        permanent := (settledFirewalld host facts (p.permanent, p.running)).1
        running := (settledFirewalld host facts (p.permanent, p.running)).2
        changed } := by
  refine ⟨!decide (needed host facts ⊆ p.permanent), ?_⟩
  refine complete_append (complete_fwSteps _ p) ?_
  rw [complete_singleton, unchanged, Bool.false_or]
  by_cases there : needed host facts ⊆ p.permanent
  · rw [settledFirewalld, if_pos there, ← needed, decide_eq_true there, Finset.union_eq_left.mpr there]
    rfl
  · rw [settledFirewalld, if_neg there, ← needed, decide_eq_false there]
    rfl

theorem take_ufwStep (shown : Finset String → Bool) (rule : String) :
    (ufwStep shown rule).take p = some { p with ufwRules := settledRule shown rule p.ufwRules } := by
  unfold GuardedStep.take settledRule
  by_cases there : shown p.ufwRules = true
  · rw [if_pos there]
    exact if_pos there
  · rw [if_neg there]
    exact if_neg there

theorem take_nftFile {withNat : Bool} (dir : p.dir.isSome = true) :
    (stepNftFile facts withNat).take p = some { p with nftFile := some (renderNft facts.tunCidr withNat) } := by
  unfold GuardedStep.take
  split
  · rename_i done
    rw [← of_decide_eq_true done]
  · rw [stepNftFile, perform_cons, if_pos dir]
    rfl

theorem take_units :
    (stepUnits host).take p =
      some { p with mainUnit := some host.rendered.main, nftUnit := some host.rendered.nft } := by
  unfold GuardedStep.take
  split
  · rename_i done
    obtain ⟨main, nft⟩ := Bool.and_eq_true_iff.mp done
    rw [← of_decide_eq_true main, ← of_decide_eq_true nft]
  · rfl

/-- The services are restarted when they were not up, and always with a new configuration. -/
theorem take_services (main : (p.mainUnit.or (host.packaged.map (·.main))).isSome = true)
    (nft : (p.nftUnit.or (host.packaged.map (·.nft))).isSome = true) {rules : String}
    (file : p.nftFile = some rules) :
    (stepServices host (!keep)).take p =
      some { p with
        services := if keep && p.services.up then p.services else
          { loadedMain := p.mainUnit.or (host.packaged.map (·.main))
            loadedNft := p.nftUnit.or (host.packaged.map (·.nft))
            mainEnabled := true, nftEnabled := true
            main := p.server.map fun config => ⟨config, p.mainUnit.or (host.packaged.map (·.main))⟩
            nftActive := true, table := some rules } } := by
  unfold GuardedStep.take
  have test : (stepServices host (!keep)).done p = (keep && p.services.up) := by
    show (!!keep && p.services.up) = (keep && p.services.up)
    rw [Bool.not_not]
  rw [test]
  by_cases up : (keep && p.services.up) = true
  · rw [if_pos up, if_pos up]
  · rw [if_neg up, if_neg up]
    simp only [stepServices, perform_cons, Option.bind_some, daemonReload, main, nft, Bool.and_self, if_true,
      restartServices, file, Option.isSome_some, Option.some_or]
    rfl

/-! ### A whole run -/

theorem complete_identity {files : Option (ConfigFile × ConfigFile)}
    (clear : files.isSome = true → (p.client.isSome && !args.force) = false) (dir : p.dir.isSome = true)
    (account : p.account = true) :
    complete (files.map (stepIdentity args)).toList p =
      some { p with
        client := settledClient files p.client
        backups := files.elim p.backups fun _ => p.backups ++ p.server.toList
        server := settledServer files p.server } := by
  cases files with
  | none => rfl
  | some pair => exact (complete_singleton _ _).trans (take_identity (clear rfl) dir account)

theorem complete_firewall (unchanged : p.changed = false) :
    ∃ changed, complete ((firewallOf args host).elim [] (stepsFirewall host facts)) p =
      some { p with
        permanent := (settledSettings args host facts (p.permanent, p.running)).1
        running := (settledSettings args host facts (p.permanent, p.running)).2
        ufwRules := settledRules args host facts p.ufwRules
        changed } := by
  unfold settledSettings settledRules
  cases firewallOf args host with
  | none => exact ⟨p.changed, rfl⟩
  | some firewall =>
    cases firewall with
    | firewalld => exact complete_firewalld unchanged
    | ufw =>
      refine ⟨p.changed, ?_⟩
      rw [Option.elim_some, stepsFirewall, complete_cons, take_ufwStep, Option.bind_some, complete_singleton,
        take_ufwStep]
      rfl
    | nft => exact ⟨p.changed, rfl⟩

theorem complete_units :
    complete (if host.packaged.isSome then [] else [stepUnits host]) p =
      some { p with
        mainUnit := settledUnit host (·.main) p.mainUnit, nftUnit := settledUnit host (·.nft) p.nftUnit } := by
  unfold settledUnit
  by_cases packaged : host.packaged.isSome = true
  · rw [if_pos packaged, if_pos packaged, if_pos packaged]
    rfl
  · rw [if_neg packaged, if_neg packaged, if_neg packaged, complete_singleton]
    exact take_units

/-- A unit can be read: a package's, or the one the run has written. -/
theorem isSome_unitRead (text : UnitTexts → String) (unit : Option String) :
    (unitRead host text unit).isSome = true := by
  unfold unitRead settledUnit
  cases host.packaged with
  | none => rfl
  | some texts => exact Option.isSome_or.trans (Bool.or_true _)

theorem isSome_settledDir (dir : Option DirMeta) : (settledDir dir).isSome = true := by
  unfold settledDir
  split
  · rename_i done
    cases dir with
    | none => cases done
    | some dir => rfl
  · rfl

/-- **A run that accepts every step leaves what `settle` says.** -/
theorem complete_stepsFor {files : Option (ConfigFile × ConfigFile)} {system : System}
    (clear : files.isSome = true → (system.client.isSome && !args.force) = false) :
    (complete (stepsFor args host keep facts files) ⟨system, false⟩).map (·.toSystem) =
      some (settle args host keep facts files system) := by
  obtain ⟨changed, firewall⟩ := @complete_firewall args host facts
    ⟨{ system with
        account := true, dir := settledDir system.dir
        client := settledClient files system.client
        backups := files.elim system.backups fun _ => system.backups ++ system.server.toList
        server := settledServer files system.server
        sysctlFile := some sysctlBody, ipForward := true }, false⟩ rfl
  have dir := isSome_settledDir system.dir
  have start : complete [stepUser, stepConfigDir host] ⟨system, false⟩ =
      some ⟨{ system with account := true, dir := settledDir system.dir }, false⟩ := by
    rw [complete_cons, take_user, Option.bind_some, complete_singleton]
    exact take_configDir rfl
  have identity := complete_append start (complete_identity clear dir rfl)
  have sysctl := complete_append identity ((complete_singleton _ _).trans take_sysctl)
  have rules := complete_append (complete_append sysctl firewall)
    ((complete_singleton (stepNftFile facts (withNat args host)) _).trans (take_nftFile dir))
  have units := complete_append rules (@complete_units host _)
  have services := complete_append units ((complete_singleton (stepServices host (!keep)) _).trans (by
    apply take_services
    · exact isSome_unitRead (·.main) system.mainUnit
    · exact isSome_unitRead (·.nft) system.nftUnit
    · rfl))
  exact congrArg (Option.map (·.toSystem)) services

end Steps

/-! ### What a run gathers -/

section Gather

variable {args : SetupArgs} {host : Host} {keys : PairKeys} {facts : ServerFacts}
  {files : Option (ConfigFile × ConfigFile)} {system : System}

theorem and_255 (b : UInt8) : b &&& 255 = b := UInt8.and_neg_one

/-- **A kept configuration says what the generated one was generated from.** -/
theorem cidrOf_generated (args : SetupArgs) :
    cidrOf (tunAddress args.pair.tunNet 1) "255.255.255.0" = .ok (generatedFacts args).tunCidr := by
  have three := args.pair.tunNet.length_eq
  have address := parseIpv4_ipv4Text ⟨args.pair.tunNet.bytes ++ [1], by rw [List.length_append, three]; rfl⟩
  have mask : parseIpv4 "255.255.255.0".toList = some ⟨[255, 255, 255, 0], rfl⟩ := by decide +kernel
  have masked : (args.pair.tunNet.bytes ++ [1]).zipWith (· &&& ·) [255, 255, 255, 0] =
      args.pair.tunNet.bytes ++ [0] := by
    obtain ⟨a, b, c, net⟩ := List.length_eq_three.mp three
    simp only [net, List.cons_append, List.nil_append, List.zipWith_cons_cons, List.zipWith_nil_left, and_255]
    rfl
  have ones : ((bitsOf [255, 255, 255, 0]).takeWhile (·)).length = 24 := by decide +kernel
  have zeros : ((bitsOf [255, 255, 255, 0]).reverse.takeWhile (!·)).length = 8 := by decide +kernel
  unfold cidrOf tunAddress
  rw [String.toList_ofList, address, mask]
  dsimp only
  rw [masked, ones, zeros, if_neg (by decide)]
  rfl

theorem keepExisting_eq_false {text : ConfigText} (server : system.server = some text)
    (fresh : keepExisting args system = false) : args.force = true := by
  rw [keepExisting, server, Option.isSome_some, Bool.true_and] at fresh
  exact Bool.not_eq_eq_eq_not.mp fresh

theorem gather_kept {text : ConfigText} (server : system.server = some text) (force : args.force = false) :
    gather args keys system = gatherKept text := by
  unfold gather
  rw [server, force]

theorem gather_fresh (fresh : keepExisting args system = false) :
    gather args keys system = gatherFresh args keys system := by
  unfold gather
  split
  · rename_i text server force
    rw [keepExisting_eq_false server fresh] at force
    cases force
  · rfl

/-- The keys that are drawn make no difference to what a run gathers. -/
theorem gather_fresh_ok (again : PairKeys) (fresh : keepExisting args system = false)
    (gathered : gather args keys system = .ok (facts, files)) :
    (system.client.isSome && !args.force) = false ∧ facts = generatedFacts args ∧
      files = some (buildPair args.pair keys) ∧
      ((buildPair args.pair again).1.validate = .ok () ∧ (buildPair args.pair again).2.validate = .ok ()) := by
  rw [gather_fresh fresh, gatherFresh] at gathered
  split at gathered
  · cases gathered
  · rename_i clear
    split at gathered
    · cases gathered
    · cases gathered
    · rename_i server client
      obtain ⟨rfl, rfl⟩ := Prod.mk.inj (Except.ok.inj gathered)
      refine ⟨Bool.eq_false_of_not_eq_true clear, rfl, rfl, ?_⟩
      exact (buildPair_accepted_iff args.pair again).mpr ((buildPair_accepted_iff args.pair keys).mp ⟨server, client⟩)

theorem gather_of_accepted (fresh : keepExisting args system = false)
    (clear : ¬ (system.client.isSome && !args.force) = true)
    (accepted : (buildPair args.pair keys).1.validate = .ok () ∧ (buildPair args.pair keys).2.validate = .ok ()) :
    gather args keys system = .ok (generatedFacts args, some (buildPair args.pair keys)) := by
  rw [gather_fresh fresh, gatherFresh, if_neg clear, accepted.1, accepted.2]

/-- What a run gathers of a kept configuration depends on that alone. -/
theorem gather_keep_ok {other : System} (again : PairKeys) (keep : keepExisting args system = true)
    (same : other.server = system.server) (gathered : gather args keys system = .ok (facts, files)) :
    files = none ∧ gather args again other = .ok (facts, none) := by
  obtain ⟨there, force⟩ := Bool.and_eq_true_iff.mp keep
  obtain ⟨text, server⟩ := Option.isSome_iff_exists.mp there
  have force : args.force = false := Bool.not_eq_eq_eq_not.mp force
  rw [gather_kept server force, gatherKept] at gathered
  rw [gather_kept (same.trans server) force, gatherKept]
  split at gathered
  · cases gathered
  · cases cidr : cidrOf _ _ with
    | error error =>
      rw [cidr] at gathered
      cases gathered
    | ok tunCidr =>
      rw [cidr] at gathered
      obtain ⟨rfl, rfl⟩ := Prod.mk.inj (Except.ok.inj gathered)
      exact ⟨rfl, rfl⟩

/-- The facts of a generated configuration are read back from it. -/
theorem gather_generated (again : PairKeys) (force : args.force = false)
    (server : system.server = some (.parsed (buildPair args.pair keys).1))
    (accepted : (buildPair args.pair keys).1.validate = .ok ()) :
    gather args again system = .ok (generatedFacts args, none) := by
  have load : (ConfigText.parsed (buildPair args.pair keys).1).load = .ok (buildPair args.pair keys).1 := by
    rw [ConfigText.load, accepted]
    rfl
  rw [gather_kept server force, gatherKept, load]
  dsimp only
  rw [show cidrOf (buildPair args.pair keys).1.address (buildPair args.pair keys).1.netmask =
    .ok (generatedFacts args).tunCidr from cidrOf_generated args]
  rfl

/-- **A run leaves what `settle` says.** -/
theorem setup_eq_settle (port : ¬ args.pair.bindAddr.port < 1024)
    (binary : ¬ (host.packaged.isNone && host.exeHidden) = true)
    (gathered : gather args keys system = .ok (facts, files)) :
    setup args host keys system = some (settle args host (keepExisting args system) facts files system) := by
  have clear : files.isSome = true → (system.client.isSome && !args.force) = false := by
    intro writes
    cases keep : keepExisting args system with
    | true =>
      rw [(gather_keep_ok keys keep rfl gathered).1] at writes
      cases writes
    | false => exact (gather_fresh_ok keys keep gathered).1
  unfold setup plan
  rw [if_neg port, gathered]
  dsimp only
  rw [if_neg binary]
  exact complete_stepsFor clear

/-- A client's configuration without the server's stops the run. -/
theorem setup_eq_none (fresh : keepExisting args system = false)
    (blocked : (system.client.isSome && !args.force) = true) : setup args host keys system = none := by
  have refused : gather args keys system = .error .clientExists := by
    rw [gather_fresh fresh, gatherFresh, if_pos blocked]
  unfold setup plan
  rw [refused]
  by_cases port : args.pair.bindAddr.port < 1024
  · rw [if_pos port]
  · rw [if_neg port]

/-- What was checked before the first step. -/
theorem checks_of_plan {steps : List (GuardedStep Progress)} (planned : plan args host keys system = .ok steps)
    (gathered : gather args keys system = .ok (facts, files)) :
    ¬ args.pair.bindAddr.port < 1024 ∧ ¬ (host.packaged.isNone && host.exeHidden) = true ∧
      steps = stepsFor args host (keepExisting args system) facts files := by
  unfold plan at planned
  rw [gathered] at planned
  split at planned
  · cases planned
  · rename_i port
    dsimp only at planned
    split at planned
    · cases planned
    · rename_i binary
      exact ⟨port, binary, (Except.ok.inj planned).symm⟩

end Gather

end ChameleonPQ
