/-
**A server setup that was broken off, run again.**

* `Between` — what a broken run can have changed; every step keeps it.
* `Recoverable` — the tests of the later run are not taken in by what the broken run left.
* `Converges` — the later run leaves what one run would have left, but for the backups of replaced
  configurations.
* `setup_converges_iff` — the one exactly when the other.
-/

import ChameleonPQ.Server.CompleteRun

namespace ChameleonPQ

open Library Library.IpText Library.Provision

/-! ### What a broken run can have changed -/

/-- **Each rule of `ufw status` stands on lines of its own**: a line of the port's rule names neither the tunnel's
interface nor the egress device, and a line of the route's rule does not begin with the port. -/
structure Host.RulesApart (host : Host) (facts : ServerFacts) : Prop where
  port : ∀ line ∈ host.statusLines (ufwPortRule facts), ¬ tunName.toList <:+: line.toList ∧
    (host.egressDev.getD "" ≠ "" → ¬ (host.egressDev.getD "").toList <:+: line.toList)
  route : ∀ line ∈ host.statusLines (ufwRouteRule host), facts.pspec.toList.isPrefixOf line.toList = false

section Between

variable (args : SetupArgs) (host : Host) (keep : Bool) (facts : ServerFacts)
  (files : Option (ConfigFile × ConfigFile)) (first : System)

/-- The rules of ufw, with those of ours that were added. -/
def grown (rules : Finset String) (port route : Bool) : Finset String :=
  let withPort := if port then insert (ufwPortRule facts) rules else rules
  if route then insert (ufwRouteRule host) withPort else withPort

/-- What a broken run can have changed. -/
structure Between (p : Progress) : Prop where
  dir : dirDone first.dir = true → p.dir = first.dir
  mode : dirDone first.dir = false → ∀ dir ∈ p.dir, dir.mode &&& 0o777 = 0o750 → dir.mode = 0o750
  identity : (p.server = first.server ∧ (p.client = first.client ∨ ∃ pair ∈ files, p.client = some (.parsed pair.2))) ∨
    ∃ pair ∈ files, p.server = some (.parsed pair.1) ∧ p.client = some (.parsed pair.2)
  permanent : first.permanent ⊆ p.permanent ∧ p.permanent ⊆ first.permanent ∪ needed host facts
  running : needed host facts ⊆ first.permanent → p.running = first.running ∧ p.changed = false
  firewalld : firewallOf args host ≠ some .firewalld → p.permanent = first.permanent ∧ p.running = first.running
  ufw : ∃ port route, p.ufwRules = grown host facts first.ufwRules port route ∧
    (port = true → portAllowed host facts first.ufwRules = false) ∧
    (route = true → routeAllowed host first.ufwRules = false)
  noUfw : firewallOf args host ≠ some .ufw → p.ufwRules = first.ufwRules
  units : host.packaged.isSome = true → p.mainUnit = first.mainUnit ∧ p.nftUnit = first.nftUnit
  services : keep = true → first.services.up = true → p.services = first.services

end Between

/-! ### The rules of ufw -/

section Ufw

variable {host : Host} {facts : ServerFacts} {rules : Finset String}

theorem portAllowed_insert (apart : host.RulesApart facts) :
    portAllowed host facts (insert (ufwRouteRule host) rules) = portAllowed host facts rules := by
  rw [portAllowed, portAllowed, decide_eq_decide, Finset.exists_mem_insert]
  have hidden : ¬ ∃ line ∈ host.statusLines (ufwRouteRule host), allowsPort facts line = true := by
    rintro ⟨line, shown, allows⟩
    rw [allowsPort, apart.route line shown, Bool.false_and] at allows
    cases allows
  exact or_congr_right (or_iff_right hidden)

theorem shows_insert {rule text : String} (hidden : ∀ line ∈ host.statusLines rule, ¬ text.toList <:+: line.toList) :
    shows host (insert rule rules) text = shows host rules text := by
  rw [shows, shows, decide_eq_decide, Finset.exists_mem_insert]
  exact or_congr_right (or_iff_right fun ⟨line, shown, there⟩ => hidden line shown there)

theorem routeAllowed_insert (apart : host.RulesApart facts) :
    routeAllowed host (insert (ufwPortRule facts) rules) = routeAllowed host rules := by
  rw [routeAllowed, routeAllowed, shows_insert fun line shown => (apart.port line shown).1]
  by_cases none : host.egressDev.getD "" = ""
  · rw [none, beq_self_eq_true, Bool.true_or, Bool.true_or]
  · rw [shows_insert fun line shown => (apart.port line shown).2 none]

variable {port route : Bool}

/-- The route's rule makes no difference to what is said of the port's. -/
theorem portAllowed_grown (apart : host.RulesApart facts) :
    portAllowed host facts (grown host facts rules false route) = portAllowed host facts rules := by
  cases route with
  | false => rfl
  | true => exact portAllowed_insert apart

/-- The port's rule makes no difference to what is said of the route's. -/
theorem routeAllowed_grown (apart : host.RulesApart facts) :
    routeAllowed host (grown host facts rules port false) = routeAllowed host rules := by
  cases port with
  | false => rfl
  | true => exact routeAllowed_insert apart

theorem insert_port_grown :
    insert (ufwPortRule facts) (grown host facts rules port route) = grown host facts rules true route := by
  cases port <;> cases route
  · rfl
  · exact Finset.insert_comm _ _ _
  · exact Finset.insert_idem _ _
  · exact (Finset.insert_comm _ _ _).trans (congrArg _ (Finset.insert_idem _ _))

theorem insert_route_grown :
    insert (ufwRouteRule host) (grown host facts rules port route) = grown host facts rules port true := by
  cases route with
  | false => rfl
  | true => exact Finset.insert_idem _ _

/-- **Whatever was added before, the rules come out alike**: those that were not shown at first are there. -/
theorem settledUfw_grown (apart : host.RulesApart facts)
    (portMissing : port = true → portAllowed host facts rules = false)
    (routeMissing : route = true → routeAllowed host rules = false) :
    settledUfw host facts (grown host facts rules port route) =
      grown host facts rules (!portAllowed host facts rules) (!routeAllowed host rules) := by
  have first : settledRule (portAllowed host facts) (ufwPortRule facts) (grown host facts rules port route) =
      grown host facts rules (!portAllowed host facts rules) route := by
    unfold settledRule
    cases port with
    | false =>
      rw [portAllowed_grown apart]
      cases portAllowed host facts rules with
      | true => rfl
      | false => exact insert_port_grown
    | true =>
      rw [portMissing rfl]
      split
      · rfl
      · exact insert_port_grown
  have second : ∀ port, settledRule (routeAllowed host) (ufwRouteRule host) (grown host facts rules port route) =
      grown host facts rules port (!routeAllowed host rules) := by
    intro port
    unfold settledRule
    cases route with
    | false =>
      rw [routeAllowed_grown apart]
      cases routeAllowed host rules with
      | true => rfl
      | false => exact insert_route_grown
    | true =>
      rw [routeMissing rfl]
      split
      · rfl
      · exact insert_route_grown
  rw [settledUfw, first, second]

end Ufw

section Keeps

variable {args : SetupArgs} {host : Host} {keep : Bool} {facts : ServerFacts}
  {files : Option (ConfigFile × ConfigFile)} {first : System}

theorem between_begin : Between args host keep facts files first ⟨first, false⟩ where
  dir _ := rfl
  mode wrong dir member done := by
    rw [Option.mem_def.mp member, dirDone, done] at wrong
    cases wrong
  identity := .inl ⟨rfl, .inl rfl⟩
  permanent := ⟨Finset.Subset.refl _, Finset.subset_union_left⟩
  running _ := ⟨rfl, rfl⟩
  firewalld _ := ⟨rfl, rfl⟩
  ufw := ⟨false, false, rfl, nofun, nofun⟩
  noUfw _ := rfl
  units _ := ⟨rfl, rfl⟩
  services _ _ := rfl

theorem user_keeps : stepUser.Keeps (Between args host keep facts files first) := by
  refine keeps_of_single rfl ?_
  intro start between _
  exact { between with }

theorem configDir_keeps : (stepConfigDir host).Keeps (Between args host keep facts files first) := by
  apply keeps_of_operations
  intro start began started operation member before after between ran
  have absent : ¬ dirDone first.dir = true := by
    intro done
    have same : dirDone start.dir = false := started
    rw [began.dir done, done] at same
    cases same
  simp only [stepConfigDir, List.mem_cons, List.not_mem_nil, or_false] at member
  rcases member with rfl | rfl | rfl
  · obtain rfl := Option.some.inj ran
    refine { between with dir := fun done => absurd done absent, mode := fun wrong dir member done => ?_ }
    cases there : before.dir with
    | none =>
      rw [there] at member
      obtain rfl := Option.some.inj member
      have whole : (0o777 &&& ~~~host.umask) &&& 0o777 = 0o777 &&& ~~~host.umask := by
        rw [UInt32.and_comm, ← UInt32.and_assoc, UInt32.and_self]
      exact whole.symm.trans done
    | some old =>
      rw [there] at member
      exact between.mode wrong dir (there ▸ member) done
  · dsimp only at ran
    split at ran
    · obtain rfl := Option.some.inj ran
      refine { between with dir := fun done => absurd done absent, mode := fun wrong dir member done => ?_ }
      obtain ⟨old, there, rfl⟩ := Option.map_eq_some_iff.mp member
      exact between.mode wrong old there done
    · cases ran
  · obtain rfl := Option.some.inj ran
    refine { between with dir := fun done => absurd done absent, mode := fun wrong dir member done => ?_ }
    obtain ⟨old, there, rfl⟩ := Option.map_eq_some_iff.mp member
    rfl

/-- The client's file is written first, and the server's only after it. -/
theorem identity_keeps {pair : ConfigFile × ConfigFile} (member : pair ∈ files) :
    (stepIdentity args pair).Keeps (Between args host keep facts files first) := by
  intro start last count began _ performed
  cases count with
  | zero =>
    obtain rfl := Option.some.inj performed
    exact began
  | succ count =>
    obtain ⟨middle, wrote, rest⟩ := Option.bind_eq_some_iff.mp performed
    dsimp only at wrote
    split at wrote
    · cases wrote
    · obtain rfl := Option.some.inj wrote
      have written : Between args host keep facts files first { start with client := some (.parsed pair.2) } := by
        refine { began with identity := ?_ }
        rcases began.identity with ⟨server, -⟩ | ⟨other, same, server, -⟩
        · exact .inl ⟨server, .inr ⟨pair, member, rfl⟩⟩
        · obtain rfl := Option.mem_unique same member
          exact .inr ⟨other, same, server, rfl⟩
      match count with
      | 0 =>
        obtain rfl := Option.some.inj rest
        exact written
      | 1 =>
        obtain rfl := Option.some.inj rest
        exact { written with }
      | _ + 2 =>
        obtain ⟨done, moved, nothing⟩ := Option.bind_eq_some_iff.mp rest
        dsimp only at moved
        split at moved
        · obtain rfl := Option.some.inj moved
          rw [List.take_nil] at nothing
          obtain rfl := Option.some.inj nothing
          exact { written with identity := .inr ⟨pair, member, rfl, rfl⟩ }
        · cases moved

theorem sysctl_keeps : stepSysctl.Keeps (Between args host keep facts files first) := by
  apply keeps_of_operations
  intro start _ _ operation member before after between ran
  simp only [stepSysctl, List.mem_cons, List.not_mem_nil, or_false] at member
  rcases member with rfl | rfl <;> obtain rfl := Option.some.inj ran <;> exact { between with }

theorem fwStep_keeps {setting : Setting} (uses : firewallOf args host = some .firewalld)
    (member : setting ∈ firewalldSettings host facts) :
    (fwStep setting).Keeps (Between args host keep facts files first) := by
  refine keeps_of_single rfl ?_
  intro start between started
  have asked : setting ∈ needed host facts := List.mem_toFinset.mpr member
  have missing : ¬ needed host facts ⊆ first.permanent := fun all =>
    of_decide_eq_false started (between.permanent.1 (all asked))
  exact { between with
    permanent := ⟨between.permanent.1.trans (Finset.subset_insert _ _),
      Finset.insert_subset (Finset.mem_union_right _ asked) between.permanent.2⟩
    running := fun all => absurd all missing
    firewalld := fun other => absurd uses other }

theorem portRule_keeps (apart : host.RulesApart facts) (uses : firewallOf args host = some .ufw) :
    (ufwStep (portAllowed host facts) (ufwPortRule facts)).Keeps (Between args host keep facts files first) := by
  refine keeps_of_single rfl ?_
  intro start between started
  obtain ⟨port, route, rules, portMissing, routeMissing⟩ := between.ufw
  have missing : portAllowed host facts first.ufwRules = false := by
    cases port with
    | true => exact portMissing rfl
    | false =>
      rw [← portAllowed_grown apart, ← rules]
      exact started
  refine { between with
    ufw := ⟨true, route, ?_, fun _ => missing, routeMissing⟩
    noUfw := fun other => absurd uses other }
  exact (congrArg _ rules).trans insert_port_grown

theorem routeRule_keeps (apart : host.RulesApart facts) (uses : firewallOf args host = some .ufw) :
    (ufwStep (routeAllowed host) (ufwRouteRule host)).Keeps (Between args host keep facts files first) := by
  refine keeps_of_single rfl ?_
  intro start between started
  obtain ⟨port, route, rules, portMissing, routeMissing⟩ := between.ufw
  have missing : routeAllowed host first.ufwRules = false := by
    cases route with
    | true => exact routeMissing rfl
    | false =>
      rw [← routeAllowed_grown apart, ← rules]
      exact started
  refine { between with
    ufw := ⟨port, true, ?_, portMissing, fun _ => missing⟩
    noUfw := fun other => absurd uses other }
  exact (congrArg _ rules).trans insert_route_grown

theorem reload_keeps (uses : firewallOf args host = some .firewalld) :
    stepReload.Keeps (Between args host keep facts files first) := by
  refine keeps_of_single rfl ?_
  intro start between started
  have missing : ¬ needed host facts ⊆ first.permanent := by
    intro all
    have noted : (!start.changed) = false := started
    rw [(between.running all).2] at noted
    cases noted
  exact { between with running := fun all => absurd all missing, firewalld := fun other => absurd uses other }

theorem nftFile_keeps {withNat : Bool} :
    (stepNftFile facts withNat).Keeps (Between args host keep facts files first) := by
  apply keeps_of_operations
  intro start _ _ operation member before after between ran
  obtain rfl := List.mem_singleton.mp member
  dsimp only at ran
  split at ran
  · obtain rfl := Option.some.inj ran
    exact { between with }
  · cases ran

theorem units_keeps (unpackaged : ¬ host.packaged.isSome = true) :
    (stepUnits host).Keeps (Between args host keep facts files first) := by
  apply keeps_of_operations
  intro start _ _ operation member before after between ran
  simp only [stepUnits, List.mem_cons, List.not_mem_nil, or_false] at member
  rcases member with rfl | rfl
  · obtain rfl := Option.some.inj ran
    exact { between with units := fun packaged => absurd packaged unpackaged }
  · obtain rfl := Option.some.inj ran
    exact { between with units := fun packaged => absurd packaged unpackaged }

theorem services_keeps : (stepServices host (!keep)).Keeps (Between args host keep facts files first) := by
  apply keeps_of_operations
  intro start began started operation member before after between ran
  have down : keep = true → ¬ first.services.up = true := by
    intro kept up
    have test : (!!keep && start.services.up) = false := started
    rw [began.services kept up, kept, up] at test
    cases test
  simp only [stepServices, List.mem_cons, List.not_mem_nil, or_false] at member
  rcases member with rfl | rfl | rfl
  · obtain rfl := Option.some.inj ran
    exact { between with services := fun kept up => absurd up (down kept) }
  · dsimp only at ran
    split at ran
    · obtain rfl := Option.some.inj ran
      exact { between with services := fun kept up => absurd up (down kept) }
    · cases ran
  · obtain rfl := Option.some.inj ran
    exact { between with services := fun kept up => absurd up (down kept) }

/-- **Every step keeps `Between`.** -/
theorem stepsFor_keeps (apart : firewallOf args host = some .ufw → host.RulesApart facts) :
    ∀ step ∈ stepsFor args host keep facts files, step.Keeps (Between args host keep facts files first) := by
  intro step member
  simp only [stepsFor, List.mem_append, List.mem_cons, List.not_mem_nil, or_false] at member
  rcases member with ((((((rfl | rfl) | pair) | rfl) | firewall) | rfl) | units) | rfl
  · exact user_keeps
  · exact configDir_keeps
  · obtain ⟨pair, among, rfl⟩ := Option.map_eq_some_iff.mp (Option.mem_toList.mp pair)
    exact identity_keeps among
  · exact sysctl_keeps
  · cases uses : firewallOf args host with
    | none =>
      rw [uses] at firewall
      cases firewall
    | some kind =>
      rw [uses] at firewall
      cases kind with
      | firewalld =>
        rcases List.mem_append.mp firewall with setting | reload
        · obtain ⟨setting, among, rfl⟩ := List.mem_map.mp setting
          exact fwStep_keeps uses among
        · obtain rfl := List.mem_singleton.mp reload
          exact reload_keeps uses
      | ufw =>
        rcases List.mem_pair.mp firewall with rfl | rfl
        · exact portRule_keeps (apart uses) uses
        · exact routeRule_keeps (apart uses) uses
      | nft => cases firewall
  · exact nftFile_keeps
  · split at units
    · cases units
    · rename_i unpackaged
      obtain rfl := List.mem_singleton.mp units
      exact units_keeps unpackaged
  · exact services_keeps

end Keeps

/-! ### The later run -/

/-- **What a test of the later run passes is done.** -/
structure Recoverable (args : SetupArgs) (host : Host) (facts : ServerFacts) (first left : System) : Prop where
  /-- A directory that got its mode has its group too. -/
  dir : dirDone first.dir = false → dirDone left.dir = true → ∀ dir ∈ left.dir, dir.serviceGroup = true
  /-- The client's configuration is not there without the server's. -/
  client : args.force = true ∨ left.server.isSome = true ∨ left.client = none
  /-- Settings of firewalld that have all become permanent are in force. -/
  reload : firewallOf args host = some .firewalld → ¬ needed host facts ⊆ first.permanent →
    needed host facts ⊆ left.permanent → left.running = left.permanent
  /-- Services that are up where they were not, or where no configuration was, run on what the setup installs. -/
  services : ¬ (keepExisting args first && first.services.up) = true →
    (keepExisting args left && left.services.up) = true →
      left.services = installed args host facts left.server left.mainUnit left.nftUnit

section Compare

variable {args : SetupArgs} {host : Host} {keep : Bool} {facts : ServerFacts}
  {files : Option (ConfigFile × ConfigFile)} {first left : System} {changed : Bool}

/-- The directory comes out alike unless its test passes before its group is the service's. -/
theorem settledDir_eq_iff (between : Between args host keep facts files first ⟨left, changed⟩) :
    settledDir left.dir = settledDir first.dir ↔
      (dirDone first.dir = false → dirDone left.dir = true → ∀ dir ∈ left.dir, dir.serviceGroup = true) := by
  unfold settledDir
  refine (guarded_eq_iff fun done => ⟨?_, between.dir done⟩).trans ?_
  · exact (congrArg dirDone (between.dir done)).trans done
  · rw [Bool.not_eq_true]
    refine imp_congr_right fun wrong => imp_congr_right fun done => ⟨fun same dir member => ?_, fun group => ?_⟩
    · obtain rfl := Option.some.inj (member.symm.trans same)
      rfl
    · cases there : left.dir with
      | none =>
        rw [there] at done
        cases done
      | some dir =>
        have mode := between.mode wrong dir there (by rw [there] at done; exact beq_iff_eq.mp done)
        have service := group dir there
        obtain ⟨_, _⟩ := dir
        cases mode
        cases service
        rfl

/-- The permanent settings come out alike. -/
theorem permanent_union (between : Between args host keep facts files first ⟨left, changed⟩) :
    left.permanent ∪ needed host facts = first.permanent ∪ needed host facts := by
  apply Finset.Subset.antisymm
  · exact Finset.union_subset between.permanent.2 Finset.subset_union_right
  · exact Finset.union_subset_union_left between.permanent.1

/-- The settings in force come out alike unless all needed ones are permanent before they are in force. -/
theorem settledFirewalld_eq_iff (between : Between args host keep facts files first ⟨left, changed⟩) :
    settledFirewalld host facts (left.permanent, left.running) =
        settledFirewalld host facts (first.permanent, first.running) ↔
      (¬ needed host facts ⊆ first.permanent → needed host facts ⊆ left.permanent →
        left.running = left.permanent) := by
  unfold settledFirewalld
  rw [permanent_union between]
  refine (guarded_eq_iff fun there => ?_).trans ?_
  · have same : left.permanent = first.permanent := by
      apply Finset.Subset.antisymm _ between.permanent.1
      exact between.permanent.2.trans (Finset.union_subset (Finset.Subset.refl _) there)
    rw [same]
    exact ⟨there, Prod.ext rfl (between.running there).1⟩
  · refine imp_congr_right fun _ => imp_congr_right fun there => ?_
    have all : left.permanent = first.permanent ∪ needed host facts := by
      rw [← permanent_union between, Finset.union_eq_left.mpr there]
    rw [← all]
    exact ⟨fun same => (Prod.mk.inj same).2, fun running => Prod.ext rfl running⟩

/-- The permanent settings come out alike in any case. -/
theorem settledFirewalld_permanent (between : Between args host keep facts files first ⟨left, changed⟩) :
    (settledFirewalld host facts (left.permanent, left.running)).1 =
      (settledFirewalld host facts (first.permanent, first.running)).1 := by
  have settled : ∀ settings, (settledFirewalld host facts settings).1 = settings.1 ∪ needed host facts := by
    intro settings
    unfold settledFirewalld
    split
    · rename_i there
      exact (Finset.union_eq_left.mpr there).symm
    · rfl
  rw [settled, settled]
  exact permanent_union between

theorem settledUnit_eq (between : Between args host keep facts files first ⟨left, changed⟩) :
    (∀ text, settledUnit host text left.mainUnit = settledUnit host text first.mainUnit) ∧
      ∀ text, settledUnit host text left.nftUnit = settledUnit host text first.nftUnit := by
  unfold settledUnit
  by_cases packaged : host.packaged.isSome = true
  · rw [(between.units packaged).1, (between.units packaged).2]
    exact ⟨fun _ => rfl, fun _ => rfl⟩
  · simp only [if_neg packaged]
    exact ⟨fun _ => trivial, fun _ => trivial⟩

/-- Two machines are the same, but for the backups of replaced configurations. -/
def System.Same (system other : System) : Prop := { system with backups := other.backups } = other

theorem settledSettings_permanent (between : Between args host keep facts files first ⟨left, changed⟩) :
    (settledSettings args host facts (left.permanent, left.running)).1 =
      (settledSettings args host facts (first.permanent, first.running)).1 := by
  unfold settledSettings
  split
  · exact settledFirewalld_permanent between
  · rename_i other
    exact (between.firewalld other).1

theorem settledSettings_running_iff (between : Between args host keep facts files first ⟨left, changed⟩) :
    (settledSettings args host facts (left.permanent, left.running)).2 =
        (settledSettings args host facts (first.permanent, first.running)).2 ↔
      (firewallOf args host = some .firewalld → ¬ needed host facts ⊆ first.permanent →
        needed host facts ⊆ left.permanent → left.running = left.permanent) := by
  unfold settledSettings
  by_cases uses : firewallOf args host = some .firewalld
  · rw [if_pos uses, if_pos uses, ← settledFirewalld_eq_iff between, forall_prop_of_true uses]
    exact ⟨fun same => Prod.ext (settledFirewalld_permanent between) same, fun same => congrArg Prod.snd same⟩
  · rw [if_neg uses, if_neg uses]
    exact ⟨fun _ other => absurd other uses, fun _ => (between.firewalld uses).2⟩

theorem settledRules_eq (between : Between args host keep facts files first ⟨left, changed⟩)
    (apart : firewallOf args host = some .ufw → host.RulesApart facts) :
    settledRules args host facts left.ufwRules = settledRules args host facts first.ufwRules := by
  unfold settledRules
  split
  · rename_i uses
    obtain ⟨port, route, rules, portMissing, routeMissing⟩ := between.ufw
    have once := @settledUfw_grown host facts first.ufwRules false false (apart uses) nofun nofun
    have later := settledUfw_grown (apart uses) portMissing routeMissing
    exact (congrArg _ rules).trans (later.trans once.symm)
  · rename_i other
    exact between.noUfw other

variable {keepFirst keepLeft : Bool} {filesFirst filesLeft : Option (ConfigFile × ConfigFile)}

theorem settle_services_iff (between : Between args host keep facts files first ⟨left, changed⟩)
    (kept : keepFirst = true → first.services.up = true → keepLeft = true ∧ left.services = first.services)
    (server : settledServer filesLeft left.server = settledServer filesFirst first.server) :
    (settle args host keepLeft facts filesLeft left).services =
        (settle args host keepFirst facts filesFirst first).services ↔
      (¬ (keepFirst && first.services.up) = true → (keepLeft && left.services.up) = true →
        left.services = installed args host facts (settledServer filesLeft left.server)
          left.mainUnit left.nftUnit) := by
  have target : installed args host facts (settledServer filesFirst first.server) first.mainUnit first.nftUnit =
      installed args host facts (settledServer filesLeft left.server) left.mainUnit left.nftUnit := by
    simp only [installed, unitRead, (settledUnit_eq between).1, (settledUnit_eq between).2, server]
  dsimp only [settle]
  rw [target]
  refine guarded_eq_iff fun done => ?_
  obtain ⟨keeps, up⟩ := Bool.and_eq_true_iff.mp done
  obtain ⟨keepsStill, same⟩ := kept keeps up
  exact ⟨by rw [keepsStill, same, up]; rfl, same⟩

/-- **When the later run leaves what one run would have left.** A kept configuration is not written again, and
a client's configuration does not stand in the way. -/
theorem same_settle_iff (between : Between args host keep facts files first ⟨left, changed⟩)
    (apart : firewallOf args host = some .ufw → host.RulesApart facts)
    (kept : keepExisting args first = true → first.services.up = true →
      keepExisting args left = true ∧ left.services = first.services)
    (writes : keepExisting args left = true → filesLeft = none)
    (clear : args.force = true ∨ left.server.isSome = true ∨ left.client = none) :
    (settle args host (keepExisting args left) facts filesLeft left).Same
        (settle args host (keepExisting args first) facts filesFirst first) ↔
      settledServer filesLeft left.server = settledServer filesFirst first.server ∧
      settledClient filesLeft left.client = settledClient filesFirst first.client ∧
      Recoverable args host facts first left := by
  have own : (keepExisting args left && left.services.up) = true →
      settledServer filesLeft left.server = left.server := by
    intro up
    rw [writes (Bool.and_eq_true_iff.mp up).1]
    rfl
  constructor
  · intro same
    obtain ⟨-, dir, server, client, -, -, -, -, running, -, -, -, -, services⟩ := System.ext_iff.mp same
    refine ⟨server, client, (settledDir_eq_iff between).mp dir, clear,
      (settledSettings_running_iff between).mp running, ?_⟩
    intro down up
    rw [← own up]
    exact (settle_services_iff between kept server).mp services down up
  · rintro ⟨server, client, recoverable⟩
    have services := (settle_services_iff between kept server).mpr fun down up => by
      rw [own up]
      exact recoverable.services down up
    exact System.ext rfl ((settledDir_eq_iff between).mpr recoverable.dir) server client rfl rfl rfl
      (settledSettings_permanent between) ((settledSettings_running_iff between).mpr recoverable.reload)
      (settledRules_eq between apart) rfl ((settledUnit_eq between).1 _) ((settledUnit_eq between).2 _) services

end Compare

/-! ### Convergence -/

section Converges

variable (args : SetupArgs) (host : Host) (keys again : PairKeys) (first left : System)

/-- **The later run completes, and leaves what one run from the start would have left**, with the keys of
either. -/
def Converges : Prop :=
  ∃ fresh ∈ [keys, again], ∃ last once, setup args host again left = some last ∧
    setup args host fresh first = some once ∧ last.Same once

end Converges

section Cases

variable {args : SetupArgs} {host : Host} {keys again : PairKeys} {facts : ServerFacts}
  {files : Option (ConfigFile × ConfigFile)} {first left : System} {changed : Bool}

/-- Both runs complete, and with the keys of one of them they write the same pair. -/
theorem converges_iff_of {filesLeft : Option (ConfigFile × ConfigFile)}
    {filesFirst : PairKeys → Option (ConfigFile × ConfigFile)}
    (between : Between args host (keepExisting args first) facts files first ⟨left, changed⟩)
    (apart : firewallOf args host = some .ufw → host.RulesApart facts)
    (kept : keepExisting args first = true → first.services.up = true →
      keepExisting args left = true ∧ left.services = first.services)
    (writes : keepExisting args left = true → filesLeft = none)
    (clear : args.force = true ∨ left.server.isSome = true ∨ left.client = none)
    (later : setup args host again left = some (settle args host (keepExisting args left) facts filesLeft left))
    (once : ∀ drawn, setup args host drawn first =
      some (settle args host (keepExisting args first) facts (filesFirst drawn) first))
    {drawn : PairKeys} (either : drawn ∈ [keys, again])
    (server : settledServer filesLeft left.server = settledServer (filesFirst drawn) first.server)
    (client : settledClient filesLeft left.client = settledClient (filesFirst drawn) first.client) :
    Converges args host keys again first left ↔ Recoverable args host facts first left := by
  have compare := fun drawn => @same_settle_iff args host _ facts files first left changed (filesFirst drawn) filesLeft
    between apart kept writes clear
  constructor
  · rintro ⟨drawn, -, last, whole, ran, start, same⟩
    obtain rfl := Option.some.inj (later.symm.trans ran)
    obtain rfl := Option.some.inj ((once drawn).symm.trans start)
    exact ((compare drawn).mp same).2.2
  · intro recoverable
    exact ⟨drawn, either, _, _, later, once drawn, (compare drawn).mpr ⟨server, client, recoverable⟩⟩

variable (port : ¬ args.pair.bindAddr.port < 1024) (binary : ¬ (host.packaged.isNone && host.exeHidden) = true)
  (between : Between args host (keepExisting args first) facts files first ⟨left, changed⟩)
  (gathered : gather args keys first = .ok (facts, files))
  (apart : firewallOf args host = some .ufw → host.RulesApart facts)

include port binary between gathered apart

/-- Both runs keep the configuration there was, whatever keys they would draw. -/
theorem converges_iff_kept (keep : keepExisting args first = true) :
    Converges args host keys again first left ↔ Recoverable args host facts first left := by
  obtain ⟨rfl, -⟩ := gather_keep_ok keys keep rfl gathered
  obtain ⟨server, client⟩ : left.server = first.server ∧ left.client = first.client := by
    rcases between.identity with ⟨server, client | ⟨pair, none, -⟩⟩ | ⟨pair, none, -⟩
    · exact ⟨server, client⟩
    · cases none
    · cases none
  have keepLeft : keepExisting args left = true := by
    rw [keepExisting, server]
    exact keep
  have later := setup_eq_settle port binary (gather_keep_ok again keep server gathered).2
  have once := fun drawn => setup_eq_settle port binary (gather_keep_ok drawn keep rfl gathered).2
  exact converges_iff_of between apart (fun _ up => ⟨keepLeft, between.services keep up⟩) (fun _ => rfl)
    (.inr (.inl (Bool.and_eq_true_iff.mp keepLeft).1)) later once List.mem_cons_self server client

/-- The broken run has written its pair, and the later run keeps it. -/
theorem converges_iff_written (fresh : keepExisting args first = false) (keepLeft : keepExisting args left = true) :
    Converges args host keys again first left ↔ Recoverable args host facts first left := by
  obtain ⟨unblocked, rfl, rfl, -⟩ := gather_fresh_ok keys fresh gathered
  have accepted := fun drawn => (gather_fresh_ok drawn fresh gathered).2.2.2
  obtain ⟨there, unforced⟩ := Bool.and_eq_true_iff.mp keepLeft
  obtain ⟨server, client⟩ : left.server = some (.parsed (buildPair args.pair keys).1) ∧
      left.client = some (.parsed (buildPair args.pair keys).2) := by
    rcases between.identity with ⟨server, -⟩ | ⟨pair, same, server, client⟩
    · have kept : keepExisting args first = true := by
        rw [keepExisting, ← show left.server = first.server from server]
        exact keepLeft
      rw [fresh] at kept
      cases kept
    · obtain rfl := Option.some.inj same
      exact ⟨server, client⟩
  have force : args.force = false := Bool.not_eq_eq_eq_not.mp unforced
  have later := setup_eq_settle port binary (gather_generated again force server (accepted keys).1)
  have once := fun drawn => setup_eq_settle port binary
    (gather_of_accepted fresh (by rw [unblocked]; exact Bool.false_ne_true) (accepted drawn))
  exact converges_iff_of between apart (fun kept => absurd kept (by rw [fresh]; exact Bool.false_ne_true))
    (fun _ => rfl) (.inr (.inl there)) later once List.mem_cons_self server client

/-- There is no configuration to keep: the later run writes its own pair, or refuses because the client's file is
there without the server's. -/
theorem converges_iff_rewritten (fresh : keepExisting args first = false)
    (freshLeft : keepExisting args left = false) :
    Converges args host keys again first left ↔ Recoverable args host facts first left := by
  obtain ⟨unblocked, rfl, rfl, -⟩ := gather_fresh_ok keys fresh gathered
  have accepted := fun drawn => (gather_fresh_ok drawn fresh gathered).2.2.2
  have keepLeft : ¬ keepExisting args left = true := by
    rw [freshLeft]
    exact Bool.false_ne_true
  by_cases blocked : (left.client.isSome && !args.force) = true
  · constructor
    · rintro ⟨_, -, last, _, ran, -⟩
      cases (setup_eq_none freshLeft blocked).symm.trans ran
    · intro recoverable
      obtain ⟨there, unforced⟩ := Bool.and_eq_true_iff.mp blocked
      rcases recoverable.client with force | server | none
      · rw [force] at unforced
        cases unforced
      · exact absurd (Bool.and_eq_true_iff.mpr ⟨server, unforced⟩) keepLeft
      · rw [none] at there
        cases there
  · have later := setup_eq_settle port binary (gather_of_accepted freshLeft blocked (accepted again))
    have once := fun drawn => setup_eq_settle port binary
      (gather_of_accepted fresh (by rw [unblocked]; exact Bool.false_ne_true) (accepted drawn))
    have clear : args.force = true ∨ left.server.isSome = true ∨ left.client = none := by
      rcases Bool.eq_false_or_eq_true args.force with force | force
      · exact .inl force
      · refine .inr (.inr (Option.not_isSome_iff_eq_none.mp fun there => blocked ?_))
        rw [there, force]
        rfl
    exact converges_iff_of between apart (fun kept => absurd kept (by rw [fresh]; exact Bool.false_ne_true))
      (fun kept => absurd kept keepLeft) clear later once (List.mem_cons_of_mem _ List.mem_cons_self) rfl rfl

end Cases

/-- **A later run that accepts every step leaves what one run would have left exactly when** no test of it is
taken in by what the broken run left. -/
theorem setup_converges_iff {args : SetupArgs} {host : Host} {keys again : PairKeys} {facts : ServerFacts}
    {files : Option (ConfigFile × ConfigFile)} {first left : System}
    (gathered : gather args keys first = .ok (facts, files)) (interrupted : Interrupted args host keys first left)
    (apart : firewallOf args host = some .ufw → host.RulesApart facts) :
    Converges args host keys again first left ↔ Recoverable args host facts first left := by
  obtain ⟨steps, p, planned, broken, rfl⟩ := interrupted
  obtain ⟨port, binary, rfl⟩ := checks_of_plan planned gathered
  have between : Between args host (keepExisting args first) facts files first p :=
    broken.invariant (stepsFor_keeps apart) between_begin
  by_cases keep : keepExisting args first = true
  · exact converges_iff_kept port binary between gathered apart keep
  · have fresh := Bool.eq_false_of_not_eq_true keep
    by_cases keepLeft : keepExisting args p.toSystem = true
    · exact converges_iff_written port binary between gathered apart fresh keepLeft
    · exact converges_iff_rewritten port binary between gathered apart fresh (Bool.eq_false_of_not_eq_true keepLeft)

/-! ### A new server -/

/-- A server on port 51820, with the network 10.99.0.0/24. -/
def sampleSetup : SetupArgs where
  pair :=
    { serverAddr := ⟨[203, 0, 113, 5], 51820⟩, bindAddr := ⟨[0, 0, 0, 0], 51820⟩, tunNet := ⟨[10, 99, 0], rfl⟩
      mtu := 1200, fullTunnel := true, killSwitch := false, profile := .off }
  force := false
  noFirewall := false

/-- A host with an installed package. -/
def sampleHost (firewall : Firewall) : Host where
  umask := 0o022
  firewalldRunning := firewall == .firewalld
  ufwActive := firewall == .ufw
  egressDev := some "eth0"
  zoneOfInterface _ := some "public"
  defaultZone := some "public"
  statusHeading := ["Status: active", "", "To                         Action      From"]
  verboseHeading := ["Status: active", "Logging: on (low)", "To                         Action      From"]
  statusLines rule :=
    if rule = "allow 51820/udp" then ["51820/udp                  ALLOW       Anywhere"]
    else if rule = "route allow in on chameleon0 out on eth0" then
      ["Anywhere on eth0           ALLOW FWD   Anywhere on chameleon0"]
    else []
  packaged := some ⟨"[Unit]", "[Unit]"⟩
  rendered := ⟨"[Unit]", "[Unit]"⟩
  exeHidden := false

/-- A machine on which the package has been installed, and nothing else was done. -/
def sampleMachine : System where
  account := true
  dir := some ⟨0o750, true⟩
  server := none
  client := none
  backups := []
  sysctlFile := none
  ipForward := false
  permanent := ∅
  running := ∅
  ufwRules := ∅
  nftFile := none
  mainUnit := none
  nftUnit := none
  services := ⟨some "[Unit]", some "[Unit]", false, false, none, false, none⟩

def sampleKeyMat (b : UInt8) : KeyMat := ⟨.fill 32 [b], .fill 32 [b, b], [b], [b, b]⟩

def sampleKeys (b : UInt8) : PairKeys := ⟨sampleKeyMat b, sampleKeyMat (b + 1), .fill 32 [b]⟩

theorem sampleSetup_accepted (keys : PairKeys) :
    (buildPair sampleSetup.pair keys).1.validate = .ok () ∧ (buildPair sampleSetup.pair keys).2.validate = .ok () :=
  (buildPair_accepted_iff _ _).mpr (by decide)

theorem sampleMachine_gather (keys : PairKeys) :
    gather sampleSetup keys sampleMachine =
      .ok (generatedFacts sampleSetup, some (buildPair sampleSetup.pair keys)) :=
  gather_of_accepted rfl Bool.false_ne_true (sampleSetup_accepted keys)

/-- What is left of a run that broke off before the reload. -/
def sampleLeft (keys : PairKeys) : System :=
  { sampleMachine with
    server := some (.parsed (buildPair sampleSetup.pair keys).1)
    client := some (.parsed (buildPair sampleSetup.pair keys).2)
    sysctlFile := some sysctlBody
    ipForward := true
    permanent :=
      insert ⟨"trusted", .interface tunName⟩
        (insert ⟨"public", .masquerade⟩ (insert ⟨"public", .port "51820/udp"⟩ ∅)) }

/-- A run under firewalld comes to the reload. -/
theorem sampleLeft_reached {keys : PairKeys} {last : Progress}
    (goesOn : Broken [stepReload,
      stepNftFile (generatedFacts sampleSetup) (withNat sampleSetup (sampleHost .firewalld)),
      stepServices (sampleHost .firewalld) true] ⟨sampleLeft keys, true⟩ last) :
    Broken (stepsFor sampleSetup (sampleHost .firewalld) false (generatedFacts sampleSetup)
      (some (buildPair sampleSetup.pair keys))) ⟨sampleMachine, false⟩ last := by
  have port : decide ((⟨"public", .port "51820/udp"⟩ : Setting) ∈ (∅ : Finset Setting)) = false := rfl
  have masquerade : decide ((⟨"public", .masquerade⟩ : Setting) ∈
      insert (⟨"public", .port "51820/udp"⟩ : Setting) (∅ : Finset Setting)) = false := by decide +kernel
  have interface : decide ((⟨"trusted", .interface tunName⟩ : Setting) ∈
      insert (⟨"public", .masquerade⟩ : Setting) (insert (⟨"public", .port "51820/udp"⟩ : Setting)
        (∅ : Finset Setting)))
        = false := by decide +kernel
  exact .passed (.passed (.applied rfl rfl (.applied rfl rfl (.applied port rfl
    (.applied masquerade rfl (.applied interface rfl goesOn))))))

/-- What is left of a run that broke off after the reload. -/
def sampleReloaded (keys : PairKeys) : System := { sampleLeft keys with running := (sampleLeft keys).permanent }

/-- What is left of a run under ufw that declined the identity and broke off in the middle of the sysctl step. -/
def sampleHalfway : System := { sampleMachine with sysctlFile := some sysctlBody }

theorem sampleMachine_plan (host : Host) (packaged : host.packaged.isSome = true) (keys : PairKeys) :
    plan sampleSetup host keys sampleMachine = .ok (stepsFor sampleSetup host false (generatedFacts sampleSetup)
      (some (buildPair sampleSetup.pair keys))) := by
  have packed : host.packaged.isNone = false := by
    rw [← Option.not_isSome, packaged]
    rfl
  unfold plan
  rw [sampleMachine_gather, packed]
  rfl

/-- A run that broke off after the reload, and one that broke off between the sysctl file and the setting. -/
theorem setup_converges_iff_sample :
    (Interrupted sampleSetup (sampleHost .firewalld) (sampleKeys 1) sampleMachine (sampleReloaded (sampleKeys 1)) ∧
      Converges sampleSetup (sampleHost .firewalld) (sampleKeys 1) (sampleKeys 2) sampleMachine
        (sampleReloaded (sampleKeys 1))) ∧
    Interrupted sampleSetup (sampleHost .ufw) (sampleKeys 1) sampleMachine sampleHalfway ∧
      Converges sampleSetup (sampleHost .ufw) (sampleKeys 1) (sampleKeys 2) sampleMachine sampleHalfway := by
  have reloaded : Interrupted sampleSetup (sampleHost .firewalld) (sampleKeys 1) sampleMachine
      (sampleReloaded (sampleKeys 1)) :=
    ⟨_, ⟨sampleReloaded (sampleKeys 1), true⟩, sampleMachine_plan _ rfl _,
      sampleLeft_reached (.applied rfl rfl (.stopped _ _)), rfl⟩
  have halfway : Interrupted sampleSetup (sampleHost .ufw) (sampleKeys 1) sampleMachine sampleHalfway :=
    ⟨_, ⟨sampleHalfway, false⟩, sampleMachine_plan _ rfl _, .passed (.passed (.passed (.cut 1 rfl rfl))), rfl⟩
  refine ⟨⟨reloaded, (setup_converges_iff (sampleMachine_gather _) reloaded fun other => ?_).mpr ?_⟩, halfway,
    (setup_converges_iff (sampleMachine_gather _) halfway fun _ => ?_).mpr ?_⟩
  · exact absurd other (by decide)
  · exact ⟨fun wrong => absurd wrong (by decide), .inr (.inl rfl), fun _ _ _ => rfl,
      fun _ up => absurd up (by decide)⟩
  · exact ⟨by decide +kernel, by decide +kernel⟩
  · exact ⟨fun wrong => absurd wrong (by decide), .inr (.inr rfl), fun other => absurd other (by decide),
      fun _ up => absurd up (by decide)⟩

/-- **The reload is left out**: a run that broke off before it has made every setting permanent, so the later run
has nothing to change and nothing to reload; the port stays shut. -/
theorem reload_skipped : ¬ ∀ (args : SetupArgs) (host : Host) (keys again : PairKeys) (first left : System),
    Interrupted args host keys first left → Converges args host keys again first left := by
  intro claim
  have gathered := sampleMachine_gather (sampleKeys 1)
  have broken := @sampleLeft_reached (sampleKeys 1) _ (.stopped _ _)
  have planned := sampleMachine_plan (sampleHost .firewalld) rfl (sampleKeys 1)
  have apart : firewallOf sampleSetup (sampleHost .firewalld) = some .ufw →
      (sampleHost .firewalld).RulesApart (generatedFacts sampleSetup) := fun other => absurd other (by decide)
  have between := broken.invariant (stepsFor_keeps apart) between_begin
  have converges := claim _ _ _ (sampleKeys 2) _ _ ⟨_, _, planned, broken, rfl⟩
  have recoverable := (converges_iff_written (by decide) (by decide) between gathered apart rfl rfl).mp converges
  have force := recoverable.reload (by decide) (by decide +kernel) (by decide +kernel)
  exact absurd force (by decide +kernel)

end ChameleonPQ
