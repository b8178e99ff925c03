/-
**The kill switch and the application that holds it (`killswitch.rs`, `gui/src/main.rs`).**

The firewall is engaged inside an asynchronous connect task; its guard comes back with the task's result and
is held by the application, until the user disconnects or lifts it.

* `KillSwitch` — `engage`, `disengage`, `clear`; each back-end command may fail.
* `App` — the messages the view offers and what handling them does; `ConnectTask` — a connection attempt.
* `World.step` — any order of messages, connect tasks and their results.
* `Change` — what one step does to the guard; `engaged_of_step` — what lifts the firewall.
* `kill_switch_never_strands` — when the user is always offered the control that lifts it.
-/

import ChameleonPQ.Config
import ChameleonPQ.Library.Runs

namespace ChameleonPQ

open Library.Runs

/-! ### The firewall -/

/-- `KillSwitch`: the guard of an engaged firewall. -/
structure KillSwitch where
  engaged : Bool
  otherAllowRules : Option Nat
  deriving DecidableEq

/-- One run of `engage_backend`. One that fails may have taken effect all the same: the commands of the
Windows script run one by one, and the exit status of `nft` may get lost. -/
inductive EngageCall where
  | installed (otherAllowRules : Option Nat)
  | failed (reason : String) (tookEffect : Bool)

namespace KillSwitch

/-- A name that cannot be embedded in a shell or `nft` string. -/
def unsafeName (tun : String) : Bool := tun.toList.any fun c => c ∈ ['"', '\'', '\n', '\r', '\\']

/-- `engage`, with what it leaves of the firewall. -/
def engage (call : EngageCall) (tun : String) (firewall : Bool) : Except String KillSwitch × Bool :=
  if unsafeName tun then
    (.error ("Kill switch error: refusing unsafe tun name '" ++ tun ++ "'"), firewall)
  else
    match call with
    | .installed rules => (.ok ⟨true, rules⟩, true)
    | .failed reason tookEffect => (.error ("Kill switch error: " ++ reason), firewall || tookEffect)

/-- `teardown`, whose failure is ignored; also `clear`. -/
def teardown (works firewall : Bool) : Bool := firewall && !works

/-- `disengage`. -/
def disengage (works : Bool) (guard : KillSwitch) (firewall : Bool) : KillSwitch × Bool :=
  if guard.engaged then ({ guard with engaged := false }, teardown works firewall) else (guard, firewall)

end KillSwitch

/-! ### The application -/

/-- `SocketAddr` as text. -/
structure AddrText (Addr : Type) where
  parse : String → Option Addr
  display : Addr → String

/-- `AppConfig`, with the fields the application reads besides. -/
structure ClientConfig (Addr : Type) extends AppConfig where
  serverAddr : Option Addr
  tunName : String

/-- `Client`: the handle of a tunnel. Its loops run in the background, and `status` tells how they are. -/
structure Client (Addr : Type) where
  peer : Addr

/-- `Status`. -/
structure ClientStatus where
  connected : Bool
  sessionId : String

/-- The label of a profile. -/
def TrafficProfile.label : TrafficProfile → String
  | stealth => "Maximum Privacy"
  | balanced => "Balanced"
  | throughput => "High Speed"
  | off => "Fastest"
  | custom => "Custom"

/-- What the connect task brings back: the outcome of the connection and, where one was asked for, of the
kill switch. -/
structure ConnectOutcome (Addr : Type) where
  client : Except String (Client Addr)
  ks : Option (Except String KillSwitch)

/-- `App`. -/
structure App (Addr : Type) where
  configPath : String
  config : Option (ClientConfig Addr)
  server : String
  profile : TrafficProfile
  client : Option (Client Addr)
  status : Option ClientStatus
  log : List String
  connecting : Bool
  /-- The preference, not the switch. -/
  killSwitch : Bool
  ks : Option KillSwitch
  /-- A switch a previous run has left. -/
  ksOrphan : Bool

/-- `Message`, without the update check and the links. -/
inductive Message (Addr : Type) where
  | configPathChanged (path : String)
  | serverChanged (server : String)
  | configPicked (picked : Option String)
  | profileChanged (profile : TrafficProfile)
  | loadConfig
  | connect
  | connected (outcome : ConnectOutcome Addr)
  | disconnect
  | tick
  | toggleKillSwitch (on : Bool)
  | disableKillSwitch

/-- The calls a message makes: reading the configuration, `Client::status`, and the firewall's teardown. -/
structure Calls (Addr : Type) where
  loaded : Except String (ClientConfig Addr)
  status : ClientStatus
  teardown : Bool

/-- A connect task, by what it does next; `finished` waits to be delivered. -/
inductive ConnectTask (Addr : Type) where
  | preparing (config : ClientConfig Addr) (server : Addr) (wantKillSwitch : Bool)
  | engaging (config : ClientConfig Addr) (server : Addr) (retries : Nat)
  | dialing (server : Addr) (ks : Option (Except String KillSwitch))
  | finished (outcome : ConnectOutcome Addr)

/-- The calls of a connect task: `build_auth` and `TunPair::create`, one `engage`, and `Client::connect`. -/
structure TaskCalls where
  prepared : Except String Unit
  engage : EngageCall
  dialed : Except String Unit

/-- What one run of a connect task, up to its next wait, leaves. -/
def ConnectTask.advance {Addr : Type} (calls : TaskCalls) (firewall : Bool) :
    ConnectTask Addr → Option (ConnectTask Addr × Bool)
  | preparing config server wantKillSwitch =>
    match calls.prepared with
    | .error e => some (finished ⟨.error e, none⟩, firewall)
    | .ok () =>
      if wantKillSwitch then
        if config.tun.routeAll then some (engaging config server 4, firewall)
        else
          some (dialing server (some (.error "skipped: needs full-tunnel (tun.route_all = true)")), firewall)
      else some (dialing server none, firewall)
  | engaging config server retries =>
    match KillSwitch.engage calls.engage config.tunName firewall with
    | (.ok guard, firewall) => some (dialing server (some (.ok guard)), firewall)
    | (.error e, firewall) =>
      match retries with
      | 0 => some (dialing server (some (.error e)), firewall)
      | retries + 1 => some (engaging config server retries, firewall)
  | dialing server ks => some (finished ⟨calls.dialed.map fun () => ⟨server⟩, ks⟩, firewall)
  | finished _ => none

namespace App

variable {Addr : Type} (text : AddrText Addr) (app : App Addr)

/-- `new`; what is left of a previous run is detected accurately. -/
def new (firewall : Bool) : App Addr where
  configPath := "config.toml"
  config := none
  server := ""
  profile := .off
  client := none
  status := none
  log := "Load a config and connect." ::
    if firewall then ["⚠ Kill switch is still active from a previous session."] else []
  connecting := false
  killSwitch := false
  ks := none
  ksOrphan := firewall

/-- `log`: the last 200 lines. -/
def say (line : String) : App Addr :=
  let log := app.log ++ [line]
  { app with log := if 200 < log.length then log.tail else log }

/-- `ProfileChanged`. -/
def profileChanged (profile : TrafficProfile) : App Addr :=
  let config := app.config.map fun config => { config with traffic := { config.traffic with profile } }
  let app := { app with profile, config }
  if app.client.isSome then app.say ("Profile changed live → " ++ profile.label)
  else app.say ("Profile: " ++ profile.label)

/-- `LoadConfig`. -/
def loadConfig (loaded : Except String (ClientConfig Addr)) : App Addr :=
  match loaded with
  | .ok config =>
    let server := match config.serverAddr with
      | some server => text.display server
      | none => app.server
    { app with server, profile := config.traffic.profile, killSwitch := config.tun.killSwitch,
               config := some config }.say
      ("Config loaded: " ++ app.configPath ++ " (profile: " ++ config.traffic.profile.label ++
        ", kill switch: " ++ (if config.tun.killSwitch then "on" else "off") ++ ")")
  | .error e => app.say ("Config error: " ++ e)

/-- `ConfigPicked`: what was picked is loaded right away. -/
def configPicked (picked : Option String) (loaded : Except String (ClientConfig Addr)) : App Addr :=
  match picked with
  | some path => { app with configPath := path }.loadConfig text loaded
  | none => app

/-- `Connect`: the settings and the preference are taken as they are now. -/
def connect : App Addr × Option (ConnectTask Addr) :=
  match app.config with
  | none => (app.say "Load a config first.", none)
  | some config =>
    let config := { config with traffic := { config.traffic with profile := app.profile } }
    match (text.parse app.server).orElse fun _ => config.serverAddr with
    | none => (app.say "No valid server address (host:port).", none)
    | some server =>
      ({ app with connecting := true }.say ("Connecting to " ++ text.display server ++ " …"),
        some (.preparing config server app.killSwitch))

/-- `Connected`, the outcome of the kill switch. -/
def takeGuard (ks : Option (Except String KillSwitch)) : App Addr :=
  match ks with
  | some (.ok guard) =>
    let app := app.say "Kill switch engaged — traffic is locked to the tunnel."
    let app :=
      if 0 < guard.otherAllowRules.getD 0 then
        app.say ("⚠ " ++ toString (guard.otherAllowRules.getD 0) ++
          " other outbound-allow firewall rule(s) found — traffic matching one of those could bypass the " ++
          "kill switch.")
      else app
    { app with ks := some guard, ksOrphan := false }
  | some (.error e) => app.say ("Kill switch: " ++ e)
  | none => app

/-- `Connected`, the outcome of the connection. -/
def takeClient (status : ClientStatus) (client : Except String (Client Addr)) : App Addr :=
  match client with
  | .ok client =>
    { app.say ("Connected — session " ++ status.sessionId) with status := some status, client := some client }
  | .error e =>
    let app := app.say ("Connection failed: " ++ e)
    if app.ks.isSome then
      app.say ("⚠ Kill switch still ACTIVE — traffic stays blocked. Retry, or disable the kill switch to " ++
        "go online without the VPN.")
    else app

/-- `Connected`. -/
def connected (status : ClientStatus) (outcome : ConnectOutcome Addr) : App Addr :=
  ({ app with connecting := false }.takeGuard outcome.ks).takeClient status outcome.client

/-- `Disconnect`, with what it leaves of the firewall. -/
def disconnect (teardown firewall : Bool) : App Addr × Bool :=
  let app := { app with client := none, status := none }
  match app.ks with
  | some guard =>
    let (_, firewall) := guard.disengage teardown firewall
    (({ app with ks := none }.say "Kill switch disengaged.").say "Disconnected.", firewall)
  | none => (app.say "Disconnected.", firewall)

/-- `ToggleKillSwitch`. -/
def toggleKillSwitch (on : Bool) : App Addr :=
  let config := app.config.map fun config => { config with tun := { config.tun with killSwitch := on } }
  { app with killSwitch := on, config }.say ("Kill switch preference: " ++ if on then "on" else "off")

/-- `DisableKillSwitch`, with what it leaves of the firewall. -/
def disableKillSwitch (teardown firewall : Bool) : App Addr × Bool :=
  ({ app with ks := none, ksOrphan := false }.say "Kill switch disabled — connectivity restored.",
    KillSwitch.teardown teardown firewall)

/-- `Tick`: a tunnel that died is let go of, its kill switch is not. -/
def tick (status : ClientStatus) : App Addr :=
  if app.client.isSome then
    if status.connected then { app with status := some status }
    else
      let app := app.say ("Tunnel closed (background loops stopped). Details are in chameleon-gui.log next " ++
        "to the binary.")
      let app := { app with client := none, status := none }
      if app.ks.isSome then
        app.say ("⚠ Kill switch ACTIVE — traffic is blocked. Reconnect, or disable the kill switch to go " ++
          "online without the VPN.")
      else app
  else app

/-- `update`, with what it leaves of the firewall and the connect task it starts. -/
def update (calls : Calls Addr) (firewall : Bool) :
    Message Addr → (App Addr × Bool) × Option (ConnectTask Addr)
  | .configPathChanged path => (({ app with configPath := path }, firewall), none)
  | .serverChanged server => (({ app with server }, firewall), none)
  | .configPicked picked => ((app.configPicked text picked calls.loaded, firewall), none)
  | .profileChanged profile => ((app.profileChanged profile, firewall), none)
  | .loadConfig => ((app.loadConfig text calls.loaded, firewall), none)
  | .connect => (((app.connect text).1, firewall), (app.connect text).2)
  | .connected outcome => ((app.connected calls.status outcome, firewall), none)
  | .disconnect => (app.disconnect calls.teardown firewall, none)
  | .tick => ((app.tick calls.status, firewall), none)
  | .toggleKillSwitch on => ((app.toggleKillSwitch on, firewall), none)
  | .disableKillSwitch => (app.disableKillSwitch calls.teardown firewall, none)

/-- `ks_stranded`: the recovery banner is shown. -/
def ksStranded : Bool := app.client.isNone && !app.connecting && (app.ksOrphan || app.ks.isSome)

/-- The messages `view` offers; a tick and the answer of the file dialog may come late. A result comes from
its connect task only. -/
def offers : Message Addr → Bool
  | .connect => !app.connecting && app.client.isNone
  | .disconnect => !app.connecting && app.client.isSome
  | .disableKillSwitch => app.ksStranded
  | .connected _ => false
  | _ => true

end App

/-- The application, the firewall of the system and the connect tasks under way. -/
structure World (Addr : Type) where
  app : App Addr
  firewall : Bool
  tasks : List (ConnectTask Addr)

/-- A message of the user, a connect task that goes on, or its result. -/
inductive Event (Addr : Type) where
  | message (message : Message Addr) (calls : Calls Addr)
  | task (index : Nat) (calls : TaskCalls)
  | result (index : Nat) (calls : Calls Addr)

namespace World

variable {Addr : Type} (text : AddrText Addr) (world : World Addr)

/-- The application is started; a switch may be left from before. -/
def launch (firewall : Bool) : World Addr := ⟨.new firewall, firewall, []⟩

/-- The application handles a message. -/
def handle (message : Message Addr) (calls : Calls Addr) : World Addr :=
  let ((app, firewall), task) := world.app.update text calls world.firewall message
  ⟨app, firewall, world.tasks ++ task.toList⟩

/-- One step; `none` when it is not enabled. -/
def step : Event Addr → Option (World Addr)
  | .message message calls => if world.app.offers message then some (world.handle text message calls) else none
  | .task index calls =>
    match world.tasks[index]? with
    | some task => (task.advance calls world.firewall).map fun (task, firewall) =>
        { world with firewall, tasks := world.tasks.set index task }
    | none => none
  | .result index calls =>
    match world.tasks[index]? with
    | some (.finished outcome) =>
      some ({ world with tasks := world.tasks.eraseIdx index }.handle text (.connected outcome) calls)
    | _ => none

end World

/-! ### What is promised -/

/-- The attempt to engage succeeds. -/
def EngageCall.succeeds (call : EngageCall) (tun : String) : Bool :=
  !KillSwitch.unsafeName tun && match call with
    | .installed _ => true
    | .failed _ _ => false

/-- The attempt to engage leaves the firewall engaged. -/
def EngageCall.takesEffect (call : EngageCall) (tun : String) : Bool :=
  !KillSwitch.unsafeName tun && match call with
    | .installed _ => true
    | .failed _ tookEffect => tookEffect

/-- The guard an outcome carries. -/
def carried : Option (Except String KillSwitch) → Option KillSwitch
  | some (.ok guard) => some guard
  | _ => none

namespace ConnectTask

variable {Addr : Type}

/-- The guard a connect task carries. -/
def guard : ConnectTask Addr → Option KillSwitch
  | dialing _ ks => carried ks
  | finished outcome => carried outcome.ks
  | _ => none

/-- The connect task is engaging the switch, or brings back its guard. -/
def engages : ConnectTask Addr → Bool
  | engaging _ _ _ => true
  | task => task.guard.isSome

end ConnectTask

/-- The events that may lift the firewall. -/
def Event.lifts {Addr : Type} : Event Addr → Bool
  | .message .disconnect _ => true
  | .message .disableKillSwitch _ => true
  | _ => false

namespace World

variable {Addr : Type} (text : AddrText Addr) (world : World Addr)

/-- The guard is held, or the switch is marked as an orphan. -/
def Known : Prop := world.app.ks.isSome = true ∨ world.app.ksOrphan = true

/-- **An engaged firewall is accounted for**: the connection in progress is engaging it, its guard is held, or
it is marked as an orphan. -/
def Held : Prop := world.firewall = true → (∃ task ∈ world.tasks, task.engages = true) ∨ world.Known

/-- With an engaged firewall, no tunnel and none being set up, the user is offered the control that lifts
it. -/
def Recoverable : Prop := world.firewall = true → world.app.client = none → world.app.connecting = false →
  world.app.offers .disableKillSwitch = true

/-- **The switch never strands the user**: in every state reached an engaged firewall is accounted for and
can be lifted, and only `Disconnect` and `DisableKillSwitch` lift it. -/
def NeverStrands (events : List (Event Addr)) : Prop :=
  (world.Held ∧ world.Recoverable) ∧ Along (step text) (fun before event after =>
    (before.firewall = true → after.firewall = false → event.lifts = true) ∧
      after.Held ∧ after.Recoverable) world events

/-- The condition on one step: a teardown works, and the last attempt to engage, if it fails, does not leave
the firewall engaged behind the application's back. -/
def Meets : Event Addr → Prop
  | .message .disconnect calls => world.app.ks.isSome = true → calls.teardown = true
  | .message .disableKillSwitch calls => calls.teardown = true
  | .task index calls => ∀ config server, world.tasks[index]? = some (.engaging config server 0) →
      calls.engage.succeeds config.tunName = false →
        (world.firewall = false ∧ calls.engage.takesEffect config.tunName = false) ∨ world.Known
  | _ => True

end World

/-! ### The calls -/

/-- **One attempt to engage**: what it leaves of the firewall, and the guard of one that succeeds. -/
theorem KillSwitch.engage_cases (call : EngageCall) (tun : String) (firewall : Bool) :
    (call.succeeds tun = true ∧ ∃ rules, engage call tun firewall = (.ok ⟨true, rules⟩, true)) ∨
    (call.succeeds tun = false ∧ ∃ e,
      engage call tun firewall = (.error e, firewall || call.takesEffect tun)) := by
  unfold engage
  by_cases refused : unsafeName tun = true
  · rw [if_pos refused]
    refine .inr ⟨by simp [EngageCall.succeeds, refused], _, Prod.ext rfl ?_⟩
    simp [EngageCall.takesEffect, refused]
  · rw [if_neg refused]
    cases call with
    | installed rules => exact .inl ⟨by simp [EngageCall.succeeds, refused], rules, rfl⟩
    | failed reason tookEffect =>
      refine .inr ⟨by simp [EngageCall.succeeds], _, Prod.ext rfl ?_⟩
      simp [EngageCall.takesEffect, refused]

namespace App

variable {Addr : Type} (text : AddrText Addr) (app : App Addr)

@[simp] theorem say_ks (line : String) : (app.say line).ks = app.ks := rfl
@[simp] theorem say_ksOrphan (line : String) : (app.say line).ksOrphan = app.ksOrphan := rfl
@[simp] theorem say_connecting (line : String) : (app.say line).connecting = app.connecting := rfl

/-- What the application knows of the switch. -/
structure SameGuard (before after : App Addr) : Prop where
  ks : after.ks = before.ks
  ksOrphan : after.ksOrphan = before.ksOrphan
  connecting : after.connecting = before.connecting

theorem profileChanged_same (profile : TrafficProfile) : SameGuard app (app.profileChanged profile) := by
  unfold profileChanged
  dsimp only
  split <;> exact ⟨rfl, rfl, rfl⟩

theorem loadConfig_same (loaded : Except String (ClientConfig Addr)) :
    SameGuard app (app.loadConfig text loaded) := by
  cases loaded with
  | ok config => exact ⟨rfl, rfl, rfl⟩
  | error e => exact ⟨rfl, rfl, rfl⟩

theorem configPicked_same (picked : Option String) (loaded : Except String (ClientConfig Addr)) :
    SameGuard app (app.configPicked text picked loaded) := by
  cases picked with
  | some path =>
    have same := loadConfig_same text { app with configPath := path } loaded
    exact ⟨same.ks, same.ksOrphan, same.connecting⟩
  | none => exact ⟨rfl, rfl, rfl⟩

theorem tick_same (status : ClientStatus) : SameGuard app (app.tick status) := by
  unfold tick
  split
  · split
    · exact ⟨rfl, rfl, rfl⟩
    · dsimp only
      split <;> exact ⟨rfl, rfl, rfl⟩
  · exact ⟨rfl, rfl, rfl⟩

/-- **`Connect`** starts no task, or it starts one. -/
theorem connect_cases :
    ((app.connect text).2 = none ∧ SameGuard app (app.connect text).1) ∨
    ∃ config server, (app.connect text).2 = some (.preparing config server app.killSwitch) ∧
      (app.connect text).1.connecting = true ∧ (app.connect text).1.ks = app.ks ∧
      (app.connect text).1.ksOrphan = app.ksOrphan := by
  unfold connect
  split
  · exact .inl ⟨rfl, rfl, rfl, rfl⟩
  · dsimp only
    split
    · exact .inl ⟨rfl, rfl, rfl, rfl⟩
    · exact .inr ⟨_, _, rfl, rfl, rfl, rfl⟩

/-- **`Connected`** takes the guard that came back, and keeps its own otherwise. -/
theorem connected_guard (status : ClientStatus) (outcome : ConnectOutcome Addr) :
    (app.connected status outcome).connecting = false ∧
      (app.connected status outcome).ks = (carried outcome.ks).or app.ks ∧
      (app.connected status outcome).ksOrphan = (app.ksOrphan && (carried outcome.ks).isNone) := by
  have client : ∀ (app : App Addr) (client : Except String (Client Addr)),
      SameGuard app (app.takeClient status client) := by
    intro app client
    cases client with
    | ok client => exact ⟨rfl, rfl, rfl⟩
    | error e =>
      unfold takeClient
      dsimp only
      split <;> exact ⟨rfl, rfl, rfl⟩
  unfold connected
  obtain ⟨ks, ksOrphan, connecting⟩ :=
    client (({ app with connecting := false } : App Addr).takeGuard outcome.ks) outcome.client
  rw [ks, ksOrphan, connecting]
  generalize outcome.ks = result
  unfold takeGuard
  split
  · dsimp only
    split <;> simp [carried]
  · simp [carried]
  · simp [carried]

/-- **`Disconnect`** gives up a guard it holds. -/
theorem disconnect_guard (teardown firewall : Bool) :
    (app.disconnect teardown firewall).1.ks = none ∧
      (app.disconnect teardown firewall).1.ksOrphan = app.ksOrphan ∧
      (app.disconnect teardown firewall).1.connecting = app.connecting := by
  unfold disconnect
  dsimp only
  split
  · exact ⟨rfl, rfl, rfl⟩
  · rename_i absent
    exact ⟨absent, rfl, rfl⟩

end App

namespace World

variable {Addr : Type} {text : AddrText Addr} {before after : World Addr} {event : Event Addr}

/-! ### One step -/

/-- **What one step does to the switch.** -/
inductive Change (before after : World Addr) : Event Addr → Prop
  /-- Nothing. -/
  | quiet {event : Event Addr} (harmless : before.Meets event) (same : App.SameGuard before.app after.app)
      (firewall : after.firewall = before.firewall) (tasks : after.tasks = before.tasks) : Change before after event
  /-- A connect task is started. -/
  | started {calls : Calls Addr} (config : ClientConfig Addr) (server : Addr) (wantKillSwitch : Bool)
      (idle : before.app.connecting = false) (connecting : after.app.connecting = true)
      (ks : after.app.ks = before.app.ks) (ksOrphan : after.app.ksOrphan = before.app.ksOrphan)
      (firewall : after.firewall = before.firewall)
      (tasks : after.tasks = before.tasks ++ [.preparing config server wantKillSwitch]) :
      Change before after (.message .connect calls)
  /-- A connect task goes on. -/
  | advanced {index : Nat} {calls : TaskCalls} {task next : ConnectTask Addr}
      (found : before.tasks[index]? = some task)
      (advance : task.advance calls before.firewall = some (next, after.firewall))
      (app : after.app = before.app) (tasks : after.tasks = before.tasks.set index next) :
      Change before after (.task index calls)
  /-- A result is delivered. -/
  | delivered {index : Nat} {calls : Calls Addr} {outcome : ConnectOutcome Addr}
      (found : before.tasks[index]? = some (.finished outcome)) (idle : after.app.connecting = false)
      (ks : after.app.ks = (carried outcome.ks).or before.app.ks)
      (ksOrphan : after.app.ksOrphan = (before.app.ksOrphan && (carried outcome.ks).isNone))
      (firewall : after.firewall = before.firewall) (tasks : after.tasks = before.tasks.eraseIdx index) :
      Change before after (.result index calls)
  /-- A held guard is given up. -/
  | disconnected {calls : Calls Addr} {guard : KillSwitch} (held : before.app.ks = some guard)
      (idle : before.app.connecting = false) (connecting : after.app.connecting = false)
      (ks : after.app.ks = none) (ksOrphan : after.app.ksOrphan = before.app.ksOrphan)
      (firewall : after.firewall = (guard.disengage calls.teardown before.firewall).2)
      (tasks : after.tasks = before.tasks) : Change before after (.message .disconnect calls)
  /-- The switch is lifted, whoever has engaged it. -/
  | disabled {calls : Calls Addr} (stranded : before.app.ksStranded = true)
      (connecting : after.app.connecting = before.app.connecting) (ks : after.app.ks = none)
      (ksOrphan : after.app.ksOrphan = false)
      (firewall : after.firewall = KillSwitch.teardown calls.teardown before.firewall)
      (tasks : after.tasks = before.tasks) : Change before after (.message .disableKillSwitch calls)

/-- A message that does nothing to the switch. -/
theorem Change.of_same {message : Message Addr} {calls : Calls Addr} {app : App Addr}
    (harmless : before.Meets (.message message calls)) (same : App.SameGuard before.app app)
    (update : before.app.update text calls before.firewall message = ((app, before.firewall), none)) :
    Change before (before.handle text message calls) (.message message calls) := by
  unfold handle
  rw [update]
  exact .quiet harmless same rfl (List.append_nil _)

theorem change_of_message {message : Message Addr} {calls : Calls Addr}
    (offered : before.app.offers message = true) :
    Change before (before.handle text message calls) (.message message calls) := by
  cases message with
  | configPathChanged path =>
    have same : App.SameGuard before.app { before.app with configPath := path } := ⟨rfl, rfl, rfl⟩
    exact .of_same trivial same rfl
  | serverChanged server =>
    have same : App.SameGuard before.app { before.app with server } := ⟨rfl, rfl, rfl⟩
    exact .of_same trivial same rfl
  | configPicked picked => exact .of_same trivial (App.configPicked_same text _ picked _) rfl
  | profileChanged profile => exact .of_same trivial (App.profileChanged_same _ profile) rfl
  | loadConfig => exact .of_same trivial (App.loadConfig_same text _ _) rfl
  | tick => exact .of_same trivial (App.tick_same _ _) rfl
  | toggleKillSwitch on =>
    have same : App.SameGuard before.app (before.app.toggleKillSwitch on) := ⟨rfl, rfl, rfl⟩
    exact .of_same trivial same rfl
  | connected outcome => cases offered
  | connect =>
    rcases App.connect_cases text before.app with
      ⟨nothing, same⟩ | ⟨config, server, started, connecting, ks, orphan⟩
    · refine .of_same trivial same ?_
      show (_, (before.app.connect text).2) = _
      rw [nothing]
    · have idle : before.app.connecting = false := by
        simpa [App.offers] using (Bool.and_eq_true_iff.mp offered).1
      refine .started config server before.app.killSwitch idle connecting ks orphan rfl ?_
      show before.tasks ++ (before.app.connect text).2.toList = _
      rw [started]
      rfl
  | disconnect =>
    have idle : before.app.connecting = false := by
      simpa [App.offers] using (Bool.and_eq_true_iff.mp offered).1
    obtain ⟨ks, orphan, connecting⟩ :=
      App.disconnect_guard before.app calls.teardown before.firewall
    have tasks : (before.handle text .disconnect calls).tasks = before.tasks := List.append_nil _
    cases held : before.app.ks with
    | none =>
      have firewall : (before.handle text .disconnect calls).firewall = before.firewall := by
        show (before.app.disconnect calls.teardown before.firewall).2 = _
        unfold App.disconnect
        dsimp only
        rw [held]
      refine .quiet (fun some => ?_) ⟨ks.trans held.symm, orphan, connecting⟩ firewall tasks
      rw [held] at some
      cases some
    | some guard =>
      have firewall : (before.handle text .disconnect calls).firewall =
          (guard.disengage calls.teardown before.firewall).2 := by
        show (before.app.disconnect calls.teardown before.firewall).2 = _
        unfold App.disconnect
        dsimp only
        rw [held]
      exact .disconnected held idle (connecting.trans idle) ks orphan firewall tasks
  | disableKillSwitch => exact .disabled offered rfl rfl rfl rfl (List.append_nil _)

theorem change_of_step (taken : step text before event = some after) : Change before after event := by
  cases event with
  | message message calls =>
    simp only [step] at taken
    split at taken
    · rename_i offered
      obtain rfl := Option.some.inj taken
      exact change_of_message offered
    · cases taken
  | task index calls =>
    simp only [step] at taken
    split at taken
    · rename_i task found
      obtain ⟨⟨next, firewall⟩, advance, rfl⟩ := Option.map_eq_some_iff.mp taken
      exact .advanced found advance rfl rfl
    · cases taken
  | result index calls =>
    simp only [step] at taken
    split at taken
    · rename_i outcome found
      obtain rfl := Option.some.inj taken
      obtain ⟨idle, ks, orphan⟩ := App.connected_guard before.app calls.status outcome
      exact .delivered found idle ks orphan rfl (List.append_nil _)
    · cases taken

/-! ### The invariant -/

theorem ksStranded_iff : before.app.ksStranded = true ↔
    (before.app.client = none ∧ before.app.connecting = false) ∧ before.Known := by
  unfold App.ksStranded Known
  rw [Bool.and_eq_true, Bool.and_eq_true, Bool.or_eq_true, Bool.not_eq_true', Option.isNone_iff_eq_none,
    or_comm]

/-- **The guards are those of an engaged firewall**, and at most one connect task is under way. -/
structure Consistent (world : World Addr) : Prop where
  /-- A connection is being set up exactly while its task is under way. -/
  inFlight : world.tasks.length = if world.app.connecting = true then 1 else 0
  held : ∀ guard, world.app.ks = some guard →
    guard.engaged = true ∧ world.firewall = true ∧ world.app.ksOrphan = false
  orphan : world.app.ksOrphan = true → world.firewall = true
  carried : ∀ task ∈ world.tasks, ∀ guard, task.guard = some guard →
    guard.engaged = true ∧ world.firewall = true

theorem consistent_launch (firewall : Bool) : (launch firewall : World Addr).Consistent where
  inFlight := rfl
  held := by
    intro guard held
    cases held
  orphan orphan := orphan
  carried := by
    intro task mem
    cases mem

/-- No connection is being set up: no task is under way. -/
theorem Consistent.tasks_nil (consistent : before.Consistent) (idle : before.app.connecting = false) :
    before.tasks = [] := by
  have length := consistent.inFlight
  rw [idle, if_neg Bool.false_ne_true] at length
  exact List.eq_nil_of_length_eq_zero length

/-- A task under way is the only one. -/
theorem Consistent.only (consistent : before.Consistent) {index : Nat} {task : ConnectTask Addr}
    (found : before.tasks[index]? = some task) :
    before.tasks = [task] ∧ index = 0 ∧ before.app.connecting = true := by
  obtain ⟨inside, rfl⟩ := List.getElem?_eq_some_iff.mp found
  have length := consistent.inFlight
  by_cases connecting : before.app.connecting = true
  · rw [if_pos connecting] at length
    obtain ⟨only, isOnly⟩ := List.length_eq_one_iff.mp length
    have first : index = 0 := by omega
    subst first
    refine ⟨?_, rfl, connecting⟩
    simp only [isOnly, List.getElem_cons_zero]
  · rw [if_neg connecting] at length
    omega

/-- **What one run of a connect task does to the switch.** -/
inductive Advance (calls : TaskCalls) (firewall : Bool) : ConnectTask Addr → ConnectTask Addr → Bool → Prop
  /-- Nothing: it does not engage yet, or no longer. -/
  | quiet {task next : ConnectTask Addr}
      (settled : ∀ config server retries, task ≠ .engaging config server retries)
      (engages : task.engages = true → next.engages = true) (guard : next.guard = task.guard) :
      Advance calls firewall task next firewall
  /-- The switch is engaged. -/
  | engaged {config : ClientConfig Addr} {server : Addr} {retries : Nat} (rules : Option Nat)
      (succeeds : calls.engage.succeeds config.tunName = true) :
      Advance calls firewall (.engaging config server retries) (.dialing server (some (.ok ⟨true, rules⟩))) true
  /-- The attempt fails, and there is another. -/
  | retried {config : ClientConfig Addr} {server : Addr} {retries : Nat} :
      Advance calls firewall (.engaging config server (retries + 1)) (.engaging config server retries)
        (firewall || calls.engage.takesEffect config.tunName)
  /-- The last attempt fails. -/
  | refused {config : ClientConfig Addr} {server : Addr} (e : String)
      (fails : calls.engage.succeeds config.tunName = false) :
      Advance calls firewall (.engaging config server 0) (.dialing server (some (.error e)))
        (firewall || calls.engage.takesEffect config.tunName)

theorem advance_cases {calls : TaskCalls} {firewall left : Bool} {task next : ConnectTask Addr}
    (advance : task.advance calls firewall = some (next, left)) : Advance calls firewall task next left := by
  cases task with
  | preparing config server wantKillSwitch =>
    have settled : ∀ config' server' retries, ConnectTask.preparing config server wantKillSwitch ≠
        .engaging config' server' retries := by
      intro config' server' retries same
      cases same
    simp only [ConnectTask.advance] at advance
    split at advance
    · obtain ⟨rfl, rfl⟩ := Prod.mk.inj (Option.some.inj advance)
      exact .quiet settled (fun engages => by cases engages) rfl
    · split at advance
      · split at advance
        · obtain ⟨rfl, rfl⟩ := Prod.mk.inj (Option.some.inj advance)
          exact .quiet settled (fun _ => rfl) rfl
        · obtain ⟨rfl, rfl⟩ := Prod.mk.inj (Option.some.inj advance)
          exact .quiet settled (fun engages => by cases engages) rfl
      · obtain ⟨rfl, rfl⟩ := Prod.mk.inj (Option.some.inj advance)
        exact .quiet settled (fun engages => by cases engages) rfl
  | engaging config server retries =>
    simp only [ConnectTask.advance] at advance
    rcases KillSwitch.engage_cases calls.engage config.tunName firewall with
      ⟨succeeds, rules, engaged⟩ | ⟨fails, e, refused⟩
    · rw [engaged] at advance
      obtain ⟨rfl, rfl⟩ := Prod.mk.inj (Option.some.inj advance)
      exact .engaged rules succeeds
    · rw [refused] at advance
      cases retries with
      | zero =>
        obtain ⟨rfl, rfl⟩ := Prod.mk.inj (Option.some.inj advance)
        exact .refused e fails
      | succ retries =>
        obtain ⟨rfl, rfl⟩ := Prod.mk.inj (Option.some.inj advance)
        exact .retried
  | dialing server ks =>
    obtain ⟨rfl, rfl⟩ := Prod.mk.inj (Option.some.inj advance)
    refine .quiet ?_ id rfl
    intro config server' retries same
    cases same
  | finished outcome => cases advance

/-- A connect task does not lift the firewall. -/
theorem Advance.engaged_left {calls : TaskCalls} {firewall left : Bool} {task next : ConnectTask Addr}
    (advance : Advance calls firewall task next left) (engaged : firewall = true) : left = true := by
  cases advance with
  | quiet => exact engaged
  | engaged => rfl
  | retried => rw [engaged, Bool.true_or]
  | refused => rw [engaged, Bool.true_or]

/-- A guard a connect task carries is that of an engaged firewall. -/
theorem Advance.carried_left {calls : TaskCalls} {firewall left : Bool} {task next : ConnectTask Addr}
    (advance : Advance calls firewall task next left)
    (before : ∀ guard, task.guard = some guard → guard.engaged = true ∧ firewall = true) (guard : KillSwitch)
    (carries : next.guard = some guard) : guard.engaged = true ∧ left = true := by
  cases advance with
  | quiet _ _ same => exact before guard (same ▸ carries)
  | engaged rules =>
    obtain rfl := Option.some.inj carries
    exact ⟨rfl, rfl⟩
  | retried => cases carries
  | refused => cases carries

/-- **Only the user lifts the firewall.** -/
theorem Change.lifts (change : Change before after event) (engaged : before.firewall = true)
    (disengaged : after.firewall = false) : event.lifts = true := by
  have kept : after.firewall = before.firewall → event.lifts = true := by
    intro same
    rw [same, engaged] at disengaged
    cases disengaged
  cases change with
  | quiet _ _ firewall => exact kept firewall
  | started _ _ _ _ _ _ _ firewall => exact kept firewall
  | advanced _ advance =>
    rw [(advance_cases advance).engaged_left engaged] at disengaged
    cases disengaged
  | delivered _ _ _ _ firewall => exact kept firewall
  | disconnected => rfl
  | disabled => rfl

/-- With no guard, no mark and no task there is nothing to check. -/
theorem consistent_of_lifted (ks : after.app.ks = none) (ksOrphan : after.app.ksOrphan = false)
    (idle : after.app.connecting = false) (noTask : after.tasks = []) : after.Consistent where
  inFlight := by
    rw [noTask, idle]
    rfl
  held := by
    rw [ks]
    intro guard held
    cases held
  orphan := by
    rw [ksOrphan]
    intro orphan
    cases orphan
  carried := by
    rw [noTask]
    intro task mem
    cases mem

/-- The step lemma of the invariant. -/
theorem Change.consistent (change : Change before after event) (consistent : before.Consistent) :
    after.Consistent := by
  cases change with
  | quiet _ same firewall tasks =>
    refine ⟨?_, ?_, ?_, ?_⟩
    · rw [tasks, same.connecting]
      exact consistent.inFlight
    · rw [same.ks, firewall, same.ksOrphan]
      exact consistent.held
    · rw [same.ksOrphan, firewall]
      exact consistent.orphan
    · rw [tasks, firewall]
      exact consistent.carried
  | started config server wantKillSwitch idle connecting ks ksOrphan firewall tasks =>
    rw [consistent.tasks_nil idle] at tasks
    refine ⟨?_, ?_, ?_, ?_⟩
    · rw [tasks, connecting]
      rfl
    · rw [ks, firewall, ksOrphan]
      exact consistent.held
    · rw [ksOrphan, firewall]
      exact consistent.orphan
    · rw [tasks]
      intro task mem guard carries
      obtain rfl := List.mem_singleton.mp mem
      cases carries
  | advanced found advance app tasks =>
    obtain ⟨only, rfl, connecting⟩ := consistent.only found
    have advance := advance_cases advance
    rw [only, List.set_cons_zero] at tasks
    refine ⟨?_, ?_, ?_, ?_⟩
    · rw [tasks, app, connecting]
      rfl
    · rw [app]
      intro guard held
      obtain ⟨engaged, firewall, orphan⟩ := consistent.held guard held
      exact ⟨engaged, advance.engaged_left firewall, orphan⟩
    · rw [app]
      exact fun orphan => advance.engaged_left (consistent.orphan orphan)
    · rw [tasks]
      intro task mem
      obtain rfl := List.mem_singleton.mp mem
      exact advance.carried_left (consistent.carried _ (List.mem_of_getElem? found))
  | delivered found idle ks ksOrphan firewall tasks =>
    obtain ⟨only, rfl, _⟩ := consistent.only found
    have carried := consistent.carried _ (List.mem_of_getElem? found)
    rw [only, List.eraseIdx_cons_zero] at tasks
    refine ⟨?_, ?_, ?_, ?_⟩
    · rw [tasks, idle]
      rfl
    · rw [ks, firewall, ksOrphan]
      intro guard held
      rcases Option.or_eq_some_iff.mp held with back | ⟨none, own⟩
      · obtain ⟨engaged, firewall⟩ := carried guard back
        exact ⟨engaged, firewall, by rw [back]; exact Bool.and_false _⟩
      · obtain ⟨engaged, firewall, orphan⟩ := consistent.held guard own
        exact ⟨engaged, firewall, by rw [orphan, Bool.false_and]⟩
    · rw [ksOrphan, firewall]
      exact fun orphan => consistent.orphan (Bool.and_eq_true_iff.mp orphan).1
    · rw [tasks]
      intro task mem
      cases mem
  | disconnected held idle connecting ks ksOrphan firewall tasks =>
    exact consistent_of_lifted ks (ksOrphan.trans (consistent.held _ held).2.2) connecting
      (tasks.trans (consistent.tasks_nil idle))
  | disabled stranded connecting ks ksOrphan firewall tasks =>
    have idle : before.app.connecting = false := (ksStranded_iff.mp stranded).1.2
    exact consistent_of_lifted ks ksOrphan (connecting.trans idle) (tasks.trans (consistent.tasks_nil idle))

/-! ### Whether the firewall is accounted for -/

/-- With no task under way, an engaged firewall is known. -/
theorem Held.known (held : before.Held) (noTask : before.tasks = []) (engaged : before.firewall = true) :
    before.Known := by
  rcases held engaged with ⟨task, mem, _⟩ | known
  · rw [noTask] at mem
    cases mem
  · exact known

/-- With one task under way, an engaged firewall is that task's, or known. -/
theorem Held.engages {task : ConnectTask Addr} (held : before.Held) (only : before.tasks = [task])
    (engaged : before.firewall = true) : task.engages = true ∨ before.Known := by
  rcases held engaged with ⟨other, mem, engages⟩ | known
  · rw [only] at mem
    obtain rfl := List.mem_singleton.mp mem
    exact .inl engages
  · exact .inr known

/-- What is known does not change where the guard and the mark do not. -/
theorem known_congr (ks : after.app.ks = before.app.ks) (ksOrphan : after.app.ksOrphan = before.app.ksOrphan) :
    after.Known ↔ before.Known := by
  unfold Known
  rw [ks, ksOrphan]

/-- What is known is engaged. -/
theorem Consistent.engaged_of_known (consistent : before.Consistent) (known : before.Known) :
    before.firewall = true := by
  rcases known with held | orphan
  · obtain ⟨guard, isGuard⟩ := Option.isSome_iff_exists.mp held
    exact (consistent.held guard isGuard).2.1
  · exact consistent.orphan orphan

/-- Once the guard and the mark are given up, the firewall is accounted for only if it is down. -/
theorem held_lifted {works : Bool} (ks : after.app.ks = none) (ksOrphan : after.app.ksOrphan = false)
    (noTask : after.tasks = []) (lifted : after.firewall = !works) : after.Held ↔ works = true := by
  have unknown : ¬ after.Known := by
    unfold Known
    rw [ks, ksOrphan]
    simp
  constructor
  · intro held
    by_contra fails
    exact unknown (held.known noTask (lifted.trans (by rw [Bool.eq_false_of_not_eq_true fails]; rfl)))
  · intro works engaged
    rw [lifted, works] at engaged
    cases engaged

/-- A step of a connect task. -/
theorem held_advanced {index : Nat} {calls : TaskCalls} {task next : ConnectTask Addr}
    (consistent : before.Consistent) (held : before.Held) (found : before.tasks[index]? = some task)
    (advance : Advance calls before.firewall task next after.firewall) (app : after.app = before.app)
    (tasks : after.tasks = before.tasks.set index next) : after.Held ↔ before.Meets (.task index calls) := by
  obtain ⟨only, rfl, _⟩ := consistent.only found
  have nextOnly : after.tasks = [next] := by rw [tasks, only, List.set_cons_zero]
  have known : after.Known ↔ before.Known := known_congr (congrArg App.ks app) (congrArg App.ksOrphan app)
  have isTask : ∀ config server, before.tasks[0]? = some (.engaging config server 0) →
      task = .engaging config server 0 := fun config server same =>
    Option.some.inj (found.symm.trans same)
  have engaging : next.engages = true → after.Held := fun engages _ =>
    .inl ⟨next, by rw [nextOnly]; exact List.mem_singleton_self next, engages⟩
  generalize isLeft : after.firewall = left at advance
  cases advance with
  | quiet settled engages guard =>
    refine iff_of_true ?_ fun config server same => absurd (isTask config server same) (settled _ _ _)
    intro engaged
    rcases held.engages only (isLeft.symm.trans engaged) with own | already
    · exact engaging (engages own) engaged
    · exact .inr (known.mpr already)
  | engaged rules succeeds =>
    refine iff_of_true (engaging rfl) ?_
    intro config server same fails
    cases isTask config server same
    rw [succeeds] at fails
    cases fails
  | retried =>
    refine iff_of_true (engaging rfl) ?_
    intro config server same
    cases isTask config server same
  | @refused config server e fails =>
    constructor
    · intro accounted config' server' same _
      cases isTask config' server' same
      by_cases engaged : (before.firewall || calls.engage.takesEffect config.tunName) = true
      · rcases accounted (isLeft.trans engaged) with ⟨other, mem, engages⟩ | after
        · rw [nextOnly] at mem
          obtain rfl := List.mem_singleton.mp mem
          cases engages
        · exact .inr (known.mp after)
      · exact .inl (Bool.or_eq_false_iff.mp (Bool.eq_false_of_not_eq_true engaged))
    · intro meets engaged
      rcases meets _ _ found fails with ⟨off, harmless⟩ | already
      · rw [isLeft, off, harmless] at engaged
        cases engaged
      · exact .inr (known.mpr already)

/-- **An engaged firewall stays accounted for** exactly when the step meets the condition. -/
theorem Change.held_iff (change : Change before after event) (consistent : before.Consistent)
    (held : before.Held) : after.Held ↔ before.Meets event := by
  cases change with
  | quiet harmless same firewall tasks =>
    refine iff_of_true ?_ harmless
    unfold Held
    rw [firewall, tasks, known_congr same.ks same.ksOrphan]
    exact held
  | started config server wantKillSwitch idle connecting ks ksOrphan firewall tasks =>
    refine iff_of_true ?_ trivial
    intro engaged
    rw [firewall] at engaged
    exact .inr ((known_congr ks ksOrphan).mpr (held.known (consistent.tasks_nil idle) engaged))
  | advanced found advance app tasks =>
    exact held_advanced consistent held found (advance_cases advance) app tasks
  | @delivered index calls outcome found idle ks ksOrphan firewall tasks =>
    refine iff_of_true ?_ trivial
    obtain ⟨only, rfl, _⟩ := consistent.only found
    intro engaged
    rw [firewall] at engaged
    refine .inr ?_
    unfold Known
    rw [ks, ksOrphan]
    rcases held.engages only engaged with engages | known
    · have back : (carried outcome.ks).isSome = true := engages
      obtain ⟨guard, isGuard⟩ := Option.isSome_iff_exists.mp back
      rw [isGuard]
      exact .inl rfl
    · by_cases back : (carried outcome.ks).isSome = true
      · obtain ⟨guard, isGuard⟩ := Option.isSome_iff_exists.mp back
        rw [isGuard]
        exact .inl rfl
      · rw [Option.not_isSome_iff_eq_none.mp back, Option.none_or, Option.isNone_none, Bool.and_true]
        exact known
  | @disconnected calls guard isHeld idle connecting ks ksOrphan firewall tasks =>
    obtain ⟨guardEngaged, engaged, orphan⟩ := consistent.held _ isHeld
    have lifted : after.firewall = !calls.teardown := by
      rw [firewall, KillSwitch.disengage, if_pos guardEngaged, engaged]
      exact Bool.true_and _
    rw [held_lifted ks (ksOrphan.trans orphan) (tasks.trans (consistent.tasks_nil idle)) lifted]
    exact ⟨fun works _ => works, fun works => works (by rw [isHeld]; rfl)⟩
  | @disabled calls stranded connecting ks ksOrphan firewall tasks =>
    obtain ⟨idle, known⟩ := ksStranded_iff.mp stranded
    have engaged : before.firewall = true := consistent.engaged_of_known known
    have lifted : after.firewall = !calls.teardown := by
      rw [firewall, engaged]
      exact Bool.true_and _
    exact held_lifted ks ksOrphan (tasks.trans (consistent.tasks_nil idle.2)) lifted

/-- An engaged firewall that is accounted for can be lifted. -/
theorem Consistent.recoverable (consistent : after.Consistent) (held : after.Held) : after.Recoverable := by
  intro engaged noClient idle
  exact ksStranded_iff.mpr ⟨⟨noClient, idle⟩, held.known (consistent.tasks_nil idle) engaged⟩

/-- **The switch never strands the user** exactly in the runs whose steps all meet the condition: every
teardown works, and no attempt to engage that fails for good leaves the firewall engaged unknown to the
application. -/
theorem kill_switch_never_strands (text : AddrText Addr) (firewall : Bool) (events : List (Event Addr)) :
    NeverStrands text (launch firewall) events ↔
      Along (step text) (fun before event _ => before.Meets event) (launch firewall) events := by
  have consistent : (launch firewall : World Addr).Consistent := consistent_launch firewall
  have held : (launch firewall : World Addr).Held := fun engaged => .inr (.inr engaged)
  refine (and_iff_right ⟨held, consistent.recoverable held⟩).trans ?_
  refine along_congr (fun world => world.Consistent ∧ world.Held) ?_ ?_ ⟨consistent, held⟩
  · rintro before event after ⟨consistent, held⟩ taken
    have change := change_of_step taken
    constructor
    · rintro ⟨_, stays, _⟩
      exact (change.held_iff consistent held).mp stays
    · intro meets
      have stays := (change.held_iff consistent held).mpr meets
      exact ⟨change.lifts, stays, (change.consistent consistent).recoverable stays⟩
  · rintro before event after ⟨consistent, _⟩ taken ⟨_, stays, _⟩
    exact ⟨(change_of_step taken).consistent consistent, stays⟩

/-- Addresses as they are written. -/
def written : AddrText String := ⟨some, id⟩

/-- A full-tunnel configuration that asks for the kill switch. -/
def fullTunnel : ClientConfig String where
  identity :=
    { ed25519SeedHex := "0101010101010101010101010101010101010101010101010101010101010101"
      peerEd25519PubHex := "0909090909090909090909090909090909090909090909090909090909090909"
      mldsaSecretHex := none
      peerMldsaPubHex := none }
  tun := { mtu := 1232, routeAll := true, killSwitch := true, dns := [] }
  obfuscation := { enabled := true, padding := .bucketed, handshake := false, pskHex := none }
  traffic :=
    { profile := .off, enabled := false, mode := .adaptive, ratePps := 256, burst := 2
      cooldownMs := 500, coverBudgetPackets := 64, coverRatio := 0.25 }
  serverAddr := some "203.0.113.7:51820"
  tunName := "chameleon0"

/-- Every call works, but for the teardown. -/
def teardownFails : Calls String where
  loaded := .ok fullTunnel
  status := ⟨true, "1"⟩
  teardown := false

/-- **A failed teardown strands the user**: a tunnel is up with its switch engaged, the user disconnects, and
the guard is given up although the firewall stays engaged. -/
theorem failed_teardown_strands :
    let attempt : TaskCalls := ⟨.ok (), .installed none, .ok ()⟩
    ¬ NeverStrands written (launch false) [.message .loadConfig teardownFails,
      .message .connect teardownFails, .task 0 attempt, .task 0 attempt, .task 0 attempt,
      .result 0 teardownFails, .message .disconnect teardownFails] := by
  rintro attempt ⟨_, along⟩
  obtain ⟨_, _, _, _, _, _, ⟨_, held, _⟩, _⟩ := along
  rcases held rfl with ⟨task, mem, _⟩ | guard | orphan
  · cases mem
  · cases guard
  · cases orphan

end World

end ChameleonPQ
