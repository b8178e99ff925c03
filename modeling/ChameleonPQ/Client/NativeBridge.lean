/-
**The traffic profile of the Android app (`rust-jni/src/lib.rs`).**

The bridge keeps the client, the traffic settings of its session and the chosen profile behind three mutexes. Each
call locks one at a time, and calls come from several coroutines.

* `NativeBridge.advance` — a call, one lock or the connection attempt at a time.
* `NativeBridge.step` — any order of them.
* `told_bounded` — what a tunnel is ever told has a short cooldown and a slot rate.
* `Apart` — no profile is stored while a start has read the one before it; `InForce` — the running tunnel has the
  chosen profile.
* `profile_in_force` — in every run whose calls keep apart, the choice is in force once no call is at it.
-/

import ChameleonPQ.Config
import ChameleonPQ.Library.Runs

namespace ChameleonPQ

open Library.Runs

/-! ### What Android makes of a configuration -/

/-- `ANDROID_MAX_COOLDOWN_MS`. -/
def androidMaxCooldownMs : UInt64 := 100

/-- `effective_dns`. -/
def TunConfig.effectiveDns (tun : TunConfig) : List String :=
  if tun.dns = [] then ["1.1.1.1", "1.0.0.1"] else tun.dns

/-- `androidize`. -/
def AppConfig.androidize (config : AppConfig) : AppConfig :=
  { config with
    tun := { config.tun with routeAll := false, killSwitch := false, dns := config.tun.effectiveDns }
    traffic := { config.traffic with
      cooldownMs :=
        if config.traffic.cooldownMs > androidMaxCooldownMs then androidMaxCooldownMs
        else config.traffic.cooldownMs } }

/-- `parse_profile`. -/
def parseProfile (name : String) : Option TrafficProfile :=
  if name = "off" then some .off
  else if name = "balanced" then some .balanced
  else if name = "throughput" then some .throughput
  else if name = "stealth" then some .stealth
  else none

/-! ### The calls -/

/-- A call of the bridge, by what it does next. -/
inductive BridgeCall where
  /-- `nativeStart`, before it looks at `CLIENT`. -/
  | checking (config : AppConfig)
  /-- Before it looks at `PROFILE_OVERRIDE`. -/
  | overriding (config : AppConfig)
  /-- In `Client::connect`, or a step before it that may fail. -/
  | connecting (traffic : TrafficConfig)
  /-- Connected, before it stores `TRAFFIC`. -/
  | storingTraffic (traffic : TrafficConfig) (client : Nat)
  /-- Before it stores `CLIENT`. -/
  | storingClient (client : Nat)
  /-- `nativeStop`, before it clears `TRAFFIC`. -/
  | clearing
  /-- Before it takes `CLIENT`, which it then disconnects. -/
  | taking
  /-- `nativeSetProfile`, before it stores `PROFILE_OVERRIDE`. -/
  | storingOverride (profile : TrafficProfile)
  /-- Before it looks at `CLIENT`. -/
  | reading (profile : TrafficProfile)
  /-- Before it locks `TRAFFIC`, with the client it has found. -/
  | applying (profile : TrafficProfile) (client : Option Nat)
  | returned (ok : Bool)

namespace BridgeCall

/-- A start that has read the chosen profile, and is not the client yet. -/
def isStarting : BridgeCall → Bool
  | connecting _ | storingTraffic _ _ | storingClient _ => true
  | _ => false

/-- A choice that is stored and not applied yet. -/
def isSetting : BridgeCall → Bool
  | reading _ | applying _ _ => true
  | _ => false

/-- A stop that has cleared the settings, and has not taken the client yet. -/
def isStopping : BridgeCall → Bool
  | taking => true
  | _ => false

/-- A start that is about to be the client. -/
def isAttaching : BridgeCall → Bool
  | storingClient _ => true
  | _ => false

end BridgeCall

/-- The statics of the bridge, and the calls in it. -/
structure NativeBridge where
  /-- `CLIENT`. -/
  client : Option Nat
  /-- `TRAFFIC`. -/
  traffic : Option TrafficConfig
  /-- `PROFILE_OVERRIDE`. -/
  profileOverride : Option TrafficProfile
  /-- What the tunnel of each client was told last. -/
  tunnels : List EffectiveTraffic
  calls : List BridgeCall

/-- A call, or the next thing a call does. -/
inductive BridgeEvent where
  | nativeStart (config : AppConfig)
  | nativeStop
  | nativeSetProfile (name : String)
  /-- `ok`: the connection comes about. -/
  | advance (index : Nat) (ok : Bool)

namespace NativeBridge

/-- The process has started. -/
def new : NativeBridge := ⟨none, none, none, [], []⟩

section Steps

variable (bridge : NativeBridge)

/-- The settings a start connects with. -/
def startTraffic (config : AppConfig) : TrafficConfig :=
  match bridge.profileOverride with
  | some profile => { config.traffic with profile }
  | none => config.traffic

/-- A call goes on. -/
def advance (ok : Bool) : BridgeCall → Option (NativeBridge × BridgeCall)
  | .checking config =>
    match bridge.client, config.validate with
    | none, .ok () => some (bridge, .overriding config.androidize)
    | _, _ => some (bridge, .returned false)
  | .overriding config => some (bridge, .connecting (bridge.startTraffic config))
  | .connecting traffic =>
    if ok then
      some ({ bridge with tunnels := bridge.tunnels ++ [traffic.effective] },
        .storingTraffic traffic bridge.tunnels.length)
    else some (bridge, .returned false)
  | .storingTraffic traffic client => some ({ bridge with traffic := some traffic }, .storingClient client)
  | .storingClient client => some ({ bridge with client := some client }, .returned true)
  | .clearing => some ({ bridge with traffic := none }, .taking)
  | .taking => some ({ bridge with client := none }, .returned true)
  | .storingOverride profile => some ({ bridge with profileOverride := some profile }, .reading profile)
  | .reading profile => some (bridge, .applying profile bridge.client)
  | .applying profile client =>
    match client, bridge.traffic with
    | some client, some traffic =>
      let switched : TrafficConfig := { traffic with profile }
      some ({ bridge with traffic := some switched, tunnels := bridge.tunnels.set client switched.effective },
        .returned true)
    | _, _ => some (bridge, .returned true)
  | .returned _ => none

/-- One step; `none` when it is not enabled. -/
def step : BridgeEvent → Option NativeBridge
  | .nativeStart config => some { bridge with calls := bridge.calls ++ [.checking config] }
  | .nativeStop => some { bridge with calls := bridge.calls ++ [.clearing] }
  | .nativeSetProfile name =>
    match parseProfile name with
    | some profile => some { bridge with calls := bridge.calls ++ [.storingOverride profile] }
    | none => some { bridge with calls := bridge.calls ++ [.returned false] }
  | .advance index ok =>
    match bridge.calls[index]? with
    | none => none
    | some call =>
      (bridge.advance ok call).map fun (after, next) => { after with calls := after.calls.set index next }

end Steps

variable {bridge after : NativeBridge} {index : Nat} {call next : BridgeCall} {ok : Bool}

/-- A step is a new call, or what one call does next. -/
theorem step_cases {event : BridgeEvent} (taken : bridge.step event = some after) :
    (∃ call, after = { bridge with calls := bridge.calls ++ [call] } ∧
      ((∃ config, call = .checking config) ∨ call = .clearing ∨
        (∃ name profile, parseProfile name = some profile ∧ call = .storingOverride profile) ∨
          call = .returned false)) ∨
    ∃ index ok call statics next, event = .advance index ok ∧ bridge.calls[index]? = some call ∧
      bridge.advance ok call = some (statics, next) ∧
        after = { statics with calls := statics.calls.set index next } := by
  cases event with
  | nativeStart config => exact .inl ⟨_, (Option.some.inj taken).symm, .inl ⟨config, rfl⟩⟩
  | nativeStop => exact .inl ⟨_, (Option.some.inj taken).symm, .inr (.inl rfl)⟩
  | nativeSetProfile name =>
    simp only [step] at taken
    split at taken
    · rename_i profile parsed
      exact .inl ⟨_, (Option.some.inj taken).symm, .inr (.inr (.inl ⟨name, profile, parsed, rfl⟩))⟩
    · exact .inl ⟨_, (Option.some.inj taken).symm, .inr (.inr (.inr rfl))⟩
  | advance index ok =>
    simp only [step] at taken
    split at taken
    · cases taken
    · rename_i call found
      obtain ⟨⟨statics, next⟩, advances, same⟩ := Option.map_eq_some_iff.mp taken
      exact .inr ⟨index, ok, call, statics, next, rfl, found, advances, same.symm⟩

/-! ### What a tunnel is told -/

/-- Settings with a short cooldown and, where they are the user's own, a slot rate. -/
structure Shaped (traffic : TrafficConfig) : Prop where
  cooldown : traffic.cooldownMs ≤ androidMaxCooldownMs
  rated : traffic.profile = .custom → traffic.enabled = true → 1 ≤ traffic.ratePps ∧ 1 ≤ traffic.burst

/-- What such settings come to. -/
structure Bounded (told : EffectiveTraffic) : Prop where
  cooldown : told.cooldownMs ≤ androidMaxCooldownMs
  rated : told.enabled = true → 1 ≤ told.ratePps ∧ 1 ≤ told.burst

theorem Shaped.effective {traffic : TrafficConfig} (shaped : Shaped traffic) : Bounded traffic.effective := by
  obtain ⟨cooldown, rated⟩ := shaped
  unfold TrafficConfig.effective
  cases profile : traffic.profile with
  | stealth => exact ⟨cooldown, fun _ => ⟨(by decide : (1 : UInt32) ≤ 256), (by decide : (1 : UInt16) ≤ 2)⟩⟩
  | balanced => exact ⟨cooldown, fun _ => ⟨(by decide : (1 : UInt32) ≤ 3000), (by decide : (1 : UInt16) ≤ 4)⟩⟩
  | throughput => exact ⟨cooldown, fun _ => ⟨(by decide : (1 : UInt32) ≤ 6000), (by decide : (1 : UInt16) ≤ 8)⟩⟩
  | off => exact ⟨cooldown, nofun⟩
  | custom => exact ⟨cooldown, rated profile⟩

/-- Choosing a preset keeps them so. -/
theorem Shaped.withProfile {traffic : TrafficConfig} (shaped : Shaped traffic) {profile : TrafficProfile}
    (preset : profile ≠ .custom) : Shaped { traffic with profile } :=
  ⟨shaped.cooldown, fun custom => absurd custom preset⟩

theorem shaped_androidize {config : AppConfig} (accepted : config.validate = .ok ()) :
    Shaped config.androidize.traffic := by
  refine ⟨?_, fun custom enabled => ?_⟩
  · unfold AppConfig.androidize
    dsimp only
    split
    · exact UInt64.le_refl _
    · rename_i short
      exact UInt64.not_lt.mp short
  · have custom : config.traffic.profile = .custom := custom
    have enabled : config.traffic.enabled = true := enabled
    obtain ⟨-, rate, burst⟩ := (AppConfig.accepted_of_validate accepted).shaped (by
      unfold TrafficConfig.effective
      rw [custom]
      exact enabled)
    unfold TrafficConfig.effective at rate burst
    rw [custom] at rate burst
    exact ⟨UInt32.not_lt.mp rate, UInt16.not_lt.mp burst⟩

theorem parseProfile_preset {name : String} {profile : TrafficProfile} (parsed : parseProfile name = some profile) :
    profile ≠ .custom := by
  unfold parseProfile at parsed
  repeat' split at parsed
  all_goals
    cases parsed
  all_goals nofun

/-- What a call holds. -/
def CallTame : BridgeCall → Prop
  | .overriding config => Shaped config.traffic
  | .connecting traffic | .storingTraffic traffic _ => Shaped traffic
  | .storingOverride profile | .reading profile | .applying profile _ => profile ≠ .custom
  | .checking _ | .storingClient _ | .clearing | .taking | .returned _ => True

/-- **Everything at rest and under way is shaped.** -/
structure Tame (bridge : NativeBridge) : Prop where
  traffic : ∀ traffic, bridge.traffic = some traffic → Shaped traffic
  chosen : ∀ profile, bridge.profileOverride = some profile → profile ≠ .custom
  told : ∀ told ∈ bridge.tunnels, Bounded told
  calls : ∀ call ∈ bridge.calls, CallTame call

theorem tame_new : new.Tame where
  traffic := fun _ none => by cases none
  chosen := fun _ none => by cases none
  told := fun _ none => by cases none
  calls := fun _ none => by cases none

/-- What one call does next. -/
theorem Tame.advance (tame : bridge.Tame) (held : CallTame call) {statics : NativeBridge}
    (advances : bridge.advance ok call = some (statics, next)) : statics.Tame ∧ CallTame next := by
  cases call with
  | checking config =>
    simp only [NativeBridge.advance] at advances
    split at advances
    · rename_i accepted
      obtain ⟨rfl, rfl⟩ := Prod.mk.inj (Option.some.inj advances)
      exact ⟨tame, shaped_androidize accepted⟩
    · obtain ⟨rfl, rfl⟩ := Prod.mk.inj (Option.some.inj advances)
      exact ⟨tame, trivial⟩
  | overriding config =>
    obtain ⟨rfl, rfl⟩ := Prod.mk.inj (Option.some.inj advances)
    refine ⟨tame, ?_⟩
    show Shaped (bridge.startTraffic config)
    unfold startTraffic
    split
    · rename_i profile chosen
      exact Shaped.withProfile held (tame.chosen profile chosen)
    · exact held
  | connecting traffic =>
    simp only [NativeBridge.advance] at advances
    split at advances
    · obtain ⟨rfl, rfl⟩ := Prod.mk.inj (Option.some.inj advances)
      refine ⟨{ tame with told := fun told member => ?_ }, held⟩
      rcases List.mem_append.mp member with old | new
      · exact tame.told told old
      · exact List.mem_singleton.mp new ▸ Shaped.effective held
    · obtain ⟨rfl, rfl⟩ := Prod.mk.inj (Option.some.inj advances)
      exact ⟨tame, trivial⟩
  | storingTraffic traffic client =>
    obtain ⟨rfl, rfl⟩ := Prod.mk.inj (Option.some.inj advances)
    exact ⟨{ tame with traffic := fun other same => Option.some.inj same ▸ held }, trivial⟩
  | storingClient client =>
    obtain ⟨rfl, rfl⟩ := Prod.mk.inj (Option.some.inj advances)
    exact ⟨⟨tame.traffic, tame.chosen, tame.told, tame.calls⟩, trivial⟩
  | clearing =>
    obtain ⟨rfl, rfl⟩ := Prod.mk.inj (Option.some.inj advances)
    exact ⟨{ tame with traffic := nofun }, trivial⟩
  | taking =>
    obtain ⟨rfl, rfl⟩ := Prod.mk.inj (Option.some.inj advances)
    exact ⟨⟨tame.traffic, tame.chosen, tame.told, tame.calls⟩, trivial⟩
  | storingOverride profile =>
    obtain ⟨rfl, rfl⟩ := Prod.mk.inj (Option.some.inj advances)
    exact ⟨{ tame with chosen := fun other same => Option.some.inj same ▸ held }, held⟩
  | reading profile =>
    obtain ⟨rfl, rfl⟩ := Prod.mk.inj (Option.some.inj advances)
    exact ⟨tame, held⟩
  | applying profile client =>
    simp only [NativeBridge.advance] at advances
    split at advances
    · rename_i client traffic stored
      obtain ⟨rfl, rfl⟩ := Prod.mk.inj (Option.some.inj advances)
      have switched := (tame.traffic traffic stored).withProfile held
      refine ⟨⟨fun other same => Option.some.inj same ▸ switched, tame.chosen, fun told member => ?_, tame.calls⟩,
        trivial⟩
      rcases List.mem_or_eq_of_mem_set member with old | rfl
      · exact tame.told told old
      · exact switched.effective
    · obtain ⟨rfl, rfl⟩ := Prod.mk.inj (Option.some.inj advances)
      exact ⟨tame, trivial⟩
  | returned ok => cases advances

/-- **The step lemma.** -/
theorem tame_step {event : BridgeEvent} (tame : bridge.Tame) (taken : bridge.step event = some after) :
    after.Tame := by
  rcases step_cases taken with ⟨call, rfl, kind⟩ | ⟨index, ok, call, statics, next, rfl, found, advances, rfl⟩
  · refine { tame with calls := fun other member => ?_ }
    rcases List.mem_append.mp member with old | new
    · exact tame.calls other old
    · obtain rfl := List.mem_singleton.mp new
      rcases kind with ⟨config, rfl⟩ | rfl | ⟨name, profile, parsed, rfl⟩ | rfl
      · trivial
      · trivial
      · exact parseProfile_preset parsed
      · trivial
  · obtain ⟨kept, held⟩ := tame.advance (tame.calls call (List.mem_of_getElem? found)) advances
    refine { kept with calls := fun other member => ?_ }
    rcases List.mem_or_eq_of_mem_set member with old | rfl
    · exact kept.calls other old
    · exact held

/-- **What a tunnel is ever told** has a short cooldown and, where it is paced, a slot rate: in every run, however
the calls interleave. -/
theorem told_bounded {events : List BridgeEvent} {last : NativeBridge} (run : Run (Taken step) new events last) :
    ∀ told ∈ last.tunnels, Bounded told :=
  (run.invariant Tame (fun _ _ _ tame taken => tame_step tame taken) tame_new).told

/-- A configuration with its own settings. -/
def sampleShaped : AppConfig where
  identity :=
    { ed25519SeedHex := "0101010101010101010101010101010101010101010101010101010101010101"
      peerEd25519PubHex := "0909090909090909090909090909090909090909090909090909090909090909"
      mldsaSecretHex := none
      peerMldsaPubHex := none }
  tun := { mtu := 1200, routeAll := true, killSwitch := true, dns := [] }
  obfuscation := { enabled := true, padding := .full, handshake := true, pskHex := none }
  traffic :=
    { profile := .custom, enabled := true, mode := .adaptive, ratePps := 500, burst := 2
      cooldownMs := 500, coverBudgetPackets := 64, coverRatio := 0.25 }

/-- A start, with nothing else under way. -/
def sampleStart : List BridgeEvent :=
  .nativeStart sampleShaped :: List.replicate 5 (.advance 0 true)

/-- The client it leaves running. -/
def sampleRunning : NativeBridge where
  client := some 0
  traffic := some sampleShaped.androidize.traffic
  profileOverride := none
  tunnels := [sampleShaped.androidize.traffic.effective]
  calls := [.returned true]

theorem told_bounded_sample : ∃ last, Run (Taken step) new sampleStart last ∧
    last.tunnels.map (fun told => (told.cooldownMs, told.ratePps)) = [(100, 500)] ∧
      ∀ told ∈ last.tunnels, Bounded told :=
  have run : Run (Taken step) new sampleStart sampleRunning := run_of_execute rfl
  ⟨_, run, by rfl, told_bounded run⟩

/-! ### The chosen profile -/

/-- The tunnel of a client has the chosen profile. -/
def Tells (bridge : NativeBridge) (client : Nat) : Prop :=
  ∀ profile, bridge.profileOverride = some profile →
    ∃ told, bridge.tunnels[client]? = some told ∧ told.profile = profile

/-- **The running tunnel has the chosen profile.** -/
def InForce (bridge : NativeBridge) : Prop := ∀ client, bridge.client = some client → bridge.Tells client

/-- No profile is stored while a start has read the one before it or another choice is under way, and no stop clears
the settings of a start that is about to be the client. -/
def Apart (bridge : NativeBridge) : BridgeEvent → Prop
  | .advance index _ =>
    match bridge.calls[index]? with
    | some (.storingOverride _) => ∀ call ∈ bridge.calls, call.isStarting = false ∧ call.isSetting = false
    | some .clearing => ∀ call ∈ bridge.calls, call.isAttaching = false
    | _ => True
  | _ => True

/-- A choice that will reach the client. -/
def Reaches (client : Nat) : BridgeCall → Prop
  | .reading _ => True
  | .applying _ found => found = some client
  | _ => False

/-- What a call has read still holds. -/
def CallFits (bridge : NativeBridge) : BridgeCall → Prop
  | .connecting traffic => ∀ profile, bridge.profileOverride = some profile → traffic.profile = profile
  | .storingTraffic traffic client =>
    (∀ profile, bridge.profileOverride = some profile → traffic.profile = profile) ∧
      client < bridge.tunnels.length ∧ bridge.Tells client
  | .storingClient client =>
    client < bridge.tunnels.length ∧ bridge.Tells client ∧ bridge.traffic.isSome = true
  | .reading profile | .applying profile _ => bridge.profileOverride = some profile
  | .checking _ | .overriding _ | .clearing | .taking | .storingOverride _ | .returned _ => True

/-- **The choice is in force, or somebody is at it.** -/
structure Followed (bridge : NativeBridge) : Prop where
  fits : ∀ call ∈ bridge.calls, bridge.CallFits call
  known : ∀ client, bridge.client = some client → client < bridge.tunnels.length
  backed : ∀ client, bridge.client = some client →
    bridge.traffic.isSome = true ∨ ∃ call ∈ bridge.calls, call.isStopping = true
  told : ∀ client, bridge.client = some client → bridge.Tells client ∨
    (∃ call ∈ bridge.calls, Reaches client call) ∨ ∃ call ∈ bridge.calls, call.isStopping = true

theorem followed_new : new.Followed where
  fits := fun _ none => by cases none
  known := fun _ none => by cases none
  backed := fun _ none => by cases none
  told := fun _ none => by cases none

/-- A preset or the user's own: the tunnel is told which. -/
theorem effective_profile (traffic : TrafficConfig) : traffic.effective.profile = traffic.profile := by
  unfold TrafficConfig.effective
  cases traffic.profile <;> rfl

/-- Another tunnel comes about. -/
theorem Tells.append {client : Nat} (tells : bridge.Tells client) (told : EffectiveTraffic) :
    Tells { bridge with tunnels := bridge.tunnels ++ [told] } client := by
  intro profile chosen
  obtain ⟨before, here, same⟩ := tells profile chosen
  exact ⟨before, (List.getElem?_append_left (List.getElem?_eq_some_iff.mp here).1).trans here, same⟩

/-- A tunnel that is told the choice has it. -/
theorem tells_set {client : Nat} {told : EffectiveTraffic} (right : bridge.profileOverride = some told.profile)
    (inside : client < bridge.tunnels.length) :
    Tells { bridge with tunnels := bridge.tunnels.set client told } client := by
  intro profile chosen
  exact ⟨told, List.getElem?_set_self inside, Option.some.inj (right.symm.trans chosen)⟩

/-- The others keep it. -/
theorem Tells.set {other : Nat} (tells : bridge.Tells other) {told : EffectiveTraffic}
    (right : bridge.profileOverride = some told.profile) (client : Nat) :
    Tells { bridge with tunnels := bridge.tunnels.set client told } other := by
  by_cases same : client = other
  · obtain ⟨before, here, -⟩ := tells told.profile right
    rw [same]
    exact tells_set right (List.getElem?_eq_some_iff.mp here).1
  · intro profile chosen
    obtain ⟨before, here, known⟩ := tells profile chosen
    exact ⟨before, (List.getElem?_set_ne same).trans here, known⟩

/-- A call that goes on takes none of the others away. -/
theorem exists_set {calls : List BridgeCall} (found : calls[index]? = some call) (next : BridgeCall)
    {holds : BridgeCall → Prop} (other : ¬ holds call) (among : ∃ call ∈ calls, holds call) :
    ∃ call ∈ calls.set index next, holds call := by
  obtain ⟨held, member, isHeld⟩ := among
  obtain ⟨j, inside, here⟩ := List.getElem_of_mem member
  have apart : index ≠ j := by
    rintro rfl
    have same : held = call := by
      rw [List.getElem?_eq_getElem inside, here] at found
      exact Option.some.inj found
    exact other (same ▸ isHeld)
  refine ⟨held, ?_, isHeld⟩
  have kept : (calls.set index next)[j]? = some held := by
    rw [List.getElem?_set_ne apart, List.getElem?_eq_getElem inside, here]
  exact List.mem_of_getElem? kept

theorem mem_set_self {calls : List BridgeCall} (found : calls[index]? = some call) (next : BridgeCall) :
    next ∈ calls.set index next :=
  List.mem_set (List.getElem?_eq_some_iff.mp found).1 next

/-- What a call has read stays so where the choice stays, and no tunnel is told less. -/
theorem CallFits.keep {statics : NativeBridge} (fits : bridge.CallFits call)
    (chosen : statics.profileOverride = bridge.profileOverride)
    (longer : bridge.tunnels.length ≤ statics.tunnels.length)
    (tells : ∀ client, bridge.Tells client → statics.Tells client)
    (backed : call.isAttaching = true → bridge.traffic.isSome = true → statics.traffic.isSome = true) :
    statics.CallFits call := by
  cases call with
  | connecting traffic => exact fun profile held => fits profile (chosen ▸ held)
  | storingTraffic traffic client =>
    exact ⟨fun profile held => fits.1 profile (chosen ▸ held), Nat.lt_of_lt_of_le fits.2.1 longer,
      tells client fits.2.2⟩
  | storingClient client =>
    exact ⟨Nat.lt_of_lt_of_le fits.1 longer, tells client fits.2.1, backed rfl fits.2.2⟩
  | reading profile | applying profile client => exact chosen.trans fits
  | checking config | overriding config | clearing | taking | storingOverride profile | returned ok => trivial

/-- The other calls still fit. -/
theorem Followed.others (followed : bridge.Followed) {statics : NativeBridge} (nextFits : statics.CallFits next)
    (keeps : ∀ call ∈ bridge.calls, bridge.CallFits call → statics.CallFits call) :
    ∀ call ∈ bridge.calls.set index next, statics.CallFits call := by
  intro other member
  rcases List.mem_or_eq_of_mem_set member with old | rfl
  · exact keeps other old (followed.fits other old)
  · exact nextFits

/-- **A call that changes none of the statics.** -/
theorem Followed.goto (followed : bridge.Followed) (found : bridge.calls[index]? = some call)
    (nextFits : bridge.CallFits next) (stays : call.isStopping = false)
    (reaches : ∀ client, bridge.client = some client → Reaches client call → bridge.Tells client ∨
      Reaches client next ∨ ∃ call ∈ bridge.calls, call.isStopping = true) :
    Followed { bridge with calls := bridge.calls.set index next } := by
  have running : ¬ call.isStopping = true := by
    rw [stays]
    decide
  refine ⟨followed.others nextFits fun _ _ fits => fits, followed.known, fun client held => ?_,
    fun client held => ?_⟩
  · exact (followed.backed client held).imp_right (exists_set found next running)
  · rcases followed.told client held with tells | reached | stopping
    · exact .inl tells
    · by_cases mine : Reaches client call
      · rcases reaches client held mine with tells | onwards | stopping
        · exact .inl tells
        · exact .inr (.inl ⟨next, mem_set_self found next, onwards⟩)
        · exact .inr (.inr (exists_set found next running stopping))
      · exact .inr (.inl (exists_set found next mine reached))
    · exact .inr (.inr (exists_set found next running stopping))

/-- **What one call does next.** -/
theorem Followed.advance (followed : bridge.Followed) (found : bridge.calls[index]? = some call)
    (apart : bridge.Apart (.advance index ok)) {statics : NativeBridge}
    (advances : bridge.advance ok call = some (statics, next)) :
    Followed { statics with calls := statics.calls.set index next } := by
  have mine := followed.fits call (List.mem_of_getElem? found)
  cases call with
  | checking config =>
    simp only [NativeBridge.advance] at advances
    split at advances
    all_goals
      obtain ⟨rfl, rfl⟩ := Prod.mk.inj (Option.some.inj advances)
      exact followed.goto found trivial rfl fun _ _ => False.elim
  | overriding config =>
    obtain ⟨rfl, rfl⟩ := Prod.mk.inj (Option.some.inj advances)
    refine followed.goto found (fun profile chosen => ?_) rfl fun _ _ => False.elim
    unfold startTraffic
    rw [chosen]
  | connecting traffic =>
    simp only [NativeBridge.advance] at advances
    split at advances
    · obtain ⟨rfl, rfl⟩ := Prod.mk.inj (Option.some.inj advances)
      -- the tunnel of the new client is told what the start has read
      have new : Tells { bridge with tunnels := bridge.tunnels ++ [traffic.effective] } bridge.tunnels.length := by
        intro profile chosen
        refine ⟨traffic.effective, ?_, (effective_profile traffic).trans (mine profile chosen)⟩
        exact (List.getElem?_append_right le_rfl).trans (by rw [Nat.sub_self]; rfl)
      have longer : bridge.tunnels.length ≤ (bridge.tunnels ++ [traffic.effective]).length := by
        rw [List.length_append]
        exact Nat.le_add_right _ _
      have stays : ¬ (BridgeCall.connecting traffic).isStopping = true := Bool.false_ne_true
      refine ⟨followed.others ⟨mine, by simp, new⟩ fun call _ fits => fits.keep rfl longer
        (fun _ tells => tells.append _) fun _ => id,
        fun client held => Nat.lt_of_lt_of_le (followed.known client held) longer, fun client held => ?_,
        fun client held => ?_⟩
      · exact (followed.backed client held).imp_right (exists_set found _ stays)
      · exact (followed.told client held).imp (Tells.append · _)
          (Or.imp (exists_set found _ id) (exists_set found _ stays))
    · obtain ⟨rfl, rfl⟩ := Prod.mk.inj (Option.some.inj advances)
      exact followed.goto found trivial rfl fun _ _ => False.elim
  | storingTraffic traffic client =>
    obtain ⟨rfl, rfl⟩ := Prod.mk.inj (Option.some.inj advances)
    have stays : ¬ (BridgeCall.storingTraffic traffic client).isStopping = true := Bool.false_ne_true
    refine ⟨followed.others ⟨mine.2.1, mine.2.2, rfl⟩ fun call _ fits => fits.keep rfl le_rfl (fun _ => id)
      fun _ _ => rfl, followed.known, fun _ _ => .inl rfl, fun other held => ?_⟩
    exact (followed.told other held).imp id (Or.imp (exists_set found _ id) (exists_set found _ stays))
  | storingClient client =>
    obtain ⟨rfl, rfl⟩ := Prod.mk.inj (Option.some.inj advances)
    refine ⟨followed.others trivial fun call _ fits => fits.keep rfl le_rfl (fun _ => id) fun _ => id, ?_, ?_, ?_⟩
    · intro other held
      exact Option.some.inj held ▸ mine.1
    · exact fun _ _ => .inl mine.2.2
    · intro other held
      exact .inl (Option.some.inj held ▸ mine.2.1)
  | clearing =>
    simp only [Apart, found] at apart
    obtain ⟨rfl, rfl⟩ := Prod.mk.inj (Option.some.inj advances)
    have stops : ∃ call ∈ bridge.calls.set index .taking, call.isStopping = true :=
      ⟨.taking, mem_set_self found _, rfl⟩
    refine ⟨followed.others trivial fun call member fits => fits.keep rfl le_rfl (fun _ => id) fun attaching => ?_,
      followed.known, fun _ _ => .inr stops, fun _ _ => .inr (.inr stops)⟩
    rw [apart call member] at attaching
    cases attaching
  | taking =>
    obtain ⟨rfl, rfl⟩ := Prod.mk.inj (Option.some.inj advances)
    refine ⟨followed.others trivial fun call _ fits => fits.keep rfl le_rfl (fun _ => id) fun _ => id, ?_, ?_, ?_⟩
    all_goals
      intro client held
      cases held
  | storingOverride profile =>
    simp only [Apart, found] at apart
    obtain ⟨rfl, rfl⟩ := Prod.mk.inj (Option.some.inj advances)
    have stays : ¬ (BridgeCall.storingOverride profile).isStopping = true := Bool.false_ne_true
    refine ⟨followed.others rfl fun call member _ => ?_, followed.known, fun client held => ?_, fun _ _ => ?_⟩
    · obtain ⟨starting, setting⟩ := apart call member
      cases call with
      | connecting traffic | storingTraffic traffic client | storingClient client => cases starting
      | reading profile | applying profile client => cases setting
      | checking config | overriding config | clearing | taking | storingOverride profile | returned ok => trivial
    · exact (followed.backed client held).imp_right (exists_set found _ stays)
    · exact .inr (.inl ⟨.reading profile, mem_set_self found _, trivial⟩)
  | reading profile =>
    obtain ⟨rfl, rfl⟩ := Prod.mk.inj (Option.some.inj advances)
    exact followed.goto found mine rfl fun client held _ => .inr (.inl held)
  | applying profile client =>
    have chosen : bridge.profileOverride = some profile := mine
    simp only [NativeBridge.advance] at advances
    split at advances
    · rename_i client traffic stored
      obtain ⟨rfl, rfl⟩ := Prod.mk.inj (Option.some.inj advances)
      have right : bridge.profileOverride =
          some (TrafficConfig.effective { traffic with profile }).profile := by
        rw [effective_profile]
        exact chosen
      have length : (bridge.tunnels.set client (TrafficConfig.effective { traffic with profile })).length =
          bridge.tunnels.length := List.length_set
      have stays : ¬ (BridgeCall.applying profile (some client)).isStopping = true := Bool.false_ne_true
      refine ⟨followed.others trivial fun call _ fits => fits.keep rfl (Nat.le_of_eq length.symm)
        (fun _ tells => tells.set right client) fun _ _ => rfl,
        fun other held => Nat.lt_of_lt_of_le (followed.known other held) (Nat.le_of_eq length.symm),
        fun _ _ => .inl rfl, fun other held => ?_⟩
      rcases followed.told other held with kept | reached | stopping
      · exact .inl (kept.set right client)
      · by_cases same : client = other
        · exact .inl (same ▸ tells_set right (same ▸ followed.known other held))
        · exact .inr (.inl (exists_set found _ (fun reaches => same (Option.some.inj reaches)) reached))
      · exact .inr (.inr (exists_set found _ stays stopping))
    · rename_i client _ _ unmatched
      obtain ⟨rfl, rfl⟩ := Prod.mk.inj (Option.some.inj advances)
      refine followed.goto found trivial rfl fun other held reached => ?_
      -- the settings are gone, so a stop is about to take the client
      have reached : client = some other := reached
      rcases followed.backed other held with stored | stopping
      · obtain ⟨traffic, stored⟩ := Option.isSome_iff_exists.mp stored
        exact absurd stored (unmatched other traffic reached)
      · exact .inr (.inr stopping)
  | returned ok => cases advances

/-- A new call disturbs nothing. -/
theorem Followed.called (followed : bridge.Followed) {fresh : BridgeCall} (fits : bridge.CallFits fresh) :
    Followed { bridge with calls := bridge.calls ++ [fresh] } := by
  have kept : ∀ {holds : BridgeCall → Prop}, (∃ call ∈ bridge.calls, holds call) →
      ∃ call ∈ bridge.calls ++ [fresh], holds call :=
    fun ⟨other, member, held⟩ => ⟨other, List.mem_append_left _ member, held⟩
  refine ⟨fun other member => ?_, followed.known, fun client held => (followed.backed client held).imp_right kept,
    fun client held => (followed.told client held).imp_right (Or.imp kept kept)⟩
  rcases List.mem_append.mp member with old | new
  · exact followed.fits other old
  · exact List.mem_singleton.mp new ▸ fits

/-- **The step lemma.** -/
theorem followed_step {event : BridgeEvent} (followed : bridge.Followed) (apart : bridge.Apart event)
    (taken : bridge.step event = some after) : after.Followed := by
  rcases step_cases taken with ⟨call, rfl, kind⟩ | ⟨index, ok, call, statics, next, rfl, found, advances, rfl⟩
  · refine followed.called ?_
    rcases kind with ⟨config, rfl⟩ | rfl | ⟨name, profile, parsed, rfl⟩ | rfl
    all_goals trivial
  · exact followed.advance found apart advances

/-- **The choice is in force** in every run whose calls keep apart, as soon as nobody is at it. -/
theorem profile_in_force {events : List BridgeEvent} {last : NativeBridge}
    (run : Run (Guarded Apart (Taken step)) new events last)
    (idle : ∀ call ∈ last.calls, call.isSetting = false ∧ call.isStopping = false) : last.InForce := by
  have followed : last.Followed :=
    run.invariant Followed (fun _ _ _ followed taken => followed_step followed taken.1 taken.2) followed_new
  intro client held
  rcases followed.told client held with tells | ⟨call, member, reaches⟩ | ⟨call, member, stopping⟩
  · exact tells
  · have setting := (idle call member).1
    cases call with
    | reading profile | applying profile found => cases setting
    | checking config | overriding config | connecting traffic | storingTraffic traffic client
    | storingClient client | clearing | taking | storingOverride profile | returned ok => exact reaches.elim
  · rw [(idle call member).2] at stopping
    cases stopping

/-- A start, and then a choice. -/
def sampleSwitch : List BridgeEvent :=
  sampleStart ++ .nativeSetProfile "stealth" :: List.replicate 3 (.advance 1 true)

theorem sampleSwitch_apart : ∃ last, Run (Guarded Apart (Taken step)) new sampleSwitch last ∧
    last.client = some 0 ∧ last.profileOverride = some .stealth ∧
      ∀ call ∈ last.calls, call.isSetting = false ∧ call.isStopping = false := by
  refine ⟨_, .next ⟨trivial, rfl⟩ <| .next ⟨trivial, rfl⟩ <| .next ⟨trivial, rfl⟩ <| .next ⟨trivial, rfl⟩ <|
    .next ⟨trivial, rfl⟩ <| .next ⟨trivial, rfl⟩ <| .next ⟨trivial, rfl⟩ <| .next ⟨?_, rfl⟩ <|
      .next ⟨trivial, rfl⟩ <| .next ⟨trivial, rfl⟩ <| .done _, rfl, rfl, ?_⟩
  · show ∀ call ∈ [BridgeCall.returned true, .storingOverride .stealth],
      call.isStarting = false ∧ call.isSetting = false
    simp [BridgeCall.isStarting, BridgeCall.isSetting]
  · show ∀ call ∈ [BridgeCall.returned true, .returned true], call.isSetting = false ∧ call.isStopping = false
    simp [BridgeCall.isSetting, BridgeCall.isStopping]

theorem profile_in_force_sample : ∃ last, Run (Guarded Apart (Taken step)) new sampleSwitch last ∧
    last.client = some 0 ∧ last.profileOverride = some .stealth ∧ last.InForce := by
  obtain ⟨last, run, client, chosen, idle⟩ := sampleSwitch_apart
  exact ⟨last, run, client, chosen, profile_in_force run idle⟩

/-- The choice that comes while a start is connecting is not in force afterwards. -/
example : ∃ last, Run (Taken step) new (.nativeStart sampleShaped :: List.replicate 2 (.advance 0 true) ++
    .nativeSetProfile "stealth" :: List.replicate 3 (.advance 1 true) ++ List.replicate 3 (.advance 0 true)) last ∧
      (∀ call ∈ last.calls, call = .returned true) ∧ ¬ last.InForce := by
  refine ⟨_, run_of_execute rfl, ?_, fun inForce => ?_⟩
  · show ∀ call ∈ [BridgeCall.returned true, .returned true], call = .returned true
    simp
  · obtain ⟨told, known, same⟩ := inForce 0 rfl .stealth rfl
    obtain rfl := Option.some.inj known
    cases same

end NativeBridge

end ChameleonPQ
