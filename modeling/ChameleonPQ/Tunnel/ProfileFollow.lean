/-
**Following the peer's traffic profile (`tunnel_loops.rs`, the inbound loop of a server).**

* `Authenticated` — a datagram is a profile frame that passed the AEAD and the replay window; every other
  datagram, of whatever content, leaves the follower as it is (`announcement_react`).
* `ProfileFollower` — the inbound loop with what it keeps of the peer's profile and the channel to the
  outbound loop; the interval is measured from a reading of the clock after each switch, against a reading
  before the next one.
* `Consistent` — what every step keeps (`consistent_step`): switches are an interval apart, each was
  announced, and the profile that is remembered is the one in the channel.
* `profile_following` — the statement over every run.
-/

import ChameleonPQ.Tunnel.Inbound
import ChameleonPQ.Tunnel.Keepalive

namespace ChameleonPQ

open Library Library.Runs

/-- The plaintext of a profile announcement among what the inbound loop does. -/
def Effect.announcement : Effect → Option Bytes
  | .announced plain => some plain
  | _ => none

namespace Inbound

variable (prims : Primitives) (config : InboundConfig)

/-- The datagram is a profile frame of the peer: it decrypts on the current or the previous session. -/
def Authenticated (inbound : Inbound) (raw plain : Bytes) : Prop :=
  (inbound.sessions.decryptObf prims raw).1 = .ok (.profile, plain)

/-- The announcement a datagram makes. -/
def announcement (inbound : Inbound) : InboundEvent → Option Bytes
  | .datagram _ _ _ raw _ =>
    match (inbound.sessions.decryptObf prims raw).1 with
    | .ok (.profile, plain) => if inbound.running = true then some plain else none
    | _ => none
  | _ => none

variable {prims config} {inbound : Inbound}

/-- What the demultiplexer does is no announcement. -/
theorem demultiplex_announcement {flags : Flags} {src : SocketAddr} {raw : Bytes} {coins : InboundCoins}
    {push : Reassembler → Result (Option Bytes) × Reassembler} :
    (inbound.demultiplex prims config flags src raw coins push).2.findSome? Effect.announcement = none := by
  unfold demultiplex respondRekey confirmRekey
  repeat' split
  all_goals rfl

theorem sendToTun_announcement {flags : Flags} (inbound : Inbound) (plain : Bytes) :
    (inbound.sendToTun flags plain).2.findSome? Effect.announcement = none := by
  unfold sendToTun
  split <;> rfl

/-- A cleartext frame is no announcement, whatever its type. -/
theorem takeOther_announcement {flags : Flags} {now : Nat} {src : SocketAddr} {raw : Bytes}
    {coins : InboundCoins} :
    (inbound.takeOther prims config flags now src raw coins).2.findSome? Effect.announcement = none := by
  unfold takeOther takeFrame
  repeat' split
  all_goals first
    | rfl
    | exact sendToTun_announcement _ _
    | exact demultiplex_announcement

/-- **Only authenticated profile frames are announcements.** -/
theorem announcement_react (event : InboundEvent) :
    (inbound.react prims config event).2.findSome? Effect.announcement = inbound.announcement prims event := by
  cases event with
  | datagram flags now src raw coins =>
    simp only [react, receive, announcement]
    by_cases runs : inbound.running = true
    · rw [if_pos runs]
      split
      · rename_i frameType plain sessions opened
        rw [opened]
        simp only [if_pos runs]
        cases frameType with
        | data => exact sendToTun_announcement _ plain
        | profile | keepAlive | handshake | padding | close => rfl
      · rename_i opened
        rw [opened]
        exact takeOther_announcement
    · rw [if_neg runs]
      split
      · rw [if_neg runs]
        rfl
      · rfl
  | prune | reserve | install | retire => rfl

theorem announcement_of_authenticated {flags : Flags} {now : Nat} {src : SocketAddr} {raw plain : Bytes}
    {coins : InboundCoins} (runs : inbound.running = true) (authentic : inbound.Authenticated prims raw plain) :
    inbound.announcement prims (.datagram flags now src raw coins) = some plain := by
  rw [announcement, show (inbound.sessions.decryptObf prims raw).1 = _ from authentic]
  exact if_pos runs

end Inbound

/-! ### The follower -/

/-- One applied switch: the readings of the clock before and after it. -/
structure ProfileSwitch where
  checked : Nat
  recorded : Nat
  profile : TrafficProfile

/-- The inbound loop of a server that follows its peer. -/
structure ProfileFollower where
  inbound : Inbound
  appliedPeerProfile : Option TrafficProfile
  /-- In milliseconds. -/
  lastPeerSwitch : Option Nat
  /-- The value of the traffic channel, which the outbound loop shapes by. -/
  channel : EffectiveTraffic
  /-- The outbound loop runs, and with it the receiver of the channel. -/
  listening : Bool
  /-- The last reading of the clock. -/
  clock : Nat
  /-- The switches so far, the last one first. -/
  switches : List ProfileSwitch
  /-- The profiles that well-formed authenticated frames announced. -/
  announced : List TrafficProfile

/-- What happens to it. -/
inductive FollowEvent where
  /-- A datagram arrives or another task touches the sessions; a switch reads the clock twice. -/
  | loop (event : Inbound.InboundEvent) (checked recorded : Nat)
  /-- The outbound loop ends. -/
  | outboundEnds

namespace ProfileFollower

section Definitions

variable (prims : Primitives) (config : InboundConfig) (base : TrafficConfig)

/-- A server when its tunnel starts, with the settings of its own configuration. -/
def begin (inbound : Inbound) (now : Nat) : ProfileFollower where
  inbound
  appliedPeerProfile := none
  lastPeerSwitch := none
  channel := base.effective
  listening := true
  clock := now
  switches := []
  announced := []

/-- The interval since the last switch is over. -/
def due (follower : ProfileFollower) (now : Nat) : Bool :=
  match follower.lastPeerSwitch with
  | none => true
  | some last => decide (peerProfileMinInterval ≤ now - last)

/-- The arm for an authenticated profile frame; a channel without a receiver takes nothing, and nothing is
remembered. -/
def follow (follower : ProfileFollower) (checked recorded : Nat) (plain : Bytes) : ProfileFollower :=
  match announcedProfile plain with
  | none => follower
  | some profile =>
    if some profile ≠ follower.appliedPeerProfile ∧ follower.due checked = true then
      if follower.listening = true then
        { follower with
          channel := ({ base with profile } : TrafficConfig).effective
          appliedPeerProfile := some profile
          lastPeerSwitch := some recorded
          switches := ⟨checked, recorded, profile⟩ :: follower.switches }
      else follower
    else follower

/-- The profile that an event announces in a well-formed authenticated frame. -/
def heard (follower : ProfileFollower) (event : Inbound.InboundEvent) : Option TrafficProfile :=
  (follower.inbound.announcement prims event).bind announcedProfile

/-- One event; the clock does not go back. -/
def step (follower : ProfileFollower) : FollowEvent → Option ProfileFollower
  | .outboundEnds => some { follower with listening := false }
  | .loop event checked recorded =>
    if follower.clock ≤ checked ∧ checked ≤ recorded then
      match follower.inbound.react prims config event with
      | (inbound, effects) =>
        let later := { follower with
          inbound, clock := recorded, announced := (follower.heard prims event).toList ++ follower.announced }
        match effects.findSome? Effect.announcement with
        | none => some later
        | some plain => some (later.follow base checked recorded plain)
    else none

end Definitions

variable {prims : Primitives} {config : InboundConfig} {base : TrafficConfig}
  {follower after : ProfileFollower} {checked recorded : Nat} {plain : Bytes}

/-- The rule of a tunnel whose two readings of the clock coincide. -/
theorem follow_live {params : TunnelParams} {tunnel : LiveTunnel} (follows : params.followPeer = some base)
    (listening : follower.listening = true)
    (applied : follower.appliedPeerProfile = tunnel.appliedPeerProfile)
    (last : follower.lastPeerSwitch = tunnel.lastPeerSwitch) (instant : Nat) (plain : Bytes) :
    (follower.follow base instant instant plain).appliedPeerProfile =
        (tunnel.follow params instant plain).appliedPeerProfile ∧
      (follower.follow base instant instant plain).lastPeerSwitch =
        (tunnel.follow params instant plain).lastPeerSwitch := by
  have sameDue : follower.due instant = tunnel.followDue instant := by
    unfold due LiveTunnel.followDue
    cases before : tunnel.lastPeerSwitch with
    | none => rw [last, before]
    | some switch => rw [last, before]
  unfold follow LiveTunnel.follow
  rw [follows]
  cases announcedProfile plain with
  | none => exact ⟨applied, last⟩
  | some profile =>
    simp only [listening, if_true]
    rw [← applied, ← sameDue]
    by_cases switches : some profile ≠ follower.appliedPeerProfile ∧ follower.due instant = true
    · rw [if_pos switches, if_pos switches]
      exact ⟨rfl, rfl⟩
    · rw [if_neg switches, if_neg switches]
      exact ⟨applied, last⟩

/-! ### What every run keeps -/

/-- What is remembered is the last switch, what is in the channel is its profile, switches are an interval
apart and each was announced. -/
structure Consistent (base : TrafficConfig) (follower : ProfileFollower) : Prop where
  remembered : follower.appliedPeerProfile = follower.switches.head?.map ProfileSwitch.profile
  last : follower.lastPeerSwitch = follower.switches.head?.map ProfileSwitch.recorded
  shaped : ∀ profile, follower.appliedPeerProfile = some profile →
    follower.channel = ({ base with profile } : TrafficConfig).effective
  apart : follower.switches.Pairwise fun later earlier =>
    earlier.recorded + peerProfileMinInterval ≤ later.checked
  ordered : ∀ switch ∈ follower.switches, switch.checked ≤ switch.recorded ∧ switch.recorded ≤ follower.clock
  announced : ∀ switch ∈ follower.switches, switch.profile ∈ follower.announced

theorem consistent_begin (base : TrafficConfig) (inbound : Inbound) (now : Nat) :
    (begin base inbound now).Consistent base where
  remembered := rfl
  last := rfl
  shaped := fun _ => nofun
  apart := .nil
  ordered := fun _ => nofun
  announced := fun _ => nofun

/-- Time passes, and frames are heard. -/
theorem Consistent.wait (consistent : follower.Consistent base) (inbound : Inbound)
    (passed : follower.clock ≤ recorded) (more : List TrafficProfile) :
    ({ follower with inbound, clock := recorded, announced := more ++ follower.announced } :
      ProfileFollower).Consistent base :=
  { consistent with
    ordered := fun switch member =>
      ⟨(consistent.ordered switch member).1, (consistent.ordered switch member).2.trans passed⟩
    announced := fun switch member => List.mem_append_right _ (consistent.announced switch member) }

/-- When a switch is due, every earlier one was recorded an interval ago. -/
theorem Consistent.recorded_le (consistent : follower.Consistent base) (isDue : follower.due checked = true) :
    ∀ switch ∈ follower.switches, switch.recorded + peerProfileMinInterval ≤ checked := by
  have last := consistent.last
  have apart := consistent.apart
  have ordered := consistent.ordered
  rw [due] at isDue
  intro switch member
  cases history : follower.switches with
  | nil => exact absurd (history ▸ member) List.not_mem_nil
  | cons newest older =>
    rw [history] at last member apart ordered
    rw [last] at isDue
    have waited : peerProfileMinInterval ≤ checked - newest.recorded := of_decide_eq_true isDue
    have newestDue : newest.recorded + peerProfileMinInterval ≤ checked := by
      have positive : 0 < peerProfileMinInterval := by decide
      omega
    rcases List.mem_cons.mp member with rfl | earlier
    · exact newestDue
    · have before := (List.pairwise_cons.mp apart).1 switch earlier
      have inOrder := (ordered newest List.mem_cons_self).1
      omega

/-- **Following keeps the follower consistent.** -/
theorem Consistent.follow (consistent : follower.Consistent base) (reached : follower.clock = recorded)
    (inOrder : checked ≤ recorded)
    (heard : ∀ profile, announcedProfile plain = some profile → profile ∈ follower.announced) :
    (follower.follow base checked recorded plain).Consistent base := by
  unfold ProfileFollower.follow
  split
  · exact consistent
  · rename_i profile wellFormed
    split
    · rename_i switches
      split
      · have due := consistent.recorded_le switches.2
        refine ⟨rfl, rfl, fun other same => ?_, .cons due consistent.apart, fun switch member => ?_,
          fun switch member => ?_⟩
        · obtain rfl := Option.some.inj same
          rfl
        · rcases List.mem_cons.mp member with rfl | earlier
          · exact ⟨inOrder, reached.ge⟩
          · exact consistent.ordered switch earlier
        · rcases List.mem_cons.mp member with rfl | earlier
          · exact heard profile wellFormed
          · exact consistent.announced switch earlier
      · exact consistent
    · exact consistent

/-- What an event does: the loop's own step, and the rule on the announcement it makes. -/
theorem step_loop {event : Inbound.InboundEvent}
    (taken : follower.step prims config base (.loop event checked recorded) = some after) :
    ∃ later : ProfileFollower, follower.clock ≤ checked ∧ checked ≤ recorded ∧
      later = { follower with
        inbound := (follower.inbound.react prims config event).1
        clock := recorded
        announced := (follower.heard prims event).toList ++ follower.announced } ∧
      after = match follower.inbound.announcement prims event with
        | none => later
        | some plain => later.follow base checked recorded plain := by
  rw [step] at taken
  split at taken
  · rename_i times
    refine ⟨_, times.1, times.2, rfl, ?_⟩
    rw [← Inbound.announcement_react]
    dsimp only at taken
    split at taken
    · rename_i silent
      rw [silent]
      exact (Option.some.inj taken).symm
    · rename_i plain spoken
      rw [spoken]
      exact (Option.some.inj taken).symm
  · cases taken

/-- **Every step keeps the follower consistent.** -/
theorem consistent_step {event : FollowEvent} (consistent : follower.Consistent base)
    (taken : follower.step prims config base event = some after) : after.Consistent base := by
  cases event with
  | outboundEnds =>
    obtain rfl := Option.some.inj taken
    exact { consistent with }
  | loop event checked recorded =>
    obtain ⟨later, before, inOrder, rfl, rfl⟩ := step_loop taken
    have waited := consistent.wait (follower.inbound.react prims config event).1 (before.trans inOrder)
      (follower.heard prims event).toList
    split
    · exact waited
    · rename_i plain spoken
      refine waited.follow rfl inOrder fun profile wellFormed => ?_
      have heard : follower.heard prims event = some profile := by
        rw [ProfileFollower.heard, spoken]
        exact wellFormed
      exact List.mem_append_left _ (by rw [heard]; exact List.mem_singleton_self profile)

/-- **An announcement an interval after the last switch is in force afterwards.** -/
theorem follow_applies (consistent : follower.Consistent base) {profile : TrafficProfile}
    (wellFormed : announcedProfile plain = some profile) (listening : follower.listening = true)
    (isDue : follower.due checked = true) :
    (follower.follow base checked recorded plain).appliedPeerProfile = some profile ∧
      (follower.follow base checked recorded plain).channel =
        ({ base with profile } : TrafficConfig).effective := by
  unfold follow
  simp only [wellFormed, listening, if_true]
  by_cases other : some profile ≠ follower.appliedPeerProfile
  · rw [if_pos ⟨other, isDue⟩]
    exact ⟨rfl, rfl⟩
  · rw [if_neg fun switches => other switches.1]
    have same := (not_not.mp other).symm
    exact ⟨same, consistent.shaped profile same⟩

/-- **Nothing else changes the profile**: other data, malformed frames, unauthenticated and cleartext
datagrams. -/
theorem step_unheard {event : Inbound.InboundEvent} (unheard : follower.heard prims event = none)
    (taken : follower.step prims config base (.loop event checked recorded) = some after) :
    after.appliedPeerProfile = follower.appliedPeerProfile ∧ after.channel = follower.channel ∧
      after.switches = follower.switches := by
  obtain ⟨later, -, -, rfl, rfl⟩ := step_loop taken
  rw [heard] at unheard
  split
  · exact ⟨rfl, rfl, rfl⟩
  · rename_i plain spoken
    rw [spoken] at unheard
    have malformed : announcedProfile plain = none := unheard
    rw [ProfileFollower.follow, malformed]
    exact ⟨rfl, rfl, rfl⟩

/-- **Following the peer's profile.** In every run, over datagrams of any kind at times that do not go back:
switches are at least the interval apart, each applied value was announced in a well-formed authenticated
frame, nothing but such a frame changes what is applied, and such a frame at least the interval after the
last switch leaves its profile applied while the outbound loop runs. -/
theorem profile_following {inbound : Inbound} {start : Nat} {events : List FollowEvent}
    {last : ProfileFollower}
    (run : Run (Taken (step prims config base)) (begin base inbound start) events last) :
    (last.switches.Pairwise fun later earlier => earlier.recorded + peerProfileMinInterval ≤ later.checked) ∧
    (∀ switch ∈ last.switches, switch.profile ∈ last.announced) ∧
    last.appliedPeerProfile = last.switches.head?.map ProfileSwitch.profile ∧
    (∀ event checked recorded after, last.heard prims event = none →
      last.step prims config base (.loop event checked recorded) = some after →
        after.appliedPeerProfile = last.appliedPeerProfile ∧ after.channel = last.channel ∧
          after.switches = last.switches) ∧
    ∀ flags now src raw coins checked recorded plain profile after,
      last.inbound.running = true → last.listening = true → last.inbound.Authenticated prims raw plain →
        announcedProfile plain = some profile →
        (∀ switch ∈ last.switches, switch.recorded + peerProfileMinInterval ≤ checked) →
        last.step prims config base (.loop (.datagram flags now src raw coins) checked recorded) = some after →
          after.appliedPeerProfile = some profile ∧
            after.channel = ({ base with profile } : TrafficConfig).effective := by
  have consistent : last.Consistent base := run.invariant (Consistent base)
    (fun before event after kept taken => consistent_step kept taken) (consistent_begin base inbound start)
  refine ⟨consistent.apart, consistent.announced, consistent.remembered,
    fun event checked recorded after => step_unheard, ?_⟩
  intro flags now src raw coins checked recorded plain profile after runs listening authentic wellFormed
    passed taken
  obtain ⟨later, before, inOrder, rfl, rfl⟩ := step_loop taken
  have waited := consistent.wait (last.inbound.react prims config (.datagram flags now src raw coins)).1
    (before.trans inOrder) (last.heard prims (.datagram flags now src raw coins)).toList
  have isDue : last.due checked = true := by
    rw [due, consistent.last]
    cases history : last.switches with
    | nil => rfl
    | cons newest older =>
      have enough := passed newest (history ▸ List.mem_cons_self)
      exact decide_eq_true (by omega)
  rw [Inbound.announcement_of_authenticated runs authentic]
  exact follow_applies waited wellFormed listening isDue

/-- The settings of a server that is off by itself. -/
def sampleBase : TrafficConfig where
  profile := .off
  enabled := false
  mode := .adaptive
  ratePps := 256
  burst := 2
  cooldownMs := 500
  coverBudgetPackets := 64
  coverRatio := 0.25

/-- The client's announcement of a profile, sealed under the given counter. -/
def sampleAnnouncement (counter : Nat) (id : UInt8) : Bytes :=
  ((Session.established .transparent 7 (.zero 32) true .aegis256X2 0 []).sealObfWithCounter .transparent
    counter FrameType.profile.asU8 [id] .off fun _ => 0).toOption.getD []

/-- An announcement that arrives at the given time. -/
def sampleArrival (time counter : Nat) (id : UInt8) : FollowEvent :=
  .loop (.datagram Inbound.sampleFlags 0 Inbound.sampleElsewhere (sampleAnnouncement counter id)
    Inbound.sampleCoins) time time

/-- The second announcement comes too early and is dropped; said again, it is followed. -/
theorem profile_following_sample : ∃ last,
    execute (step .transparent Inbound.sampleObfuscated sampleBase)
      (begin sampleBase (Inbound.sampleLoop .aegis256X2) 0)
      [sampleArrival 2000 6 3, sampleArrival 2400 7 1, sampleArrival 3000 8 1] = some last ∧
    last.switches.map (·.recorded) = [3000, 2000] ∧
      ∀ switch ∈ last.switches, switch.profile ∈ last.announced := by
  have executed : (execute (step .transparent Inbound.sampleObfuscated sampleBase)
      (begin sampleBase (Inbound.sampleLoop .aegis256X2) 0)
      [sampleArrival 2000 6 3, sampleArrival 2400 7 1, sampleArrival 3000 8 1]).map
        (fun last => last.switches.map (·.recorded)) = some [3000, 2000] := by decide +kernel
  obtain ⟨last, reached, switches⟩ := Option.map_eq_some_iff.mp executed
  exact ⟨last, reached, switches, (profile_following (run_of_execute reached)).2.1⟩

end ProfileFollower

end ChameleonPQ
