/-
**The cookie gate of the initial responder.**

* `cookieInput` — what the cookie HMAC is computed over; `cookieInput_injective` recovers the address,
  the port and the time window from it.
* `initOf` — the Init a datagram completes in phase 1, with its source; `Passes` — it carries the cookie
  of that source for the current or the preceding window; `Cheap` — a step without asymmetric work that
  sends a challenge at most.
* `Gated` — `respond` is called only for an Init that passes, and its Response goes to that source.
* `cookie_gate` — in every run, a step is gated, and passes the gate or is cheap; a cookie that was issued
  is valid for the address and the window it was issued for only, and nobody who cannot forge cookies
  passes the gate without a challenge sent to the same address before.
-/

import ChameleonPQ.Net.DriverRuns
import ChameleonPQ.Net.Network

namespace ChameleonPQ

open Library Library.Runs

/-! ### The cookie -/

/-- What `compute_cookie` authenticates. -/
def cookieInput (src : SocketAddr) (timeBucket : Nat) : Bytes :=
  src.ip ++ leBytes 2 src.port.toNat ++ leBytes 8 timeBucket

/-- The window before a window, as `wrapping_sub` computes it. -/
def previousBucket (timeBucket : Nat) : Nat := (timeBucket + (2 ^ 64 - 1)) % 2 ^ 64

/-- **The input of the cookie determines the address, the port and the window**, whatever the length of
the address. -/
theorem cookieInput_injective {src src' : SocketAddr} {timeBucket timeBucket' : Nat}
    (small : timeBucket < 2 ^ 64) (small' : timeBucket' < 2 ^ 64)
    (same : cookieInput src timeBucket = cookieInput src' timeBucket') :
    src = src' ∧ timeBucket = timeBucket' := by
  unfold cookieInput at same
  obtain ⟨front, window⟩ := List.append_inj' same (by rw [length_leBytes, length_leBytes])
  obtain ⟨address, port⟩ := List.append_inj' front (by rw [length_leBytes, length_leBytes])
  have samePort := leBytes_injective src.port.toNat_lt src'.port.toNat_lt port
  obtain ⟨ip, number⟩ := src
  obtain ⟨ip', number'⟩ := src'
  obtain rfl : ip = ip' := address
  obtain rfl : number = number' := UInt16.toNat_inj.mp samePort
  exact ⟨rfl, leBytes_injective small small' window⟩

/-- The cookie HMAC has no collision among the given inputs. -/
def CookieInjectiveOn (prims : Primitives) (secret : Octets 32)
    (inputs : Set (SocketAddr × Nat)) : Prop :=
  ∀ first ∈ inputs, ∀ second ∈ inputs,
    computeCookie prims secret first.1 first.2 = computeCookie prims secret second.1 second.2 →
      cookieInput first.1 first.2 = cookieInput second.1 second.2

/-- The clock counts its seconds in 64 bits. -/
def ClockFits (now : Nat) : Prop := now / 1000 < 2 ^ 64

theorem bucket_lt {now : Nat} (fits : ClockFits now) : CookieState.bucket now < 2 ^ 64 :=
  (Nat.div_le_self _ _).trans_lt fits

theorem previousBucket_lt (timeBucket : Nat) : previousBucket timeBucket < 2 ^ 64 :=
  Nat.mod_lt _ (Nat.two_pow_pos 64)

/-- **When a cookie is valid.** -/
theorem CookieState.valid_iff {prims : Primitives} {secret : Octets 32} {now : Nat} {src : SocketAddr}
    {cookie : Octets 16} : CookieState.valid prims secret now src cookie = true ↔
      cookie = computeCookie prims secret src (bucket now) ∨
        cookie = computeCookie prims secret src (previousBucket (bucket now)) := by
  unfold CookieState.valid
  rw [Bool.or_eq_true, decide_eq_true_iff, decide_eq_true_iff]
  exact Iff.rfl

/-- The inputs an issued cookie and its check are about. -/
def checkedInputs (now : Nat) (src : SocketAddr) (now' : Nat) (src' : SocketAddr) :
    Set (SocketAddr × Nat) :=
  {(src', CookieState.bucket now'), (src, CookieState.bucket now),
    (src, previousBucket (CookieState.bucket now))}

/-- No clock reads the window before the first one. -/
theorem bucket_of_previous {now now' : Nat} (clock : ClockFits now) (clock' : ClockFits now')
    (previous : CookieState.bucket now' = previousBucket (CookieState.bucket now)) :
    CookieState.bucket now' + 1 = CookieState.bucket now := by
  unfold ClockFits at clock clock'
  unfold previousBucket CookieState.bucket cookieWindowSecs at *
  omega

/-- **An issued cookie is valid for one address and two windows.** -/
theorem valid_issued {prims : Primitives} {secret : Octets 32} {now now' : Nat} {src src' : SocketAddr}
    (clock : ClockFits now) (clock' : ClockFits now')
    (injective : CookieInjectiveOn prims secret (checkedInputs now src now' src'))
    (valid : CookieState.valid prims secret now src (CookieState.issue prims secret now' src') = true) :
    src' = src ∧ (CookieState.bucket now' = CookieState.bucket now ∨
      CookieState.bucket now' + 1 = CookieState.bucket now) := by
  rcases CookieState.valid_iff.mp valid with current | previous
  · have same := injective _ (.inl rfl) _ (.inr (.inl rfl)) current
    obtain ⟨address, window⟩ := cookieInput_injective (bucket_lt clock') (bucket_lt clock) same
    exact ⟨address, .inl window⟩
  · have same := injective _ (.inl rfl) _ (.inr (.inr rfl)) previous
    obtain ⟨address, window⟩ := cookieInput_injective (bucket_lt clock') (previousBucket_lt _) same
    exact ⟨address, .inr (bucket_of_previous clock clock' window)⟩

/-! ### The gate -/

/-- The primitives with the asymmetric ones replaced. -/
def Primitives.withAsymmetric (prims other : Primitives) : Primitives :=
  { other with
    sha256 := prims.sha256
    hmacSha256 := prims.hmacSha256
    hkdfSha256 := prims.hkdfSha256
    chachaSeal := prims.chachaSeal
    chachaOpen := prims.chachaOpen
    aegisEncrypt := prims.aegisEncrypt
    aegisDecrypt := prims.aegisDecrypt }

/-- An Init, when it was complete and who sent its last fragment. -/
structure Offer where
  now : Nat
  src : SocketAddr
  wire : Bytes
  init : HandshakeMessage

namespace Responder

section Definitions

variable (prims : Primitives) (config : DriverConfig)

/-- The Init a datagram completes in phase 1. -/
def initOf (driver : Responder) : ResponderEvent → Option Offer
  | .datagram now src raw _ =>
    match driver.phase with
    | .listening reasm =>
      match completed prims reasm now raw config.hsObf with
      | none => none
      | some message =>
        match HandshakeMessage.decode message with
        | .error _ => none
        | .ok init => if init.msgType = .init then some ⟨now, src, message, init⟩ else none
    | _ => none
  | _ => none

/-- The Init carries the cookie of its source for the current or the preceding window. -/
def Carries (driver : Responder) (offer : Offer) : Prop :=
  offer.init.cookie = computeCookie prims driver.secret offer.src (CookieState.bucket offer.now) ∨
    offer.init.cookie =
      computeCookie prims driver.secret offer.src (previousBucket (CookieState.bucket offer.now))

/-- **The gate**: the event completes an Init that carries the cookie of its source. -/
def Passes (driver : Responder) (event : ResponderEvent) : Prop :=
  ∃ offer, driver.initOf prims config event = some offer ∧ driver.Carries prims offer

/-- The datagrams of a challenge to the source of an Init, with the cookie of that source. -/
def Challenges (driver : Responder) (offer : Offer) (datagrams : List Bytes) : Prop :=
  ∃ noise wire envelope,
    Handshake.challengeWire (CookieState.issue prims driver.secret offer.now offer.src) noise = .ok wire ∧
      buildHandshakeDatagrams prims config.sessionId wire config.hsObf envelope = .ok datagrams

/-- The datagrams of a Response to an Init. -/
def Answers (offer : Offer) (datagrams : List Bytes) : Prop :=
  ∃ coins handshake respWire envelope,
    Handshake.respond prims offer.wire config.auth config.preferred coins = .ok (handshake, respWire) ∧
      buildHandshakeDatagrams prims config.sessionId respWire config.hsObf envelope = .ok datagrams

/-- **A gated step**: `respond` is called only for an Init that carries the cookie of its source, and
what is sent goes to the source of an Init: the Response to it, where the Init carries the cookie of that
very address, or else a challenge. -/
structure Gated (driver : Responder) (event : ResponderEvent) : Prop where
  responds : ∀ message ∈ (driver.react prims config event).2.responds, ∃ offer,
    driver.initOf prims config event = some offer ∧ offer.wire = message ∧ driver.Carries prims offer
  sends : ∀ dest datagram, (dest, datagram) ∈ (driver.react prims config event).2.sent →
    ∃ offer datagrams, driver.initOf prims config event = some offer ∧ dest = offer.src ∧
      datagram ∈ datagrams ∧
        (driver.Carries prims offer ∧ Answers prims config offer datagrams ∨
          driver.Challenges prims config offer datagrams)

/-- A step that passes the gate calls `respond` once, and sends the Response to the source of the Init. -/
structure Admits (driver : Responder) (event : ResponderEvent) (offer : Offer) : Prop where
  offered : driver.initOf prims config event = some offer
  carries : driver.Carries prims offer
  output : (driver.react prims config event).2 = ⟨[offer.wire], []⟩ ∨ ∃ datagrams,
    Answers prims config offer datagrams ∧
      (driver.react prims config event).2 = ⟨[offer.wire], directTo offer.src datagrams⟩

/-- **A cheap step**: in phase 1 it uses no asymmetric primitive, no handshake gets pending, `respond` is
not called, and what is sent is a challenge to the source of an Init. -/
structure Cheap (driver : Responder) (event : ResponderEvent) : Prop where
  symmetric : ∀ reasm, driver.phase = .listening reasm → ∀ other,
    driver.react (prims.withAsymmetric other) config event = driver.react prims config event
  pending : ∀ handshake peer reasm deadline,
    (driver.react prims config event).1.phase = .confirming handshake peer reasm deadline →
      ∃ reasm', driver.phase = .confirming handshake peer reasm' deadline
  output : (driver.react prims config event).2 = .quiet ∨ ∃ offer datagrams,
    driver.initOf prims config event = some offer ∧ driver.Challenges prims config offer datagrams ∧
      (driver.react prims config event).2 = ⟨[], directTo offer.src datagrams⟩

/-- The address and the time a step issues a cookie for. -/
def issues (driver : Responder) (event : ResponderEvent) : List (SocketAddr × Nat) :=
  match driver.initOf prims config event with
  | none => []
  | some offer =>
    if CookieState.valid prims driver.secret offer.now offer.src offer.init.cookie then []
    else [(offer.src, offer.now)]

end Definitions

variable {prims : Primitives} {config : DriverConfig} {driver : Responder}

theorem push_symmetric (prims other : Primitives) (reasm : Reassembler) (now : Nat) (raw : Bytes)
    (hsObf : Option (Octets 32)) : pushHandshake (prims.withAsymmetric other) reasm now raw hsObf =
      pushHandshake prims reasm now raw hsObf := rfl

theorem challenge_symmetric (prims other : Primitives) (driver : Responder) (now : Nat)
    (src : SocketAddr) (coins : DriverCoins) :
    driver.challenge (prims.withAsymmetric other) config now src coins =
      driver.challenge prims config now src coins := by
  have issued : CookieState.issue (prims.withAsymmetric other) = CookieState.issue prims := rfl
  have built : buildHandshakeDatagrams (prims.withAsymmetric other) = buildHandshakeDatagrams prims :=
    rfl
  unfold challenge
  rewrite [issued, built]
  exact Eq.refl _

/-- The driver keeps its secret. -/
theorem handleInit_secret {now : Nat} {src : SocketAddr} {coins : DriverCoins} (initWire : Bytes) :
    (driver.handleInit prims config now src initWire coins).1.secret = driver.secret := by
  unfold handleInit
  split
  · rfl
  split
  · rfl
  split
  · rfl
  split
  · rfl
  split <;> rfl

theorem handleConfirm_secret (handshake : Handshake) (peer : SocketAddr) (confirmWire : Bytes) :
    (driver.handleConfirm prims config handshake peer confirmWire).secret = driver.secret := by
  unfold handleConfirm
  split <;> rfl

theorem react_secret (event : ResponderEvent) :
    (driver.react prims config event).1.secret = driver.secret := by
  cases event with
  | datagram now src raw coins =>
    show (driver.receive prims config now src raw coins).1.secret = driver.secret
    unfold receive
    split
    · rfl
    · split
      · exact handleInit_secret _
      · rfl
    · split
      · rfl
      split
      · rfl
      · rfl
      · exact handleConfirm_secret _ _ _
  | timer now =>
    show (driver.timeOut now).secret = driver.secret
    unfold timeOut
    split
    · split <;> rfl
    · rfl
  | prune now =>
    show (driver.prune now).secret = driver.secret
    unfold prune
    split <;> rfl
  | socketFails =>
    show driver.socketError.secret = driver.secret
    unfold socketError
    split <;> rfl

/-- A step of phase 1 that ends in phase 1, whatever the asymmetric primitives are. -/
theorem cheap_of_listening {event : ResponderEvent} (after : Responder) (output : ResponderOutput)
    {reasm : Reassembler} (listening : after.phase = .listening reasm)
    (result : driver.react prims config event = (after, output))
    (symmetric : ∀ other, driver.react (prims.withAsymmetric other) config event = (after, output))
    (sends : output = .quiet ∨ ∃ offer datagrams, driver.initOf prims config event = some offer ∧
      driver.Challenges prims config offer datagrams ∧ output = ⟨[], directTo offer.src datagrams⟩) :
    driver.Cheap prims config event := by
  refine ⟨fun _ _ other => (symmetric other).trans result.symm, fun handshake peer left deadline pending =>
    ?_, by rwa [result]⟩
  rw [result, listening] at pending
  cases pending

/-- A step of another phase that sends nothing and makes no handshake pending. -/
theorem cheap_of_quiet {event : ResponderEvent} (notListening : ∀ reasm, driver.phase ≠ .listening reasm)
    (pending : ∀ handshake peer reasm deadline,
      (driver.react prims config event).1.phase = .confirming handshake peer reasm deadline →
        ∃ reasm', driver.phase = .confirming handshake peer reasm' deadline)
    (quiet : (driver.react prims config event).2 = .quiet) : driver.Cheap prims config event :=
  ⟨fun reasm listening => absurd listening (notListening reasm), pending, .inl quiet⟩

/-- **An Init with a valid cookie**: one call of `respond`, and the Response goes to its source. -/
theorem handleInit_valid {now : Nat} {src : SocketAddr} {coins : DriverCoins} {initWire : Bytes}
    {init : HandshakeMessage} (decoded : HandshakeMessage.decode initWire = .ok init)
    (kind : init.msgType = .init)
    (valid : CookieState.valid prims driver.secret now src init.cookie = true) :
    (driver.handleInit prims config now src initWire coins).2 = ⟨[initWire], []⟩ ∨ ∃ datagrams,
      Answers prims config ⟨now, src, initWire, init⟩ datagrams ∧
        (driver.handleInit prims config now src initWire coins).2 =
          ⟨[initWire], directTo src datagrams⟩ := by
  rw [handleInit, decoded]
  dsimp only
  rw [if_neg (not_not.mpr kind), if_neg (Bool.not_eq_false _ ▸ valid)]
  rcases called : callRespond prims config initWire coins with ⟨e | ⟨handshake, respWire⟩, calls⟩
  · obtain rfl : [initWire] = calls := congrArg Prod.snd called
    exact .inl rfl
  · obtain ⟨responded, rfl⟩ := callRespond_ok called
    dsimp only
    rcases built : buildHandshakeDatagrams prims config.sessionId respWire config.hsObf coins.envelope
      with e | datagrams
    · exact .inl rfl
    · exact .inr ⟨datagrams, ⟨coins.respond, handshake, respWire, coins.envelope, responded, built⟩, rfl⟩

/-- A complete message in phase 1 passes the gate, or meets a challenge, or is dropped. -/
theorem handleInit_gate (prims : Primitives) (config : DriverConfig) (driver : Responder) (now : Nat)
    (src : SocketAddr) (coins : DriverCoins) (message : Bytes) :
    (∃ init, HandshakeMessage.decode message = .ok init ∧ init.msgType = .init ∧
      CookieState.valid prims driver.secret now src init.cookie = true) ∨
    (∀ other, driver.handleInit (prims.withAsymmetric other) config now src message coins =
        driver.handleInit prims config now src message coins) ∧
      (driver.handleInit prims config now src message coins = (driver.relisten, .quiet) ∨
        (∃ init, HandshakeMessage.decode message = .ok init ∧ init.msgType = .init) ∧
          driver.handleInit prims config now src message coins =
            (driver.relisten, ⟨[], driver.challenge prims config now src coins⟩)) := by
  rcases decoded : HandshakeMessage.decode message with e | init
  · have dropped : ∀ prims, driver.handleInit prims config now src message coins =
        (driver.relisten, .quiet) := by
      intro prims
      unfold handleInit
      rw [decoded]
    exact .inr ⟨fun other => by rw [dropped, dropped], .inl (dropped prims)⟩
  by_cases kind : init.msgType = .init
  · rcases valid : CookieState.valid prims driver.secret now src init.cookie
    · have same : ∀ other, CookieState.valid (prims.withAsymmetric other) driver.secret now src
          init.cookie = false := fun other => valid
      refine .inr ⟨fun other => ?_, .inr ⟨⟨init, rfl, kind⟩, handleInit_challenge decoded kind valid⟩⟩
      rw [handleInit_challenge decoded kind valid, handleInit_challenge decoded kind (same other),
        challenge_symmetric]
    · exact .inl ⟨init, rfl, kind, valid⟩
  · exact .inr ⟨fun other => by rw [handleInit_other decoded kind, handleInit_other decoded kind],
      .inl (handleInit_other decoded kind)⟩

/-- What the driver sends as a challenge. -/
theorem challenge_eq (prims : Primitives) (config : DriverConfig) (driver : Responder) (offer : Offer)
    (coins : DriverCoins) :
    driver.challenge prims config offer.now offer.src coins = [] ∨ ∃ datagrams,
      driver.Challenges prims config offer datagrams ∧
        driver.challenge prims config offer.now offer.src coins = directTo offer.src datagrams := by
  unfold challenge
  split
  · exact .inl rfl
  rename_i wire encoded
  split
  · exact .inl rfl
  · rename_i datagrams built
    exact .inr ⟨datagrams, ⟨coins.challenge, wire, coins.envelope, encoded, built⟩, rfl⟩

/-- In phase 1 a datagram passes the gate or is cheap. -/
theorem listening_gate {reasm : Reassembler} (phase : driver.phase = .listening reasm) (now : Nat)
    (src : SocketAddr) (raw : Bytes) (coins : DriverCoins) :
    (∃ offer, driver.Admits prims config (.datagram now src raw coins) offer) ∨
      driver.Cheap prims config (.datagram now src raw coins) := by
  have react : ∀ prims, driver.react prims config (.datagram now src raw coins) =
    driver.receive prims config now src raw coins := fun _ => rfl
  rcases pushed : pushHandshake prims reasm now raw config.hsObf with ⟨e | _ | message, after⟩
  · refine .inr (cheap_of_listening { driver with phase := .listening after } .quiet rfl ?_
      (fun other => ?_) (.inl rfl))
    · simp only [react, receive, phase, pushed]
    · simp only [react, receive, phase, push_symmetric, pushed]
  · refine .inr (cheap_of_listening { driver with phase := .listening after } .quiet rfl ?_
      (fun other => ?_) (.inl rfl))
    · simp only [react, receive, phase, pushed]
    · simp only [react, receive, phase, push_symmetric, pushed]
  · have handled : driver.react prims config (.datagram now src raw coins) =
        driver.handleInit prims config now src message coins := by
      simp only [react, receive, phase, pushed]
    have handled' : ∀ other,
        driver.react (prims.withAsymmetric other) config (.datagram now src raw coins) =
          driver.handleInit (prims.withAsymmetric other) config now src message coins := by
      intro other
      simp only [react, receive, phase, push_symmetric, pushed]
    have offered : ∀ init, HandshakeMessage.decode message = .ok init → init.msgType = .init →
        driver.initOf prims config (.datagram now src raw coins) = some ⟨now, src, message, init⟩ := by
      intro init decoded kind
      simp only [initOf, phase, completed, pushed, decoded, kind, if_true]
    rcases handleInit_gate prims config driver now src coins message with
      ⟨init, decoded, kind, valid⟩ | ⟨same, quiet | ⟨⟨init, decoded, kind⟩, answer⟩⟩
    · refine .inl ⟨_, offered init decoded kind, CookieState.valid_iff.mp valid, ?_⟩
      rw [handled]
      exact handleInit_valid decoded kind valid
    · exact .inr (cheap_of_listening _ _ rfl (handled.trans quiet)
        (fun other => (handled' other).trans ((same other).trans quiet)) (.inl rfl))
    · refine .inr (cheap_of_listening _ _ rfl (handled.trans answer)
        (fun other => (handled' other).trans ((same other).trans answer)) ?_)
      rcases challenge_eq prims config driver ⟨now, src, message, init⟩ coins with silent | ⟨datagrams, fits, sent⟩
      · exact .inl (congrArg (ResponderOutput.mk []) silent)
      · exact .inr ⟨_, datagrams, offered init decoded kind, fits, congrArg (ResponderOutput.mk []) sent⟩

/-- Phase 2 sends nothing, and leaves no other handshake pending. -/
theorem confirming_step (prims : Primitives) (config : DriverConfig) {handshake : Handshake}
    {peer : SocketAddr} {reasm : Reassembler} {deadline : Nat}
    (phase : driver.phase = .confirming handshake peer reasm deadline)
    (event : ResponderEvent) : (driver.react prims config event).2 = .quiet ∧
      ((∃ reasm', (driver.react prims config event).1.phase =
          .confirming handshake peer reasm' deadline) ∨
        ∀ handshake' peer' reasm' deadline', (driver.react prims config event).1.phase ≠
          .confirming handshake' peer' reasm' deadline') := by
  cases event with
  | datagram now src raw coins =>
    show (driver.receive prims config now src raw coins).2 = .quiet ∧ ((∃ reasm',
      (driver.receive prims config now src raw coins).1.phase = _) ∨ ∀ handshake' peer' reasm' deadline',
        (driver.receive prims config now src raw coins).1.phase ≠ _)
    rw [receive, phase]
    dsimp only
    split
    · exact ⟨rfl, .inl ⟨reasm, phase⟩⟩
    split
    · refine ⟨rfl, .inr ?_⟩
      intro handshake' peer' reasm' deadline' impossible
      cases impossible
    · exact ⟨rfl, .inl ⟨_, rfl⟩⟩
    · refine ⟨rfl, .inr ?_⟩
      intro handshake' peer' reasm' deadline' confirming
      unfold handleConfirm at confirming
      split at confirming <;> cases confirming
  | timer now =>
    refine ⟨rfl, ?_⟩
    show (∃ reasm', (driver.timeOut now).phase = _) ∨
      ∀ handshake' peer' reasm' deadline', (driver.timeOut now).phase ≠ _
    rw [timeOut, phase]
    dsimp only
    split
    · exact .inl ⟨reasm, phase⟩
    · refine .inr ?_
      intro handshake' peer' reasm' deadline' impossible
      cases impossible
  | prune now =>
    refine ⟨rfl, .inl ⟨reasm, ?_⟩⟩
    show (driver.prune now).phase = _
    rw [prune, phase]
    exact phase
  | socketFails =>
    refine ⟨rfl, .inr fun handshake' peer' reasm' deadline' confirming => ?_⟩
    change driver.socketError.phase = _ at confirming
    rw [socketError, phase] at confirming
    cases confirming

/-- **Every step passes the gate or is cheap.** -/
theorem admits_or_cheap (event : ResponderEvent) :
    (∃ offer, driver.Admits prims config event offer) ∨ driver.Cheap prims config event := by
  rcases phase : driver.phase with reasm | ⟨handshake, peer, reasm, deadline⟩ | result
  · cases event with
    | datagram now src raw coins => exact listening_gate phase now src raw coins
    | timer now =>
      have same : driver.timeOut now = driver := by rw [timeOut, phase]
      exact .inr (cheap_of_listening _ _ phase (congrArg (·, ResponderOutput.quiet) same)
        (fun _ => congrArg (·, ResponderOutput.quiet) same) (.inl rfl))
    | prune now =>
      have pruned : driver.prune now = { driver with phase := .listening (reasm.pruneOld now 10000) } := by
        rw [prune, phase]
      exact .inr (cheap_of_listening _ _ rfl (congrArg (·, ResponderOutput.quiet) pruned)
        (fun _ => congrArg (·, ResponderOutput.quiet) pruned) (.inl rfl))
    | socketFails =>
      refine .inr ⟨fun _ _ _ => rfl, fun _ _ _ _ pending => ?_, .inl rfl⟩
      change driver.socketError.phase = _ at pending
      rw [socketError, phase] at pending
      cases pending
  · have notListening : ∀ reasm, driver.phase ≠ .listening reasm := fun reasm listening =>
      nomatch phase.symm.trans listening
    obtain ⟨quiet, stays⟩ := confirming_step prims config phase event
    refine .inr (cheap_of_quiet notListening (fun handshake' peer' reasm' deadline' pending => ?_) quiet)
    rcases stays with ⟨left, same⟩ | other
    · obtain ⟨rfl, rfl, -, rfl⟩ := ResponderPhase.confirming.inj (same.symm.trans pending)
      exact ⟨reasm, phase⟩
    · exact absurd pending (other _ _ _ _)
  · have notListening : ∀ reasm, driver.phase ≠ .listening reasm := fun reasm listening =>
      nomatch phase.symm.trans listening
    have same : driver.react prims config event = (driver, .quiet) := by
      cases event with
      | datagram now src raw coins =>
        show driver.receive prims config now src raw coins = _
        rw [receive, phase]
      | timer now =>
        show (driver.timeOut now, ResponderOutput.quiet) = _
        rw [timeOut, phase]
      | prune now =>
        show (driver.prune now, ResponderOutput.quiet) = _
        rw [prune, phase]
      | socketFails =>
        show (driver.socketError, ResponderOutput.quiet) = _
        rw [socketError, phase]
    refine .inr (cheap_of_quiet notListening (fun _ _ reasm' _ pending => ?_) (by rw [same]))
    rw [same] at pending
    exact ⟨reasm', pending⟩

/-- What is sent to one address. -/
theorem mem_directTo {dest dest' : SocketAddr} {datagram : Bytes} {datagrams : List Bytes}
    (present : (dest, datagram) ∈ directTo dest' datagrams) : dest = dest' ∧ datagram ∈ datagrams := by
  obtain ⟨other, among, same⟩ := List.mem_map.mp present
  obtain ⟨rfl, rfl⟩ := Prod.mk.inj same
  exact ⟨rfl, among⟩

/-- **Every step is gated.** -/
theorem gated (event : ResponderEvent) : driver.Gated prims config event := by
  rcases admits_or_cheap event with ⟨offer, offered, carries, alone | ⟨datagrams, answers, output⟩⟩ |
    ⟨-, -, quiet | ⟨offer, datagrams, offered, challenges, output⟩⟩
  · refine ⟨fun message called => ?_, fun dest datagram sent => ?_⟩
    · rw [alone] at called
      exact ⟨offer, offered, (List.mem_singleton.mp called).symm, carries⟩
    · rw [alone] at sent
      cases sent
  · refine ⟨fun message called => ?_, fun dest datagram sent => ?_⟩
    · rw [output] at called
      exact ⟨offer, offered, (List.mem_singleton.mp called).symm, carries⟩
    · rw [output] at sent
      obtain ⟨rfl, among⟩ := mem_directTo sent
      exact ⟨offer, datagrams, offered, rfl, among, .inl ⟨carries, answers⟩⟩
  · refine ⟨fun message called => ?_, fun dest datagram sent => ?_⟩
    · rw [quiet] at called
      cases called
    · rw [quiet] at sent
      cases sent
  · refine ⟨fun message called => ?_, fun dest datagram sent => ?_⟩
    · rw [output] at called
      cases called
    · rw [output] at sent
      obtain ⟨rfl, among⟩ := mem_directTo sent
      exact ⟨offer, datagrams, offered, rfl, among, .inr challenges⟩

theorem passes_or_cheap (event : ResponderEvent) :
    driver.Passes prims config event ∨ driver.Cheap prims config event :=
  (admits_or_cheap event).imp_left fun ⟨offer, admits⟩ => ⟨offer, admits.offered, admits.carries⟩

/-- When a step passes the gate, the cookie it was given is valid. -/
theorem Passes.valid {event : ResponderEvent} (passes : driver.Passes prims config event) :
    ∃ offer, driver.initOf prims config event = some offer ∧
      CookieState.valid prims driver.secret offer.now offer.src offer.init.cookie = true := by
  obtain ⟨offer, offered, cookie⟩ := passes
  exact ⟨offer, offered, CookieState.valid_iff.mpr cookie⟩

end Responder

/-! ### Runs with the cookies they issue -/

/-- A responder, and the addresses and times it issued a cookie for so far. -/
structure Gate where
  driver : Responder
  issued : List (SocketAddr × Nat)

namespace Gate

section Definitions

variable (prims : Primitives) (config : DriverConfig)

def Step (before : Gate) (event : ResponderEvent) (after : Gate) : Prop :=
  after = ⟨(before.driver.react prims config event).1,
    before.driver.issues prims config event ++ before.issued⟩

/-- The sender does not know the secret: a valid cookie is one that was issued. -/
structure Unforged (gate : Gate) (event : ResponderEvent) : Prop where
  clock : ∀ offer, gate.driver.initOf prims config event = some offer → ClockFits offer.now
  cookie : ∀ offer, gate.driver.initOf prims config event = some offer →
    CookieState.valid prims gate.driver.secret offer.now offer.src offer.init.cookie = true →
      ∃ issued ∈ gate.issued,
        offer.init.cookie = CookieState.issue prims gate.driver.secret issued.2 issued.1

/-- The secret is the first one, and every cookie was issued by a clock that fits. -/
structure Timely (secret : Octets 32) (gate : Gate) : Prop where
  secret : gate.driver.secret = secret
  clock : ∀ issued ∈ gate.issued, ClockFits issued.2

end Definitions

variable {prims : Primitives} {config : DriverConfig} {secret : Octets 32} {gate after : Gate}
  {event : ResponderEvent}

theorem timely_step (timely : gate.Timely secret) (unforged : gate.Unforged prims config event)
    (taken : Step prims config gate event after) : after.Timely secret := by
  subst taken
  refine ⟨(Responder.react_secret event).trans timely.secret, fun issued present => ?_⟩
  rcases List.mem_append.mp present with new | old
  · unfold Responder.issues at new
    split at new
    · cases new
    rename_i offer offered
    split at new
    · cases new
    · rw [List.mem_singleton.mp new]
      exact unforged.clock offer offered
  · exact timely.clock issued old

/-- **Without a forged cookie only a challenged address passes**: the challenge was issued to it in the
same window or the one before. -/
theorem passes_challenged (timely : gate.Timely secret) (unforged : gate.Unforged prims config event)
    {offer : Offer} (offered : gate.driver.initOf prims config event = some offer)
    (injective : ∀ issued ∈ gate.issued, CookieInjectiveOn prims secret
      (checkedInputs offer.now offer.src issued.2 issued.1))
    (passes : gate.driver.Passes prims config event) :
    ∃ now, (offer.src, now) ∈ gate.issued ∧ (CookieState.bucket now = CookieState.bucket offer.now ∨
      CookieState.bucket now + 1 = CookieState.bucket offer.now) := by
  obtain ⟨offer', offered', valid⟩ := passes.valid
  obtain rfl := Option.some.inj (offered.symm.trans offered')
  obtain ⟨⟨src, now⟩, present, cookie⟩ := unforged.cookie offer offered valid
  rw [cookie, timely.secret] at valid
  obtain ⟨rfl, window⟩ := valid_issued (unforged.clock offer offered) (timely.clock _ present)
    (injective _ present) valid
  exact ⟨now, present, window⟩

end Gate

/-- **The cookie gate.** In every run of the initial responder, whatever arrives from whatever address:
`respond` is called, and a Response goes to an address, only for an Init with the cookie of that same
address for this window or the last; a step without such an Init does nothing asymmetric and answers with
a challenge at most. The cookie is an HMAC of an injective encoding of address, port and window; where
that HMAC does not collide, an issued cookie is valid for its own address only, in its own window and the
next; and where nobody forges one, an address passes only after a challenge was issued to it. -/
theorem cookie_gate (prims : Primitives) (config : DriverConfig) (secret : Octets 32) :
    (∀ events before event, Run (Responder.Step prims config) (Responder.begin secret) events before →
      before.secret = secret ∧ before.Gated prims config event ∧
        (before.Passes prims config event ∨ before.Cheap prims config event)) ∧
    (∀ src timeBucket, computeCookie prims secret src timeBucket =
      .fill 16 (prims.hmacSha256 secret.bytes (cookieInput src timeBucket)).bytes) ∧
    (∀ src src' timeBucket timeBucket', timeBucket < 2 ^ 64 → timeBucket' < 2 ^ 64 →
      cookieInput src timeBucket = cookieInput src' timeBucket' →
        src = src' ∧ timeBucket = timeBucket') ∧
    (∀ now src now' src', ClockFits now → ClockFits now' →
      CookieInjectiveOn prims secret (checkedInputs now src now' src') →
      CookieState.valid prims secret now src (CookieState.issue prims secret now' src') = true →
        src' = src ∧ (CookieState.bucket now' = CookieState.bucket now ∨
          CookieState.bucket now' + 1 = CookieState.bucket now)) ∧
    ∀ events before event offer,
      Run (Guarded (Gate.Unforged prims config) (Gate.Step prims config)) ⟨.begin secret, []⟩ events
        before →
      before.Unforged prims config event →
      before.driver.initOf prims config event = some offer →
      (∀ issued ∈ before.issued, CookieInjectiveOn prims secret
        (checkedInputs offer.now offer.src issued.2 issued.1)) →
      before.driver.Passes prims config event →
        ∃ now, (offer.src, now) ∈ before.issued ∧
          (CookieState.bucket now = CookieState.bucket offer.now ∨
            CookieState.bucket now + 1 = CookieState.bucket offer.now) := by
  refine ⟨fun events before event run => ⟨?_, Responder.gated event, Responder.passes_or_cheap event⟩,
    fun _ _ => rfl, fun _ _ _ _ => cookieInput_injective, fun _ _ _ _ => valid_issued,
    fun events before event offer run unforged offered injective passes => ?_⟩
  · refine run.invariant (fun driver => driver.secret = secret) ?_ rfl
    rintro driver event _ same rfl
    exact (Responder.react_secret event).trans same
  · refine Gate.passes_challenged (run.invariant (Gate.Timely secret) ?_ ⟨rfl, fun _ none => nomatch none⟩)
      unforged offered injective passes
    rintro gate event after timely ⟨honest, taken⟩
    exact Gate.timely_step timely honest taken

namespace Gate

variable {prims : Primitives} {config : DriverConfig} {datagrams : List Bytes} {wire : Bytes}

/-- A datagram that completes nothing. -/
theorem step_fragment {gate : Gate} {reasm left : Reassembler} {now : Nat} {raw : Bytes}
    (listening : gate.driver.phase = .listening reasm)
    (pushed : pushHandshake prims reasm now raw config.hsObf = (.ok none, left)) (src : SocketAddr)
    (coins : DriverCoins) :
    Guarded (Unforged prims config) (Step prims config) gate (.datagram now src raw coins)
      ⟨⟨gate.driver.secret, .listening left⟩, gate.issued⟩ := by
  have none : gate.driver.initOf prims config (.datagram now src raw coins) = none := by
    simp only [Responder.initOf, listening, completed, pushed]
  refine ⟨⟨fun offer offered => ?_, fun offer offered => ?_⟩, ?_⟩
  · rw [none] at offered
    cases offered
  · rw [none] at offered
    cases offered
  · simp only [Step, Responder.react, Responder.receive, listening, pushed, Responder.issues, none,
      List.nil_append]

/-- A whole message reaches the responder in phase 1. -/
theorem deliver (config : DriverConfig) (now : Nat) (src : SocketAddr) (coins : DriverCoins) (gate : Gate)
    (nonempty : 0 < datagrams.length) (listening : gate.driver.phase = .listening .new)
    (receiving : Receiving prims config.hsObf datagrams wire 0 .new) :
    ∃ events left raw, Run (Guarded (Unforged prims config) (Step prims config)) gate events
        ⟨⟨gate.driver.secret, .listening left⟩, gate.issued⟩ ∧
      pushHandshake prims left now raw config.hsObf = (.ok (some wire), .new) := by
  obtain ⟨⟨secret, phase⟩, issued⟩ := gate
  obtain rfl : phase = .listening .new := listening
  let reaches (_ : Nat) (reasm : Reassembler) : Prop :=
    ∃ events, Run (Guarded (Unforged prims config) (Step prims config))
      ⟨⟨secret, .listening .new⟩, issued⟩ events ⟨⟨secret, .listening reasm⟩, issued⟩
  have start : reaches 0 .new := ⟨[], .done _⟩
  have advance : ∀ count reasm raw left, count + 1 < datagrams.length → datagrams[count]? = some raw →
      reaches count reasm → pushHandshake prims reasm now raw config.hsObf = (.ok none, left) →
      reaches (count + 1) left := by
    rintro count reasm raw left - - ⟨events, run⟩ pushed
    have listening : (Gate.mk ⟨secret, .listening reasm⟩ issued).driver.phase = .listening reasm := rfl
    have taken := step_fragment listening pushed src coins
    exact ⟨events ++ [_], run.append (.next taken (.done _))⟩
  obtain ⟨count, left, raw, -, -, ⟨events, run⟩, pushed⟩ :=
    receiving.upToLast now nonempty start advance
  exact ⟨events, left, raw, run, pushed⟩

end Gate

/-- A responder that talks in the clear. -/
def sampleListener : DriverConfig := ⟨Handshake.sampleResponder, .chaCha20Poly1305, none, 9⟩

/-- The Init of the sample initiator with a cookie. -/
def sampleInit (cookie : Octets 16) : HandshakeMessage :=
  { Handshake.initMessage .transparent Handshake.sampleInitiator .aegis256X2 Handshake.sampleStart with
    cookie }

/-- The sample Init reaches the responder. -/
theorem sampleInit_arrives (gate : Gate) (listening : gate.driver.phase = .listening .new)
    (cookie : Octets 16) : ∃ events left raw wire,
      Run (Guarded (Gate.Unforged .transparent sampleListener)
        (Gate.Step .transparent sampleListener)) gate events
          ⟨⟨gate.driver.secret, .listening left⟩, gate.issued⟩ ∧
      pushHandshake .transparent left 0 raw sampleListener.hsObf = (.ok (some wire), .new) ∧
      HandshakeMessage.decode wire = .ok (sampleInit cookie) := by
  have fits : Handshake.sampleInitiator.signatureLen .transparent ≤ 6923 := by decide
  have short : (sampleInit cookie).sig.length ≤ 6923 := by
    unfold sampleInit
    rw [Handshake.length_initMessage_sig]
    exact fits
  obtain ⟨wire, encoded⟩ := Handshake.encode_exists short fun _ => 0
  have decoded := HandshakeMessage.decode_encode rfl encoded
  obtain ⟨datagrams, built⟩ := build_clear_exists .transparent 7 wire sampleDriverCoins.envelope
  obtain ⟨nonempty, receiving⟩ :=
    receiving_of_built Primitives.transparent_aeadCorrect decoded built
  obtain ⟨events, left, raw, run, pushed⟩ := Gate.deliver sampleListener 0 samplePeer
    sampleDriverCoins gate nonempty listening receiving
  exact ⟨events, left, raw, wire, run, pushed, decoded⟩

/-- The cookie of the sample peer in the first window. -/
def sampleCookie : Octets 16 := CookieState.issue .transparent (.zero 32) 0 samplePeer

theorem sample_windows : CookieInjectiveOn .transparent (.zero 32)
    (checkedInputs 0 samplePeer 0 samplePeer) := by
  have differ : computeCookie .transparent (.zero 32) samplePeer (CookieState.bucket 0) ≠
      computeCookie .transparent (.zero 32) samplePeer (previousBucket (CookieState.bucket 0)) := by
    decide +kernel
  rintro first (rfl | rfl | rfl) second (rfl | rfl | rfl) same
  · rfl
  · rfl
  · exact absurd same differ
  · rfl
  · rfl
  · exact absurd same differ
  · exact absurd same.symm differ
  · exact absurd same.symm differ
  · rfl

/-- The sample peer sends an Init without a cookie, then one with the cookie it was given, which is the
first that `respond` is called for. -/
theorem cookie_gate_sample : ∃ events before event, Run (Guarded
      (Gate.Unforged .transparent sampleListener) (Gate.Step .transparent sampleListener))
      ⟨.begin (.zero 32), []⟩ events before ∧
    before.driver.Passes .transparent sampleListener event ∧
    (before.driver.react .transparent sampleListener event).2.responds ≠ [] ∧
    ∃ now, (samplePeer, now) ∈ before.issued := by
  have stale : CookieState.valid .transparent (.zero 32) 0 samplePeer (.zero 16) = false := by
    decide +kernel
  have clock : ClockFits 0 := by
    unfold ClockFits
    decide
  -- the Init without a cookie meets a challenge
  obtain ⟨events, left, raw, wire, run, pushed, decoded⟩ :=
    sampleInit_arrives ⟨.begin (.zero 32), []⟩ rfl (.zero 16)
  have offered : Responder.initOf .transparent sampleListener ⟨.zero 32, .listening left⟩
      (.datagram 0 samplePeer raw sampleDriverCoins) = some ⟨0, samplePeer, wire, sampleInit (.zero 16)⟩ := by
    simp only [Responder.initOf, completed, pushed, decoded]
    rfl
  have challenged : Guarded (Gate.Unforged .transparent sampleListener)
      (Gate.Step .transparent sampleListener) ⟨⟨.zero 32, .listening left⟩, []⟩
      (.datagram 0 samplePeer raw sampleDriverCoins)
      ⟨⟨.zero 32, .listening .new⟩, [(samplePeer, 0)]⟩ := by
    refine ⟨⟨fun offer given => ?_, fun offer given valid => ?_⟩, ?_⟩
    · obtain rfl := Option.some.inj (offered.symm.trans given)
      exact clock
    · obtain rfl := Option.some.inj (offered.symm.trans given)
      rw [show CookieState.valid .transparent (.zero 32) 0 samplePeer (sampleInit (.zero 16)).cookie =
        false from stale] at valid
      cases valid
    · have valid : CookieState.valid .transparent (.zero 32) 0 samplePeer (sampleInit (.zero 16)).cookie =
          false := stale
      have received : Responder.receive .transparent sampleListener ⟨.zero 32, .listening left⟩ 0
          samplePeer raw sampleDriverCoins = Responder.handleInit .transparent sampleListener
            ⟨.zero 32, .listening left⟩ 0 samplePeer wire sampleDriverCoins := by
        simp only [Responder.receive, pushed]
      unfold Gate.Step Responder.issues
      rw [offered]
      dsimp only
      rw [if_neg (by rw [valid]; exact Bool.false_ne_true), Responder.react, received,
        Responder.handleInit_challenge decoded rfl valid]
      rfl
  -- the Init with the cookie passes
  obtain ⟨events', left', raw', wire', run', pushed', decoded'⟩ :=
    sampleInit_arrives ⟨⟨.zero 32, .listening .new⟩, [(samplePeer, 0)]⟩ rfl sampleCookie
  have offered' : Responder.initOf .transparent sampleListener ⟨.zero 32, .listening left'⟩
      (.datagram 0 samplePeer raw' sampleDriverCoins) =
        some ⟨0, samplePeer, wire', sampleInit sampleCookie⟩ := by
    simp only [Responder.initOf, completed, pushed', decoded']
    rfl
  have passes : Responder.Passes .transparent sampleListener ⟨.zero 32, .listening left'⟩
      (.datagram 0 samplePeer raw' sampleDriverCoins) := ⟨_, offered', .inl rfl⟩
  have called : (Responder.react .transparent sampleListener ⟨.zero 32, .listening left'⟩
      (.datagram 0 samplePeer raw' sampleDriverCoins)).2.responds ≠ [] := by
    have received : Responder.receive .transparent sampleListener ⟨.zero 32, .listening left'⟩ 0
        samplePeer raw' sampleDriverCoins = Responder.handleInit .transparent sampleListener
          ⟨.zero 32, .listening left'⟩ 0 samplePeer wire' sampleDriverCoins := by
      simp only [Responder.receive, pushed']
    have valid : CookieState.valid .transparent (.zero 32) 0 samplePeer (sampleInit sampleCookie).cookie =
        true := CookieState.valid_iff.mpr (.inl rfl)
    rw [Responder.react, received]
    rcases @Responder.handleInit_valid .transparent sampleListener ⟨.zero 32, .listening left'⟩ 0 samplePeer
      sampleDriverCoins wire' _ decoded' rfl valid with alone | ⟨datagrams, -, answered⟩
    · rw [alone]
      exact List.cons_ne_nil _ _
    · rw [answered]
      exact List.cons_ne_nil _ _
  have whole := run.append (.next challenged run')
  have unforged : Gate.Unforged .transparent sampleListener
      ⟨⟨.zero 32, .listening left'⟩, [(samplePeer, 0)]⟩
      (.datagram 0 samplePeer raw' sampleDriverCoins) := by
    refine ⟨fun offer given => ?_, fun offer given _ => ?_⟩
    · obtain rfl := Option.some.inj (offered'.symm.trans given)
      exact clock
    · obtain rfl := Option.some.inj (offered'.symm.trans given)
      exact ⟨(samplePeer, 0), List.mem_singleton.mpr rfl, rfl⟩
  obtain ⟨now, present, -⟩ := (cookie_gate .transparent sampleListener (.zero 32)).2.2.2.2 _ _
    (.datagram 0 samplePeer raw' sampleDriverCoins) _ whole unforged offered'
    (fun issued present => List.mem_singleton.mp present ▸ sample_windows) passes
  exact ⟨_, _, _, whole, passes, called, now, present⟩

end ChameleonPQ
