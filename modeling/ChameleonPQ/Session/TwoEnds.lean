/-
**The keys and the nonces of both ends of a tunnel (`session.rs`, `engine.rs`).**

Both ends seal under sessions of their own, through any number of rekeys that either of them began, and the
keys of all sessions come out of one key schedule.

* `SendSide.uses` — the key and the nonce of every seal an end made.
* `Primitives.Separates` — HKDF gives different keys for different secrets and directions.
* `SendSide.txKey_injective` — a key says which end of which handshake sends under it.
* `nonces_never_shared` — in every run of both ends, no two seals share a key and a nonce.
-/

import ChameleonPQ.Session.SendSide

namespace ChameleonPQ

open Library Library.Runs

namespace Primitives

/-- **The key schedule separates** the given secrets: no two of them, and no two labels, give one key. -/
def Separates (prims : Primitives) (secrets : List (Octets 32)) : Prop :=
  ∀ first ∈ secrets, ∀ second ∈ secrets, ∀ label ∈ directionalLabels, ∀ label' ∈ directionalLabels,
    prims.hkdfSha256 directionalSalt first.bytes label = prims.hkdfSha256 directionalSalt second.bytes label' →
      first = second ∧ label = label'

end Primitives

namespace HandshakeOutput

/-- Which end of which handshake. -/
def side (origin : HandshakeOutput) : Octets 32 × Bool := (origin.shared, origin.isInitiator)

end HandshakeOutput

/-- The label of what an end sends. -/
def txLabel (isInitiator : Bool) : Bytes := if isInitiator then ascii "key-A->B" else ascii "key-B->A"

theorem txLabel_mem (isInitiator : Bool) : txLabel isInitiator ∈ directionalLabels := by
  cases isInitiator <;> decide

theorem txLabel_injective {first second : Bool} (same : txLabel first = txLabel second) : first = second := by
  revert same
  cases first <;> cases second <;> decide

namespace SendSide

/-- The key an end sends under. -/
theorem txKey_share (prims : Primitives) (origin : HandshakeOutput) :
    (share prims origin).session.txAead.key =
      prims.hkdfSha256 directionalSalt origin.shared.bytes (txLabel origin.isInitiator) := by
  obtain ⟨sessionId, shared, isInitiator, algo⟩ := origin
  cases isInitiator <;> rfl

/-- **A key says which end of which handshake sends under it.** -/
theorem txKey_injective {prims : Primitives} {secrets : List (Octets 32)} (separates : prims.Separates secrets)
    {first second : HandshakeOutput} (known : first.shared ∈ secrets) (known' : second.shared ∈ secrets)
    (same : (share prims first).session.txAead.key = (share prims second).session.txAead.key) :
    first.side = second.side := by
  rw [txKey_share, txKey_share] at same
  obtain ⟨shared, label⟩ := separates _ known _ known' _ (txLabel_mem _) _ (txLabel_mem _) same
  exact Prod.ext shared (txLabel_injective label)

/-- The key and the nonce of a seal. -/
def useOf (side : SendSide) (token : Nat × Nat) : Option (Octets 32 × Bytes) :=
  side.sessions[token.1]?.map fun cell =>
    (cell.session.txAead.key, cell.session.makeNonce cell.session.txSalt token.2)

/-- The key and the nonce of every seal. -/
def uses (side : SendSide) : List (Octets 32 × Bytes) := side.seals.filterMap side.useOf

/-- Which end of which handshake the sessions of the heap are. -/
def sides (side : SendSide) : List (Octets 32 × Bool) := side.sessions.map fun cell => cell.origin.side

section Uses

variable {prims : Primitives} {side other : SendSide}

/-- A seal used the keys of a session of the heap. -/
theorem Ledger.useOf_eq (ledger : Ledger prims side) {token : Nat × Nat} {used : Octets 32 × Bytes}
    (same : side.useOf token = some used) : ∃ cell, side.sessions[token.1]? = some cell ∧
      used.1 = (share prims cell.origin).session.txAead.key ∧
        used.2 = (share prims cell.origin).session.makeNonce (share prims cell.origin).session.txSalt token.2 := by
  obtain ⟨cell, found, rfl⟩ := Option.map_eq_some_iff.mp same
  refine ⟨cell, found, ?_⟩
  have counted := ledger.counted cell (List.mem_of_getElem? found)
  rw [counted]
  exact ⟨rfl, rfl⟩

theorem mem_sides {cell : SharedSession} {handle : Nat} (found : side.sessions[handle]? = some cell) :
    cell.origin.side ∈ side.sides := List.mem_map_of_mem (List.mem_of_getElem? found)

/-- Every seal has its key and its nonce. -/
theorem Ledger.length_uses (ledger : Ledger prims side) : side.uses.length = side.seals.length := by
  have used : ∀ token ∈ side.seals, (side.useOf token).isSome = true := by
    intro token member
    obtain ⟨cell, found, -, -⟩ := ledger.granted token (List.mem_append_right _ member)
    rw [useOf, found]
    rfl
  rw [uses, List.length_filterMap_eq_countP]
  exact List.countP_eq_length.mpr used

/-- Two seals with one key are by the same end of the same handshake. -/
theorem Ledger.side_eq (ledger : Ledger prims side) (ledger' : Ledger prims other) {secrets : List (Octets 32)}
    (separates : prims.Separates secrets) (known : ∀ origin ∈ side.sides, origin.1 ∈ secrets)
    (known' : ∀ origin ∈ other.sides, origin.1 ∈ secrets) {token token' : Nat × Nat} {used : Octets 32 × Bytes}
    (uses : side.useOf token = some used) (uses' : other.useOf token' = some used) :
    ∃ cell cell', side.sessions[token.1]? = some cell ∧ other.sessions[token'.1]? = some cell' ∧
      cell.origin.side = cell'.origin.side := by
  obtain ⟨cell, found, key, -⟩ := ledger.useOf_eq uses
  obtain ⟨cell', found', key', -⟩ := ledger'.useOf_eq uses'
  exact ⟨cell, cell', found, found', txKey_injective separates (known _ (mem_sides found))
    (known' _ (mem_sides found')) (key.symm.trans key')⟩

/-- **One end never uses a key and a nonce twice**, when its sessions come out of different handshakes. -/
theorem Ledger.nodup_uses (ledger : Ledger prims side) (budget : side.WithinBudget) {secrets : List (Octets 32)}
    (separates : prims.Separates secrets) (known : ∀ origin ∈ side.sides, origin.1 ∈ secrets)
    (once : side.sides.Nodup) : side.uses.Nodup := by
  have distinct : side.seals.Nodup := (List.nodup_append.mp ledger.distinct).2.1
  refine List.pairwise_filterMap.mpr (distinct.imp_of_mem fun {token token'} member member' differ => ?_)
  rintro used uses _ uses' rfl
  obtain ⟨cell, cell', found, found', same⟩ := ledger.side_eq ledger separates known known uses uses'
  -- one place of the heap holds both sessions
  have place : token.1 = token'.1 := by
    have here : side.sides[token.1]? = some cell.origin.side := by rw [sides, List.getElem?_map, found]; rfl
    have there : side.sides[token'.1]? = some cell.origin.side := by rw [sides, List.getElem?_map, found', same]; rfl
    have inside := (List.getElem?_eq_some_iff.mp here).1
    exact (List.getElem?_inj inside once).mp (here.trans there.symm)
  obtain ⟨cell₁, found₁, -, nonce⟩ := ledger.useOf_eq uses
  obtain ⟨cell₂, found₂, -, nonce'⟩ := ledger.useOf_eq uses'
  rw [← place] at found₂
  obtain rfl := Option.some.inj (found₁.symm.trans found₂)
  have small : ∀ sealed ∈ side.seals, sealed.2 < 2 ^ 64 := fun sealed member => by
    obtain ⟨held, at', requested, -⟩ := ledger.granted sealed (List.mem_append_right _ member)
    exact requested.trans (budget held (List.mem_of_getElem? at'))
  exact differ (Prod.ext place
    (Session.makeNonce_injective _ _ (small token member) (small token' member') (nonce.symm.trans nonce')))

end Uses

end SendSide

/-- The two ends of a tunnel. -/
structure TwoEnds where
  dialer : SendSide
  listener : SendSide

/-- A step of either end. -/
inductive EndsEvent where
  | dialer (event : SendEvent)
  | listener (event : SendEvent)

namespace TwoEnds

section Definitions

variable (prims : Primitives)

/-- Each end starts on a session. -/
def start (dialer listener : HandshakeOutput) : TwoEnds := ⟨.start prims dialer, .start prims listener⟩

def step (ends : TwoEnds) : EndsEvent → Option TwoEnds
  | .dialer event => (ends.dialer.step prims event).map fun dialer => { ends with dialer }
  | .listener event => (ends.listener.step prims event).map fun listener => { ends with listener }

end Definitions

/-- Which end of which handshake every session is. -/
def sides (ends : TwoEnds) : List (Octets 32 × Bool) := ends.dialer.sides ++ ends.listener.sides

/-- The secrets of all handshakes. -/
def secrets (ends : TwoEnds) : List (Octets 32) := ends.sides.map Prod.fst

/-- The key and the nonce of every seal of both ends. -/
def uses (ends : TwoEnds) : List (Octets 32 × Bytes) := ends.dialer.uses ++ ends.listener.uses

variable {prims : Primitives} {first last : TwoEnds} {events : List EndsEvent}

/-- Each end has a run of its own. -/
theorem run_ends (run : Run (Taken (step prims)) first events last) :
    (∃ own, Run (Taken (SendSide.step prims)) first.dialer own last.dialer) ∧
      ∃ own, Run (Taken (SendSide.step prims)) first.listener own last.listener := by
  induction run with
  | done _ => exact ⟨⟨[], .done _⟩, ⟨[], .done _⟩⟩
  | @next _ _ _ event _ taken _ ih =>
    obtain ⟨⟨dialing, dialer⟩, ⟨listening, listener⟩⟩ := ih
    cases event with
    | dialer event =>
      obtain ⟨after, moved, rfl⟩ := Option.map_eq_some_iff.mp taken
      exact ⟨⟨event :: dialing, .next moved dialer⟩, ⟨listening, listener⟩⟩
    | listener event =>
      obtain ⟨after, moved, rfl⟩ := Option.map_eq_some_iff.mp taken
      exact ⟨⟨dialing, dialer⟩, ⟨event :: listening, .next moved listener⟩⟩

/-- **No key and nonce serve twice.** Both ends of a tunnel seal in any interleaving of batches, inline packets and
single frames, with any number of rekeys. When each end of each handshake becomes a session once, the key
schedule separates their secrets and no session is asked for `2^64` counters: every seal of either end has a
key and a nonce that no other seal of the tunnel has. -/
theorem nonces_never_shared (dialer listener : HandshakeOutput)
    (run : Run (Taken (step prims)) (start prims dialer listener) events last) (once : last.sides.Nodup)
    (separates : prims.Separates last.secrets) (dialing : last.dialer.WithinBudget)
    (listening : last.listener.WithinBudget) :
    last.uses.Nodup ∧ last.uses.length = last.dialer.seals.length + last.listener.seals.length := by
  obtain ⟨⟨_, dialerRun⟩, ⟨_, listenerRun⟩⟩ := run_ends run
  have ledger := SendSide.ledger_run dialerRun (SendSide.ledger_start dialer) dialing
  have ledger' := SendSide.ledger_run listenerRun (SendSide.ledger_start listener) listening
  have known : ∀ origin ∈ last.dialer.sides, origin.1 ∈ last.secrets :=
    fun origin member => List.mem_map_of_mem (List.mem_append_left _ member)
  have known' : ∀ origin ∈ last.listener.sides, origin.1 ∈ last.secrets :=
    fun origin member => List.mem_map_of_mem (List.mem_append_right _ member)
  obtain ⟨onceDialer, onceListener, apart⟩ := List.nodup_append.mp once
  refine ⟨List.nodup_append.mpr ⟨ledger.nodup_uses dialing separates known onceDialer,
    ledger'.nodup_uses listening separates known' onceListener, ?_⟩, ?_⟩
  · rintro used member _ member' rfl
    obtain ⟨token, -, uses⟩ := List.mem_filterMap.mp member
    obtain ⟨token', -, uses'⟩ := List.mem_filterMap.mp member'
    obtain ⟨cell, cell', found, found', same⟩ := ledger.side_eq ledger' separates known known' uses uses'
    exact apart _ (SendSide.mem_sides found) _ (SendSide.mem_sides found') same
  · rw [uses, List.length_append, ledger.length_uses, ledger'.length_uses]

/-! ### A rekey of both ends -/

/-- The dialer's end of a handshake with a secret. -/
def sampleDialer (octet : UInt8) : HandshakeOutput := ⟨7, .fill 32 [octet], true, .aegis256X2⟩

/-- Both ends seal, rekey, and seal again; the dialer's batch goes on under the session it pinned. -/
def sampleEvents : List EndsEvent :=
  [.dialer (.dispatchSeal 2), .listener .sealFrame, .dialer (.pin 0), .listener (.pin 0),
    .dialer (.install (sampleDialer 1)), .listener (.install (sampleDialer 1).peer), .dialer (.reserve 0),
    .listener (.reserve 0), .dialer .sealFrame, .dialer (.pin 1), .dialer (.reserve 1), .dialer (.sealOne 1 0),
    .listener (.sealOne 0 0), .dialer (.sealOne 0 1), .dialer (.sealOne 0 0)]

/-- The state after the sample run. -/
def sampleRun : TwoEnds :=
  (execute (step .transparent) (start .transparent (sampleDialer 0) (sampleDialer 0).peer) sampleEvents).getD
    (start .transparent (sampleDialer 0) (sampleDialer 0).peer)

theorem nonces_never_shared_sample : sampleRun.uses.Nodup ∧ sampleRun.uses.length = 4 := by
  have run : Run (Taken (step .transparent)) (start .transparent (sampleDialer 0) (sampleDialer 0).peer)
      sampleEvents sampleRun := run_of_execute rfl
  have separates : Primitives.transparent.Separates sampleRun.secrets := by
    unfold Primitives.Separates
    decide +kernel
  have dialing : ∀ cell ∈ sampleRun.dialer.sessions, cell.requested < 2 ^ 64 := by decide
  have listening : ∀ cell ∈ sampleRun.listener.sessions, cell.requested < 2 ^ 64 := by decide
  obtain ⟨distinct, count⟩ := nonces_never_shared _ _ run (by decide +kernel) separates dialing listening
  exact ⟨distinct, count⟩

end TwoEnds

end ChameleonPQ
