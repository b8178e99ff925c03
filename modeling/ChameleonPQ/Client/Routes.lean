/-
**Full-tunnel routes (`route.rs`).**

The client routes everything through the tunnel with a pinned route to the server and two halves of the
address space. A guard is created before the first command; whenever it is dropped it deletes both halves
and its pin, by destination.

* `RouteTable` — the routes to each destination; `routeOp` — one command of either back-end.
* `install`, `remove` — the guard.
* `remove_table`, `AfterPin` — what `remove` and the pin leave of the routes to each destination.
* `full_tunnel_transactional` — the table is restored exactly when nothing the guard has not added is
  there for it to delete, and no delete of its own routes fails.
-/

import ChameleonPQ.Library.Octets
import Mathlib.Logic.Function.Basic

namespace ChameleonPQ

open Library

/-- `IpAddr`. -/
inductive IpAddr where
  | v4 (octets : Octets 4)
  | v6 (octets : Octets 16)
  deriving DecidableEq

/-- A destination, `addr/width`. -/
structure Cidr where
  addr : IpAddr
  width : Nat
  deriving DecidableEq

/-- `0.0.0.0/1`. -/
def lowerHalf : Cidr := ⟨.v4 ⟨[0, 0, 0, 0], rfl⟩, 1⟩

/-- `128.0.0.0/1`. -/
def upperHalf : Cidr := ⟨.v4 ⟨[128, 0, 0, 0], rfl⟩, 1⟩

/-- The destination of the endpoint pin. -/
def pinOf (endpoint : IpAddr) : Cidr := ⟨endpoint, 32⟩

/-- A route to some destination. -/
structure Route where
  via : Octets 4
  dev : Option String
  metric : Nat
  deriving DecidableEq

/-- The routing table of the system: the routes to each destination, the preferred one first. -/
abbrev RouteTable := Cidr → List Route

/-- `Op`. -/
inductive RouteOp where
  | add
  | delete
  deriving DecidableEq

/-- `ChameleonError::Route`: what failed. -/
structure RouteError where
  op : RouteOp
  what : Cidr
  deriving DecidableEq

/-- The two back-ends: `route` on Windows, `ip route` elsewhere. -/
inductive RouteBackend where
  | windows
  | ip
  deriving DecidableEq

namespace RouteBackend

/-- The metric of the routes the back-end adds. -/
def metric : RouteBackend → Nat
  | windows => 1
  | ip => 0

/-- The system refuses a route that is there already: `ip route` counts one of the same metric, Windows one
by the same gateway and interface. -/
def refuses (backend : RouteBackend) (present : List Route) (route : Route) : Bool :=
  match backend with
  | ip => present.any fun other => decide (other.metric = route.metric)
  | windows => present.any fun other => decide (other.via = route.via ∧ other.dev = route.dev)

/-- What deleting a destination leaves: `ip route del` takes the first route, `route delete` takes all. -/
def removes (backend : RouteBackend) (present : List Route) : List Route :=
  match backend with
  | ip => present.tail
  | windows => []

end RouteBackend

/-- The commands that fail for another reason: no rights, the tunnel's interface is not ready. Each
command of an install and its removal comes up once. -/
structure RouteFaults where
  pin : Bool
  lower : Bool
  upper : Bool
  /-- The deletes on the error path of `install`. -/
  undoLower : Bool
  undoPin : Bool
  /-- The deletes of `remove`. -/
  removeLower : Bool
  removeUpper : Bool
  removePin : Bool

/-- `FullTunnelRoutes`. -/
structure FullTunnelRoutes where
  peerGw : Octets 4
  tun : String
  endpoint : Option IpAddr
  removed : Bool
  deriving DecidableEq

namespace FullTunnelRoutes

section Definitions

variable (backend : RouteBackend) (faults : RouteFaults)

/-- `route_op`. -/
def routeOp (fault : Bool) (op : RouteOp) (cidr : Cidr) (gw : Octets 4) (tun : Option String)
    (table : RouteTable) : Except RouteError Unit × RouteTable :=
  match op with
  | .add =>
    if fault = true ∨ backend.refuses (table cidr) ⟨gw, tun, backend.metric⟩ = true then
      (.error ⟨.add, cidr⟩, table)
    else (.ok (), Function.update table cidr (⟨gw, tun, backend.metric⟩ :: table cidr))
  | .delete =>
    if fault = true ∨ table cidr = [] then (.error ⟨.delete, cidr⟩, table)
    else (.ok (), Function.update table cidr (backend.removes (table cidr)))

/-- `endpoint_is_remote`: on-link is what shares the gateway's `/24`. -/
def endpointIsRemote (endpoint : IpAddr) (gw : Octets 4) : Bool :=
  match endpoint with
  | .v4 ep => decide (ep.bytes.take 3 ≠ gw.bytes.take 3)
  | .v6 _ => false

/-- The pin is deleted, where there is one. -/
def deletePin (fault : Bool) (me : FullTunnelRoutes) (table : RouteTable) : RouteTable :=
  match me.endpoint with
  | some ep => (routeOp backend fault .delete (pinOf ep) me.peerGw none table).2
  | none => table

/-- `remove`; also what dropping the guard does. -/
def remove (me : FullTunnelRoutes) (table : RouteTable) : FullTunnelRoutes × RouteTable :=
  if me.removed then (me, table)
  else
    let (_, table) := routeOp backend faults.removeLower .delete lowerHalf me.peerGw (some me.tun) table
    let (_, table) := routeOp backend faults.removeUpper .delete upperHalf me.peerGw (some me.tun) table
    ({ me with removed := true }, deletePin backend faults.removePin me table)

/-- The endpoint pin: only for a server behind the default gateway, and a failure only warns. -/
def pinEndpoint (gateway : Option (Octets 4)) (endpoint : IpAddr) (me : FullTunnelRoutes)
    (table : RouteTable) : FullTunnelRoutes × RouteTable :=
  match gateway with
  | some gw =>
    if endpointIsRemote endpoint gw then
      match routeOp backend faults.pin .add (pinOf endpoint) gw none table with
      | (.ok (), table) => ({ me with endpoint := some endpoint }, table)
      | (.error _, table) => (me, table)
    else (me, table)
  | none => (me, table)

/-- `install`; an error drops the guard. -/
def install (gateway : Option (Octets 4)) (peerGw : Octets 4) (endpoint : IpAddr) (tun : String)
    (table : RouteTable) : Except RouteError FullTunnelRoutes × RouteTable :=
  let (me, table) := pinEndpoint backend faults gateway endpoint ⟨peerGw, tun, none, false⟩ table
  match routeOp backend faults.lower .add lowerHalf peerGw (some tun) table with
  | (.error e, table) => (.error e, (me.remove backend faults table).2)
  | (.ok (), table) =>
    match routeOp backend faults.upper .add upperHalf peerGw (some tun) table with
    | (.error e, table) =>
      let (_, table) := routeOp backend faults.undoLower .delete lowerHalf peerGw (some tun) table
      (.error e, (me.remove backend faults (deletePin backend faults.undoPin me table)).2)
    | (.ok (), table) => (.ok me, table)

/-- `remove`, so many times. -/
def removeTimes : Nat → FullTunnelRoutes × RouteTable → FullTunnelRoutes × RouteTable
  | 0, state => state
  | times + 1, (me, table) => removeTimes times (me.remove backend faults table)

/-- **All or nothing**: a failed install leaves the table as it was, and so does every removal, once or
repeatedly, after one that succeeded. -/
def Transactional (gateway : Option (Octets 4)) (peerGw : Octets 4) (endpoint : IpAddr) (tun : String)
    (before : RouteTable) : Prop :=
  match install backend faults gateway peerGw endpoint tun before with
  | (.error _, after) => after = before
  | (.ok routes, after) => ∀ times, (removeTimes backend faults (times + 1) (routes, after)).2 = before

end Definitions

/-! ### One destination -/

theorem lowerHalf_ne_upperHalf : lowerHalf ≠ upperHalf := by decide

theorem pinOf_ne_lowerHalf (endpoint : IpAddr) : pinOf endpoint ≠ lowerHalf := fun same => by
  cases congrArg Cidr.width same

theorem pinOf_ne_upperHalf (endpoint : IpAddr) : pinOf endpoint ≠ upperHalf := fun same => by
  cases congrArg Cidr.width same

section Stacks

variable (backend : RouteBackend) (fault second : Bool) (present : List Route) (route : Route)

/-- The routes to a destination after a delete, which may fail. -/
def deleted : List Route := if fault = true then present else backend.removes present

/-- The delete of an added route takes back just that route: the back-end deletes one route, or there is
no other. -/
def Undoes : Prop := backend = .ip ∨ present = []

/-- Two deletes leave just the other routes: one of them fails, or there is no other. -/
def UndoesTwice : Prop :=
  (fault = false ∧ second = false ∧ present = []) ∨ (fault ≠ second ∧ Undoes backend present)

variable {backend fault second present}

theorem cons_ne_present : route :: present ≠ present := fun same => by
  have length := congrArg List.length same
  rw [List.length_cons] at length
  omega

theorem removes_cons_iff : backend.removes (route :: present) = present ↔ Undoes backend present := by
  cases backend with
  | windows => exact ⟨fun empty => .inr empty.symm, fun undoes => by
      rcases undoes with other | empty
      · cases other
      · exact empty.symm⟩
  | ip => exact ⟨fun _ => .inl rfl, fun _ => rfl⟩

theorem removes_iff : backend.removes present = present ↔ present = [] := by
  cases backend with
  | windows => exact eq_comm
  | ip =>
    cases present with
    | nil => exact ⟨fun _ => rfl, fun _ => rfl⟩
    | cons route present =>
      exact iff_of_false (fun same => cons_ne_present route same.symm) (List.cons_ne_nil _ _)

/-- A destination the guard added nothing to. -/
theorem deleted_iff : deleted backend fault present = present ↔ present = [] ∨ fault = true := by
  cases fault with
  | true => exact iff_of_true rfl (.inr rfl)
  | false =>
    rw [deleted, if_neg Bool.false_ne_true, removes_iff]
    exact ⟨.inl, fun either => either.elim id fun fault => by cases fault⟩

/-- A destination the guard added a route to, after one delete. -/
theorem deleted_cons_iff :
    deleted backend fault (route :: present) = present ↔ fault = false ∧ Undoes backend present := by
  cases fault with
  | true => exact iff_of_false (cons_ne_present route) fun both => by cases both.1
  | false =>
    rw [deleted, if_neg Bool.false_ne_true, removes_cons_iff]
    exact (and_iff_right rfl).symm

/-- A destination the guard added a route to, after two deletes. -/
theorem deleted_twice_iff :
    deleted backend second (deleted backend fault (route :: present)) = present ↔
      UndoesTwice backend fault second present := by
  cases fault with
  | true =>
    have first : deleted backend true (route :: present) = route :: present := rfl
    rw [first, deleted_cons_iff, UndoesTwice]
    cases second <;> simp
  | false =>
    cases second with
    | true =>
      have kept : ∀ routes, deleted backend true routes = routes := fun _ => rfl
      rw [kept, deleted_cons_iff, UndoesTwice]
      simp
    | false =>
      have both : deleted backend false (deleted backend false (route :: present)) =
          backend.removes (backend.removes (route :: present)) := rfl
      rw [both, UndoesTwice]
      cases backend with
      | windows => simp [RouteBackend.removes, eq_comm]
      | ip =>
        have tail : RouteBackend.ip.removes (RouteBackend.ip.removes (route :: present)) =
            RouteBackend.ip.removes present := rfl
        rw [tail, removes_iff]
        simp

end Stacks

/-! ### The commands -/

section Commands

variable {backend : RouteBackend} {faults : RouteFaults} {fault : Bool} {cidr : Cidr} {gw : Octets 4}
  {tun : Option String} {table : RouteTable}

/-- **A delete touches one destination.** -/
theorem routeOp_delete : (routeOp backend fault .delete cidr gw tun table).2 =
    Function.update table cidr (deleted backend fault (table cidr)) := by
  unfold routeOp deleted
  by_cases failing : fault = true
  · simp only [if_pos failing, if_pos (Or.inl failing : fault = true ∨ table cidr = []),
      Function.update_eq_self]
  · by_cases absent : table cidr = []
    · have nothing : backend.removes (table cidr) = table cidr := removes_iff.mpr absent
      simp only [if_neg failing, if_pos (Or.inr absent : fault = true ∨ table cidr = []), nothing,
        Function.update_eq_self]
    · have neither : ¬ (fault = true ∨ table cidr = []) := fun either => either.elim failing absent
      simp only [if_neg failing, if_neg neither]

/-- What `remove` leaves of the routes to each destination. -/
theorem remove_table {me : FullTunnelRoutes} (unremoved : me.removed = false) :
    (me.remove backend faults table).2 = fun cidr =>
      if cidr = lowerHalf then deleted backend faults.removeLower (table cidr)
      else if cidr = upperHalf then deleted backend faults.removeUpper (table cidr)
      else if me.endpoint.map pinOf = some cidr then deleted backend faults.removePin (table cidr)
      else table cidr := by
  funext cidr
  unfold remove
  rw [unremoved, if_neg Bool.false_ne_true]
  obtain ⟨peerGw, name, endpoint, removed⟩ := me
  cases endpoint with
  | none =>
    dsimp only [deletePin]
    rw [routeOp_delete, routeOp_delete]
    simp only [Function.update_apply, Option.map_none, reduceCtorEq, if_false]
    by_cases upper : cidr = upperHalf
    · subst upper
      simp [lowerHalf_ne_upperHalf.symm]
    · by_cases lower : cidr = lowerHalf <;> simp [lower, upper, lowerHalf_ne_upperHalf]
  | some ep =>
    dsimp only [deletePin]
    rw [routeOp_delete, routeOp_delete, routeOp_delete]
    simp only [Function.update_apply, Option.map_some, Option.some.injEq]
    by_cases upper : cidr = upperHalf
    · subst upper
      simp [lowerHalf_ne_upperHalf.symm, (pinOf_ne_upperHalf ep).symm]
    · by_cases lower : cidr = lowerHalf
      · subst lower
        simp [upper, (pinOf_ne_lowerHalf ep).symm]
      · by_cases pinned : cidr = pinOf ep
        · subst pinned
          simp [upper, lower]
        · have other : ¬ pinOf ep = cidr := fun same => pinned same.symm
          simp [upper, lower, pinned, other]

theorem remove_removed (me : FullTunnelRoutes) : (me.remove backend faults table).1.removed = true := by
  unfold remove
  split
  · assumption
  · rfl

/-- **Removing again changes nothing.** -/
theorem removeTimes_succ (times : Nat) (me : FullTunnelRoutes) (table : RouteTable) :
    (removeTimes backend faults (times + 1) (me, table)).2 = (me.remove backend faults table).2 := by
  have rests : ∀ times (state : FullTunnelRoutes × RouteTable), state.1.removed = true →
      (removeTimes backend faults times state).2 = state.2 := by
    intro times
    induction times with
    | zero => exact fun _ _ => rfl
    | succ times ih =>
      rintro ⟨me, table⟩ removed
      have same : me.remove backend faults table = (me, table) := if_pos removed
      rw [removeTimes, same]
      exact ih (me, table) removed
  exact rests times _ (remove_removed me)

end Commands

/-! ### An install -/

section Install

variable (backend : RouteBackend) (faults : RouteFaults) (gateway : Option (Octets 4)) (peerGw : Octets 4)
  (endpoint : IpAddr) (tun : String) (before : RouteTable)

/-- The guard adds the pin: the server is behind the gateway, the command works, and the system does not
refuse the route. -/
def Pins : Prop := ∃ gw, gateway = some gw ∧ endpointIsRemote endpoint gw = true ∧ faults.pin = false ∧
  backend.refuses (before (pinOf endpoint)) ⟨gw, none, backend.metric⟩ = false

/-- The guard adds one half: the command works, and the system does not refuse the route. -/
def Adds (fault : Bool) (half : Cidr) : Prop :=
  fault = false ∧ backend.refuses (before half) ⟨peerGw, some tun, backend.metric⟩ = false

/-- The route the guard adds for one half. -/
def halfRoute : Route := ⟨peerGw, some tun, backend.metric⟩

variable {backend faults gateway peerGw endpoint tun before}

/-- What the pin leaves. -/
theorem pinEndpoint_cases (me : FullTunnelRoutes) :
    (Pins backend faults gateway endpoint before ∧ ∃ route,
      pinEndpoint backend faults gateway endpoint me before = ({ me with endpoint := some endpoint },
        Function.update before (pinOf endpoint) (route :: before (pinOf endpoint)))) ∨
    (¬ Pins backend faults gateway endpoint before ∧
      pinEndpoint backend faults gateway endpoint me before = (me, before)) := by
  unfold pinEndpoint
  cases gateway with
  | none => exact .inr ⟨fun ⟨_, absent, _⟩ => (by cases absent), rfl⟩
  | some gw =>
    dsimp only
    by_cases remote : endpointIsRemote endpoint gw = true
    · rw [if_pos remote]
      unfold routeOp
      dsimp only
      by_cases refused : faults.pin = true ∨
          backend.refuses (before (pinOf endpoint)) ⟨gw, none, backend.metric⟩ = true
      · rw [if_pos refused]
        refine .inr ⟨?_, rfl⟩
        rintro ⟨_, same, _, works, accepted⟩
        obtain rfl := Option.some.inj same
        rcases refused with fails | refuses
        · exact Bool.false_ne_true (works.symm.trans fails)
        · exact Bool.false_ne_true (accepted.symm.trans refuses)
      · rw [if_neg refused]
        obtain ⟨works, accepted⟩ := not_or.mp refused
        exact .inl ⟨⟨gw, rfl, remote, Bool.eq_false_of_not_eq_true works,
          Bool.eq_false_of_not_eq_true accepted⟩, _, rfl⟩
    · rw [if_neg remote]
      refine .inr ⟨?_, rfl⟩
      rintro ⟨_, same, other, _⟩
      obtain rfl := Option.some.inj same
      exact remote other

/-- What adding one half does. -/
theorem routeOp_add_half {fault : Bool} {half : Cidr} {table : RouteTable} (same : table half = before half) :
    (Adds backend peerGw tun before fault half ∧ routeOp backend fault .add half peerGw (some tun) table =
      (.ok (), Function.update table half (halfRoute backend peerGw tun :: before half))) ∨
    (¬ Adds backend peerGw tun before fault half ∧
      routeOp backend fault .add half peerGw (some tun) table = (.error ⟨.add, half⟩, table)) := by
  unfold routeOp
  dsimp only
  rw [same]
  by_cases refused : fault = true ∨
      backend.refuses (before half) ⟨peerGw, some tun, backend.metric⟩ = true
  · rw [if_pos refused]
    refine .inr ⟨?_, rfl⟩
    rintro ⟨works, accepted⟩
    rcases refused with fails | refuses
    · exact Bool.false_ne_true (works.symm.trans fails)
    · exact Bool.false_ne_true (accepted.symm.trans refuses)
  · rw [if_neg refused]
    obtain ⟨works, accepted⟩ := not_or.mp refused
    exact .inl ⟨⟨Bool.eq_false_of_not_eq_true works, Bool.eq_false_of_not_eq_true accepted⟩, rfl⟩

/-- A table is the one before exactly when it agrees on the three destinations the guard touches. -/
theorem eq_before_iff {after : RouteTable}
    (others : ∀ cidr, cidr ≠ lowerHalf → cidr ≠ upperHalf → cidr ≠ pinOf endpoint →
      after cidr = before cidr) :
    after = before ↔ after lowerHalf = before lowerHalf ∧ after upperHalf = before upperHalf ∧
      after (pinOf endpoint) = before (pinOf endpoint) := by
  constructor
  · rintro rfl
    exact ⟨rfl, rfl, rfl⟩
  · rintro ⟨lower, upper, pinned⟩
    funext cidr
    by_cases isLower : cidr = lowerHalf
    · rw [isLower, lower]
    · by_cases isUpper : cidr = upperHalf
      · rw [isUpper, upper]
      · by_cases isPin : cidr = pinOf endpoint
        · rw [isPin, pinned]
        · exact others cidr isLower isUpper isPin

/-- **What `remove` makes of a table that differs from the one before in what the guard added.** -/
theorem remove_restores {me : FullTunnelRoutes} {table : RouteTable} (pinned : Bool)
    (unremoved : me.removed = false) (pin : me.endpoint = if pinned = true then some endpoint else none)
    (others : ∀ cidr, cidr ≠ lowerHalf → cidr ≠ upperHalf → cidr ≠ pinOf endpoint →
      table cidr = before cidr) :
    (me.remove backend faults table).2 = before ↔
      deleted backend faults.removeLower (table lowerHalf) = before lowerHalf ∧
        deleted backend faults.removeUpper (table upperHalf) = before upperHalf ∧
        (if pinned = true then deleted backend faults.removePin (table (pinOf endpoint))
          else table (pinOf endpoint)) = before (pinOf endpoint) := by
  rw [remove_table unremoved, pin, eq_before_iff]
  · rw [if_pos rfl, if_neg lowerHalf_ne_upperHalf.symm, if_pos rfl,
      if_neg (pinOf_ne_lowerHalf endpoint), if_neg (pinOf_ne_upperHalf endpoint)]
    cases pinned with
    | true => simp
    | false => simp
  · intro cidr notLower notUpper notPin
    have unpinned : ¬ (if pinned = true then some endpoint else none).map pinOf = some cidr := by
      cases pinned with
      | true => exact fun same => notPin (Option.some.inj same).symm
      | false => exact fun absent => by cases absent
    rw [if_neg notLower, if_neg notUpper, if_neg unpinned]
    exact others cidr notLower notUpper notPin

variable (backend faults gateway peerGw endpoint tun before)

/-- **What it takes to restore the table.** A delete undoes an add when it works and the back-end takes
back just that route; a delete without an add before it does no harm when it fails or finds nothing. -/
structure Restores : Prop where
  /-- Both halves are added, and `remove` deletes them. -/
  installed : Adds backend peerGw tun before faults.lower lowerHalf →
    Adds backend peerGw tun before faults.upper upperHalf →
    (faults.removeLower = false ∧ Undoes backend (before lowerHalf)) ∧
      (faults.removeUpper = false ∧ Undoes backend (before upperHalf)) ∧
      (Pins backend faults gateway endpoint before →
        faults.removePin = false ∧ Undoes backend (before (pinOf endpoint)))
  /-- The second half fails: what was added is deleted twice, and the second half once. -/
  halfway : Adds backend peerGw tun before faults.lower lowerHalf →
    ¬ Adds backend peerGw tun before faults.upper upperHalf →
    UndoesTwice backend faults.undoLower faults.removeLower (before lowerHalf) ∧
      (before upperHalf = [] ∨ faults.removeUpper = true) ∧
      (Pins backend faults gateway endpoint before →
        UndoesTwice backend faults.undoPin faults.removePin (before (pinOf endpoint)))
  /-- The first half fails: both halves are deleted all the same. -/
  refused : ¬ Adds backend peerGw tun before faults.lower lowerHalf →
    (before lowerHalf = [] ∨ faults.removeLower = true) ∧
      (before upperHalf = [] ∨ faults.removeUpper = true) ∧
      (Pins backend faults gateway endpoint before →
        faults.removePin = false ∧ Undoes backend (before (pinOf endpoint)))

variable {backend faults gateway peerGw endpoint tun before}

/-- The guard after the pin, and the table it has left. -/
structure AfterPin (backend : RouteBackend) (faults : RouteFaults) (gateway : Option (Octets 4))
    (endpoint : IpAddr) (before : RouteTable) (pinned : Bool) (route : Route) (me : FullTunnelRoutes)
    (table : RouteTable) : Prop where
  pins : pinned = true ↔ Pins backend faults gateway endpoint before
  unremoved : me.removed = false
  guard : me.endpoint = if pinned = true then some endpoint else none
  pin : table (pinOf endpoint) =
    if pinned = true then route :: before (pinOf endpoint) else before (pinOf endpoint)
  others : ∀ cidr, cidr ≠ pinOf endpoint → table cidr = before cidr

theorem exists_afterPin (me : FullTunnelRoutes) (unremoved : me.removed = false)
    (unpinned : me.endpoint = none) : ∃ pinned route,
      AfterPin backend faults gateway endpoint before pinned route
        (pinEndpoint backend faults gateway endpoint me before).1
        (pinEndpoint backend faults gateway endpoint me before).2 := by
  rcases pinEndpoint_cases me with ⟨pins, route, outcome⟩ | ⟨not_pins, outcome⟩
  · rw [outcome]
    exact ⟨true, route, iff_of_true rfl pins, unremoved, rfl, Function.update_self _ _ _,
      fun cidr other => Function.update_of_ne other _ _⟩
  · rw [outcome]
    exact ⟨false, ⟨me.peerGw, none, 0⟩, iff_of_false Bool.false_ne_true not_pins, unremoved, unpinned, rfl,
      fun _ _ => rfl⟩

/-- The pin after one delete, where there is one. -/
theorem pin_deleted_iff {pinned fault : Bool} {route : Route} {present : List Route} {Pinned : Prop}
    (pins : pinned = true ↔ Pinned) :
    (if pinned = true then deleted backend fault (if pinned = true then route :: present else present)
        else if pinned = true then route :: present else present) = present ↔
      (Pinned → fault = false ∧ Undoes backend present) := by
  cases pinned with
  | true =>
    rw [if_pos rfl, if_pos rfl, deleted_cons_iff]
    exact ⟨fun undone _ => undone, fun undone => undone (pins.mp rfl)⟩
  | false =>
    rw [if_neg Bool.false_ne_true, if_neg Bool.false_ne_true]
    exact iff_of_true rfl fun pinned => absurd (pins.mpr pinned) Bool.false_ne_true

/-- The pin after two deletes, where there is one. -/
theorem pin_deleted_twice_iff {pinned fault second : Bool} {route : Route} {present added once : List Route}
    {Pinned : Prop} (pins : pinned = true ↔ Pinned)
    (isAdded : added = if pinned = true then route :: present else present)
    (isOnce : once = if pinned = true then deleted backend fault added else added) :
    (if pinned = true then deleted backend second once else once) = present ↔
      (Pinned → UndoesTwice backend fault second present) := by
  subst isOnce isAdded
  cases pinned with
  | true =>
    rw [if_pos rfl, if_pos rfl, if_pos rfl, deleted_twice_iff]
    exact ⟨fun undone _ => undone, fun undone => undone (pins.mp rfl)⟩
  | false =>
    rw [if_neg Bool.false_ne_true, if_neg Bool.false_ne_true, if_neg Bool.false_ne_true]
    exact iff_of_true rfl fun pinned => absurd (pins.mpr pinned) Bool.false_ne_true

theorem deletePin_table {me : FullTunnelRoutes} {pinned fault : Bool}
    (pin : me.endpoint = if pinned = true then some endpoint else none) (table : RouteTable) :
    deletePin backend fault me table = if pinned = true then
        Function.update table (pinOf endpoint) (deleted backend fault (table (pinOf endpoint)))
      else table := by
  unfold deletePin
  rw [pin]
  cases pinned with
  | true => exact routeOp_delete
  | false => rfl

section Outcomes

variable {pinned : Bool} {route lower upper : Route} {me : FullTunnelRoutes} {table : RouteTable}

/-- The first half failed, and the guard is dropped. -/
theorem refused_iff (start : AfterPin backend faults gateway endpoint before pinned route me table) :
    (me.remove backend faults table).2 = before ↔
      (before lowerHalf = [] ∨ faults.removeLower = true) ∧
        (before upperHalf = [] ∨ faults.removeUpper = true) ∧
        (Pins backend faults gateway endpoint before →
          faults.removePin = false ∧ Undoes backend (before (pinOf endpoint))) := by
  rw [remove_restores pinned start.unremoved start.guard fun cidr _ _ other => start.others cidr other,
    start.others _ (pinOf_ne_lowerHalf endpoint).symm, start.others _ (pinOf_ne_upperHalf endpoint).symm,
    start.pin, deleted_iff, deleted_iff, pin_deleted_iff start.pins]

/-- Both halves were added, and the guard is dropped. -/
theorem installed_iff (start : AfterPin backend faults gateway endpoint before pinned route me table) :
    (me.remove backend faults (Function.update (Function.update table lowerHalf (lower :: before lowerHalf))
        upperHalf (upper :: before upperHalf))).2 = before ↔
      (faults.removeLower = false ∧ Undoes backend (before lowerHalf)) ∧
        (faults.removeUpper = false ∧ Undoes backend (before upperHalf)) ∧
        (Pins backend faults gateway endpoint before →
          faults.removePin = false ∧ Undoes backend (before (pinOf endpoint))) := by
  rw [remove_restores pinned start.unremoved start.guard, Function.update_of_ne lowerHalf_ne_upperHalf,
    Function.update_self, Function.update_self, Function.update_of_ne (pinOf_ne_upperHalf endpoint),
    Function.update_of_ne (pinOf_ne_lowerHalf endpoint), start.pin, deleted_cons_iff, deleted_cons_iff,
    pin_deleted_iff start.pins]
  intro cidr notLower notUpper notPin
  rw [Function.update_of_ne notUpper, Function.update_of_ne notLower, start.others cidr notPin]

/-- Only the first half was added: it is deleted with the pin, and the guard is dropped. -/
theorem halfway_iff (start : AfterPin backend faults gateway endpoint before pinned route me table) :
    (me.remove backend faults (deletePin backend faults.undoPin me (Function.update
        (Function.update table lowerHalf (lower :: before lowerHalf)) lowerHalf
          (deleted backend faults.undoLower (lower :: before lowerHalf))))).2 = before ↔
      UndoesTwice backend faults.undoLower faults.removeLower (before lowerHalf) ∧
        (before upperHalf = [] ∨ faults.removeUpper = true) ∧
        (Pins backend faults gateway endpoint before →
          UndoesTwice backend faults.undoPin faults.removePin (before (pinOf endpoint))) := by
  let undone := Function.update (Function.update table lowerHalf (lower :: before lowerHalf)) lowerHalf
    (deleted backend faults.undoLower (lower :: before lowerHalf))
  have undoneElse : ∀ cidr, cidr ≠ lowerHalf → undone cidr = table cidr := fun cidr notLower =>
    (Function.update_of_ne notLower _ _).trans (Function.update_of_ne notLower _ _)
  have undoneLower : undone lowerHalf = deleted backend faults.undoLower (lower :: before lowerHalf) :=
    Function.update_self _ _ _
  have undoneUpper : undone upperHalf = before upperHalf :=
    (undoneElse _ lowerHalf_ne_upperHalf.symm).trans (start.others _ (pinOf_ne_upperHalf endpoint).symm)
  have unpinnedElse : ∀ cidr, cidr ≠ pinOf endpoint →
      deletePin backend faults.undoPin me undone cidr = undone cidr := by
    intro cidr notPin
    rw [deletePin_table start.guard]
    split
    · exact Function.update_of_ne notPin _ _
    · rfl
  have unpinnedPin : deletePin backend faults.undoPin me undone (pinOf endpoint) =
      if pinned = true then deleted backend faults.undoPin (table (pinOf endpoint))
      else table (pinOf endpoint) := by
    rw [deletePin_table start.guard, ← undoneElse _ (pinOf_ne_lowerHalf endpoint)]
    split
    · exact Function.update_self _ _ _
    · rfl
  have others : ∀ cidr, cidr ≠ lowerHalf → cidr ≠ upperHalf → cidr ≠ pinOf endpoint →
      deletePin backend faults.undoPin me undone cidr = before cidr := by
    intro cidr notLower _ notPin
    rw [unpinnedElse cidr notPin, undoneElse cidr notLower, start.others cidr notPin]
  show (me.remove backend faults (deletePin backend faults.undoPin me undone)).2 = before ↔ _
  rw [remove_restores pinned start.unremoved start.guard others,
    unpinnedElse _ (pinOf_ne_lowerHalf endpoint).symm, undoneLower,
    unpinnedElse _ (pinOf_ne_upperHalf endpoint).symm, undoneUpper, deleted_twice_iff, deleted_iff,
    pin_deleted_twice_iff start.pins start.pin unpinnedPin]

end Outcomes

/-- **Full-tunnel routes are transactional** exactly when the deletes of the guard take back what it added
and nothing else: see `Restores`. -/
theorem full_tunnel_transactional (backend : RouteBackend) (faults : RouteFaults)
    (gateway : Option (Octets 4)) (peerGw : Octets 4) (endpoint : IpAddr) (tun : String)
    (before : RouteTable) :
    Transactional backend faults gateway peerGw endpoint tun before ↔
      Restores backend faults gateway peerGw endpoint tun before := by
  unfold Transactional install
  obtain ⟨pinned, route, start⟩ : ∃ pinned route, AfterPin backend faults gateway endpoint before pinned
      route _ _ := exists_afterPin ⟨peerGw, tun, none, false⟩ rfl rfl
  generalize pinEndpoint backend faults gateway endpoint ⟨peerGw, tun, none, false⟩ before = state at start ⊢
  obtain ⟨me, table⟩ := state
  dsimp only at start ⊢
  have lowerSame : table lowerHalf = before lowerHalf := start.others _ (pinOf_ne_lowerHalf endpoint).symm
  rcases routeOp_add_half lowerSame with ⟨addsLower, lowerAdded⟩ | ⟨not_lower, lowerRefused⟩
  · rw [lowerAdded]
    dsimp only
    have upperSame : Function.update table lowerHalf (halfRoute backend peerGw tun :: before lowerHalf)
        upperHalf = before upperHalf :=
      (Function.update_of_ne lowerHalf_ne_upperHalf.symm _ _).trans
        (start.others _ (pinOf_ne_upperHalf endpoint).symm)
    rcases routeOp_add_half upperSame with ⟨addsUpper, upperAdded⟩ | ⟨not_upper, upperRefused⟩
    · rw [upperAdded]
      dsimp only
      simp only [removeTimes_succ, forall_const]
      rw [installed_iff start]
      constructor
      · exact fun restored => ⟨fun _ _ => restored, fun _ not_upper => absurd addsUpper not_upper,
          fun not_lower => absurd addsLower not_lower⟩
      · exact fun restores => restores.installed addsLower addsUpper
    · rw [upperRefused]
      dsimp only
      rw [routeOp_delete, Function.update_self, halfway_iff start]
      constructor
      · exact fun restored => ⟨fun _ addsUpper => absurd addsUpper not_upper, fun _ _ => restored,
          fun not_lower => absurd addsLower not_lower⟩
      · exact fun restores => restores.halfway addsLower not_upper
  · rw [lowerRefused]
    dsimp only
    rw [refused_iff start]
    constructor
    · exact fun restored => ⟨fun adds => absurd adds not_lower, fun adds => absurd adds not_lower,
        fun _ => restored⟩
    · exact fun restores => restores.refused not_lower

end Install

/-- Another client's route to `0.0.0.0/1`. -/
def otherClient : Route := ⟨⟨[10, 8, 0, 1], rfl⟩, some "tun1", 0⟩

/-- **A failed install deletes the route it failed on**: `0.0.0.0/1` is there already, so the first command
fails, and the guard that is dropped deletes it. -/
theorem existing_half_deleted :
    ¬ Transactional .ip ⟨false, false, false, false, false, false, false, false⟩ none ⟨[10, 0, 0, 1], rfl⟩
      (.v4 ⟨[203, 0, 113, 7], rfl⟩) "tun0" fun cidr => if cidr = lowerHalf then [otherClient] else [] := by
  intro restored
  have kept := congrFun restored lowerHalf
  revert kept
  decide

end FullTunnelRoutes

end ChameleonPQ
