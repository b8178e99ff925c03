/-
**A channel that delivers at most once.**

A packet is read as a number and a message, or as nothing. An inbox delivers a message whose number is new and not
left behind (`Library.SeenWindow`); a receiver has an inbox, and may still have the one before it.

* `Inbox.receive`, `Receiver.step` — the channel; `Receiver.results` — what a run delivers.
* `delivered_arrivals` — where no packet is read by both, the two inboxes of a receiver work on their own.
* `delivered_eq_keepFirst` — an inbox delivers what it reads, each number when it first comes, as long as none
  was left behind by then.
* `handover_perm` — a receiver that gets a new inbox, and later loses the old one, delivers what the two deliver.
-/

import Mathlib.Data.List.Nodup
import Mathlib.Data.List.ReduceOption
import ChameleonPQ.Library.SeenWindow

namespace Library.OnceChannel

open Library.SeenWindow

/-- What is read in a packet, and the numbers that were seen. -/
structure Inbox (Packet Message Number : Type) where
  reads : Packet → Option (Number × Message)
  seen : Set Number

/-- The inbox in use, and the one before it. -/
structure Receiver (Packet Message Number : Type) where
  current : Inbox Packet Message Number
  previous : Option (Inbox Packet Message Number)

/-- A packet arrives, a new inbox is put into use, or the one before it is given up. -/
inductive ChannelEvent (Packet Message Number : Type) where
  | arrive (packet : Packet)
  | install (reads : Packet → Option (Number × Message))
  | retire

/-! ### Each number once -/

section KeepFirst

variable {Message Number : Type}

/-- The readings, each number where it first comes. -/
def keepFirst [DecidableEq Number] : List (Number × Message) → List (Number × Message)
  | [] => []
  | reading :: readings => reading :: (keepFirst readings).filter fun other => other.1 ≠ reading.1

theorem mem_of_mem_keepFirst [DecidableEq Number] {readings : List (Number × Message)} {reading : Number × Message}
    (member : reading ∈ keepFirst readings) : reading ∈ readings := by
  induction readings with
  | nil => exact member
  | cons first readings ih =>
    rcases List.mem_cons.mp member with rfl | later
    · exact List.mem_cons_self
    · exact List.mem_cons_of_mem _ (ih (List.mem_of_mem_filter later))

/-- Every number that comes is kept. -/
theorem exists_mem_keepFirst [DecidableEq Number] {readings : List (Number × Message)} {reading : Number × Message}
    (member : reading ∈ readings) : ∃ kept ∈ keepFirst readings, kept.1 = reading.1 := by
  induction readings with
  | nil => cases member
  | cons first readings ih =>
    by_cases same : first.1 = reading.1
    · exact ⟨first, List.mem_cons_self, same⟩
    · rcases List.mem_cons.mp member with rfl | later
      · exact absurd rfl same
      · obtain ⟨kept, keeps, number⟩ := ih later
        refine ⟨kept, List.mem_cons_of_mem _ (List.mem_filter.mpr ⟨keeps, ?_⟩), number⟩
        rw [number]
        exact decide_eq_true (Ne.symm same)

theorem nodup_keepFirst [DecidableEq Number] (readings : List (Number × Message)) :
    ((keepFirst readings).map Prod.fst).Nodup := by
  induction readings with
  | nil => exact List.nodup_nil
  | cons first readings ih =>
    refine List.nodup_cons.mpr ⟨fun member => ?_, ih.sublist (List.filter_sublist.map _)⟩
    obtain ⟨other, kept, same⟩ := List.mem_map.mp member
    exact of_decide_eq_true (List.mem_filter.mp kept).2 same

/-- **Numbered messages that all come** are kept, each once. -/
theorem keepFirst_perm {first : Nat} {messages : List Message} {readings : List (Nat × Message)}
    (genuine : ∀ reading ∈ readings, first ≤ reading.1 ∧ messages[reading.1 - first]? = some reading.2)
    (all : ∀ i < messages.length, ∃ reading ∈ readings, reading.1 = first + i) :
    ((keepFirst readings).map Prod.snd).Perm messages := by
  have numbered : (keepFirst readings).Perm ((messages.zipIdx first).map Prod.swap) := by
    have distinct : ((messages.zipIdx first).map Prod.swap).Nodup := by
      refine List.Nodup.of_map Prod.fst ?_
      rw [List.map_map, show Prod.fst ∘ Prod.swap = (Prod.snd : Message × Nat → Nat) from rfl, List.zipIdx_map_snd]
      exact List.nodup_range'
    refine (List.perm_ext_iff_of_nodup (List.Nodup.of_map _ (nodup_keepFirst readings)) distinct).mpr ?_
    rintro ⟨number, message⟩
    rw [show (number, message) = Prod.swap (message, number) from rfl,
      List.mem_map_of_injective Prod.swap_injective, List.mk_mem_zipIdx_iff_le_and_getElem?_sub]
    constructor
    · intro member
      exact genuine _ (mem_of_mem_keepFirst member)
    · rintro ⟨after, here⟩
      obtain ⟨inside, -⟩ := List.getElem?_eq_some_iff.mp here
      obtain ⟨reading, member, same⟩ := all _ inside
      obtain ⟨⟨kept, content⟩, keeps, isNumber⟩ := exists_mem_keepFirst member
      obtain rfl : kept = number := by
        have isNumber : kept = reading.1 := isNumber
        omega
      obtain ⟨-, there⟩ := genuine _ (mem_of_mem_keepFirst keeps)
      obtain rfl := Option.some.inj (there.symm.trans here)
      exact keeps
  refine (numbered.map Prod.snd).trans (.of_eq ?_)
  rw [List.map_map, show Prod.snd ∘ Prod.swap = (Prod.fst : Message × Nat → Message) from rfl, List.zipIdx_map_fst]

end KeepFirst

/-! ### Packets and inboxes -/

variable {Packet Message Number : Type} [LT Number] (horizon : Number → Number)

open Classical in
/-- **One packet**: its message is delivered when its number is acceptable. -/
noncomputable def Inbox.receive (inbox : Inbox Packet Message Number) (packet : Packet) :
    Option Message × Inbox Packet Message Number :=
  match inbox.reads packet with
  | none => (none, inbox)
  | some (number, message) =>
    if Accepts horizon inbox.seen number then (some message, { inbox with seen := insert number inbox.seen })
    else (none, inbox)

namespace Receiver

/-- What the inbox in use does not deliver is tried on the one before. -/
noncomputable def receive (receiver : Receiver Packet Message Number) (packet : Packet) :
    Option Message × Receiver Packet Message Number :=
  match receiver.current.receive horizon packet with
  | (some message, current) => (some message, { receiver with current })
  | (none, _) =>
    match receiver.previous with
    | none => (none, receiver)
    | some last =>
      ((last.receive horizon packet).1, { receiver with previous := some (last.receive horizon packet).2 })

/-- One event. -/
noncomputable def step (receiver : Receiver Packet Message Number) :
    ChannelEvent Packet Message Number → Receiver Packet Message Number
  | .arrive packet => (receiver.receive horizon packet).2
  | .install reads => ⟨⟨reads, ∅⟩, some receiver.current⟩
  | .retire => { receiver with previous := none }

/-- What becomes of each packet that arrives. -/
noncomputable def results (receiver : Receiver Packet Message Number) :
    List (ChannelEvent Packet Message Number) → List (Option Message)
  | [] => []
  | .arrive packet :: events =>
    (receiver.receive horizon packet).1 :: results (receiver.step horizon (.arrive packet)) events
  | event :: events => results (receiver.step horizon event) events

end Receiver

/-! ### One inbox -/

namespace Inbox

/-- What becomes of each packet, where the inbox is alone. -/
noncomputable def results (inbox : Inbox Packet Message Number) : List Packet → List (Option Message)
  | [] => []
  | packet :: packets => (inbox.receive horizon packet).1 :: results (inbox.receive horizon packet).2 packets

/-- The inbox after the packets. -/
noncomputable def afterAll (inbox : Inbox Packet Message Number) : List Packet → Inbox Packet Message Number
  | [] => inbox
  | packet :: packets => afterAll (inbox.receive horizon packet).2 packets

/-- The messages that are delivered. -/
noncomputable def delivered (inbox : Inbox Packet Message Number) (packets : List Packet) : List Message :=
  (inbox.results horizon packets).reduceOption

variable {horizon} {inbox : Inbox Packet Message Number} {packet : Packet} {number : Number} {message : Message}

theorem receive_unread (unread : inbox.reads packet = none) : inbox.receive horizon packet = (none, inbox) := by
  rw [receive, unread]

theorem receive_accepted (reads : inbox.reads packet = some (number, message))
    (accepts : Accepts horizon inbox.seen number) :
    inbox.receive horizon packet = (some message, { inbox with seen := insert number inbox.seen }) := by
  simp only [receive, reads, if_pos accepts]

theorem receive_refused (reads : inbox.reads packet = some (number, message))
    (refuses : ¬ Accepts horizon inbox.seen number) : inbox.receive horizon packet = (none, inbox) := by
  simp only [receive, reads, if_neg refuses]

/-- An inbox reads as before. -/
theorem reads_receive (inbox : Inbox Packet Message Number) (packet : Packet) :
    (inbox.receive horizon packet).2.reads = inbox.reads := by
  unfold receive
  split
  · rfl
  · split <;> rfl

/-- Nothing changes where nothing is delivered. -/
theorem receive_none (nothing : (inbox.receive horizon packet).1 = none) :
    inbox.receive horizon packet = (none, inbox) := by
  unfold receive at nothing ⊢
  split
  · rfl
  · rename_i number message reads
    simp only [reads] at nothing
    split at nothing
    · cases nothing
    · rename_i refuses
      exact if_neg refuses

theorem reads_afterAll (inbox : Inbox Packet Message Number) (packets : List Packet) :
    (inbox.afterAll horizon packets).reads = inbox.reads := by
  induction packets generalizing inbox with
  | nil => rfl
  | cons packet packets ih => exact (ih _).trans (reads_receive inbox packet)

theorem results_append (inbox : Inbox Packet Message Number) (packets more : List Packet) :
    inbox.results horizon (packets ++ more) =
      inbox.results horizon packets ++ (inbox.afterAll horizon packets).results horizon more := by
  induction packets generalizing inbox with
  | nil => rfl
  | cons packet packets ih => exact congrArg _ (ih _)

theorem delivered_append (inbox : Inbox Packet Message Number) (packets more : List Packet) :
    inbox.delivered horizon (packets ++ more) =
      inbox.delivered horizon packets ++ (inbox.afterAll horizon packets).delivered horizon more := by
  rw [delivered, results_append, List.reduceOption_append]
  rfl

/-- Packets that are not read leave the inbox alone. -/
theorem afterAll_unread {packets : List Packet} (unread : ∀ packet ∈ packets, inbox.reads packet = none) :
    inbox.afterAll horizon packets = inbox ∧ inbox.delivered horizon packets = [] := by
  induction packets with
  | nil => exact ⟨rfl, rfl⟩
  | cons packet packets ih =>
    obtain ⟨after, nothing⟩ := ih fun other member => unread other (List.mem_cons_of_mem _ member)
    have first : inbox.receive horizon packet = (none, inbox) := receive_unread (unread packet List.mem_cons_self)
    rw [afterAll, delivered, results, first]
    exact ⟨after, nothing⟩

end Inbox

/-! ### What an inbox delivers -/

/-- Nothing was left behind when its number first came. -/
def InReach (horizon : Number → Number) (seen : Set Number) (readings : List (Number × Message)) : Prop :=
  ∀ before reading after, readings = before ++ reading :: after → reading.1 ∉ seen →
    reading.1 ∉ before.map Prod.fst →
      (∀ other ∈ seen, other < horizon reading.1) ∧ ∀ other ∈ before, other.1 < horizon reading.1

variable {horizon}

/-- The readings after the first are in reach of it and of what was seen. -/
theorem InReach.tail {seen : Set Number} {first : Number × Message} {readings : List (Number × Message)}
    (reach : InReach horizon seen (first :: readings)) : InReach horizon (insert first.1 seen) readings := by
  rintro before reading after rfl unseen unmet
  have other : reading.1 ≠ first.1 := fun same => unseen (same ▸ Set.mem_insert _ _)
  obtain ⟨old, met⟩ := reach (first :: before) reading after rfl
    (fun member => unseen (Set.mem_insert_of_mem _ member)) fun member => by
      rcases List.mem_cons.mp member with same | later
      · exact other same
      · exact unmet later
  refine ⟨fun number member => ?_, fun one member => met one (List.mem_cons_of_mem _ member)⟩
  rcases Set.mem_insert_iff.mp member with rfl | was
  · exact met first List.mem_cons_self
  · exact old number was

/-- Readings that span less than the horizon are in reach of each other. -/
theorem InReach.of_span {readings : List (Number × Message)}
    (near : ∀ reading ∈ readings, ∀ other ∈ readings, other.1 < horizon reading.1) : InReach horizon ∅ readings := by
  rintro before reading after rfl - -
  exact ⟨fun _ none => none.elim, fun other member =>
    near reading (List.mem_append_right _ List.mem_cons_self) other (List.mem_append_left _ member)⟩

open Classical in
/-- **An inbox delivers what it reads, each number when it first comes.** -/
theorem delivered_eq_keepFirst [DecidableEq Number] (inbox : Inbox Packet Message Number) (packets : List Packet)
    (reach : InReach horizon inbox.seen (packets.filterMap inbox.reads)) :
    inbox.delivered horizon packets =
      ((keepFirst (packets.filterMap inbox.reads)).filter fun reading => reading.1 ∉ inbox.seen).map Prod.snd := by
  induction packets generalizing inbox with
  | nil => rfl
  | cons packet packets ih =>
    rw [Inbox.delivered, Inbox.results]
    cases reads : inbox.reads packet with
    | none =>
      rw [Inbox.receive_unread reads, List.reduceOption_cons_of_none, List.filterMap_cons_none reads]
      rw [List.filterMap_cons_none reads] at reach
      exact ih inbox reach
    | some reading =>
      rw [List.filterMap_cons_some reads] at reach ⊢
      by_cases old : reading.1 ∈ inbox.seen
      · rw [Inbox.receive_refused reads fun accepts => accepts.1 old, List.reduceOption_cons_of_none]
        have same : insert reading.1 inbox.seen = inbox.seen := Set.insert_eq_of_mem old
        refine (ih inbox (same ▸ reach.tail)).trans (congrArg _ ?_)
        rw [keepFirst, List.filter_cons_of_neg (by simpa using old), List.filter_filter]
        refine List.filter_congr fun other _ => ?_
        by_cases seen : other.1 ∈ inbox.seen
        · simp [seen]
        · have differs : other.1 ≠ reading.1 := fun same => seen (same ▸ old)
          simp [seen, differs]
      · have accepts : Accepts horizon inbox.seen reading.1 :=
          ⟨old, (reach [] reading _ rfl old List.not_mem_nil).1⟩
        rw [Inbox.receive_accepted reads accepts, List.reduceOption_cons_of_some]
        have rest := ih { inbox with seen := insert reading.1 inbox.seen } reach.tail
        rw [keepFirst, List.filter_cons_of_pos (by simpa using old), List.map_cons, List.filter_filter]
        refine congrArg _ (rest.trans (congrArg _ (List.filter_congr fun other _ => ?_)))
        by_cases seen : other.1 ∈ inbox.seen <;> simp [seen]

/-! ### Two inboxes -/

namespace Receiver

variable {current last : Inbox Packet Message Number} {packets : List Packet}

/-- **Where no packet is read by both**, the two inboxes work on their own. -/
theorem delivered_arrivals (exclusive : ∀ packet ∈ packets, current.reads packet = none ∨ last.reads packet = none)
    (events : List (ChannelEvent Packet Message Number)) :
    (results horizon ⟨current, some last⟩ (packets.map .arrive ++ events)).reduceOption.Perm
      (current.delivered horizon packets ++ (last.delivered horizon packets ++
        (results horizon ⟨current.afterAll horizon packets, some (last.afterAll horizon packets)⟩
          events).reduceOption)) := by
  induction packets generalizing current last with
  | nil => exact List.Perm.refl _
  | cons packet packets ih =>
    have further : ∀ first second : Inbox Packet Message Number, first.reads = current.reads →
        second.reads = last.reads → ∀ packet ∈ packets, first.reads packet = none ∨ second.reads packet = none := by
      intro first second sameFirst sameSecond packet member
      rw [sameFirst, sameSecond]
      exact exclusive packet (List.mem_cons_of_mem _ member)
    rw [List.map_cons, List.cons_append, results]
    simp only [step, receive, Inbox.delivered, Inbox.results, Inbox.afterAll]
    cases tried : current.receive horizon packet with
    | mk outcome after =>
      have reads : (current.receive horizon packet).2.reads = current.reads := current.reads_receive packet
      rw [tried] at reads
      cases outcome with
      | some message =>
        have unread : last.reads packet = none := by
          refine (exclusive packet List.mem_cons_self).resolve_left fun none => ?_
          rw [Inbox.receive_unread none] at tried
          cases tried
        rw [Inbox.receive_unread unread]
        simp only [List.reduceOption_cons_of_some, List.reduceOption_cons_of_none, List.cons_append]
        exact (ih (further after last reads rfl)).cons message
      | none =>
        have kept : after = current := by
          have nothing : current.receive horizon packet = (none, current) := Inbox.receive_none (by rw [tried])
          rw [tried] at nothing
          exact congrArg Prod.snd nothing
        subst kept
        have readsLast : (last.receive horizon packet).2.reads = last.reads := last.reads_receive packet
        cases second : last.receive horizon packet with
        | mk outcome other =>
          rw [second] at readsLast
          have rest := ih (further after other rfl readsLast)
          cases outcome with
          | none =>
            simp only [List.reduceOption_cons_of_none]
            exact rest
          | some message =>
            simp only [List.reduceOption_cons_of_some, List.reduceOption_cons_of_none, List.cons_append]
            exact (rest.cons message).trans List.perm_middle.symm

/-- A receiver without an inbox before. -/
theorem delivered_lone (current : Inbox Packet Message Number) (packets : List Packet)
    (events : List (ChannelEvent Packet Message Number)) :
    (results horizon ⟨current, none⟩ (packets.map .arrive ++ events)).reduceOption =
      current.delivered horizon packets ++
        (results horizon ⟨current.afterAll horizon packets, none⟩ events).reduceOption := by
  induction packets generalizing current with
  | nil => rfl
  | cons packet packets ih =>
    rw [List.map_cons, List.cons_append, results]
    simp only [step, receive, Inbox.delivered, Inbox.results, Inbox.afterAll]
    cases tried : current.receive horizon packet with
    | mk outcome after =>
      cases outcome with
      | some message =>
        simp only [List.reduceOption_cons_of_some, List.cons_append]
        exact congrArg _ (ih after)
      | none =>
        have nothing : current.receive horizon packet = (none, current) := Inbox.receive_none (by rw [tried])
        rw [tried] at nothing
        obtain rfl : after = current := congrArg Prod.snd nothing
        simp only [List.reduceOption_cons_of_none]
        exact ih after

/-- What the inbox in use delivers is not tried on the one before. -/
theorem results_of_delivered (current : Inbox Packet Message Number)
    (previous : Option (Inbox Packet Message Number)) (packets : List Packet)
    (delivers : ∀ outcome ∈ current.results horizon packets, outcome ≠ none) :
    results horizon ⟨current, previous⟩ (packets.map .arrive) = current.results horizon packets := by
  induction packets generalizing current with
  | nil => rfl
  | cons packet packets ih =>
    obtain ⟨first, rest⟩ := List.forall_mem_cons.mp delivers
    rw [List.map_cons, results, Inbox.results]
    simp only [step, receive]
    cases tried : current.receive horizon packet with
    | mk outcome after =>
      rw [tried] at first rest
      cases outcome with
      | none => exact absurd rfl first
      | some message => exact congrArg _ (ih after rest)

/-- **A hand-over**: the packets before the new inbox, those beside both, and those after the old one is given up. -/
theorem handover_perm (current : Inbox Packet Message Number) (previous : Option (Inbox Packet Message Number))
    (reads : Packet → Option (Number × Message)) {before beside behind : List Packet}
    (silent : ∀ last, previous = some last → ∀ packet ∈ before, last.reads packet = none)
    (exclusive : ∀ packet ∈ beside, reads packet = none ∨ current.reads packet = none) :
    (results horizon ⟨current, previous⟩ (before.map .arrive ++ .install reads ::
        (beside.map .arrive ++ .retire :: behind.map .arrive))).reduceOption.Perm
      (current.delivered horizon (before ++ beside) ++
        Inbox.delivered horizon ⟨reads, ∅⟩ (beside ++ behind)) := by
  let old := current.afterAll horizon before
  let new : Inbox Packet Message Number := ⟨reads, ∅⟩
  -- once the new inbox is there
  have handed : (results horizon ⟨new, some old⟩ (beside.map .arrive ++ .retire ::
      behind.map .arrive)).reduceOption.Perm (new.delivered horizon beside ++ (old.delivered horizon beside ++
        (new.afterAll horizon beside).delivered horizon behind)) := by
    have apart : ∀ packet ∈ beside, new.reads packet = none ∨ old.reads packet = none := by
      rw [Inbox.reads_afterAll]
      exact exclusive
    refine (delivered_arrivals apart _).trans (.of_eq ?_)
    have alone : (results horizon ⟨new.afterAll horizon beside, none⟩ (behind.map .arrive ++ [])).reduceOption =
        (new.afterAll horizon beside).delivered horizon behind ++ [] := delivered_lone _ behind []
    rw [List.append_nil] at alone
    exact congrArg _ (congrArg _ (alone.trans (List.append_nil _)))
  -- up to there
  have reached : (results horizon ⟨current, previous⟩ (before.map .arrive ++ .install reads ::
      (beside.map .arrive ++ .retire :: behind.map .arrive))).reduceOption.Perm
        (current.delivered horizon before ++ (results horizon ⟨new, some old⟩ (beside.map .arrive ++ .retire ::
          behind.map .arrive)).reduceOption) := by
    cases previous with
    | none => exact .of_eq (delivered_lone current before _)
    | some last =>
      have unread := silent last rfl
      refine (delivered_arrivals (fun packet member => .inr (unread packet member)) _).trans (.of_eq ?_)
      rw [(Inbox.afterAll_unread unread).2]
      rfl
  rw [Inbox.delivered_append, Inbox.delivered_append, List.append_assoc]
  exact reached.trans ((handed.trans (List.perm_append_comm_assoc _ _ _)).append_left _)

end Receiver

end Library.OnceChannel
