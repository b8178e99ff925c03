/-
**Internet addresses as text.**

* `readNat_toDigits` — a number in a base up to sixteen is read back from its digits.
* `ipv4Text`, `readIpv4` — four decimal octets between dots.
* `ipv6Text`, `readIpv6` — eight groups of hexadecimal digits between colons, the longest run of zero groups
  left out, and an IPv4-mapped address with its last octets in decimal; `readIpv6_ipv6Text`.
* `isAddressChar_ipv4Text`, `isAddressChar_ipv6Text` — the characters of an address.
* `parseIpv4`, `parseIpv6` — the stricter readers: no leading zeros in an octet, four digits in a group;
  `parseIpv4_ipv4Text`, `parseIpv6_ipv6Text`.
-/

import Mathlib.Data.List.Forall2
import ChameleonPQ.Library.Octets

namespace Library.IpText

/-! ### Lists of texts -/

/-- Lines that are all read, one by one. -/
theorem mapM_of_forall₂ {α β : Type} {read : α → Option β} {lines : List α} {values : List β}
    (each : List.Forall₂ (fun line value => read line = some value) lines values) :
    lines.mapM read = some values := by
  induction each with
  | nil => rfl
  | cons here _ ih =>
    rw [List.mapM_cons, here, ih]
    rfl

/-! ### Numbers -/

/-- The value of a digit, of either case. -/
def digitValue (c : Char) : Option Nat :=
  if 48 ≤ c.toNat ∧ c.toNat ≤ 57 then some (c.toNat - 48)
  else if 97 ≤ c.toNat ∧ c.toNat ≤ 102 then some (c.toNat - 87)
  else if 65 ≤ c.toNat ∧ c.toNat ≤ 70 then some (c.toNat - 55)
  else none

/-- Reads on from a value. -/
def readDigits (base : Nat) (value : Nat) : List Char → Option Nat
  | [] => some value
  | c :: rest =>
    match digitValue c with
    | none => none
    | some digit => if digit < base then readDigits base (base * value + digit) rest else none

/-- A number; at least one digit. -/
def readNat (base : Nat) (text : List Char) : Option Nat :=
  if text = [] then none else readDigits base 0 text

theorem digitValue_digitChar : ∀ digit < 16, digitValue (Nat.digitChar digit) = some digit := by decide

theorem readDigits_append (base value : Nat) (front back : List Char) :
    readDigits base value (front ++ back) =
      (readDigits base value front).bind fun middle => readDigits base middle back := by
  induction front generalizing value with
  | nil => rfl
  | cons c front ih =>
    rw [List.cons_append, readDigits, readDigits]
    split
    · rfl
    · split
      · exact ih _
      · rfl

/-- **The digits of a number are read back.** -/
theorem readNat_toDigits {base : Nat} (two : 1 < base) (sixteen : base ≤ 16) (n : Nat) :
    readNat base (Nat.toDigits base n) = some n := by
  rw [readNat, if_neg Nat.toDigits_ne_nil]
  have single : ∀ value digit, digit < base →
      readDigits base value [Nat.digitChar digit] = some (base * value + digit) := by
    intro value digit small
    rw [readDigits, digitValue_digitChar digit (small.trans_le sixteen)]
    exact if_pos small
  induction n using Nat.base_induction base two with
  | single m small =>
    rw [Nat.toDigits_of_lt_base small, single 0 m small, Nat.mul_zero, Nat.zero_add]
  | digit m k small positive ih =>
    rw [← Nat.toDigits_append_toDigits two positive small, readDigits_append, ih,
      Nat.toDigits_of_lt_base small]
    exact single m k small

/-- What stands in the text of an address. -/
def isAddressChar (c : Char) : Bool := (digitValue c).isSome || c == ':' || c == '.'

/-- A digit is no separator. -/
theorem digit_of_mem_toDigits {base : Nat} (two : 1 < base) (sixteen : base ≤ 16) {n : Nat} {c : Char}
    (member : c ∈ Nat.toDigits base n) : (digitValue c).isSome = true := by
  have digit : ∀ d < base, (digitValue (Nat.digitChar d)).isSome = true := fun d small => by
    rw [digitValue_digitChar d (small.trans_le sixteen)]
    rfl
  induction n using Nat.base_induction base two with
  | single m small =>
    rw [Nat.toDigits_of_lt_base small] at member
    rw [List.mem_singleton.mp member]
    exact digit m small
  | digit m k small positive ih =>
    rw [← Nat.toDigits_append_toDigits two positive small] at member
    rcases List.mem_append.mp member with front | last
    · exact ih front
    · rw [Nat.toDigits_of_lt_base small] at last
      rw [List.mem_singleton.mp last]
      exact digit k small

theorem isAddressChar_of_digit {base : Nat} (two : 1 < base) (sixteen : base ≤ 16) {n : Nat} {c : Char}
    (member : c ∈ Nat.toDigits base n) : isAddressChar c = true := by
  rw [isAddressChar, digit_of_mem_toDigits two sixteen member]
  rfl

theorem colon_not_mem_toDigits {base : Nat} (two : 1 < base) (sixteen : base ≤ 16) (n : Nat) :
    ':' ∉ Nat.toDigits base n := fun member => by
  cases digit_of_mem_toDigits two sixteen member

theorem dot_not_mem_toDigits {base : Nat} (two : 1 < base) (sixteen : base ≤ 16) (n : Nat) :
    '.' ∉ Nat.toDigits base n := fun member => by
  cases digit_of_mem_toDigits two sixteen member

/-- The characters of joined texts. -/
theorem mem_intercalate {separator c : Char} {parts : List (List Char)}
    (member : c ∈ [separator].intercalate parts) : c = separator ∨ ∃ part ∈ parts, c ∈ part := by
  induction parts with
  | nil => cases member
  | cons part rest ih =>
    cases rest with
    | nil => exact Or.inr ⟨part, List.mem_singleton_self _, by simpa using member⟩
    | cons next rest =>
      rw [List.intercalate_cons_cons] at member
      rcases List.mem_append.mp member with front | back
      · exact (List.mem_append.mp front).elim
          (fun here => Or.inr ⟨part, List.mem_cons_self, here⟩)
          fun here => Or.inl (List.mem_singleton.mp here)
      · exact (ih back).imp id fun ⟨other, among, here⟩ => ⟨other, List.mem_cons_of_mem _ among, here⟩

/-! ### IPv4 -/

/-- The four octets in decimal, between dots. -/
def ipv4Text (octets : Bytes) : List Char :=
  ['.'].intercalate (octets.map fun octet => Nat.toDigits 10 octet.toNat)

/-- One octet. -/
def readOctet (text : List Char) : Option UInt8 :=
  (readNat 10 text).bind fun n => if n < 256 then some (UInt8.ofNat n) else none

/-- Four octets between dots. -/
def readIpv4 (text : List Char) : Option Bytes :=
  (text.splitOn '.').mapM readOctet |>.bind fun octets => if octets.length = 4 then some octets else none

theorem readOctet_toDigits (octet : UInt8) : readOctet (Nat.toDigits 10 octet.toNat) = some octet := by
  rw [readOctet, readNat_toDigits (by decide) (by decide)]
  exact (if_pos octet.toNat_lt).trans (congrArg some UInt8.ofNat_toNat)

/-- The octets stand between the dots. -/
theorem splitOn_ipv4Text {octets : Bytes} (some : octets ≠ []) :
    (ipv4Text octets).splitOn '.' = octets.map fun octet => Nat.toDigits 10 octet.toNat := by
  refine List.splitOn_intercalate '.' (fun part member => ?_) fun none => some (List.map_eq_nil_iff.mp none)
  obtain ⟨octet, -, rfl⟩ := List.mem_map.mp member
  exact dot_not_mem_toDigits (by decide) (by decide) _

/-- A reader of octets reads them all. -/
theorem mapM_toDigits {read : List Char → Option UInt8}
    (reads : ∀ octet : UInt8, read (Nat.toDigits 10 octet.toNat) = some octet) (octets : Bytes) :
    (octets.map fun octet => Nat.toDigits 10 octet.toNat).mapM read = some octets := by
  refine mapM_of_forall₂ ?_
  rw [List.forall₂_map_left_iff, List.forall₂_same]
  exact fun octet _ => reads octet

theorem ne_nil_of_four {octets : Bytes} (four : octets.length = 4) : octets ≠ [] := by
  rintro rfl
  cases four

/-- **An IPv4 address is read back from its text.** -/
theorem readIpv4_ipv4Text {octets : Bytes} (four : octets.length = 4) :
    readIpv4 (ipv4Text octets) = some octets := by
  rw [readIpv4, splitOn_ipv4Text (ne_nil_of_four four), mapM_toDigits readOctet_toDigits]
  exact if_pos four

theorem colon_not_mem_ipv4Text (octets : Bytes) : ':' ∉ ipv4Text octets := fun member => by
  rcases mem_intercalate member with dot | ⟨part, among, here⟩
  · cases dot
  · obtain ⟨octet, -, rfl⟩ := List.mem_map.mp among
    exact colon_not_mem_toDigits (by decide) (by decide) _ here

theorem dot_mem_ipv4Text {octets : Bytes} (four : octets.length = 4) : '.' ∈ ipv4Text octets := by
  obtain ⟨first, second, rest, rfl⟩ : ∃ first second rest, octets = first :: second :: rest := by
    match octets, four with
    | first :: second :: rest, _ => exact ⟨first, second, rest, rfl⟩
  rw [ipv4Text, List.map_cons, List.map_cons, List.intercalate_cons_cons]
  exact List.mem_append_left _ (List.mem_append_right _ (List.mem_singleton_self _))

theorem isAddressChar_ipv4Text {octets : Bytes} {c : Char} (member : c ∈ ipv4Text octets) :
    isAddressChar c = true := by
  rcases mem_intercalate member with rfl | ⟨part, among, here⟩
  · rfl
  · obtain ⟨octet, -, rfl⟩ := List.mem_map.mp among
    exact isAddressChar_of_digit (by decide) (by decide) here

/-! ### IPv6 -/

/-- A run of zero groups. -/
structure Span where
  start : Nat
  len : Nat

/-- The run goes on at a position, or starts there. -/
def Span.extend (run : Span) (position : Nat) : Span :=
  ⟨if run.len = 0 then position else run.start, run.len + 1⟩

/-- The search for the longest run: the run that ends at the position, and the longest one so far. -/
structure Scan where
  position : Nat
  current : Span
  longest : Span

/-- The next group. -/
def Scan.next (scan : Scan) (group : UInt16) : Scan :=
  if group = 0 then
    let current := scan.current.extend scan.position
    ⟨scan.position + 1, current, if scan.longest.len < current.len then current else scan.longest⟩
  else ⟨scan.position + 1, ⟨0, 0⟩, scan.longest⟩

/-- The longest run of zero groups, the first one of that length. -/
def longestZeros (groups : List UInt16) : Span := (groups.foldl Scan.next ⟨0, ⟨0, 0⟩, ⟨0, 0⟩⟩).longest

/-- The groups of an address, big-endian. -/
def groupsOf : Bytes → List UInt16
  | high :: low :: rest => UInt16.ofNat (256 * high.toNat + low.toNat) :: groupsOf rest
  | _ => []

/-- The octets of the groups. -/
def bytesOf (groups : List UInt16) : Bytes :=
  groups.flatMap fun group => [UInt8.ofNat (group.toNat / 256), UInt8.ofNat (group.toNat % 256)]

/-- Groups between colons. -/
def groupsText (groups : List UInt16) : List Char :=
  [':'].intercalate (groups.map fun group => Nat.toDigits 16 group.toNat)

/-- The prefix of the IPv4-mapped addresses. -/
def mappedPrefix : Bytes := [0, 0, 0, 0, 0, 0, 0, 0, 0, 0, 255, 255]

/-- The text of an IPv6 address. -/
def ipv6Text (octets : Bytes) : List Char :=
  if octets.take 12 = mappedPrefix then
    ':' :: ':' :: Nat.toDigits 16 65535 ++ ':' :: ipv4Text (octets.drop 12)
  else
    let groups := groupsOf octets
    let zeros := longestZeros groups
    if 1 < zeros.len then
      groupsText (groups.take zeros.start) ++ ':' :: ':' :: groupsText (groups.drop (zeros.start + zeros.len))
    else groupsText groups

/-- Splits at the first double colon. -/
def splitDouble : List Char → Option (List Char × List Char)
  | [] => none
  | ':' :: ':' :: rest => some ([], rest)
  | c :: rest => (splitDouble rest).map fun parts => (c :: parts.1, parts.2)

/-- One group. -/
def readGroup (text : List Char) : Option UInt16 :=
  (readNat 16 text).bind fun n => if n < 65536 then some (UInt16.ofNat n) else none

/-- Groups; the last ones may be an IPv4 address. -/
def readGroups : List (List Char) → Option (List UInt16)
  | [] => some []
  | [last] => if '.' ∈ last then (readIpv4 last).map groupsOf else (readGroup last).map fun group => [group]
  | text :: rest => (readGroup text).bind fun group => (readGroups rest).map (group :: ·)

/-- One side of a double colon, or an address without one. -/
def readSide (text : List Char) : Option (List UInt16) :=
  if text = [] then some [] else readGroups (text.splitOn ':')

/-- An IPv6 address: eight groups, or fewer around one double colon. -/
def readIpv6 (text : List Char) : Option Bytes :=
  match splitDouble text with
  | some (left, right) =>
    (readSide left).bind fun front => (readSide right).bind fun back =>
      if front.length + back.length < 8 then
        some (bytesOf (front ++ List.replicate (8 - front.length - back.length) 0 ++ back))
      else none
  | none => (readSide text).bind fun groups => if groups.length = 8 then some (bytesOf groups) else none

/-! #### The run that is left out -/

/-- The run lies within the groups, and they are zero there. -/
def IsRun (groups : List UInt16) (span : Span) : Prop :=
  span.start + span.len ≤ groups.length ∧
    (groups.drop span.start).take span.len = List.replicate span.len 0

theorem IsRun.append {groups : List UInt16} {span : Span} (run : IsRun groups span) (group : UInt16) :
    IsRun (groups ++ [group]) span := by
  obtain ⟨inside, zeros⟩ := run
  refine ⟨inside.trans (by simp), ?_⟩
  rw [List.drop_append_of_le_length (by omega), List.take_append_of_le_length (by simp; omega)]
  exact zeros

/-- A run that ends where a zero is added goes on. -/
theorem IsRun.extend {groups : List UInt16} {span : Span} (run : IsRun groups span)
    (ends : span.len = 0 ∨ span.start + span.len = groups.length) :
    IsRun (groups ++ [0]) (span.extend groups.length) ∧
      (span.extend groups.length).start + (span.extend groups.length).len = (groups ++ [0]).length := by
  unfold Span.extend
  by_cases first : span.len = 0
  · rw [if_pos first, first]
    exact ⟨⟨by simp, by simp⟩, by simp⟩
  · rw [if_neg first]
    have last := ends.resolve_left first
    have zeros := run.2
    rw [List.take_of_length_le (by rw [List.length_drop]; omega)] at zeros
    have length : span.start + (span.len + 1) = (groups ++ [0]).length := by
      rw [List.length_append, List.length_singleton, ← last]
      rfl
    refine ⟨⟨length.le, ?_⟩, length⟩
    dsimp only
    rw [List.drop_append_of_le_length (by omega), zeros, List.replicate_succ',
      List.take_of_length_le (by simp)]

/-- The invariant of the search over the groups so far. -/
structure Scanned (groups : List UInt16) (scan : Scan) : Prop where
  position : scan.position = groups.length
  current : IsRun groups scan.current
  ends : scan.current.len = 0 ∨ scan.current.start + scan.current.len = groups.length
  longest : IsRun groups scan.longest

theorem Scanned.next {groups : List UInt16} {scan : Scan} (scanned : Scanned groups scan) (group : UInt16) :
    Scanned (groups ++ [group]) (scan.next group) := by
  have position : scan.position + 1 = (groups ++ [group]).length := by
    rw [scanned.position, List.length_append, List.length_singleton]
  unfold Scan.next
  by_cases zero : group = 0
  · rw [if_pos zero, zero, scanned.position]
    have extended := scanned.current.extend scanned.ends
    refine ⟨by simp, extended.1, Or.inr extended.2, ?_⟩
    dsimp only
    split
    · exact extended.1
    · exact scanned.longest.append 0
  · rw [if_neg zero]
    exact ⟨position, ⟨Nat.zero_le _, rfl⟩, Or.inl rfl, scanned.longest.append group⟩

/-- **The longest run is a run.** -/
theorem isRun_longestZeros (groups : List UInt16) : IsRun groups (longestZeros groups) := by
  have all : ∀ (rest before : List UInt16) (scan : Scan), Scanned before scan →
      Scanned (before ++ rest) (rest.foldl Scan.next scan) := by
    intro rest
    induction rest with
    | nil =>
      intro before scan scanned
      rwa [List.append_nil]
    | cons group rest ih =>
      intro before scan scanned
      have next := ih (before ++ [group]) (scan.next group) (scanned.next group)
      rwa [List.append_assoc] at next
  have empty : IsRun [] ⟨0, 0⟩ := ⟨Nat.le_refl _, rfl⟩
  exact (all groups [] ⟨0, ⟨0, 0⟩, ⟨0, 0⟩⟩ ⟨rfl, empty, Or.inl rfl, empty⟩).longest

/-- The groups are what stands before the run, its zeros, and what stands behind it. -/
theorem IsRun.split {groups : List UInt16} {span : Span} (run : IsRun groups span) :
    groups.take span.start ++ List.replicate span.len 0 ++ groups.drop (span.start + span.len) = groups := by
  have middle : List.replicate span.len 0 ++ groups.drop (span.start + span.len) = groups.drop span.start := by
    rw [← run.2, ← List.drop_drop, List.take_append_drop]
  rw [List.append_assoc, middle, List.take_append_drop]

/-! #### Reading groups back -/

theorem readGroup_toDigits (group : UInt16) : readGroup (Nat.toDigits 16 group.toNat) = some group := by
  rw [readGroup, readNat_toDigits (by decide) (by decide)]
  exact (if_pos group.toNat_lt).trans (congrArg some UInt16.ofNat_toNat)

theorem readGroups_cons {text : List Char} {rest : List (List Char)} (more : rest ≠ []) :
    readGroups (text :: rest) = (readGroup text).bind fun group => (readGroups rest).map (group :: ·) := by
  cases rest with
  | nil => exact absurd rfl more
  | cons next rest => rfl

theorem readGroups_toDigits (groups : List UInt16) :
    readGroups (groups.map fun group => Nat.toDigits 16 group.toNat) = some groups := by
  induction groups with
  | nil => rfl
  | cons group groups ih =>
    cases groups with
    | nil =>
      rw [List.map_singleton, readGroups, if_neg (dot_not_mem_toDigits (by decide) (by decide) _),
        readGroup_toDigits]
      rfl
    | cons next rest =>
      rw [List.map_cons, readGroups_cons (by simp), readGroup_toDigits, ih]
      rfl

/-- **Groups are read back from their text.** -/
theorem readSide_groupsText (groups : List UInt16) : readSide (groupsText groups) = some groups := by
  cases groups with
  | nil => rfl
  | cons group rest =>
    have parts : (groupsText (group :: rest)).splitOn ':' =
        (group :: rest).map fun group => Nat.toDigits 16 group.toNat := by
      refine List.splitOn_intercalate ':' (fun part member => ?_) (by simp)
      obtain ⟨group, -, rfl⟩ := List.mem_map.mp member
      exact colon_not_mem_toDigits (by decide) (by decide) _
    have some : groupsText (group :: rest) ≠ [] := by
      cases rest with
      | nil => simp [groupsText]
      | cons next rest => simp [groupsText]
    rw [readSide, if_neg some, parts, readGroups_toDigits]

/-! #### The double colon -/

/-- Text without a colon stands before the split. -/
theorem splitDouble_append {front : List Char} (bare : ':' ∉ front) (rest : List Char) :
    splitDouble (front ++ rest) = (splitDouble rest).map fun parts => (front ++ parts.1, parts.2) := by
  induction front with
  | nil =>
    rw [List.nil_append]
    cases splitDouble rest <;> rfl
  | cons c front ih =>
    obtain ⟨other, later⟩ := List.ne_and_not_mem_of_not_mem_cons bare
    rw [List.cons_append, splitDouble, ih later, Option.map_map]
    · rfl
    · intro more colon _
      exact absurd colon.symm other

/-- Groups stand before the split. -/
theorem splitDouble_groupsText (groups : List UInt16) (rest : List Char) :
    splitDouble (groupsText groups ++ rest) =
      (splitDouble rest).map fun parts => (groupsText groups ++ parts.1, parts.2) := by
  have bare : ∀ group : UInt16, ':' ∉ Nat.toDigits 16 group.toNat :=
    fun group => colon_not_mem_toDigits (by decide) (by decide) _
  induction groups with
  | nil =>
    show splitDouble rest = _
    cases splitDouble rest <;> rfl
  | cons group groups ih =>
    cases groups with
    | nil =>
      have single : groupsText [group] = Nat.toDigits 16 group.toNat := by simp [groupsText]
      rw [single]
      exact splitDouble_append (bare group) rest
    | cons next groups =>
      have text : groupsText (group :: next :: groups) =
          Nat.toDigits 16 group.toNat ++ ':' :: groupsText (next :: groups) := by
        rw [groupsText, List.map_cons, List.map_cons, List.intercalate_cons_cons, List.append_assoc]
        rfl
      -- the group behind the colon does not begin with one
      obtain ⟨c, front, digits, other⟩ : ∃ c front, groupsText (next :: groups) = c :: front ∧ c ≠ ':' := by
        obtain ⟨c, front, digits⟩ := List.exists_cons_of_ne_nil (@Nat.toDigits_ne_nil next.toNat 16)
        have first : c ≠ ':' := fun colon => bare next (by rw [digits, colon]; exact List.mem_cons_self)
        cases groups with
        | nil => exact ⟨c, front, by simp [groupsText, digits], first⟩
        | cons _ _ => exact ⟨c, _, by simp [groupsText, digits]; rfl, first⟩
      rw [text, List.append_assoc, splitDouble_append (bare group), List.cons_append, digits, List.cons_append,
        splitDouble, ← List.cons_append, ← digits, ih, Option.map_map, Option.map_map]
      · congr 1
        funext parts
        simp
      · intro more _ colon
        exact other (List.cons.inj colon).1

/-! #### The round trip -/

theorem bytesOf_append (front back : List UInt16) : bytesOf (front ++ back) = bytesOf front ++ bytesOf back :=
  List.flatMap_append

/-- The octets are read back from the groups. -/
theorem bytesOf_groupsOf (octets : Bytes) (even : octets.length % 2 = 0) : bytesOf (groupsOf octets) = octets := by
  fun_induction groupsOf octets with
  | case1 high low rest ih =>
    have value : (UInt16.ofNat (256 * high.toNat + low.toNat)).toNat = 256 * high.toNat + low.toNat := by
      have highSmall := high.toNat_lt
      have lowSmall := low.toNat_lt
      rw [UInt16.toNat_ofNat']
      omega
    have lowSmall := low.toNat_lt
    have first : (256 * high.toNat + low.toNat) / 256 = high.toNat := by omega
    have second : (256 * high.toNat + low.toNat) % 256 = low.toNat := by omega
    have later := ih (by
      rw [List.length_cons, List.length_cons] at even
      omega)
    rw [bytesOf] at later ⊢
    rw [List.flatMap_cons, later, value, first, second, UInt8.ofNat_toNat, UInt8.ofNat_toNat]
    rfl
  | case2 octets short =>
    match octets, even with
    | [], _ => rfl
    | [octet], odd => cases odd
    | high :: low :: rest, _ => exact absurd rfl (short high low rest)

theorem length_groupsOf (octets : Bytes) : (groupsOf octets).length = octets.length / 2 := by
  fun_induction groupsOf octets with
  | case1 high low rest ih =>
    simp only [List.length_cons, ih]
    omega
  | case2 octets short =>
    match octets with
    | [] => rfl
    | [octet] => exact (Nat.div_eq_of_lt Nat.one_lt_two).symm
    | high :: low :: rest => exact absurd rfl (short high low rest)

/-- The IPv4-mapped form. -/
theorem readIpv6_mapped {octets : Bytes} (sixteen : octets.length = 16)
    (mapped : octets.take 12 = mappedPrefix) : readIpv6 (ipv6Text octets) = some octets := by
  have four : (octets.drop 12).length = 4 := by rw [List.length_drop, sixteen]
  have parts : (Nat.toDigits 16 65535 ++ ':' :: ipv4Text (octets.drop 12)).splitOn ':' =
      [Nat.toDigits 16 65535, ipv4Text (octets.drop 12)] := by
    have joined : Nat.toDigits 16 65535 ++ ':' :: ipv4Text (octets.drop 12) =
        [':'].intercalate [Nat.toDigits 16 65535, ipv4Text (octets.drop 12)] := by simp
    rw [joined]
    refine List.splitOn_intercalate ':' (fun part member => ?_) (by simp)
    rcases List.mem_cons.mp member with rfl | last
    · exact colon_not_mem_toDigits (by decide) (by decide) _
    · rw [List.mem_singleton.mp last]
      exact colon_not_mem_ipv4Text _
  have side : readSide (Nat.toDigits 16 65535 ++ ':' :: ipv4Text (octets.drop 12)) =
      some (65535 :: groupsOf (octets.drop 12)) := by
    have group : readGroup (Nat.toDigits 16 65535) = some 65535 := by decide
    rw [readSide, if_neg (by simp), parts, readGroups_cons (by simp), group, readGroups,
      if_pos (dot_mem_ipv4Text four), readIpv4_ipv4Text four]
    rfl
  have length : (groupsOf (octets.drop 12)).length = 2 := by rw [length_groupsOf, four]
  have text : ipv6Text octets =
      ':' :: ':' :: (Nat.toDigits 16 65535 ++ ':' :: ipv4Text (octets.drop 12)) := if_pos mapped
  have split : splitDouble (ipv6Text octets) =
      some ([], Nat.toDigits 16 65535 ++ ':' :: ipv4Text (octets.drop 12)) := by rw [text, splitDouble]
  have front : bytesOf ([0, 0, 0, 0, 0] ++ [65535]) = mappedPrefix := by decide
  rw [readIpv6, split]
  have none : readSide [] = some [] := rfl
  simp only [none, side, Option.bind_some, List.length_nil, List.length_cons, length]
  rw [if_pos (by decide)]
  refine congrArg some ?_
  show bytesOf ([0, 0, 0, 0, 0] ++ 65535 :: groupsOf (octets.drop 12)) = octets
  rw [List.append_cons, bytesOf_append, front, bytesOf_groupsOf _ (by rw [four]), ← mapped,
    List.take_append_drop]

/-- **An IPv6 address is read back from its text.** -/
theorem readIpv6_ipv6Text {octets : Bytes} (sixteen : octets.length = 16) :
    readIpv6 (ipv6Text octets) = some octets := by
  by_cases mapped : octets.take 12 = mappedPrefix
  · exact readIpv6_mapped sixteen mapped
  have eight : (groupsOf octets).length = 8 := by rw [length_groupsOf, sixteen]
  have whole := bytesOf_groupsOf octets (by rw [sixteen])
  rw [ipv6Text, if_neg mapped]
  dsimp only
  by_cases long : 1 < (longestZeros (groupsOf octets)).len
  · have run := isRun_longestZeros (groupsOf octets)
    have split := run.split
    have inside := run.1
    generalize longestZeros (groupsOf octets) = zeros at long run split inside ⊢
    have left : (List.take zeros.start (groupsOf octets)).length = zeros.start := by
      rw [List.length_take]
      omega
    have right : (List.drop (zeros.start + zeros.len) (groupsOf octets)).length =
        8 - (zeros.start + zeros.len) := by
      rw [List.length_drop, eight]
    have room : 8 - zeros.start - (8 - (zeros.start + zeros.len)) = zeros.len := by omega
    rw [if_pos long, readIpv6, splitDouble_groupsText]
    simp only [splitDouble, Option.map_some, List.append_nil, readSide_groupsText, Option.bind_some, left, right,
      room]
    rw [if_pos (by omega), split, whole]
  · have none : splitDouble (groupsText (groupsOf octets)) = none := by
      have split := splitDouble_groupsText (groupsOf octets) []
      rwa [List.append_nil] at split
    rw [if_neg long, readIpv6, none]
    show (readSide _).bind _ = _
    rw [readSide_groupsText, Option.bind_some, if_pos eight, whole]

/-! #### The characters -/

theorem isAddressChar_groupsText {groups : List UInt16} {c : Char} (member : c ∈ groupsText groups) :
    isAddressChar c = true := by
  rcases mem_intercalate member with rfl | ⟨part, among, here⟩
  · rfl
  · obtain ⟨group, -, rfl⟩ := List.mem_map.mp among
    exact isAddressChar_of_digit (by decide) (by decide) here

theorem isAddressChar_ipv6Text {octets : Bytes} {c : Char} (member : c ∈ ipv6Text octets) :
    isAddressChar c = true := by
  have colons : ∀ {rest : List Char}, (∀ c ∈ rest, isAddressChar c = true) →
      ∀ c ∈ ':' :: rest, isAddressChar c = true := by
    intro rest all c among
    rcases List.mem_cons.mp among with rfl | later
    · rfl
    · exact all c later
  rw [ipv6Text] at member
  split at member
  · refine colons (colons fun c among => ?_) c member
    rcases List.mem_append.mp among with digits | rest
    · exact isAddressChar_of_digit (by decide) (by decide) digits
    · exact colons (fun c => isAddressChar_ipv4Text) c rest
  · dsimp only at member
    split at member
    · rcases List.mem_append.mp member with left | right
      · exact isAddressChar_groupsText left
      · exact colons (colons fun c => isAddressChar_groupsText) c right
    · exact isAddressChar_groupsText member

theorem ipv4Text_ne_nil {octets : Bytes} (four : octets.length = 4) : ipv4Text octets ≠ [] := fun none => by
  have read := readIpv4_ipv4Text four
  rw [none] at read
  cases read

theorem ipv6Text_ne_nil {octets : Bytes} (sixteen : octets.length = 16) : ipv6Text octets ≠ [] := fun none => by
  have read := readIpv6_ipv6Text sixteen
  rw [none] at read
  cases read

/-! ### Strict readers -/

/-- One octet of up to three digits, without a leading zero. -/
def parseOctet (text : List Char) : Option UInt8 :=
  if text.length ≤ 3 ∧ (text.head? = some '0' → text.length = 1) then readOctet text else none

/-- Four octets between dots. -/
def parseIpv4 (text : List Char) : Option (Octets 4) :=
  ((text.splitOn '.').mapM parseOctet).bind fun octets =>
    if four : octets.length = 4 then some ⟨octets, four⟩ else none

theorem parseOctet_toDigits (octet : UInt8) : parseOctet (Nat.toDigits 10 octet.toNat) = some octet := by
  have short : ∀ n < 256, (Nat.toDigits 10 n).length ≤ 3 ∧
      ((Nat.toDigits 10 n).head? = some '0' → (Nat.toDigits 10 n).length = 1) := by decide +kernel
  rw [parseOctet, if_pos (short octet.toNat octet.toNat_lt)]
  exact readOctet_toDigits octet

/-- **The strict reader reads an IPv4 address back from its text.** -/
theorem parseIpv4_ipv4Text (address : Octets 4) : parseIpv4 (ipv4Text address.bytes) = some address := by
  rw [parseIpv4, splitOn_ipv4Text (ne_nil_of_four address.length_eq), mapM_toDigits parseOctet_toDigits]
  exact dif_pos address.length_eq

/-- What may stand between two colons: up to four digits, or an IPv4 address. -/
def strictPart (part : List Char) : Bool :=
  if '.' ∈ part then (parseIpv4 part).isSome else decide (part.length ≤ 4)

/-- An IPv6 address; an IPv4 address stands at its end only. -/
def parseIpv6 (text : List Char) : Option (Octets 16) :=
  if (text.splitOn ':').all strictPart = true ∧ (∀ parts ∈ splitDouble text, '.' ∉ parts.1) then
    (readIpv6 text).bind fun octets =>
      if sixteen : octets.length = 16 then some ⟨octets, sixteen⟩ else none
  else none

theorem strictPart_toDigits (group : UInt16) : strictPart (Nat.toDigits 16 group.toNat) = true := by
  rw [strictPart, if_neg (dot_not_mem_toDigits (by decide) (by decide) _)]
  exact decide_eq_true ((Nat.length_toDigits_le_iff (by decide) (by decide)).mpr group.toNat_lt)

theorem strictPart_ipv4Text (address : Octets 4) : strictPart (ipv4Text address.bytes) = true := by
  rw [strictPart, if_pos (dot_mem_ipv4Text address.length_eq), parseIpv4_ipv4Text]
  rfl

/-- Every part between two colons may stand there. -/
def StrictParts (text : List Char) : Prop := (text.splitOn ':').all strictPart = true

theorem strictParts_nil : StrictParts [] := by
  show ([[]] : List (List Char)).all strictPart = true
  decide

theorem StrictParts.append {left right : List Char} (first : StrictParts left) (second : StrictParts right) :
    StrictParts (left ++ ':' :: right) := by
  rw [StrictParts, List.splitOn_append_cons_self, List.all_append, first, second]
  rfl

theorem strictParts_of_part {part : List Char} (bare : ':' ∉ part) (strict : strictPart part = true) :
    StrictParts part := by
  have alone : ([':'].intercalate [part]).splitOn ':' = [part] :=
    List.splitOn_intercalate ':' (by simpa using bare) (by simp)
  rw [List.intercalate_singleton] at alone
  rw [StrictParts, alone, List.all_cons, strict]
  rfl

theorem strictParts_toDigits (group : UInt16) : StrictParts (Nat.toDigits 16 group.toNat) :=
  strictParts_of_part (colon_not_mem_toDigits (by decide) (by decide) _) (strictPart_toDigits group)

theorem strictParts_groupsText (groups : List UInt16) : StrictParts (groupsText groups) := by
  induction groups with
  | nil => exact strictParts_nil
  | cons group rest ih =>
    cases rest with
    | nil =>
      have single : groupsText [group] = Nat.toDigits 16 group.toNat := List.intercalate_singleton
      rw [single]
      exact strictParts_toDigits group
    | cons next rest =>
      have text : groupsText (group :: next :: rest) =
          Nat.toDigits 16 group.toNat ++ ':' :: groupsText (next :: rest) := by
        rw [groupsText, List.map_cons, List.map_cons, List.intercalate_cons_cons, List.append_assoc]
        rfl
      rw [text]
      exact (strictParts_toDigits group).append ih

theorem dot_not_mem_groupsText (groups : List UInt16) : '.' ∉ groupsText groups := fun member => by
  rcases mem_intercalate member with colon | ⟨part, among, here⟩
  · cases colon
  · obtain ⟨group, -, rfl⟩ := List.mem_map.mp among
    exact dot_not_mem_toDigits (by decide) (by decide) _ here

/-- What stands before a double colon is part of the text. -/
theorem mem_of_splitDouble {text : List Char} {parts : List Char × List Char}
    (split : splitDouble text = some parts) {c : Char} (member : c ∈ parts.1) : c ∈ text := by
  fun_induction splitDouble text generalizing parts with
  | case1 => cases split
  | case2 rest =>
    obtain rfl := Option.some.inj split
    cases member
  | case3 first rest other ih =>
    obtain ⟨inner, found, rfl⟩ := Option.map_eq_some_iff.mp split
    rcases List.mem_cons.mp member with rfl | later
    · exact List.mem_cons_self
    · exact List.mem_cons_of_mem _ (ih found later)

/-- **The strict reader reads an IPv6 address back from its text.** -/
theorem parseIpv6_ipv6Text (address : Octets 16) : parseIpv6 (ipv6Text address.bytes) = some address := by
  have behind : ∀ {right : List Char}, StrictParts right → StrictParts (':' :: right) := fun strict =>
    strictParts_nil.append strict
  have strict : StrictParts (ipv6Text address.bytes) := by
    rw [ipv6Text]
    dsimp only
    split_ifs with mapped long
    · have four : (address.bytes.drop 12).length = 4 := by rw [List.length_drop, address.length_eq]
      have last := strictParts_of_part (colon_not_mem_ipv4Text _) (strictPart_ipv4Text ⟨_, four⟩)
      exact behind (behind ((strictParts_toDigits 65535).append last))
    · exact (strictParts_groupsText _).append (behind (strictParts_groupsText _))
    · exact strictParts_groupsText _
  -- only the mapped form has a dot, and that one begins with the double colon
  have undotted : ∀ parts ∈ splitDouble (ipv6Text address.bytes), '.' ∉ parts.1 := by
    rw [ipv6Text]
    dsimp only
    split_ifs with mapped long
    · intro parts split
      obtain rfl := Option.some.inj split
      exact List.not_mem_nil
    · intro parts split member
      rcases List.mem_append.mp (mem_of_splitDouble split member) with left | right
      · exact dot_not_mem_groupsText _ left
      · rcases List.mem_cons.mp right with colon | right
        · cases colon
        · rcases List.mem_cons.mp right with colon | right
          · cases colon
          · exact dot_not_mem_groupsText _ right
    · exact fun parts split member => dot_not_mem_groupsText _ (mem_of_splitDouble split member)
  rw [parseIpv6, if_pos ⟨strict, undotted⟩, readIpv6_ipv6Text address.length_eq]
  exact dif_pos address.length_eq

end Library.IpText
