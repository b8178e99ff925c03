/-
**A reader and an interpreter for nftables output filters.**

A script replaces one `inet` table by one with a single base chain on the output hook; every rule of the
chain is a conjunction of matches with the verdict `accept`.

* `lex` — the tokens of a line; `lex_append_blank` takes a line apart at a blank.
* `readRule` — the matches of a rule; `readChain` — a whole script.
* `Match.holds` — which packets a match is about. In an `inet` table a match on a field of an IP header is
  about packets of that family only, a match on ICMPv6 about IPv6 packets only, a match on a UDP port about
  both families. A trailing asterisk makes an interface name a prefix.
* `Chain.verdict` — the first rule that matches accepts, else the policy decides.
-/

import ChameleonPQ.Library.IpText

namespace Library.Nftables

open IpText

/-! ### Tokens -/

inductive Token where
  | word (text : List Char)
  | quoted (text : List Char)
  | sign (c : Char)
  deriving DecidableEq

/-- Where the lexer stands: within a word, which may be empty, or within quotes. -/
inductive LexMode where
  | plain (text : List Char)
  | quotes (text : List Char)

/-- The word that ends here. -/
def flush (text : List Char) : List Token := if text = [] then [] else [.word text]

/-- The tokens of a line; none when a quote is left open. -/
def lex : LexMode → List Char → Option (List Token)
  | .plain text, [] => some (flush text)
  | .quotes _, [] => none
  | .plain text, c :: rest =>
    if c = ' ' ∨ c = '\t' then (lex (.plain []) rest).map (flush text ++ ·)
    else if c = '"' then (lex (.quotes []) rest).map (flush text ++ ·)
    else if c ∈ ['\x7b', '\x7d', ',', ';'] then
      (lex (.plain []) rest).map ((flush text ++ [.sign c]) ++ ·)
    else lex (.plain (text ++ [c])) rest
  | .quotes text, c :: rest =>
    if c = '"' then (lex (.plain []) rest).map ([.quoted text] ++ ·) else lex (.quotes (text ++ [c])) rest

/-- **A line is taken apart at a blank** outside quotes. -/
theorem lex_append_blank {front : List Char} {tokens : List Token} {mode : LexMode}
    (lexed : lex mode front = some tokens) (back : List Char) :
    lex mode (front ++ ' ' :: back) = (lex (.plain []) back).map (tokens ++ ·) := by
  induction front generalizing mode tokens with
  | nil =>
    cases mode with
    | plain text =>
      obtain rfl := Option.some.inj lexed
      rfl
    | quotes text => cases lexed
  | cons c front ih =>
    -- what a character puts before the tokens of the rest stays there
    have further : ∀ {mode : LexMode} {before : List Token},
        (lex mode front).map (before ++ ·) = some tokens →
          (lex mode (front ++ ' ' :: back)).map (before ++ ·) = (lex (.plain []) back).map (tokens ++ ·) := by
      intro mode before found
      obtain ⟨later, here, rfl⟩ := Option.map_eq_some_iff.mp found
      rw [ih here, Option.map_map]
      simp only [Function.comp_def, List.append_assoc]
    cases mode with
    | plain text =>
      rw [lex] at lexed
      rw [List.cons_append, lex]
      by_cases blank : c = ' ' ∨ c = '\t'
      · rw [if_pos blank] at lexed ⊢
        exact further lexed
      rw [if_neg blank] at lexed ⊢
      by_cases quote : c = '"'
      · rw [if_pos quote] at lexed ⊢
        exact further lexed
      rw [if_neg quote] at lexed ⊢
      by_cases sign : c ∈ ['\x7b', '\x7d', ',', ';']
      · rw [if_pos sign] at lexed ⊢
        exact further lexed
      · rw [if_neg sign] at lexed ⊢
        exact ih lexed
    | quotes text =>
      rw [lex] at lexed
      rw [List.cons_append, lex]
      by_cases quote : c = '"'
      · rw [if_pos quote] at lexed ⊢
        exact @further _ [.quoted text] lexed
      · rw [if_neg quote] at lexed ⊢
        exact ih lexed

/-- Quoted text without a quote in it is one token. -/
theorem lex_quoted {text : List Char} (bare : '"' ∉ text) :
    lex (.plain []) ('"' :: text ++ ['"']) = some [.quoted text] := by
  have inside : ∀ (rest front : List Char), '"' ∉ rest →
      lex (.quotes front) (rest ++ ['"']) = some [.quoted (front ++ rest)] := by
    intro rest
    induction rest with
    | nil =>
      intro front _
      rw [List.append_nil]
      rfl
    | cons c rest ih =>
      intro front bare
      obtain ⟨other, later⟩ := List.ne_and_not_mem_of_not_mem_cons bare
      rw [List.cons_append, lex, if_neg (Ne.symm other), ih _ later, List.append_assoc]
      rfl
  rw [List.cons_append]
  show (lex (.quotes []) (text ++ ['"'])).map _ = _
  rw [inside text [] bare]
  rfl

/-- Plain characters form one word. -/
theorem lex_word {text : List Char} (plain : ∀ c ∈ text, c ∉ [' ', '\t', '"', '\x7b', '\x7d', ',', ';']) :
    lex (.plain []) text = some (flush text) := by
  have inside : ∀ rest front : List Char,
      (∀ c ∈ rest, c ∉ [' ', '\t', '"', '\x7b', '\x7d', ',', ';']) →
      lex (.plain front) rest = some (flush (front ++ rest)) := by
    intro rest
    induction rest with
    | nil =>
      intro front _
      rw [List.append_nil]
      rfl
    | cons c rest ih =>
      intro front plain
      have here := plain c List.mem_cons_self
      simp only [List.mem_cons, List.not_mem_nil, or_false, not_or] at here
      obtain ⟨blank, tab, quote, signs⟩ := here
      have sign : c ∉ ['\x7b', '\x7d', ',', ';'] := by
        simpa only [List.mem_cons, List.not_mem_nil, or_false, not_or] using signs
      rw [lex, if_neg (not_or.mpr ⟨blank, tab⟩), if_neg quote, if_neg sign,
        ih _ fun c later => plain c (List.mem_cons_of_mem _ later), List.append_assoc]
      rfl
  exact inside text [] plain

/-! ### Rules -/

/-- What an interface is compared with. -/
inductive IfName where
  | exact (name : List Char)
  | starts (front : List Char)
  deriving DecidableEq

/-- An interface name between quotes: a trailing asterisk makes it a prefix, unless a backslash stands
before it; no name, and an asterisk alone, are refused. -/
def readName (text : List Char) : Option IfName :=
  match text.reverse with
  | [] | ['*'] => none
  | '*' :: '\\' :: front => some (.exact (front.reverse ++ ['*']))
  | '*' :: front => some (.starts front.reverse)
  | _ => some (.exact text)

/-- An address with the number of its bits that count. -/
structure Prefix (size : Nat) where
  addr : Octets size
  width : Nat
  deriving DecidableEq

/-- What a rule compares. -/
inductive Match where
  | oifname (name : IfName)
  | icmpv6Type (types : List UInt8)
  | ipDaddr (net : Prefix 4)
  | ip6Daddr (net : Prefix 16)
  | udpSport (port : Nat)
  | udpDport (port : Nat)
  deriving DecidableEq

/-- The names of the ICMPv6 types. -/
def icmpv6Types : List (List Char × UInt8) :=
  [("destination-unreachable".toList, 1), ("packet-too-big".toList, 2), ("time-exceeded".toList, 3),
    ("parameter-problem".toList, 4), ("echo-request".toList, 128), ("echo-reply".toList, 129),
    ("mld-listener-query".toList, 130), ("mld-listener-report".toList, 131),
    ("mld-listener-done".toList, 132), ("nd-router-solicit".toList, 133), ("nd-router-advert".toList, 134),
    ("nd-neighbor-solicit".toList, 135), ("nd-neighbor-advert".toList, 136), ("nd-redirect".toList, 137),
    ("router-renumbering".toList, 138), ("ind-neighbor-solicit".toList, 141),
    ("ind-neighbor-advert".toList, 142), ("mld2-listener-report".toList, 143)]

/-- An address, alone or with a prefix length behind a slash. -/
def readPrefix {size : Nat} (read : List Char → Option Bytes) (text : List Char) : Option (Prefix size) :=
  let addr := fun text => (read text).bind fun octets =>
    if length : octets.length = size then some (⟨octets, length⟩ : Octets size) else none
  match text.splitOn '/' with
  | [only] => (addr only).map fun addr => ⟨addr, 8 * size⟩
  | [front, back] =>
    (addr front).bind fun addr => (readNat 10 back).bind fun width =>
      if width ≤ 8 * size then some ⟨addr, width⟩ else none
  | _ => none

/-- The matches of a rule that accepts; within a set of ICMPv6 types, those read so far. -/
def readRule : Option (List UInt8) → List Token → Option (List Match)
  | none, [.word verdict] => if verdict = "accept".toList then some [] else none
  | none, .word field :: .quoted name :: rest =>
    if field = "oifname".toList then
      (readName name).bind fun name => (readRule none rest).map (.oifname name :: ·)
    else none
  | none, .word header :: .word field :: .sign _ :: rest =>
    if header = "icmpv6".toList ∧ field = "type".toList then readRule (some []) rest else none
  | none, .word header :: .word field :: .word value :: rest =>
    if header = "ip".toList ∧ field = "daddr".toList then
      (readPrefix readIpv4 value).bind fun net => (readRule none rest).map (.ipDaddr net :: ·)
    else if header = "ip6".toList ∧ field = "daddr".toList then
      (readPrefix readIpv6 value).bind fun net => (readRule none rest).map (.ip6Daddr net :: ·)
    else if header = "udp".toList ∧ field = "sport".toList then
      (readNat 10 value).bind fun port => (readRule none rest).map (.udpSport port :: ·)
    else if header = "udp".toList ∧ field = "dport".toList then
      (readNat 10 value).bind fun port => (readRule none rest).map (.udpDport port :: ·)
    else none
  | some types, .word type :: .sign c :: rest =>
    (icmpv6Types.lookup type).bind fun type =>
      if c = ',' then readRule (some (types ++ [type])) rest
      else if c = '\x7d' then (readRule none rest).map (.icmpv6Type (types ++ [type]) :: ·)
      else none
  | _, _ => none

/-! ### Scripts -/

inductive Verdict where
  | accept
  | drop
  deriving DecidableEq

/-- A base chain: its policy, and for each rule what it compares. -/
structure Chain where
  policy : Verdict
  rules : List (List Match)
  deriving DecidableEq

/-- The tokens of some words. -/
def words (texts : List String) : List Token := texts.map fun text => .word text.toList

/-- What comes before the rules: an earlier table goes, the new one has one chain on the output hook. -/
def opening (table chain : List Char) (policy : String) : List (List Token) :=
  [words ["add", "table", "inet"] ++ [.word table], words ["delete", "table", "inet"] ++ [.word table],
    words ["table", "inet"] ++ [.word table, .sign '\x7b'], words ["chain"] ++ [.word chain, .sign '\x7b'],
    words ["type", "filter", "hook", "output", "priority", "0"] ++ [.sign ';'] ++ words ["policy", policy] ++
      [.sign ';']]

/-- The rules up to the end of the chain and of the table. -/
def readRules : List (List Token) → Option (List (List Match))
  | [] => none
  | line :: rest =>
    if line = [.sign '\x7d'] then if rest = [[.sign '\x7d']] then some [] else none
    else (readRule none line).bind fun rule => (readRules rest).map (rule :: ·)

/-- The chain of a script, by its lines. -/
def readLines (lines : List (List Token)) : Option Chain :=
  match lines with
  | (_ :: _ :: _ :: .word table :: _) :: _ :: _ :: (_ :: .word chain :: _) :: _ =>
    if lines.take 5 = opening table chain "drop" then (readRules (lines.drop 5)).map (⟨.drop, ·⟩)
    else if lines.take 5 = opening table chain "accept" then (readRules (lines.drop 5)).map (⟨.accept, ·⟩)
    else none
  | _ => none

/-- The chain of a script. -/
def readChain (text : List Char) : Option Chain :=
  ((text.splitOn '\n').mapM (lex (.plain []))).bind readLines

/-! ### Packets -/

inductive Dest where
  | v4 (addr : Octets 4)
  | v6 (addr : Octets 16)
  deriving DecidableEq

inductive Transport where
  | udp (sport dport : UInt16)
  | icmpv6 (type : UInt8)
  | other (protocol : UInt8)
  deriving DecidableEq

/-- A packet that leaves: the interface, the destination, and what the IP header carries. -/
structure Packet where
  oif : List Char
  dst : Dest
  transport : Transport
  deriving DecidableEq

/-- The number of a big-endian string. -/
def beNat (octets : Bytes) : Nat := octets.foldl (fun value octet => 256 * value + octet.toNat) 0

/-- The address begins with the bits of the prefix. -/
def Prefix.Covers {size : Nat} (net : Prefix size) (addr : Octets size) : Prop :=
  beNat addr.bytes / 2 ^ (8 * size - net.width) = beNat net.addr.bytes / 2 ^ (8 * size - net.width)

instance {size : Nat} (net : Prefix size) (addr : Octets size) : Decidable (net.Covers addr) :=
  inferInstanceAs (Decidable (_ = _))

/-- The interface has the name, or a name that begins so. -/
def IfName.names : IfName → List Char → Bool
  | exact name, oif => decide (oif = name)
  | starts front, oif => front.isPrefixOf oif

/-- The packet is one that the match is about. -/
def Match.holds (packet : Packet) : Match → Bool
  | oifname name => name.names packet.oif
  | icmpv6Type types =>
    match packet.dst, packet.transport with
    | .v6 _, .icmpv6 type => types.contains type
    | _, _ => false
  | ipDaddr net =>
    match packet.dst with
    | .v4 addr => decide (net.Covers addr)
    | .v6 _ => false
  | ip6Daddr net =>
    match packet.dst with
    | .v4 _ => false
    | .v6 addr => decide (net.Covers addr)
  | udpSport port =>
    match packet.transport with
    | .udp sport _ => decide (sport.toNat = port)
    | _ => false
  | udpDport port =>
    match packet.transport with
    | .udp _ dport => decide (dport.toNat = port)
    | _ => false

/-- The first rule that matches accepts; else the policy decides. -/
def Chain.verdict (chain : Chain) (packet : Packet) : Verdict :=
  if chain.rules.any fun rule => rule.all (Match.holds packet) then .accept else chain.policy

/-- A chain that drops by default accepts what some rule matches. -/
theorem Chain.verdict_accept_iff {chain : Chain} (drops : chain.policy = .drop) (packet : Packet) :
    chain.verdict packet = .accept ↔ ∃ rule ∈ chain.rules, ∀ part ∈ rule, part.holds packet = true := by
  unfold verdict
  split
  · rename_i found
    simpa only [List.any_eq_true, List.all_eq_true, true_iff] using found
  · rename_i absent
    rw [drops]
    simpa only [List.any_eq_true, List.all_eq_true, reduceCtorEq, false_iff] using absent

/-- Strings of one length are determined by their number. -/
theorem beNat_injective {first second : Bytes} (length : first.length = second.length)
    (same : beNat first = beNat second) : first = second := by
  have behind : ∀ (first second : Bytes) (left right : Nat), first.length = second.length →
      first.foldl (fun value octet => 256 * value + octet.toNat) left =
        second.foldl (fun value octet => 256 * value + octet.toNat) right → left = right ∧ first = second := by
    intro first
    induction first with
    | nil =>
      intro second left right length equal
      obtain rfl := List.length_eq_zero_iff.mp length.symm
      exact ⟨equal, rfl⟩
    | cons octet first ih =>
      intro second left right length equal
      cases second with
      | nil => cases length
      | cons octet' second =>
        obtain ⟨values, rest⟩ := ih second _ _ (Nat.succ.inj length) equal
        have small := octet.toNat_lt
        have small' := octet'.toNat_lt
        dsimp only at values
        obtain rfl : octet = octet' := UInt8.toNat_inj.mp (by omega)
        exact ⟨by omega, by rw [rest]⟩
  exact (behind first second 0 0 length same).2

/-- A prefix of all bits covers one address. -/
theorem Prefix.covers_full {size : Nat} (addr other : Octets size) :
    (⟨addr, 8 * size⟩ : Prefix size).Covers other ↔ other = addr := by
  unfold Covers
  rw [Nat.sub_self, Nat.pow_zero, Nat.div_one, Nat.div_one]
  have length : other.bytes.length = addr.bytes.length := other.length_eq.trans addr.length_eq.symm
  exact ⟨fun same => Octets.ext (beNat_injective length same), fun same => same ▸ rfl⟩

/-! ### Reading what was written -/

/-- An address without a prefix length. -/
theorem readPrefix_addr {size : Nat} {read : List Char → Option Bytes} {text : List Char}
    (bare : '/' ∉ text) {addr : Octets size} (reads : read text = some addr.bytes) :
    readPrefix read text = some (⟨addr, 8 * size⟩ : Prefix size) := by
  rw [readPrefix, List.splitOn_eq_singleton bare]
  simp only [reads, Option.bind_some, dif_pos addr.length_eq, Option.map_some]

/-- An address with a prefix length. -/
theorem readPrefix_width {size : Nat} {read : List Char → Option Bytes} {text : List Char}
    (bare : '/' ∉ text) {addr : Octets size} (reads : read text = some addr.bytes) {width : Nat}
    (within : width ≤ 8 * size) :
    readPrefix read (text ++ '/' :: Nat.toDigits 10 width) = some (⟨addr, width⟩ : Prefix size) := by
  have digits : '/' ∉ Nat.toDigits 10 width := fun member => by
    cases digit_of_mem_toDigits (by decide) (by decide) member
  have parts : (text ++ '/' :: Nat.toDigits 10 width).splitOn '/' = [text, Nat.toDigits 10 width] := by
    rw [List.splitOn_append_cons_self_of_not_mem bare, List.splitOn_eq_singleton digits]
  rw [readPrefix, parts]
  simp only [reads, Option.bind_some, dif_pos addr.length_eq, readNat_toDigits (by decide : 1 < 10) (by decide),
    if_pos within]

/-- One rule, and the rest. -/
theorem readRules_cons {line : List Token} {rest : List (List Token)} (more : line ≠ [.sign '\x7d']) :
    readRules (line :: rest) =
      (readRule none line).bind fun rule => (readRules rest).map (rule :: ·) := by
  rw [readRules, if_neg more]

/-- A script that drops by default is its rules. -/
theorem readLines_opening (table chain : List Char) {Name : Type} {name : Option Name} {rules : List (List Token)}
    {chainOf : Name → Chain} (read : readRules rules = name.map fun name => (chainOf name).rules)
    (drops : ∀ name, (chainOf name).policy = .drop) :
    readLines (opening table chain "drop" ++ rules) = name.map chainOf := by
  have whole : ∀ name, (⟨.drop, (chainOf name).rules⟩ : Chain) = chainOf name := fun name => by rw [← drops name]
  show (if opening table chain "drop" = opening table chain "drop" then _ else _) = _
  rw [if_pos rfl]
  show (readRules rules).map _ = _
  rw [read, Option.map_map]
  congr 1
  exact funext whole

/-- No character of an address is special. -/
theorem plain_of_isAddressChar {c : Char} (address : isAddressChar c = true) :
    c ∉ ['/', ' ', '\t', '"', '\x7b', '\x7d', ',', ';', '\n'] := by
  intro member
  simp only [List.mem_cons, List.not_mem_nil, or_false] at member
  rcases member with rfl | rfl | rfl | rfl | rfl | rfl | rfl | rfl | rfl <;> cases address

end Library.Nftables
