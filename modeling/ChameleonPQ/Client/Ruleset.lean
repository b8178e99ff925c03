/-
**The rule set of the Linux kill switch (`killswitch.rs`, `build_ruleset`).**

* `buildRuleset` — the text that `nft` is given.
* `readChain_buildRuleset` — `nft` reads it as a chain that drops by default, with one rule for each path
  that is to stay open; an interface name that it refuses makes the whole script fail.
* `Allowed` — the paths that are to stay open: the server, the local subnet, DHCP, link-local IPv6 and
  neighbour discovery. `Beside` — what else the rules let out.
* `verdict_iff` — the rules accept what is allowed and what is beside it, and nothing else;
  `leaks_nothing_iff` is the statement about one packet, `ping_leaks` a packet to the internet.
-/

import Mathlib.Data.List.Forall2
import ChameleonPQ.Client.KillSwitch
import ChameleonPQ.Client.Routes
import ChameleonPQ.Library.Nftables

namespace ChameleonPQ

open Library Library.IpText Library.Nftables

/-- The subnet of the physical interface. -/
structure LanSubnet where
  net : Octets 4
  width : Nat
  width_le : width ≤ 32

namespace KillSwitch

section Text

variable (server : IpAddr) (tun : String) (lan : Option LanSubnet)

/-- The rule for the server's address. -/
def serverLine : List Char :=
  match server with
  | .v4 ip => "\t\tip daddr ".toList ++ ipv4Text ip.bytes ++ " accept".toList
  | .v6 ip => "\t\tip6 daddr ".toList ++ ipv6Text ip.bytes ++ " accept".toList

/-- The rule for the local subnet. -/
def lanLine (subnet : LanSubnet) : List Char :=
  "\t\tip daddr ".toList ++ (ipv4Text subnet.net.bytes ++ '/' :: Nat.toDigits 10 subnet.width) ++
    " accept".toList

/-- The lines of `build_ruleset`; of the server only the address is used. -/
def rulesetLines : List (List Char) :=
  ["add table inet chameleon_ks".toList,
    "delete table inet chameleon_ks".toList,
    "table inet chameleon_ks \x7b".toList,
    "\tchain output \x7b".toList,
    "\t\ttype filter hook output priority 0; policy drop;".toList,
    "\t\toifname \"lo\" accept".toList,
    "\t\toifname ".toList ++ ('"' :: tun.toList ++ ['"']) ++ " accept".toList,
    ("\t\ticmpv6 type \x7b nd-neighbor-solicit, nd-neighbor-advert, " ++
      "nd-router-solicit, nd-router-advert, echo-request \x7d accept").toList,
    "\t\tip6 daddr fe80::/10 accept".toList,
    "\t\tudp sport 68 udp dport 67 accept".toList,
    serverLine server] ++
  lan.toList.map lanLine ++ ["\t\x7d".toList, "\x7d".toList]

/-- `build_ruleset`. -/
def buildRuleset : List Char := ['\n'].intercalate (rulesetLines server tun lan)

end Text

/-! ### What `nft` reads -/

/-- `fe80::/10`. -/
def linkLocal : Prefix 16 := ⟨⟨[0xfe, 0x80, 0, 0, 0, 0, 0, 0, 0, 0, 0, 0, 0, 0, 0, 0], rfl⟩, 10⟩

/-- The match on the server's address. -/
def serverMatch : IpAddr → Match
  | .v4 ip => .ipDaddr ⟨ip, 32⟩
  | .v6 ip => .ip6Daddr ⟨ip, 128⟩

/-- The match on the local subnet. -/
def lanMatch (subnet : LanSubnet) : Match := .ipDaddr ⟨subnet.net, subnet.width⟩

/-- The chain of the rule set. -/
def chainOf (server : IpAddr) (lan : Option LanSubnet) (name : IfName) : Chain :=
  ⟨.drop, [[.oifname (.exact "lo".toList)], [.oifname name], [.icmpv6Type [135, 136, 133, 134, 128]],
    [.ip6Daddr linkLocal], [.udpSport 68, .udpDport 67], [serverMatch server]] ++
      lan.toList.map fun subnet => [lanMatch subnet]⟩

/-- The text of an address, in the family's rule. -/
def daddrTokens (family : String) (text : List Char) : List Token :=
  [.word family.toList, .word "daddr".toList, .word text, .word "accept".toList]

/-- The tokens of the rule for the server. -/
def serverTokens : IpAddr → List Token
  | .v4 ip => daddrTokens "ip" (ipv4Text ip.bytes)
  | .v6 ip => daddrTokens "ip6" (ipv6Text ip.bytes)

/-- The tokens of the rule for the local subnet. -/
def lanTokens (subnet : LanSubnet) : List Token :=
  daddrTokens "ip" (ipv4Text subnet.net.bytes ++ '/' :: Nat.toDigits 10 subnet.width)

/-- The tokens of the rule for neighbour discovery. -/
def discoveryTokens : List Token :=
  [.word "icmpv6".toList, .word "type".toList, .sign '\x7b', .word "nd-neighbor-solicit".toList, .sign ',',
    .word "nd-neighbor-advert".toList, .sign ',', .word "nd-router-solicit".toList, .sign ',',
    .word "nd-router-advert".toList, .sign ',', .word "echo-request".toList, .sign '\x7d',
    .word "accept".toList]

/-- The tokens of the rule for the tunnel. -/
def tunTokens (tun : List Char) : List Token := [.word "oifname".toList, .quoted tun, .word "accept".toList]

/-- The tokens of the rules with the end of the chain and of the table. -/
def ruleTokens (server : IpAddr) (tun : List Char) (lan : Option LanSubnet) : List (List Token) :=
  [tunTokens "lo".toList, tunTokens tun, discoveryTokens, daddrTokens "ip6" "fe80::/10".toList,
    words ["udp", "sport", "68", "udp", "dport", "67", "accept"], serverTokens server] ++
      lan.toList.map lanTokens ++ [[.sign '\x7d'], [.sign '\x7d']]

/-- A rule on a destination is read as four words. -/
theorem lex_daddr {before front : List Char} (blank : before = front ++ [' ']) {family : String}
    (opens : lex (.plain []) front = some [.word family.toList, .word "daddr".toList]) (text : List Char)
    (plain : ∀ c ∈ text, c ∉ [' ', '\t', '"', '\x7b', '\x7d', ',', ';']) (filled : text ≠ []) :
    lex (.plain []) (before ++ text ++ " accept".toList) = some (daddrTokens family text) := by
  have verdict : lex (.plain []) "accept".toList = some [.word "accept".toList] := by decide +kernel
  have value : lex (.plain []) (text ++ ' ' :: "accept".toList) = some [.word text, .word "accept".toList] := by
    rw [lex_append_blank (lex_word plain), verdict, flush, if_neg filled]
    rfl
  have whole : before ++ text ++ " accept".toList = front ++ ' ' :: (text ++ ' ' :: "accept".toList) := by
    rw [blank, List.append_assoc, List.append_assoc]
    rfl
  rw [whole, lex_append_blank opens, value]
  rfl

theorem lex_tun {tun : List Char} (bare : '"' ∉ tun) :
    lex (.plain []) ("\t\toifname ".toList ++ ('"' :: tun ++ ['"']) ++ " accept".toList) =
      some (tunTokens tun) := by
  have verdict : lex (.plain []) "accept".toList = some [.word "accept".toList] := by decide +kernel
  have field : lex (.plain []) "\t\toifname".toList = some [.word "oifname".toList] := by decide +kernel
  have value : lex (.plain []) (('"' :: tun ++ ['"']) ++ ' ' :: "accept".toList) =
      some [.quoted tun, .word "accept".toList] := by
    rw [lex_append_blank (lex_quoted bare), verdict]
    rfl
  have whole : "\t\toifname ".toList ++ ('"' :: tun ++ ['"']) ++ " accept".toList =
      "\t\toifname".toList ++ ' ' :: (('"' :: tun ++ ['"']) ++ ' ' :: "accept".toList) := by
    rw [List.append_assoc]
    rfl
  rw [whole, lex_append_blank field, value]
  rfl

/-- The text of an address has no special character. -/
theorem plain_of_address {text : List Char} (address : ∀ c ∈ text, isAddressChar c = true) :
    ∀ c ∈ text, c ∉ [' ', '\t', '"', '\x7b', '\x7d', ',', ';'] := by
  intro c member special
  refine plain_of_isAddressChar (address c member) ?_
  simp only [List.mem_cons, List.not_mem_nil, or_false] at special ⊢
  tauto

/-- **Every line of the rule set is read.** -/
theorem lex_rulesetLines (server : IpAddr) {tun : String} (bare : '"' ∉ tun.toList) (lan : Option LanSubnet) :
    List.Forall₂ (fun line tokens => lex (.plain []) line = some tokens) (rulesetLines server tun lan)
      (opening "chameleon_ks".toList "output".toList "drop" ++ ruleTokens server tun.toList lan) := by
  have ip : lex (.plain []) "\t\tip daddr".toList = some [.word "ip".toList, .word "daddr".toList] := by
    decide +kernel
  have ip6 : lex (.plain []) "\t\tip6 daddr".toList = some [.word "ip6".toList, .word "daddr".toList] := by
    decide +kernel
  have serverRead : lex (.plain []) (serverLine server) = some (serverTokens server) := by
    cases server with
    | v4 addr =>
      exact lex_daddr rfl ip _ (plain_of_address fun c => isAddressChar_ipv4Text)
        (ipv4Text_ne_nil addr.length_eq)
    | v6 addr =>
      exact lex_daddr rfl ip6 _ (plain_of_address fun c => isAddressChar_ipv6Text)
        (ipv6Text_ne_nil addr.length_eq)
  have lanRead : List.Forall₂ (fun line tokens => lex (.plain []) line = some tokens)
      (lan.toList.map lanLine) (lan.toList.map lanTokens) := by
    rw [List.forall₂_map_left_iff, List.forall₂_map_right_iff, List.forall₂_same]
    intro subnet _
    refine lex_daddr rfl ip (ipv4Text subnet.net.bytes ++ '/' :: Nat.toDigits 10 subnet.width)
      (fun c member => ?_) (by simp)
    rcases List.mem_append.mp member with addr | width
    · exact plain_of_address (fun c => isAddressChar_ipv4Text) c addr
    · rcases List.mem_cons.mp width with rfl | digits
      · decide
      · exact plain_of_address (fun c => isAddressChar_of_digit (by decide) (by decide)) c digits
  refine .cons (by decide +kernel) (.cons (by decide +kernel) (.cons (by decide +kernel)
    (.cons (by decide +kernel) (.cons (by decide +kernel) (.cons (by decide +kernel) (.cons (lex_tun bare)
      (.cons (by decide +kernel) (.cons (by decide +kernel) (.cons (by decide +kernel)
        (.cons serverRead ?_))))))))))
  exact List.rel_append lanRead (.cons (by decide +kernel) (.cons (by decide +kernel) .nil))

/-- No line of the rule set has a line break in it. -/
theorem newline_not_mem (server : IpAddr) {tun : String} (bare : '\n' ∉ tun.toList) (lan : Option LanSubnet) :
    ∀ line ∈ rulesetLines server tun lan, '\n' ∉ line := by
  have address : ∀ {text : List Char}, (∀ c ∈ text, isAddressChar c = true) → '\n' ∉ text :=
    fun all member => absurd (all _ member) (by decide)
  have ipv4 : ∀ ip : Octets 4, '\n' ∉ ipv4Text ip.bytes := fun ip => address fun c => isAddressChar_ipv4Text
  have around : ∀ {before text after : List Char}, '\n' ∉ before → '\n' ∉ text → '\n' ∉ after →
      '\n' ∉ before ++ text ++ after := fun first second third =>
    List.not_mem_append (List.not_mem_append first second) third
  have tunLine : '\n' ∉ "\t\toifname ".toList ++ ('"' :: tun.toList ++ ['"']) ++ " accept".toList :=
    around (by decide +kernel) (@around ['"'] tun.toList ['"'] (by decide) bare (by decide)) (by decide +kernel)
  have toServer : '\n' ∉ serverLine server := by
    cases server with
    | v4 ip => exact around (by decide +kernel) (ipv4 ip) (by decide +kernel)
    | v6 ip =>
      exact around (by decide +kernel) (address fun c => isAddressChar_ipv6Text) (by decide +kernel)
  have subnets : ∀ line ∈ lan.toList.map lanLine, '\n' ∉ line := by
    intro line member
    obtain ⟨subnet, -, rfl⟩ := List.mem_map.mp member
    have digits : '\n' ∉ Nat.toDigits 10 subnet.width :=
      address fun c => isAddressChar_of_digit (by decide) (by decide)
    have text : '\n' ∉ ipv4Text subnet.net.bytes ++ '/' :: Nat.toDigits 10 subnet.width :=
      List.not_mem_append (ipv4 subnet.net) (List.not_mem_cons_of_ne_of_not_mem (by decide) digits)
    exact around (by decide +kernel) text (by decide +kernel)
  rw [rulesetLines, List.forall_mem_append, List.forall_mem_append]
  refine ⟨⟨?_, subnets⟩, by decide +kernel⟩
  simp only [List.forall_mem_cons]
  exact ⟨by decide +kernel, by decide +kernel, by decide +kernel, by decide +kernel, by decide +kernel,
    by decide +kernel, tunLine, by decide +kernel, by decide +kernel, by decide +kernel, toServer, fun _ => nofun⟩

/-- A rule on a destination is a match on a prefix. -/
theorem readRule_ip {text : List Char} {net : Prefix 4} (read : readPrefix readIpv4 text = some net) :
    readRule none (daddrTokens "ip" text) = some [.ipDaddr net] := by
  have verdict : readRule none [.word "accept".toList] = some [] := by decide
  rw [daddrTokens, readRule, if_pos ⟨rfl, rfl⟩, read, verdict]
  rfl

theorem readRule_ip6 {text : List Char} {net : Prefix 16} (read : readPrefix readIpv6 text = some net) :
    readRule none (daddrTokens "ip6" text) = some [.ip6Daddr net] := by
  have verdict : readRule none [.word "accept".toList] = some [] := by decide
  rw [daddrTokens, readRule, if_neg (by decide), if_pos ⟨rfl, rfl⟩, read, verdict]
  rfl

theorem readRule_server (server : IpAddr) : readRule none (serverTokens server) = some [serverMatch server] := by
  have bare : ∀ {text : List Char}, (∀ c ∈ text, isAddressChar c = true) → '/' ∉ text :=
    fun all member => absurd (all _ member) (by decide)
  cases server with
  | v4 ip =>
    exact readRule_ip (readPrefix_addr (bare fun c => isAddressChar_ipv4Text) (readIpv4_ipv4Text ip.length_eq))
  | v6 ip =>
    exact readRule_ip6 (readPrefix_addr (bare fun c => isAddressChar_ipv6Text) (readIpv6_ipv6Text ip.length_eq))

theorem readRule_lan (subnet : LanSubnet) : readRule none (lanTokens subnet) = some [lanMatch subnet] := by
  have bare : '/' ∉ ipv4Text subnet.net.bytes := fun member =>
    absurd (isAddressChar_ipv4Text member) (by decide)
  exact readRule_ip (readPrefix_width bare (readIpv4_ipv4Text subnet.net.length_eq) subnet.width_le)

theorem readRule_tun (tun : List Char) :
    readRule none (tunTokens tun) = (readName tun).map fun name => [.oifname name] := by
  have verdict : readRule none [.word "accept".toList] = some [] := by decide
  rw [tunTokens, readRule, if_pos rfl, verdict]
  cases readName tun <;> rfl

/-- The rules behind the server's are those for the subnet, and the end. -/
theorem readRules_lan (lan : Option LanSubnet) :
    readRules (lan.toList.map lanTokens ++ [[.sign '\x7d'], [.sign '\x7d']]) =
      some (lan.toList.map fun subnet => [lanMatch subnet]) := by
  cases lan with
  | none => decide
  | some subnet =>
    have rest : readRules [[.sign '\x7d'], [.sign '\x7d']] = some [] := by decide
    show readRules (lanTokens subnet :: [[.sign '\x7d'], [.sign '\x7d']]) = _
    rw [readRules_cons (fun same => by cases same), readRule_lan, rest]
    rfl

/-- **What `nft` reads**: nothing when it refuses the interface name, else the chain. -/
theorem readChain_buildRuleset (server : IpAddr) {tun : String} (safe : unsafeName tun = false)
    (lan : Option LanSubnet) :
    readChain (buildRuleset server tun lan) = (readName tun.toList).map (chainOf server lan) := by
  have absent : ∀ c ∈ ['"', '\'', '\n', '\r', '\\'], c ∉ tun.toList := by
    intro c special member
    rw [unsafeName, List.any_eq_false] at safe
    exact safe c member (decide_eq_true special)
  have lines : (buildRuleset server tun lan).splitOn '\n' = rulesetLines server tun lan :=
    List.splitOn_intercalate '\n' (newline_not_mem server (absent _ (by decide)) lan) (fun none => by cases none)
  have rules : readRules (ruleTokens server tun.toList lan) =
      (readName tun.toList).map fun name => (chainOf server lan name).rules := by
    have loopback : readRule none (tunTokens "lo".toList) = some [.oifname (.exact "lo".toList)] := by decide
    have discovery : readRule none discoveryTokens = some [.icmpv6Type [135, 136, 133, 134, 128]] := by
      decide +kernel
    have local_ : readRule none (daddrTokens "ip6" "fe80::/10".toList) = some [.ip6Daddr linkLocal] := by
      decide +kernel
    have dhcp : readRule none (words ["udp", "sport", "68", "udp", "dport", "67", "accept"]) =
        some [.udpSport 68, .udpDport 67] := by decide +kernel
    have server_ : serverTokens server ≠ [.sign '\x7d'] := fun same => by cases server <;> cases same
    rw [ruleTokens, List.append_assoc]
    simp only [List.cons_append, List.nil_append]
    rw [readRules_cons (fun same => by cases same), readRules_cons (fun same => by cases same),
      readRules_cons (fun same => by cases same), readRules_cons (fun same => by cases same),
      readRules_cons (by decide), readRules_cons server_, readRules_lan, loopback, readRule_tun, discovery,
      local_, dhcp, readRule_server]
    cases readName tun.toList <;> rfl
  rw [readChain, lines, mapM_of_forall₂ (lex_rulesetLines server (absent _ (by decide)) lan)]
  exact (Option.bind_some ..).trans (readLines_opening _ _ rules fun _ => rfl)

/-! ### What leaves -/

section Packets

variable (server : IpAddr) (lan : Option LanSubnet) (packet : Packet)

/-- The destination is the server. -/
def ToServer : Prop :=
  match server, packet.dst with
  | .v4 ip, .v4 dst => dst = ip
  | .v6 ip, .v6 dst => dst = ip
  | _, _ => False

/-- The destination lies in the local subnet. -/
def InSubnet : Prop := ∃ subnet dst, lan = some subnet ∧ packet.dst = .v4 dst ∧
  (⟨subnet.net, subnet.width⟩ : Prefix 4).Covers dst

/-- A DHCP client asks for a lease. -/
def DhcpRequest : Prop := (∃ dst, packet.dst = .v4 dst) ∧ packet.transport = .udp 68 67

/-- IPv6 to a link-local address. -/
def ToLinkLocal : Prop := ∃ dst, packet.dst = .v6 dst ∧ linkLocal.Covers dst

/-- IPv6 neighbour or router discovery: solicitations and advertisements. -/
def Discovery : Prop :=
  (∃ dst, packet.dst = .v6 dst) ∧ ∃ type ∈ ([133, 134, 135, 136] : List UInt8), packet.transport = .icmpv6 type

/-- **What is to stay open** while everything else is blocked. -/
def Allowed : Prop :=
  ToServer server packet ∨ InSubnet lan packet ∨ DhcpRequest packet ∨ ToLinkLocal packet ∨ Discovery packet

/-- What else the rules let out: IPv6 pings, IPv6 between the two DHCP ports, and interfaces whose name begins
with what stands before an asterisk at the end of the tunnel's. -/
def Beside (tun : String) : Prop :=
  ((∃ dst, packet.dst = .v6 dst) ∧ (packet.transport = .icmpv6 128 ∨ packet.transport = .udp 68 67)) ∨
    ∃ front, tun.toList = front ++ ['*'] ∧ front <+: packet.oif

end Packets

variable {server : IpAddr} {tun : String} {lan : Option LanSubnet} {packet : Packet}

theorem serverMatch_holds : (serverMatch server).holds packet = true ↔ ToServer server packet := by
  obtain ⟨oif, dst, transport⟩ := packet
  cases server with
  | v4 ip =>
    cases dst with
    | v4 dst => exact decide_eq_true_iff.trans (Prefix.covers_full ip dst)
    | v6 dst => exact Bool.false_eq_true.to_iff
  | v6 ip =>
    cases dst with
    | v4 dst => exact Bool.false_eq_true.to_iff
    | v6 dst => exact decide_eq_true_iff.trans (Prefix.covers_full ip dst)

theorem lanMatch_holds :
    (∃ subnet, lan = some subnet ∧ (lanMatch subnet).holds packet = true) ↔ InSubnet lan packet := by
  obtain ⟨oif, dst, transport⟩ := packet
  constructor
  · rintro ⟨subnet, here, holds⟩
    cases dst with
    | v4 dst => exact ⟨subnet, dst, here, rfl, of_decide_eq_true holds⟩
    | v6 dst => cases holds
  · rintro ⟨subnet, dst, here, rfl, covers⟩
    exact ⟨subnet, here, decide_eq_true covers⟩

theorem linkLocal_holds : (Match.ip6Daddr linkLocal).holds packet = true ↔ ToLinkLocal packet := by
  obtain ⟨oif, dst, transport⟩ := packet
  constructor
  · intro holds
    cases dst with
    | v4 dst => cases holds
    | v6 dst => exact ⟨dst, rfl, of_decide_eq_true holds⟩
  · rintro ⟨dst, rfl, covers⟩
    exact decide_eq_true covers

/-- The rule for neighbour discovery lets pings out as well. -/
theorem icmpv6_holds : (Match.icmpv6Type [135, 136, 133, 134, 128]).holds packet = true ↔
    Discovery packet ∨ ((∃ dst, packet.dst = .v6 dst) ∧ packet.transport = .icmpv6 128) := by
  obtain ⟨oif, dst, transport⟩ := packet
  cases dst with
  | v4 dst => simp [Match.holds, Discovery]
  | v6 dst =>
    cases transport with
    | udp sport dport => simp [Match.holds, Discovery]
    | other protocol => simp [Match.holds, Discovery]
    | icmpv6 type =>
      simp only [Match.holds, Discovery, List.contains_iff_mem, List.mem_cons, List.not_mem_nil, or_false,
        Dest.v6.injEq, exists_eq', true_and, Transport.icmpv6.injEq, exists_eq_or_imp, exists_eq_left,
        or_assoc]
      tauto

/-- The rule for DHCP lets both families out. -/
theorem dhcp_holds : ((Match.udpSport 68).holds packet = true ∧ (Match.udpDport 67).holds packet = true) ↔
    DhcpRequest packet ∨ ((∃ dst, packet.dst = .v6 dst) ∧ packet.transport = .udp 68 67) := by
  obtain ⟨oif, dst, transport⟩ := packet
  have ports : ∀ sport dport : UInt16, (sport.toNat = 68 ∧ dport.toNat = 67) ↔ (sport = 68 ∧ dport = 67) :=
    fun sport dport => and_congr (UInt16.toNat_inj (b := 68)) (UInt16.toNat_inj (b := 67))
  cases transport with
  | udp sport dport =>
    cases dst <;> simp [Match.holds, DhcpRequest, ports]
  | icmpv6 type => simp [Match.holds, DhcpRequest]
  | other protocol => simp [Match.holds, DhcpRequest]

/-- A name without a backslash is read as itself, or as the prefix before its asterisk. -/
theorem readName_cases {text : List Char} (bare : '\\' ∉ text) {name : IfName} (read : readName text = some name) :
    name = .exact text ∨ ∃ front, text = front ++ ['*'] ∧ name = .starts front := by
  unfold readName at read
  split at read
  · cases read
  · cases read
  · rename_i front reversed
    have member : '\\' ∈ text := List.mem_reverse.mp (by rw [reversed]; simp)
    exact absurd member bare
  · rename_i front _ _ reversed
    cases read
    refine Or.inr ⟨front.reverse, ?_, rfl⟩
    rw [← List.reverse_reverse text, reversed, List.reverse_cons]
  · cases read
    exact Or.inl rfl

/-- A name that ends in an asterisk is no exact name. -/
theorem readName_asterisk {text front : List Char} (bare : '\\' ∉ text) (ends : text = front ++ ['*']) :
    readName text = if front = [] then none else some (.starts front) := by
  have reversed : text.reverse = '*' :: front.reverse := by
    rw [ends, List.reverse_append]
    rfl
  have fore : '\\' ∉ front.reverse := fun member =>
    bare (ends ▸ List.mem_append_left _ (List.mem_reverse.mp member))
  rw [readName, reversed]
  split
  · rename_i same
    cases same
  · rename_i same
    rw [if_pos (List.reverse_eq_nil_iff.mp (List.cons.inj same).2)]
  · rename_i other same
    exact absurd (by rw [(List.cons.inj same).2]; exact List.mem_cons_self) fore
  · rename_i other alone _ same
    rw [← (List.cons.inj same).2, List.reverse_reverse, if_neg]
    rintro rfl
    exact alone (List.cons.inj same).2.symm
  · rename_i _ _ other
    exact absurd rfl (other front.reverse)

/-- **What the chain accepts**, rule by rule. -/
theorem chainOf_accepts_iff (name : IfName) : (chainOf server lan name).verdict packet = .accept ↔
    packet.oif = "lo".toList ∨ name.names packet.oif = true ∨
      (Discovery packet ∨ ((∃ dst, packet.dst = .v6 dst) ∧ packet.transport = .icmpv6 128)) ∨
      ToLinkLocal packet ∨
      (DhcpRequest packet ∨ ((∃ dst, packet.dst = .v6 dst) ∧ packet.transport = .udp 68 67)) ∨
      ToServer server packet ∨ InSubnet lan packet := by
  have loopback : (Match.oifname (.exact "lo".toList)).holds packet = true ↔ packet.oif = "lo".toList :=
    decide_eq_true_iff
  have subnets : (∃ rule ∈ lan.toList.map fun subnet => [lanMatch subnet], ∀ part ∈ rule,
      part.holds packet = true) ↔ InSubnet lan packet := by
    rw [← lanMatch_holds]
    constructor
    · rintro ⟨rule, member, holds⟩
      obtain ⟨subnet, here, rfl⟩ := List.mem_map.mp member
      exact ⟨subnet, Option.mem_toList.mp here, holds _ List.mem_cons_self⟩
    · rintro ⟨subnet, here, holds⟩
      exact ⟨_, List.mem_map.mpr ⟨subnet, Option.mem_toList.mpr here, rfl⟩, List.forall_mem_singleton.mpr holds⟩
  have split : ∀ left right : List (List Match),
      (∃ rule ∈ left ++ right, ∀ part ∈ rule, part.holds packet = true) ↔
        (∃ rule ∈ left, ∀ part ∈ rule, part.holds packet = true) ∨
          ∃ rule ∈ right, ∀ part ∈ rule, part.holds packet = true := by
    intro left right
    simp only [List.mem_append, or_and_right, exists_or]
  rw [Chain.verdict_accept_iff rfl, chainOf, split, subnets, ← icmpv6_holds, ← linkLocal_holds, ← dhcp_holds,
    ← serverMatch_holds, ← loopback]
  simp only [List.mem_cons, List.not_mem_nil, or_false, exists_eq_or_imp, exists_eq_left, forall_eq,
    forall_eq_or_imp, or_assoc]
  rfl

/-- **The rules accept what is allowed and what is beside it**, on every other interface than the loopback
and the tunnel. -/
theorem verdict_iff (safe : unsafeName tun = false) {chain : Chain}
    (read : readChain (buildRuleset server tun lan) = some chain) (noLoopback : packet.oif ≠ "lo".toList)
    (noTunnel : packet.oif ≠ tun.toList) :
    chain.verdict packet = .accept ↔ Allowed server lan packet ∨ Beside packet tun := by
  have bare : '\\' ∉ tun.toList := fun member => by
    rw [unsafeName, List.any_eq_false] at safe
    exact safe _ member (by decide)
  rw [readChain_buildRuleset server safe] at read
  obtain ⟨name, named, rfl⟩ := Option.map_eq_some_iff.mp read
  have wildcard : name.names packet.oif = true ↔
      ∃ front, tun.toList = front ++ ['*'] ∧ front <+: packet.oif := by
    rcases readName_cases bare named with rfl | ⟨front, text, rfl⟩
    · -- a name without an asterisk names the tunnel only
      refine iff_of_false (fun names => noTunnel (of_decide_eq_true names)) ?_
      rintro ⟨front, text, -⟩
      rw [readName_asterisk bare text] at named
      split at named <;> cases named
    · rw [IfName.names, List.isPrefixOf_iff_prefix]
      constructor
      · exact fun begins => ⟨front, text, begins⟩
      · rintro ⟨other, same, begins⟩
        rwa [List.append_cancel_right (text.symm.trans same)]
  rw [chainOf_accepts_iff, wildcard, or_iff_right noLoopback]
  simp only [Allowed, Beside, and_or_left, or_assoc, or_left_comm, or_comm]

/-- **The kill switch leaks a packet exactly when it lies beside the allowed paths**: on every interface but
the loopback and the tunnel, for every server, every tunnel name that is embedded in the rules and every
subnet, an accepted packet is an allowed one unless it is an IPv6 ping, IPv6 between the DHCP ports, or leaves
through an interface whose name the tunnel's matches as a pattern. -/
theorem leaks_nothing_iff (safe : unsafeName tun = false) {chain : Chain}
    (read : readChain (buildRuleset server tun lan) = some chain) (noLoopback : packet.oif ≠ "lo".toList)
    (noTunnel : packet.oif ≠ tun.toList) :
    (chain.verdict packet = .accept → Allowed server lan packet) ↔
      (Beside packet tun → Allowed server lan packet) := by
  rw [verdict_iff safe read noLoopback noTunnel]
  constructor
  · exact fun contained beside => contained (Or.inr beside)
  · rintro contained (allowed | beside)
    · exact allowed
    · exact contained beside

/-- The server 203.0.113.7. -/
def sampleAddress : IpAddr := .v4 ⟨[203, 0, 113, 7], rfl⟩

/-- The chain for that server and the tunnel `chameleon0`, without a subnet. -/
def sampleChain : Chain := chainOf sampleAddress none (.exact "chameleon0".toList)

theorem sampleChain_read : readChain (buildRuleset sampleAddress "chameleon0" none) = some sampleChain :=
  (readChain_buildRuleset sampleAddress (by decide +kernel) none).trans (by decide +kernel)

/-- A packet on the physical interface to an address of the internet. -/
def samplePacket (dst : Dest) (transport : Transport) : Packet := ⟨"eth0".toList, dst, transport⟩

/-- 198.51.100.9. -/
def sampleV4 : Dest := .v4 ⟨[198, 51, 100, 9], rfl⟩

/-- 2001:db8::1. -/
def sampleV6 : Dest := .v6 ⟨[0x20, 0x01, 0x0d, 0xb8, 0, 0, 0, 0, 0, 0, 0, 0, 0, 0, 0, 1], rfl⟩

/-- Neither address is allowed for other traffic than the lease and the discovery. -/
theorem samplePacket_not_allowed {dst : Dest} (internet : dst = sampleV4 ∨ dst = sampleV6)
    {transport : Transport} (noDhcp : transport ≠ .udp 68 67)
    (noDiscovery : ∀ type ∈ ([133, 134, 135, 136] : List UInt8), transport ≠ .icmpv6 type) :
    ¬ Allowed sampleAddress none (samplePacket dst transport) := by
  rintro (toServer | ⟨subnet, -, none_, -⟩ | ⟨-, dhcp⟩ | ⟨addr, same, covers⟩ | ⟨-, type, among, discovery⟩)
  · rcases internet with rfl | rfl
    · exact absurd (show (⟨[198, 51, 100, 9], rfl⟩ : Octets 4) = ⟨[203, 0, 113, 7], rfl⟩ from toServer) (by decide)
    · exact toServer
  · cases none_
  · exact noDhcp dhcp
  · rcases internet with rfl | rfl
    · cases same
    · cases same
      exact absurd covers (by decide)
  · exact noDiscovery type among discovery

theorem leaks_nothing_iff_sample : sampleChain.verdict (samplePacket sampleV4 (.other 6)) = .drop := by
  have notAllowed := @samplePacket_not_allowed sampleV4 (Or.inl rfl) (.other 6) nofun fun _ _ => nofun
  cases verdict : sampleChain.verdict (samplePacket sampleV4 (.other 6)) with
  | drop => rfl
  | accept =>
    refine absurd ((leaks_nothing_iff (by decide +kernel) sampleChain_read (by decide) (by decide)).mpr ?_ verdict)
      notAllowed
    rintro (⟨⟨addr, same⟩, -⟩ | ⟨front, ends, -⟩)
    · cases same
    · exact absurd (congrArg List.getLast? ends) (by rw [List.getLast?_concat]; decide)

/-- **An IPv6 ping to the internet leaves past the tunnel.** -/
theorem ping_leaks : ¬ ∀ (server : IpAddr) (tun : String) (lan : Option LanSubnet) (packet : Packet)
    (chain : Chain), unsafeName tun = false → readChain (buildRuleset server tun lan) = some chain →
    packet.oif ≠ "lo".toList → packet.oif ≠ tun.toList → chain.verdict packet = .accept →
    Allowed server lan packet := by
  intro claim
  have accepted : sampleChain.verdict (samplePacket sampleV6 (.icmpv6 128)) = .accept := by decide +kernel
  have noDiscovery : ∀ type ∈ ([133, 134, 135, 136] : List UInt8), Transport.icmpv6 128 ≠ .icmpv6 type :=
    fun type among same => absurd (Transport.icmpv6.inj same ▸ among) (by decide)
  exact samplePacket_not_allowed (Or.inr rfl) (by decide) noDiscovery
    (claim _ _ _ _ _ (by decide +kernel) sampleChain_read (by decide) (by decide) accepted)

end KillSwitch

end ChameleonPQ
