/-
**A reader of plain configuration documents.**

* `readConfig` — the fields of the configuration, read from a plain TOML document with the loader's defaults.
* `parseSocketAddr_text` — an address is read back from its text.
* `readConfig_readsPair` — every generated pair is read back, whatever its keys are.
-/

import ChameleonPQ.Library.Toml
import ChameleonPQ.Server.PairText

namespace ChameleonPQ

open Library Library.IpText Library.Toml

/-! ### The reader -/

/-- The port of a socket address. -/
def parsePort (text : List Char) : Option UInt16 :=
  (readNat 10 text).bind fun n => if n < 65536 then some (UInt16.ofNat n) else none

/-- `str::parse::<SocketAddr>`, without a scope: an IPv6 address stands in brackets. -/
def parseSocketAddr (text : List Char) : Option SocketAddr :=
  if text.head? = some '[' then
    match text.tail.splitOn ']' with
    | [addr, ':' :: port] => (parseIpv6 addr).bind fun ip => (parsePort port).map fun port => ⟨ip.bytes, port⟩
    | _ => none
  else
    match text.splitOn ':' with
    | [addr, port] => (parseIpv4 addr).bind fun ip => (parsePort port).map fun port => ⟨ip.bytes, port⟩
    | _ => none

/-! #### Fields of a table -/

section Fields

variable (get : String → Option Value)

/-- A string, where it is given. -/
def stringAt (key : String) : Except String (Option String) :=
  match get key with
  | none => .ok none
  | some (.string text) => .ok (some (String.ofList text))
  | some _ => .error (key ++ ": expected a string")

/-- A string that must be given. -/
def requiredAt (key : String) : Except String String :=
  match get key with
  | none => .error ("missing field " ++ key)
  | some (.string text) => .ok (String.ofList text)
  | some _ => .error (key ++ ": expected a string")

/-- A truth value, or the default. -/
def boolAt (key : String) (default : Bool) : Except String Bool :=
  match get key with
  | none => .ok default
  | some (.boolean b) => .ok b
  | some _ => .error (key ++ ": expected a boolean")

/-- A number below a bound, or the default. -/
def integerAt {Number : Type} (key : String) (bound : Nat) (ofNat : Nat → Number) (default : Number) :
    Except String Number :=
  match get key with
  | none => .ok default
  | some (.integer n) => if n < bound then .ok (ofNat n) else .error (key ++ ": out of range")
  | some _ => .error (key ++ ": expected an integer")

/-- A keyword, or the default. -/
def keywordAt {Keyword : Type} (key : String) (keywords : List (String × Keyword)) (default : Keyword) :
    Except String Keyword :=
  match get key with
  | none => .ok default
  | some (.string text) =>
    (keywords.lookup (String.ofList text)).elim (.error (key ++ ": unknown variant")) .ok
  | some _ => .error (key ++ ": expected a string")

/-- An address, where it is given. -/
def addrAt (key : String) : Except String (Option SocketAddr) :=
  match get key with
  | none => .ok none
  | some (.string text) =>
    (parseSocketAddr text).elim (.error (key ++ ": invalid socket address")) fun addr => .ok (some addr)
  | some _ => .error (key ++ ": expected a string")

def readIdentity : Except String IdentityConfig := do
  let ed25519SeedHex ← requiredAt get "ed25519_seed_hex"
  let peerEd25519PubHex ← requiredAt get "peer_ed25519_pub_hex"
  let mldsaSecretHex ← stringAt get "mldsa_secret_hex"
  let peerMldsaPubHex ← stringAt get "peer_mldsa_pub_hex"
  return { ed25519SeedHex, peerEd25519PubHex, mldsaSecretHex, peerMldsaPubHex }

def readTun : Except String TunConfig := do
  let name ← stringAt get "name"
  let mtu ← integerAt get "mtu" (2 ^ 16) UInt16.ofNat 1200
  let routeAll ← boolAt get "route_all" false
  let peerAddress ← stringAt get "peer_address"
  let killSwitch ← boolAt get "kill_switch" false
  return { name := name.getD "chameleon0", mtu, routeAll, peerAddress, killSwitch, dns := [] }

def readEngine : Except String EngineConfig := do
  let batchLingerUs ← integerAt get "batch_linger_us" (2 ^ 63) UInt64.ofNat 200
  return { batchLingerUs }

def readObfuscation : Except String ObfuscationConfig := do
  let enabled ← boolAt get "enabled" true
  let padding ← keywordAt get "padding" [("off", .off), ("bucketed", .bucketed), ("full", .full)]
    PaddingPolicy.bucketed
  let handshake ← boolAt get "handshake" true
  let pskHex ← stringAt get "psk_hex"
  return { enabled, padding, handshake, pskHex }

/-- The keywords of the profiles. -/
def profileKeywords : List (String × TrafficProfile) :=
  [TrafficProfile.stealth, .balanced, .throughput, .off, .custom].map fun profile => (profile.keyword, profile)

def readTraffic : Except String TrafficConfig := do
  let profile ← keywordAt get "profile" profileKeywords .off
  let enabled ← boolAt get "enabled" true
  let mode ← keywordAt get "mode" [("cbr", .cbr), ("adaptive", .adaptive)] TrafficMode.adaptive
  let ratePps ← integerAt get "rate_pps" (2 ^ 32) UInt32.ofNat 256
  let burst ← integerAt get "burst" (2 ^ 16) UInt16.ofNat 2
  let cooldownMs ← integerAt get "cooldown_ms" (2 ^ 63) UInt64.ofNat 500
  let coverBudgetPackets ← integerAt get "cover_budget_packets" (2 ^ 32) UInt32.ofNat 64
  return { profile, enabled, mode, ratePps, burst, cooldownMs, coverBudgetPackets, coverRatio := 0.25 }

end Fields

/-- The derived deserialiser, for what a plain document can say. -/
def readDocument (document : Document) : Except String ConfigFile := do
  let identity ← readIdentity (document.get "identity")
  let bindAddr ← addrAt (document.get "network") "bind_addr"
  let serverAddr ← addrAt (document.get "network") "server_addr"
  let tun ← readTun (document.get "tun")
  let address ← stringAt (document.get "tun") "address"
  let netmask ← stringAt (document.get "tun") "netmask"
  let engine ← readEngine (document.get "engine")
  let obfuscation ← readObfuscation (document.get "obfuscation")
  let traffic ← readTraffic (document.get "traffic")
  return {
    identity, tun, engine, obfuscation, traffic, serverAddr
    bindAddr := bindAddr.getD ⟨[0, 0, 0, 0], 51820⟩
    address := address.getD "10.99.0.1"
    netmask := netmask.getD "255.255.255.0" }

/-- A reader of plain documents. -/
def readConfig : TomlReader := fun text =>
  match read text with
  | none => .error "not a plain document"
  | some document =>
    match ["identity", "network", "tun"].find? fun table => decide (table.toList ∉ document.tables) with
    | some table => .error ("missing field " ++ table)
    | none => readDocument document

/-! ### The generated documents are read back -/

theorem parseSocketAddr_wellFormed {text : List Char} {addr : SocketAddr} (parsed : parseSocketAddr text = some addr) :
    addr.WellFormed := by
  unfold parseSocketAddr at parsed
  split at parsed
  · split at parsed
    · obtain ⟨ip, -, parsed⟩ := Option.bind_eq_some_iff.mp parsed
      obtain ⟨port, -, rfl⟩ := Option.map_eq_some_iff.mp parsed
      exact .inr ip.length_eq
    · cases parsed
  · split at parsed
    · obtain ⟨ip, -, parsed⟩ := Option.bind_eq_some_iff.mp parsed
      obtain ⟨port, -, rfl⟩ := Option.map_eq_some_iff.mp parsed
      exact .inl ip.length_eq
    · cases parsed

theorem parsePort_toDigits (port : UInt16) : parsePort (Nat.toDigits 10 port.toNat) = some port := by
  rw [parsePort, readNat_toDigits (by decide) (by decide)]
  exact (if_pos port.toNat_lt).trans (congrArg some UInt16.ofNat_toNat)

/-- **An address is read back from its text.** -/
theorem parseSocketAddr_text {addr : SocketAddr} (wellFormed : addr.WellFormed) :
    parseSocketAddr addr.text = some addr := by
  obtain ⟨ip, port⟩ := addr
  have digits : ∀ c, c.isDigit = false → c ∉ Nat.toDigits 10 port.toNat := fun c other member => by
    cases other.symm.trans (Nat.isDigit_of_mem_toDigits (by decide) (by decide) member)
  rcases wellFormed with four | sixteen
  · have v6 : ¬ ip.length = 16 := fun sixteen => by cases four.symm.trans sixteen
    have parts : (ipv4Text ip ++ ':' :: Nat.toDigits 10 port.toNat).splitOn ':' =
        [ipv4Text ip, Nat.toDigits 10 port.toNat] := by
      have joined : ipv4Text ip ++ ':' :: Nat.toDigits 10 port.toNat =
          [':'].intercalate [ipv4Text ip, Nat.toDigits 10 port.toNat] := by simp
      rw [joined]
      refine List.splitOn_intercalate ':' (fun part member => ?_) (by simp)
      rcases List.mem_pair.mp member with rfl | rfl
      · exact colon_not_mem_ipv4Text ip
      · exact digits _ (by decide)
    have bracket : '[' ∉ ipv4Text ip ++ ':' :: Nat.toDigits 10 port.toNat :=
      List.not_mem_append (fun member => by cases isAddressChar_ipv4Text member)
        (List.not_mem_cons_of_ne_of_not_mem (by decide) (digits _ (by decide)))
    have unbracketed : (ipv4Text ip ++ ':' :: Nat.toDigits 10 port.toNat).head? ≠ some '[' :=
      fun first => bracket (List.mem_of_head? first)
    have read : parseIpv4 (ipv4Text ip) = some ⟨ip, four⟩ := parseIpv4_ipv4Text ⟨ip, four⟩
    rw [SocketAddr.text, if_neg v6, parseSocketAddr, if_neg unbracketed, parts]
    dsimp only
    rw [read, parsePort_toDigits]
    rfl
  · have parts : (ipv6Text ip ++ ']' :: ':' :: Nat.toDigits 10 port.toNat).splitOn ']' =
        [ipv6Text ip, ':' :: Nat.toDigits 10 port.toNat] := by
      have joined : ipv6Text ip ++ ']' :: ':' :: Nat.toDigits 10 port.toNat =
          [']'].intercalate [ipv6Text ip, ':' :: Nat.toDigits 10 port.toNat] := by simp
      rw [joined]
      refine List.splitOn_intercalate ']' (fun part member => ?_) (by simp)
      rcases List.mem_pair.mp member with rfl | rfl
      · exact fun member => by cases isAddressChar_ipv6Text member
      · exact List.not_mem_cons_of_ne_of_not_mem (by decide) (digits _ (by decide))
    have read : parseIpv6 (ipv6Text ip) = some ⟨ip, sixteen⟩ := parseIpv6_ipv6Text ⟨ip, sixteen⟩
    rw [SocketAddr.text, if_pos sixteen, parseSocketAddr, List.cons_append, List.head?_cons, if_pos rfl, List.tail_cons,
      parts]
    show (parseIpv6 (ipv6Text ip)).bind _ = _
    rw [read, Option.bind_some, parsePort_toDigits]
    rfl

/-- A character of an address needs no escape. -/
theorem isPlain_of_isAddressChar {c : Char} (address : isAddressChar c = true) : isPlain c = true := by
  have code : 32 ≤ c.toNat ∧ c.toNat ≠ 34 ∧ c.toNat ≠ 92 ∧ c.toNat ≠ 127 := by
    simp only [isAddressChar, Bool.or_eq_true, beq_iff_eq] at address
    rcases address with (digit | rfl) | rfl
    · unfold digitValue at digit
      split_ifs at digit
      all_goals first | omega | cases digit
    · decide
    · decide
  obtain ⟨visible, quote, backslash, delete⟩ := code
  simp only [isPlain, Bool.and_eq_true, Bool.or_eq_true, bne_iff_ne, decide_eq_true_eq]
  refine ⟨⟨⟨?_, ?_⟩, Or.inr visible⟩, delete⟩
  · rintro rfl
    exact quote rfl
  · rintro rfl
    exact backslash rfl

theorem isPlain_addr (addr : SocketAddr) : ∀ c ∈ addr.text, isPlain c = true := by
  have colon : ∀ c ∈ ':' :: Nat.toDigits 10 addr.port.toNat, isPlain c = true := by
    intro c member
    rcases List.mem_cons.mp member with rfl | digit
    · decide
    · exact isPlain_of_isAddressChar (isAddressChar_of_digit (by decide) (by decide) digit)
  intro c member
  unfold SocketAddr.text at member
  split at member
  · rcases List.mem_cons.mp member with rfl | member
    · decide
    · rcases List.mem_append.mp member with ip | member
      · exact isPlain_of_isAddressChar (isAddressChar_ipv6Text ip)
      · rcases List.mem_cons.mp member with rfl | port
        · decide
        · exact colon c port
  · rcases List.mem_append.mp member with ip | port
    · exact isPlain_of_isAddressChar (isAddressChar_ipv4Text ip)
    · exact colon c port

theorem isPlain_hexText (octets : Bytes) : ∀ c ∈ (hexText octets).toList, isPlain c = true := by
  have digit : ∀ n < 16, isPlain (Nat.digitChar n) = true := by decide
  intro c member
  rw [hexText, String.toList_ofList] at member
  obtain ⟨b, -, here⟩ := List.mem_flatMap.mp member
  rcases List.mem_pair.mp here with rfl | rfl
  · exact digit _ (halves_small b).1
  · exact digit _ (halves_small b).2

theorem isPlain_tunAddress (tunNet : Octets 3) (last : UInt8) :
    ∀ c ∈ (tunAddress tunNet last).toList, isPlain c = true := by
  intro c member
  rw [tunAddress, String.toList_ofList] at member
  exact isPlain_of_isAddressChar (isAddressChar_ipv4Text member)

section Meanings

variable (params : PairParams) (keys : PairKeys)

/-- A string under a key. -/
def stringPair (key : String) (text : List Char) : Line := .pair key.toList (.string text)

def headMeanings (own peer : KeyMat) : List Line :=
  [.nothing, .nothing, .nothing, .table "identity".toList,
    stringPair "ed25519_seed_hex" (hexText own.edSeed.bytes).toList,
    stringPair "mldsa_secret_hex" (hexText own.mldsaSk).toList,
    stringPair "peer_ed25519_pub_hex" (hexText peer.edPub.bytes).toList,
    stringPair "peer_mldsa_pub_hex" (hexText peer.mldsaPub).toList, .nothing,
    .table "network".toList]

def tailMeanings : List Line :=
  [.nothing, .table "obfuscation".toList, .pair "enabled".toList (.boolean true),
    .pair "handshake".toList (.boolean true), stringPair "psk_hex" (hexText keys.psk.bytes).toList, .nothing,
    .table "traffic".toList, stringPair "profile" params.profile.keyword.toList, .nothing]

def serverMeanings : List Line :=
  headMeanings keys.server keys.client ++
    [stringPair "bind_addr" params.bindAddr.text, .nothing, .table "tun".toList,
      stringPair "name" "chameleon0".toList, stringPair "address" (tunAddress params.tunNet 1).toList,
      stringPair "netmask" "255.255.255.0".toList, .pair "mtu".toList (.integer params.mtu.toNat)] ++
    tailMeanings params keys

def clientMeanings : List Line :=
  headMeanings keys.client keys.server ++
    [stringPair "server_addr" params.serverAddr.text, .nothing, .table "tun".toList,
      stringPair "name" "chameleon0".toList, stringPair "address" (tunAddress params.tunNet 2).toList,
      stringPair "netmask" "255.255.255.0".toList, .pair "mtu".toList (.integer params.mtu.toNat),
      .pair "route_all".toList (.boolean params.fullTunnel),
      stringPair "peer_address" (tunAddress params.tunNet 1).toList] ++
    (if params.fullTunnel then [.pair "kill_switch".toList (.boolean params.killSwitch)] else []) ++
    tailMeanings params keys

end Meanings

variable {params : PairParams} {keys : PairKeys}

theorem means_quoted {front key : String} (field : fieldKey front.toList = some key.toList) {text : List Char}
    (plain : ∀ c ∈ text, isPlain c = true) : Means (quoted front text) (stringPair key text) :=
  means_string field plain

theorem means_headLines {title : String} (comment : Means title.toList .nothing) (own peer : KeyMat) :
    List.Forall₂ Means (headLines title own peer) (headMeanings own peer) := by
  refine .cons comment (.cons (by decide +kernel) (.cons (by decide +kernel) (.cons (by decide +kernel)
    (.cons (means_quoted (by decide +kernel) (isPlain_hexText _))
      (.cons (means_quoted (by decide +kernel) (isPlain_hexText _))
        (.cons (means_quoted (by decide +kernel) (isPlain_hexText _))
          (.cons (means_quoted (by decide +kernel) (isPlain_hexText _))
            (.cons (by decide +kernel) (.cons (by decide +kernel) .nil)))))))))

theorem means_tailLines : List.Forall₂ Means (tailLines params keys) (tailMeanings params keys) := by
  have plain : params.profile.keyword.toList.all isPlain = true := by cases params.profile <;> decide +kernel
  have keyword := List.all_eq_true.mp plain
  refine .cons (by decide +kernel) (.cons (by decide +kernel) (.cons (by decide +kernel) (.cons (by decide +kernel)
    (.cons (means_quoted (by decide +kernel) (isPlain_hexText _)) (.cons (by decide +kernel) (.cons (by decide +kernel)
      (.cons (means_quoted (by decide +kernel) keyword) (.cons (by decide +kernel) .nil))))))))

theorem means_serverLines : List.Forall₂ Means (serverLines params keys) (serverMeanings params keys) := by
  refine List.rel_append (List.rel_append (means_headLines (by decide +kernel) _ _) ?_) means_tailLines
  refine .cons (means_quoted (by decide +kernel) (isPlain_addr _)) (.cons (by decide +kernel)
    (.cons (by decide +kernel) (.cons (by decide +kernel)
      (.cons (means_quoted (by decide +kernel) (isPlain_tunAddress _ _)) (.cons (by decide +kernel)
        (.cons (means_integer (by decide +kernel) _) .nil))))))

theorem means_clientLines : List.Forall₂ Means (clientLines params keys) (clientMeanings params keys) := by
  refine List.rel_append (List.rel_append (List.rel_append (means_headLines (by decide +kernel) _ _) ?_) ?_)
    means_tailLines
  · have routeAll : ∀ b, Means ("route_all    = ".toList ++ boolText b) (.pair "route_all".toList (.boolean b)) := by
      decide +kernel
    refine .cons (means_quoted (by decide +kernel) (isPlain_addr _)) (.cons (by decide +kernel)
      (.cons (by decide +kernel) (.cons (by decide +kernel)
        (.cons (means_quoted (by decide +kernel) (isPlain_tunAddress _ _)) (.cons (by decide +kernel)
          (.cons (means_integer (by decide +kernel) _) (.cons (routeAll _)
            (.cons (means_quoted (by decide +kernel) (isPlain_tunAddress _ _)) .nil))))))))
  · have killSwitch : ∀ b, Means ("kill_switch  = ".toList ++ boolText b)
        (.pair "kill_switch".toList (.boolean b)) := by decide +kernel
    split
    · exact .cons (killSwitch _) .nil
    · exact .nil

section Found

variable {get : String → Option Value} {key : String}

theorem stringAt_of_found {value : String} (found : get key = some (.string value.toList)) :
    stringAt get key = .ok (some value) := by
  rw [stringAt, found]
  exact congrArg (fun text => Except.ok (some text)) String.ofList_toList

theorem requiredAt_of_found {value : String} (found : get key = some (.string value.toList)) :
    requiredAt get key = .ok value := by
  rw [requiredAt, found]
  exact congrArg Except.ok String.ofList_toList

theorem addrAt_of_found {addr : SocketAddr} (wellFormed : addr.WellFormed)
    (found : get key = some (.string addr.text)) : addrAt get key = .ok (some addr) := by
  rw [addrAt, found]
  dsimp only
  rw [parseSocketAddr_text wellFormed]
  rfl

theorem integerAt_of_found {n : UInt16} (found : get key = some (.integer n.toNat)) (default : UInt16) :
    integerAt get key (2 ^ 16) UInt16.ofNat default = .ok n := by
  rw [integerAt, found]
  exact (if_pos n.toNat_lt).trans (congrArg Except.ok UInt16.ofNat_toNat)

theorem profileAt_of_found {profile : TrafficProfile} (found : get key = some (.string profile.keyword.toList)) :
    keywordAt get key profileKeywords .off = .ok profile := by
  have known : profileKeywords.lookup profile.keyword = some profile := by cases profile <;> decide +kernel
  rw [keywordAt, found]
  dsimp only
  rw [String.ofList_toList, known]
  rfl

end Found

/-- The document of some lines. -/
def documentOf (lines : List Line) : Document := ⟨tablesOf lines, entriesOf [] lines⟩

section Sections

variable (params : PairParams) (keys : PairKeys) (own peer : KeyMat)

theorem readIdentity_head :
    readIdentity ((documentOf (headMeanings own peer)).get "identity") = .ok (identityOf own peer) := by
  have seed : (documentOf (headMeanings own peer)).get "identity" "ed25519_seed_hex" =
      some (.string (hexText own.edSeed.bytes).toList) := rfl
  have peerPub : (documentOf (headMeanings own peer)).get "identity" "peer_ed25519_pub_hex" =
      some (.string (hexText peer.edPub.bytes).toList) := rfl
  have secret : (documentOf (headMeanings own peer)).get "identity" "mldsa_secret_hex" =
      some (.string (hexText own.mldsaSk).toList) := rfl
  have peerMldsaPub : (documentOf (headMeanings own peer)).get "identity" "peer_mldsa_pub_hex" =
      some (.string (hexText peer.mldsaPub).toList) := rfl
  rw [readIdentity, requiredAt_of_found seed, requiredAt_of_found peerPub, stringAt_of_found secret,
    stringAt_of_found peerMldsaPub]
  rfl

theorem readObfuscation_tail :
    readObfuscation ((documentOf (tailMeanings params keys)).get "obfuscation") = .ok (obfuscationOf keys) := by
  have psk : (documentOf (tailMeanings params keys)).get "obfuscation" "psk_hex" =
      some (.string (hexText keys.psk.bytes).toList) := rfl
  rw [readObfuscation, stringAt_of_found psk]
  rfl

theorem readTraffic_tail :
    readTraffic ((documentOf (tailMeanings params keys)).get "traffic") = .ok (trafficOf params) := by
  have profile : (documentOf (tailMeanings params keys)).get "traffic" "profile" =
      some (.string params.profile.keyword.toList) := rfl
  rw [readTraffic, profileAt_of_found profile]
  rfl

/-- What both documents of a pair share. -/
structure Shares (document : Document) : Prop where
  identity : document.get "identity" = (documentOf (headMeanings own peer)).get "identity"
  engine : document.get "engine" = fun _ => none
  obfuscation : document.get "obfuscation" = (documentOf (tailMeanings params keys)).get "obfuscation"
  traffic : document.get "traffic" = (documentOf (tailMeanings params keys)).get "traffic"

theorem shares_server :
    Shares params keys keys.server keys.client (documentOf (serverMeanings params keys)) where
  identity := Document.get_congr rfl
  engine := Document.get_eq_none rfl
  obfuscation := Document.get_congr rfl
  traffic := Document.get_congr rfl

theorem shares_client :
    Shares params keys keys.client keys.server (documentOf (clientMeanings params keys)) := by
  unfold clientMeanings
  cases params.fullTunnel
  all_goals
    exact ⟨Document.get_congr rfl, Document.get_eq_none rfl, Document.get_congr rfl, Document.get_congr rfl⟩

variable {params keys own peer}

/-- **The server's document is read as its configuration.** -/
theorem readDocument_server (wellFormed : params.WellFormed) :
    readDocument (documentOf (serverMeanings params keys)) = .ok (serverFile params keys) := by
  have shared := shares_server params keys
  have bindAddr : (documentOf (serverMeanings params keys)).get "network" "bind_addr" =
      some (.string params.bindAddr.text) := rfl
  have address : (documentOf (serverMeanings params keys)).get "tun" "address" =
      some (.string (tunAddress params.tunNet 1).toList) := rfl
  have netmask : (documentOf (serverMeanings params keys)).get "tun" "netmask" =
      some (.string "255.255.255.0".toList) := rfl
  have name : (documentOf (serverMeanings params keys)).get "tun" "name" =
      some (.string "chameleon0".toList) := rfl
  have mtu : (documentOf (serverMeanings params keys)).get "tun" "mtu" = some (.integer params.mtu.toNat) := rfl
  have tun : readTun ((documentOf (serverMeanings params keys)).get "tun") = .ok (serverFile params keys).tun := by
    rw [readTun, stringAt_of_found name, integerAt_of_found mtu]
    rfl
  rw [readDocument, shared.identity, readIdentity_head, addrAt_of_found wellFormed.2 bindAddr, tun,
    stringAt_of_found address, stringAt_of_found netmask, shared.engine, shared.obfuscation,
    readObfuscation_tail, shared.traffic, readTraffic_tail]
  rfl

/-- **The client's document is read as its configuration.** -/
theorem readDocument_client (wellFormed : params.WellFormed) :
    readDocument (documentOf (clientMeanings params keys)) = .ok (clientFile params keys) := by
  have shared := shares_client params keys
  have bindAddr : addrAt ((documentOf (clientMeanings params keys)).get "network") "bind_addr" = .ok none := by
    unfold clientMeanings
    cases params.fullTunnel <;> rfl
  have serverAddr : (documentOf (clientMeanings params keys)).get "network" "server_addr" =
      some (.string params.serverAddr.text) := rfl
  have address : (documentOf (clientMeanings params keys)).get "tun" "address" =
      some (.string (tunAddress params.tunNet 2).toList) := rfl
  have netmask : (documentOf (clientMeanings params keys)).get "tun" "netmask" =
      some (.string "255.255.255.0".toList) := rfl
  have tun : readTun ((documentOf (clientMeanings params keys)).get "tun") = .ok (clientFile params keys).tun := by
    have name : (documentOf (clientMeanings params keys)).get "tun" "name" =
        some (.string "chameleon0".toList) := rfl
    have mtu : (documentOf (clientMeanings params keys)).get "tun" "mtu" = some (.integer params.mtu.toNat) := rfl
    have peerAddress : (documentOf (clientMeanings params keys)).get "tun" "peer_address" =
        some (.string (tunAddress params.tunNet 1).toList) := rfl
    have routeAll : (documentOf (clientMeanings params keys)).get "tun" "route_all" =
        some (.boolean params.fullTunnel) := rfl
    have killSwitch : boolAt ((documentOf (clientMeanings params keys)).get "tun") "kill_switch" false =
        .ok (params.fullTunnel && params.killSwitch) := by
      unfold clientMeanings
      cases params.fullTunnel <;> rfl
    rw [readTun, stringAt_of_found name, integerAt_of_found mtu, boolAt, routeAll, stringAt_of_found peerAddress,
      killSwitch]
    rfl
  rw [readDocument, shared.identity, readIdentity_head, bindAddr, addrAt_of_found wellFormed.1 serverAddr,
    tun, stringAt_of_found address, stringAt_of_found netmask, shared.engine, shared.obfuscation,
    readObfuscation_tail, shared.traffic, readTraffic_tail]
  rfl

end Sections

/-- The tables of both documents. -/
def pairTables : List (List Char) :=
  ["identity", "network", "tun", "obfuscation", "traffic"].map String.toList

theorem nodup_pairTables : pairTables.Nodup := by decide +kernel

/-- No required table is missing. -/
theorem readConfig_of_read {text : List Char} {document : Document} (found : read text = some document)
    (tables : document.tables = pairTables) : readConfig text = readDocument document := by
  have complete : (["identity", "network", "tun"].find? fun table => decide (table.toList ∉ pairTables)) = none := by
    decide +kernel
  rw [readConfig, found]
  dsimp only
  rw [tables, complete]

theorem names_server (params : PairParams) (keys : PairKeys) :
    ((entriesOf [] (serverMeanings params keys)).map fun entry => (entry.table, entry.key)).Nodup := by
  simp only [serverMeanings, headMeanings, tailMeanings, stringPair, List.cons_append, List.nil_append, entriesOf,
    List.map_cons, List.map_nil]
  decide +kernel

theorem names_client (params : PairParams) (keys : PairKeys) :
    ((entriesOf [] (clientMeanings params keys)).map fun entry => (entry.table, entry.key)).Nodup := by
  unfold clientMeanings
  cases params.fullTunnel
  all_goals
    simp only [headMeanings, tailMeanings, stringPair, if_true, Bool.false_eq_true, if_false, List.cons_append,
      List.nil_append, entriesOf, List.map_cons, List.map_nil]
    decide +kernel

theorem tables_client (params : PairParams) (keys : PairKeys) :
    tablesOf (clientMeanings params keys) = pairTables := by
  unfold clientMeanings
  cases params.fullTunnel <;> rfl

/-- **Every generated pair is read back.** -/
theorem readConfig_readsPair : ReadsPair readConfig := by
  intro params keys wellFormed
  constructor
  · have found := read_intercalate (fun none => by cases none) means_serverLines
      (nodup_pairTables : (tablesOf (serverMeanings params keys)).Nodup) (names_server params keys)
    exact (readConfig_of_read found rfl).trans (readDocument_server wellFormed)
  · have tables := tables_client params keys
    have found := read_intercalate (fun none => by cases none) means_clientLines
      (tables ▸ nodup_pairTables) (names_client params keys)
    exact (readConfig_of_read found tables).trans (readDocument_client wellFormed)

end ChameleonPQ
