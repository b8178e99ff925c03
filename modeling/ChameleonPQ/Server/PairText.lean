/-
**The generated configurations as text (`setup.rs`, `config.rs`).**

* `serverToml`, `clientToml` — the two documents of `build_pair`.
* `TomlReader` — the TOML crate with the derived deserialiser, as a parameter; `fromTomlStr`, `loadConfig` — the
  loader over it.
* `ReadsPair` — what the code relies on: the generated documents are read as the generated pair.
-/

import ChameleonPQ.Library.Paths
import ChameleonPQ.Server.Setup

namespace ChameleonPQ

open Library Library.IpText Library.Paths

/-! ### The documents -/

/-- `impl Display for SocketAddr`. -/
def SocketAddr.text (addr : SocketAddr) : List Char :=
  if addr.ip.length = 16 then '[' :: ipv6Text addr.ip ++ ']' :: ':' :: Nat.toDigits 10 addr.port.toNat
  else ipv4Text addr.ip ++ ':' :: Nat.toDigits 10 addr.port.toNat

/-- The keyword of a profile. -/
def TrafficProfile.keyword : TrafficProfile → String
  | stealth => "stealth"
  | balanced => "balanced"
  | throughput => "throughput"
  | off => "off"
  | custom => "custom"

/-- `impl Display for bool`. -/
def boolText (b : Bool) : List Char := (if b then "true" else "false").toList

/-- A value between quotes. -/
def quoted (front : String) (value : List Char) : List Char := front.toList ++ ('"' :: value ++ ['"'])

section Text

variable (params : PairParams) (keys : PairKeys)

/-- The comment, and the identity. -/
def headLines (title : String) (own peer : KeyMat) : List (List Char) :=
  [title.toList, "# SECRET: holds this node's private keys. Do not share or commit.".toList, [],
    "[identity]".toList,
    quoted "ed25519_seed_hex     = " (hexText own.edSeed.bytes).toList,
    quoted "mldsa_secret_hex     = " (hexText own.mldsaSk).toList,
    quoted "peer_ed25519_pub_hex = " (hexText peer.edPub.bytes).toList,
    quoted "peer_mldsa_pub_hex   = " (hexText peer.mldsaPub).toList, [],
    "[network]".toList]

/-- The obfuscation and the traffic. -/
def tailLines : List (List Char) :=
  [[], "[obfuscation]".toList, "enabled   = true".toList, "handshake = true".toList,
    quoted "psk_hex   = " (hexText keys.psk.bytes).toList, [],
    "[traffic]".toList, quoted "profile = " params.profile.keyword.toList, []]

/-- The lines of the server's document. -/
def serverLines : List (List Char) :=
  headLines "# Chameleon-PQ SERVER config — generated by `chameleon-pq init`." keys.server keys.client ++
    [quoted "bind_addr = " params.bindAddr.text, [],
      "[tun]".toList, "name    = \"chameleon0\"".toList,
      quoted "address = " (tunAddress params.tunNet 1).toList, "netmask = \"255.255.255.0\"".toList,
      "mtu     = ".toList ++ Nat.toDigits 10 params.mtu.toNat] ++
    tailLines params keys

/-- The lines of the client's document; only a full tunnel has a kill switch. -/
def clientLines : List (List Char) :=
  headLines "# Chameleon-PQ CLIENT config — generated by `chameleon-pq init`." keys.client keys.server ++
    [quoted "server_addr = " params.serverAddr.text, [],
      "[tun]".toList, "name         = \"chameleon0\"".toList,
      quoted "address      = " (tunAddress params.tunNet 2).toList, "netmask      = \"255.255.255.0\"".toList,
      "mtu          = ".toList ++ Nat.toDigits 10 params.mtu.toNat,
      "route_all    = ".toList ++ boolText params.fullTunnel,
      quoted "peer_address = " (tunAddress params.tunNet 1).toList] ++
    (if params.fullTunnel then ["kill_switch  = ".toList ++ boolText params.killSwitch] else []) ++
    tailLines params keys

/-- The server's document of `build_pair`. -/
def serverToml : List Char := ['\n'].intercalate (serverLines params keys)

/-- The client's document of `build_pair`. -/
def clientToml : List Char := ['\n'].intercalate (clientLines params keys)

end Text

/-! ### The loader -/

/-- `toml::from_str::<AppConfig>`. -/
abbrev TomlReader := List Char → Except String ConfigFile

/-- The octets of a text. -/
def utf8 (text : List Char) : Bytes := text.flatMap String.utf8EncodeChar

/-- The text of some octets, when they are UTF-8. -/
def fromUtf8 (octets : Bytes) : Option (List Char) := (String.fromUTF8? octets.toByteArray).map String.toList

theorem fromUtf8_utf8 (text : List Char) : fromUtf8 (utf8 text) = some text := by
  have encoded : (utf8 text).toByteArray = (String.ofList text).toByteArray :=
    String.toByteArray_ofList.symm
  rw [fromUtf8, encoded, String.fromUTF8?, dif_pos (String.isValidUTF8 _)]
  exact congrArg some String.toList_ofList

section Loader

variable (toml : TomlReader)

/-- What a text is read as. -/
def ConfigText.ofText (text : List Char) : ConfigText :=
  match toml text with
  | .error reason => .garbled reason
  | .ok file => .parsed file

/-- `AppConfig::from_toml_str`. -/
def fromTomlStr (text : List Char) : Result ConfigFile := (ConfigText.ofText toml text).load

/-- The text of a refusal to read a file. -/
def cannotRead (path : String) (e : IoError) : ChameleonError :=
  configError ("cannot read \"" ++ path ++ "\": " ++ e)

/-- `AppConfig::load`. -/
def loadConfig (path : String) (place : Place) : Result ConfigFile :=
  match place.content with
  | none => .error (cannotRead path notFound)
  | some octets =>
    match fromUtf8 octets with
    | none => .error (cannotRead path "stream did not contain valid UTF-8")
    | some text => fromTomlStr toml text

end Loader

/-- An address is IPv4 or IPv6. -/
def SocketAddr.WellFormed (addr : SocketAddr) : Prop := addr.ip.length = 4 ∨ addr.ip.length = 16

def PairParams.WellFormed (params : PairParams) : Prop :=
  params.serverAddr.WellFormed ∧ params.bindAddr.WellFormed

/-- **The TOML crate reads the generated documents as the pair**: bare keys, strings without escapes, decimal
numbers, truth values, comments, and the loader's defaults for what is not there. -/
def ReadsPair (toml : TomlReader) : Prop :=
  ∀ params keys, params.WellFormed →
    toml (serverToml params keys) = .ok (serverFile params keys) ∧
      toml (clientToml params keys) = .ok (clientFile params keys)

end ChameleonPQ
