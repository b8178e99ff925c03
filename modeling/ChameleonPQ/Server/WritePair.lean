/-
**Writing a generated pair (`main.rs`, `setup.rs`, `sysconf.rs`).**

* `GeneratedPair` — what `init_pair` generates, once it has passed the self-check.
* `runInit` — `chameleon-pq init`: the server's file is written, then the client's.
* `applyIdentity` — the identity step of `setup`: the client's file is placed, then the server's, each by a rename.

The two paths lead to two files.
-/

import ChameleonPQ.Server.PairReader

namespace ChameleonPQ

open Library Library.IpText Library.Paths

/-! ### Generating a pair -/

/-- What `init_pair` draws: for each node a seed and an ML-DSA key pair, and the shared secret. -/
structure PairDraws where
  serverSeed : Octets 32
  serverMldsa : Bytes
  clientSeed : Octets 32
  clientMldsa : Bytes
  psk : Octets 32

section Keys

variable (prims : Primitives)

/-- `gen_node`. -/
def genNode (seed : Octets 32) (mldsaSk : Bytes) : KeyMat :=
  ⟨seed, prims.ed25519Public seed.bytes, mldsaSk, prims.mldsaPublic mldsaSk⟩

/-- The keys of `init_pair`. -/
def PairDraws.keys (draws : PairDraws) : PairKeys :=
  ⟨genNode prims draws.serverSeed draws.serverMldsa, genNode prims draws.clientSeed draws.clientMldsa, draws.psk⟩

end Keys

/-- `anyhow::Error`: a text, with the error it wraps. -/
inductive Failure where
  | text (msg : String)
  | wrapped (context : String) (error : ChameleonError)
  deriving DecidableEq

/-- Parameters whose addresses are addresses. -/
abbrev ValidParams := { params : PairParams // params.WellFormed }

section Generate

variable (toml : TomlReader) (prims : Primitives)

/-- A pair whose files the loader has taken. -/
structure GeneratedPair where
  params : PairParams
  wellFormed : params.WellFormed
  draws : PairDraws
  serverPasses : (fromTomlStr toml (serverToml params (draws.keys prims))).isOk = true
  clientPasses : (fromTomlStr toml (clientToml params (draws.keys prims))).isOk = true

/-- `init_pair`, and the self-check. -/
def generate (params : ValidParams) (draws : PairDraws) : Except Failure (GeneratedPair toml prims) :=
  match server : fromTomlStr toml (serverToml params.1 (draws.keys prims)),
    client : fromTomlStr toml (clientToml params.1 (draws.keys prims)) with
  | .error e, _ => .error (.wrapped "generated server config failed validation: " e)
  | .ok _, .error e => .error (.wrapped "generated client config failed validation: " e)
  | .ok _, .ok _ => .ok ⟨params.1, params.2, draws, by rw [server]; rfl, by rw [client]; rfl⟩

end Generate

namespace GeneratedPair

variable {toml : TomlReader} {prims : Primitives} (pair : GeneratedPair toml prims)

def serverText : List Char := serverToml pair.params (pair.draws.keys prims)

def clientText : List Char := clientToml pair.params (pair.draws.keys prims)

/-- What the server's file is to hold. -/
def serverOctets : Bytes := utf8 pair.serverText

/-- What the client's file is to hold. -/
def clientOctets : Bytes := utf8 pair.clientText

end GeneratedPair

/-! ### `init` -/

/-- `Path::join`, for a name. -/
def joinPath (dir name : String) : String :=
  if dir = "" ∨ dir.toList.getLast? = some '/' then dir ++ name else dir ++ "/" ++ name

/-- The two configuration files, by their paths. -/
structure PairPaths where
  server : String
  client : String

/-- The two configuration files. -/
@[ext] structure PairFiles where
  server : Place
  client : Place

/-- An address of the command line. -/
abbrev ValidAddr := { addr : SocketAddr // addr.WellFormed }

/-- The options of `init`. -/
structure InitArgs where
  serverAddr : Option ValidAddr
  outDir : String
  bind : ValidAddr
  tunNet : String
  mtu : UInt16
  splitTunnel : Bool
  killSwitch : Bool
  profile : String
  force : Bool

/-- `PROFILES`. -/
def profiles : List (String × TrafficProfile) :=
  [("off", .off), ("balanced", .balanced), ("stealth", .stealth), ("throughput", .throughput), ("custom", .custom)]

/-- `str::parse::<u8>`: a plus sign may stand before the digits. -/
def parseU8 (text : List Char) : Option UInt8 :=
  readOctet (if text.head? = some '+' then text.tail else text)

/-- `parse_tun_net`. -/
def parseTunNet (text : String) : Result (Octets 3) :=
  match (text.toList.splitOn '.').mapM parseU8 with
  | some [a, b, c] => .ok ⟨[a, b, c], rfl⟩
  | _ => .error (.handshake "init" ("--tun-net '" ++ text ++ "' must be a /24 base like 10.99.0"))

/-- `str::trim`. -/
def trim (text : List Char) : List Char :=
  ((text.dropWhile isWhitespace).reverse.dropWhile isWhitespace).reverse

/-- `prompt_server_addr`, for what reading a line answers. -/
def promptServerAddr (line : Except IoError (List Char)) : Except Failure ValidAddr :=
  match line with
  | .error e => .error (.text e)
  | .ok line =>
    match parsed : parseSocketAddr (trim line) with
    | none =>
      .error (.text
        "not a valid host:port — re-run with --server-addr <ip:port> (a numeric IP, not a hostname)")
    | some addr => .ok ⟨addr, parseSocketAddr_wellFormed parsed⟩

namespace InitArgs

variable (args : InitArgs)

/-- The checks of `run_init`, and the parameters it makes of the options. -/
def params (line : Except IoError (List Char)) : Except Failure ValidParams :=
  if args.killSwitch && args.splitTunnel then
    .error (.text "--kill-switch requires full-tunnel; drop --split-tunnel")
  else
    match profiles.lookup args.profile with
    | none =>
      .error (.text ("--profile '" ++ args.profile ++ "' must be one of: " ++
        ", ".intercalate (profiles.map Prod.fst)))
    | some profile =>
      match parseTunNet args.tunNet with
      | .error e => .error (.wrapped "" e)
      | .ok tunNet =>
        match args.serverAddr.elim (promptServerAddr line) .ok with
        | .error e => .error e
        | .ok serverAddr =>
          .ok ⟨⟨serverAddr.1, args.bind.1, tunNet, args.mtu, !args.splitTunnel, args.killSwitch, profile⟩,
            serverAddr.2, args.bind.2⟩

/-- The paths of the two files. -/
def paths : PairPaths := ⟨joinPath args.outDir "server-config.toml", joinPath args.outDir "client-config.toml"⟩

end InitArgs

/-- A file that is there is not overwritten, unless forced. -/
def alreadyExists (path : String) : Failure := .text (path ++ " already exists — pass --force to overwrite")

/-- `write_secret`. -/
def writeSecret (path : String) (contents : Bytes) (force : Bool) (fault : Option WriteFault) (place : Place) :
    Except Failure Unit × Place :=
  if place.content.isSome && !force then (.error (alreadyExists path), place)
  else
    match fault, place.write fault contents with
    | some (.unopened _), (.error e, after) => (.error (.text ("cannot write " ++ path ++ ": " ++ e)), after)
    | _, (.error e, after) => (.error (.text e), after)
    | _, (.ok _, after) => (.ok (), after)

/-- The writes of `init` that fail. -/
structure InitFaults where
  server : Option WriteFault
  client : Option WriteFault

section Init

variable {toml : TomlReader} {prims : Primitives}

/-- The two writes of `run_init`. -/
def writePair (paths : PairPaths) (force : Bool) (pair : GeneratedPair toml prims) (faults : InitFaults)
    (files : PairFiles) : Except Failure Unit × PairFiles :=
  match writeSecret paths.server pair.serverOctets force faults.server files.server with
  | (.error e, server) => (.error e, { files with server })
  | (.ok _, server) =>
    match writeSecret paths.client pair.clientOctets force faults.client files.client with
    | (result, client) => (result, ⟨server, client⟩)

variable (toml prims)

/-- The pair of `run_init`. -/
def InitArgs.generated (args : InitArgs) (line : Except IoError (List Char)) (draws : PairDraws) :
    Except Failure (GeneratedPair toml prims) :=
  match args.params line with
  | .error e => .error e
  | .ok params => generate toml prims params draws

/-- `run_init`. -/
def runInit (args : InitArgs) (line : Except IoError (List Char)) (draws : PairDraws) (faults : InitFaults)
    (files : PairFiles) : Except Failure Unit × PairFiles :=
  match args.generated toml prims line draws with
  | .error e => (.error e, files)
  | .ok pair => writePair args.paths args.force pair faults files

end Init

/-! ### The identity step -/

/-- What the identity step is made with; `clientDir` is empty where the client's file has no directory of its
own. -/
structure IdentityArgs where
  paths : PairPaths
  temps : PairPaths
  clientDir : String
  force : Bool

/-- The operations of the identity step that fail. -/
structure IdentityFaults where
  createDir : Option IoError
  client : Option ReplaceFault
  copy : Option WriteFault
  owner : Option IoError
  server : Option ReplaceFault

/-- What a run of the identity step leaves beside the two files. -/
structure Leftovers where
  clientTemp : Option Bytes := none
  backup : Option Bytes := none
  serverTemp : Option Bytes := none

/-- `write_file`. -/
def writeFile (temp : String) (contents : Bytes) (fault : Option ReplaceFault) (place : Place) :
    Except Failure Unit × Place × Option Bytes :=
  match fault, place.replace fault contents with
  | some (.uncreated _), (.error e, left) => (.error (.text ("cannot create " ++ temp ++ ": " ++ e)), left)
  | _, (.error e, left) => (.error (.text e), left)
  | _, (.ok _, left) => (.ok (), left)

/-- The backup of a server's file: a copy, then `set_mode_owner`. -/
def backUpServer (faults : IdentityFaults) (server : Place) : Except Failure Unit × Option Bytes :=
  if server.content.isSome then
    match server.copy faults.copy, faults.owner with
    | (.error e, backup), _ => (.error (.text e), backup)
    | (.ok _, backup), some e => (.error (.text e), backup)
    | (.ok _, backup), none => (.ok (), backup)
  else (.ok (), none)

/-- The step that `step_identity` makes. -/
def applyIdentity {toml : TomlReader} {prims : Primitives} (args : IdentityArgs) (pair : GeneratedPair toml prims)
    (faults : IdentityFaults) (files : PairFiles) : Except Failure Unit × PairFiles × Leftovers :=
  if files.client.content.isSome && !args.force then (.error (alreadyExists args.paths.client), files, {})
  else
    match if args.clientDir = "" then none else faults.createDir with
    | some e => (.error (.text ("cannot create " ++ args.clientDir ++ ": " ++ e)), files, {})
    | none =>
      match writeFile args.temps.client pair.clientOctets faults.client files.client with
      | (.error e, client, clientTemp) => (.error e, { files with client }, { clientTemp })
      | (.ok _, client, _) =>
        match backUpServer faults files.server with
        | (.error e, backup) => (.error e, { files with client }, { backup })
        | (.ok _, backup) =>
          match writeFile args.temps.server pair.serverOctets faults.server files.server with
          | (result, server, serverTemp) => (result, ⟨server, client⟩, { backup, serverTemp })

end ChameleonPQ
