import Crabnet.Routing

/-! The configuration and its validation (config.rs, tun.rs, the interface names of
nat/manager.rs and the keys of crypto/noise_ik/keys.rs). The files that hold the
private keys are a parameter. -/
namespace Crabnet.RuntimeConfig
open MachineWord SessionTypes NetworkTypes Routing

def utf8 (s : String) : Bytes := s.toUTF8.data.toList

def keyLength : Nat := 32

inductive KeyMaterialError where
  | invalidLength (observed : Nat)
  | invalidHex (index : Nat)
  deriving DecidableEq, Repr

def KeyMaterialError.display : KeyMaterialError → String
  | invalidLength observed => "key must contain 32 bytes, observed " ++ toString observed
  | invalidHex index => "key contains invalid lowercase hex at byte " ++ toString index

def nibble (byte : UInt8) : Option UInt8 :=
  if 48 ≤ byte ∧ byte ≤ 57 then some (byte - 48)
  else if 97 ≤ byte ∧ byte ≤ 102 then some (byte - 97 + 10)
  else none

def decodePairs (index : Nat) : Bytes → Except KeyMaterialError Bytes
  | high :: low :: rest =>
    match nibble high, nibble low with
    | none, _ => .error (.invalidHex (index * 2))
    | some _, none => .error (.invalidHex (index * 2 + 1))
    | some h, some l => do
      let output ← decodePairs (index + 1) rest
      .ok ((h <<< 4 ||| l) :: output)
  | _ => .ok []

def decodeHex (value : String) : Except KeyMaterialError Bytes :=
  if (utf8 value).length ≠ keyLength * 2 then .error (.invalidLength ((utf8 value).length / 2))
  else decodePairs 0 (utf8 value)

def fromBytes (bytes : Bytes) : Except KeyMaterialError (FixedBytes 32) :=
  match FixedBytes.ofList? 32 bytes with
  | some key => .ok key
  | none => .error (.invalidLength bytes.length)

def keyFromHex (value : String) : Except KeyMaterialError (FixedBytes 32) := do
  let bytes ← decodeHex value
  fromBytes bytes

/- A file as the process meets it: its permission bits and its text, or the
operating system's answer instead. -/
class KeyFiles where
  permissions : String → Except String UInt32
  text : String → Except String String

def whiteSpace (c : Char) : Bool :=
  (9 ≤ c.val && c.val ≤ 13) || (0x2000 ≤ c.val && c.val ≤ 0x200A) ||
    [0x20, 0x85, 0xA0, 0x1680, 0x2028, 0x2029, 0x202F, 0x205F, 0x3000].contains c.val

def trim (s : String) : String :=
  .ofList ((s.toList.dropWhile whiteSpace).reverse.dropWhile whiteSpace).reverse

def loadPrivateKey [KeyFiles] (path : String) : Except Failure (FixedBytes 32) :=
  match KeyFiles.permissions path with
  | .error e => .error ((Failure.of e).context ("inspect Noise-IK private key permissions for " ++ path))
  | .ok mode =>
    if mode &&& 0o077 ≠ 0 then
      .error (.of ("Noise-IK private key " ++ path ++ " is accessible by group or other users"))
    else match KeyFiles.text path with
      | .error e => .error ((Failure.of e).context ("read Noise-IK private key from " ++ path))
      | .ok value =>
        match keyFromHex (trim value) with
        | .error e => .error (.of ("invalid Noise-IK private key in " ++ path ++ ": " ++ e.display))
        | .ok key => .ok key

inductive SecurityMode where
  | legacy | noiseIk
  deriving DecidableEq, Repr

structure SessionLimitsConfig where
  maxOutboundPackets : UInt64
  maxOutboundPlaintextBytes : UInt64
  maxInboundPackets : UInt64
  maxInboundPlaintextBytes : UInt64
  idleTimeoutSeconds : UInt64
  deriving DecidableEq, Repr

structure SecurityConfig where
  mode : SecurityMode
  privateKeyPath : Option String
  serverPublicKey : Option String
  allowedClientPublicKeys : List String
  sessionLimits : Option SessionLimitsConfig
  deriving DecidableEq

def SecurityConfig.default : SecurityConfig := ⟨.legacy, none, none, [], none⟩

inductive ModeConfig where
  | client (bindAddr serverAddr : SocketAddr)
  | server (bindAddr : SocketAddr)
  deriving DecidableEq

structure TunConfig where
  name : String
  address : IpAddr
  prefixLen : UInt8
  mtu : UInt16
  deriving DecidableEq

structure Config where
  mode : ModeConfig
  tun : TunConfig
  routing : RoutingConfig
  security : SecurityConfig

def defaultPort : UInt16 := 51820

def Config.default : Config where
  mode := .client (.v4 0 defaultPort) (.v4 0x7F000001 defaultPort)
  tun := ⟨"crabnet0", .v4 0x0A000001, 24, 1400⟩
  routing := .default
  security := .default

def ensurePositive (value : UInt64) (field : String) : Except Failure Unit :=
  ensure (0 < value) ("security.session_limits." ++ field ++ " must be greater than zero")

def SessionLimitsConfig.validate (c : SessionLimitsConfig) : Except Failure Unit := do
  ensurePositive c.maxOutboundPackets "max_outbound_packets"
  ensurePositive c.maxOutboundPlaintextBytes "max_outbound_plaintext_bytes"
  ensurePositive c.maxInboundPackets "max_inbound_packets"
  ensurePositive c.maxInboundPlaintextBytes "max_inbound_plaintext_bytes"
  ensurePositive c.idleTimeoutSeconds "idle_timeout_seconds"

def TunConfig.validatePrefix (c : TunConfig) : Except Failure Unit :=
  match c.address with
  | .v4 _ => ensure (c.prefixLen ≤ 32) "IPv4 prefix must be between 0 and 32"
  | .v6 _ => ensure (c.prefixLen ≤ 128) "IPv6 prefix must be between 0 and 128"

def TunConfig.validate (c : TunConfig) : Except Failure Unit := do
  ensure (c.name ≠ "") "TUN interface name cannot be empty"
  c.validatePrefix
  ensure (c.address.isIpv4 || 1280 ≤ c.mtu) "IPv6 TUN MTU must be at least 1280"
  ensure (c.mtu ≠ 0) "TUN MTU cannot be zero"

def nftByte (byte : UInt8) : Bool :=
  (48 ≤ byte && byte ≤ 57) || (65 ≤ byte && byte ≤ 90) || (97 ≤ byte && byte ≤ 122) ||
    byte == 95 || byte == 45 || byte == 46

def validateNftInterfaceName (field name : String) : Except Failure Unit := do
  ensure (name ≠ "") (field ++ " must not be empty")
  ensure ((utf8 name).length ≤ 15) (field ++ " must be at most 15 bytes for a Linux interface name")
  ensure ((utf8 name).all nftByte) (field ++ " may contain only ASCII alphanumeric characters or '_', '-', '.'")

def validatePublicKey (field encoded : String) : Except Failure Unit :=
  match keyFromHex encoded with
  | .error e => .error (.of ("invalid " ++ field ++ ": " ++ e.display))
  | .ok _ => .ok ()

def validateAllowlist (seen : List String) : List String → Except Failure Unit
  | [] => .ok ()
  | encoded :: rest => do
    ensure (!seen.contains encoded)
      ("security.allowed_client_public_keys contains duplicate entry at index " ++ toString seen.length)
    validatePublicKey ("security.allowed_client_public_keys[" ++ toString seen.length ++ "]") encoded
    validateAllowlist (seen ++ [encoded]) rest

def validatePeerKeys (c : Config) : Except Failure Unit :=
  match c.mode with
  | .client _ _ => do
    let encoded ← required c.security.serverPublicKey "client Noise-IK mode requires security.server_public_key"
    validatePublicKey "security.server_public_key" encoded
    ensure c.security.allowedClientPublicKeys.isEmpty "security.allowed_client_public_keys is server-only"
  | .server _ => do
    ensure c.security.serverPublicKey.isNone "security.server_public_key is client-only"
    ensure (!c.security.allowedClientPublicKeys.isEmpty) "server Noise-IK mode requires a non-empty client allowlist"
    validateAllowlist [] c.security.allowedClientPublicKeys

def Config.validateSecurity [KeyFiles] (c : Config) : Except Failure Unit :=
  match c.security.mode with
  | .legacy => do
    ensure c.security.privateKeyPath.isNone "security.private_key_path requires security.mode = noise_ik"
    ensure c.security.serverPublicKey.isNone "security.server_public_key requires security.mode = noise_ik"
    ensure c.security.allowedClientPublicKeys.isEmpty
      "security.allowed_client_public_keys requires security.mode = noise_ik"
    ensure c.security.sessionLimits.isNone "security.session_limits requires security.mode = noise_ik"
  | .noiseIk => do
    let limits ← required c.security.sessionLimits "security.mode = noise_ik requires [security.session_limits]"
    limits.validate
    let path ← required c.security.privateKeyPath "security.mode = noise_ik requires security.private_key_path"
    let _ ← loadPrivateKey path
    validatePeerKeys c

def validateProtected [AddressText] (tun : TunConfig) (earlier : List IpNet) : List IpNet → Except Failure Unit
  | [] => .ok ()
  | route :: rest => do
    ensure (route.prefixLen ≠ 0) ("routing.protected_routes[" ++ toString earlier.length ++
      "] is a default route; use routing.full_tunnel instead")
    ensure (route.addr.isIpv4 == tun.address.isIpv4) ("routing.protected_routes[" ++ toString earlier.length ++
      "] address family must match the TUN address")
    ensure (!earlier.contains route) ("routing.protected_routes contains duplicate route " ++ AddressText.net route)
    validateProtected tun (earlier ++ [route]) rest

def validateClientRouting [AddressText] (c : Config) (serverAddr : SocketAddr) : Except Failure Unit := do
  ensure (!c.routing.enableForwarding && !c.routing.enableNat && c.routing.natEgressInterface.isNone)
    "routing.enable_forwarding, routing.enable_nat, and routing.nat_egress_interface are server-only options"
  ensure c.routing.serverRoutes.isEmpty "routing.server_routes is server-only"
  ensure (!c.routing.fullTunnel || c.routing.protectedRoutes.isEmpty)
    "routing.protected_routes must be empty when routing.full_tunnel is enabled"
  match c.routing.protectedRoutes.find? (·.contains (SocketAddr.ip serverAddr)) with
  | some route => .error (.of ("VPN server address " ++ AddressText.socket serverAddr ++ " is inside protected route " ++
      AddressText.net route ++ "; this would recursively route tunnel traffic"))
  | none => .ok ()

def validateNat (c : Config) : Except Failure Unit :=
  if c.routing.enableNat then do
    ensure c.routing.enableForwarding "routing.enable_nat requires routing.enable_forwarding = true"
    ensure c.tun.address.isIpv4 "routing.enable_nat currently supports only IPv4 TUN addresses"
    ensure (c.tun.prefixLen ≠ 0) "routing.enable_nat refuses to masquerade the default network"
    validateNftInterfaceName "tun.name" c.tun.name
    let egress ← required c.routing.natEgressInterface "routing.enable_nat requires routing.nat_egress_interface"
    validateNftInterfaceName "routing.nat_egress_interface" egress
    ensure (egress ≠ c.tun.name) "routing.nat_egress_interface must differ from tun.name"
  else ensure c.routing.natEgressInterface.isNone "routing.nat_egress_interface requires routing.enable_nat = true"

def validateServerRouting (c : Config) : Except Failure Unit := do
  ensure c.routing.protectedRoutes.isEmpty "routing.protected_routes is a client-only option"
  ensure (!c.routing.fullTunnel) "routing.full_tunnel is a client-only option"
  validateNat c

def Config.validate [AddressText] [KeyFiles] (c : Config) : Except Failure Unit := do
  c.tun.validate
  c.validateSecurity
  validateProtected c.tun [] c.routing.protectedRoutes
  match c.mode with
  | .client _ serverAddr => validateClientRouting c serverAddr
  | .server _ => validateServerRouting c

end Crabnet.RuntimeConfig
