import Crabnet.LinuxRoutes

/-! NAT of the server: its intent and the manager that owns one installation
(nat/manager.rs), and the nftables backend (nat/linux.rs). -/
namespace Crabnet.ServerNat
open SessionTypes NetworkTypes Fallible Routing RuntimeConfig JsonValue LinuxRoutes

/- The source network is IPv4; `build_nat_spec` makes no other. -/
structure NatSpec where
  sourceNetwork : IpNet
  tunInterface : String
  egressInterface : String
  deriving DecidableEq

structure AppliedNat where
  fingerprint : Value
  deriving DecidableEq

class NatBackend (B : Type) where
  apply : NatSpec → Action B Failure AppliedNat
  revert : AppliedNat → Action B Failure Unit

structure NatManager (B : Type) where
  backend : B
  applied : Option AppliedNat

namespace NatManager
variable {B : Type} [NatBackend B]

def new (backend : B) : NatManager B := ⟨backend, none⟩

def install (spec : NatSpec) (m : NatManager B) : Except Failure Unit × NatManager B :=
  if m.applied.isSome then (.error (.of "NAT states is already installed"), m)
  else match NatBackend.apply spec m.backend with
    | (.ok applied, backend) => (.ok (), ⟨backend, some applied⟩)
    | (.error e, backend) => (.error e, {m with backend := backend})

-- What could not be restored stays recorded for a later call.
def restore (m : NatManager B) : Except Failure Unit × NatManager B :=
  match m.applied with
  | none => (.ok (), m)
  | some applied =>
    match NatBackend.revert applied m.backend with
    | (.ok (), backend) => (.ok (), ⟨backend, none⟩)
    | (.error e, backend) => (.error (e.context "failed to restore NAT state"), ⟨backend, some applied⟩)

end NatManager

def buildNatSpec (tun : TunConfig) (routing : RoutingConfig) : Except Failure (Option NatSpec) :=
  if routing.enableNat = false then .ok none
  else match tun.address with
    | .v6 _ => .error (.of "routing.enable_nat currently supports only IPv4 TUN addresses")
    | .v4 address =>
      match routing.natEgressInterface with
      | none => .error (.of "routing.enable_nat requires routing.nat_egress_interface")
      | some egress =>
        match IpNet.new (.v4 address) tun.prefixLen.toNat with
        | none => .error (.of "failed to derive the IPv4 NAT source network")
        | some network => .ok (some ⟨network.trunc, tun.name, egress⟩)

-- `counter` holds for the value of a field of that name, whose packets and bytes are left out.
mutual

def normalizeCounterValues (counter : Bool) : Value → Value
  | .array values => .array (normalizeValues values)
  | .object fields => .object (normalizeFields counter fields)
  | v => v

def normalizeValues : List Value → List Value
  | [] => []
  | v :: rest => normalizeCounterValues false v :: normalizeValues rest

def normalizeFields (counter : Bool) : List (String × Value) → List (String × Value)
  | [] => []
  | (key, v) :: rest =>
    if counter && (key == "packets" || key == "bytes") then normalizeFields counter rest
    else (key, normalizeCounterValues (key == "counter") v) :: normalizeFields counter rest

end

def retainObjects : Value → Value
  | .array objects => .array (objects.filter fun object => (object.get "metainfo").isNone)
  | v => v

def withoutMetainfo : Value → Value
  | .object fields => .object (fields.map fun f => if f.1 = "nftables" then (f.1, retainObjects f.2) else f)
  | v => v

def normalizeFingerprint (value : Value) : Value := normalizeCounterValues false (withoutMetainfo value)

structure NftTable where
  family : String
  name : String
  deriving DecidableEq

def NftTable.read (v : Value) : Option NftTable :=
  match derived ["family", "name"] v with
  | some [family, name] => do
    let family ← requiredString family
    let name ← requiredString name
    some ⟨family, name⟩
  | _ => none

def readNftObject (v : Value) : Option (Option NftTable) :=
  match derived ["table"] v with
  | some [none] | some [some .null] => some none
  | some [some table] => (NftTable.read table).map some
  | _ => none

def readNftListing (document : Option Value) : Option (List (Option NftTable)) :=
  match document.bind (derived ["nftables"]) with
  | some [nftables] => readArray readNftObject nftables
  | _ => none

def nftTableFamily : String := "ip"
def nftTableName : String := "crabnet_nat"
def nftPostroutingChain : String := "postrouting"

def renderRuleset [AddressText] (spec : NatSpec) : String :=
  "add table " ++ nftTableFamily ++ " " ++ nftTableName ++ "\n" ++
  "add chain " ++ nftTableFamily ++ " " ++ nftTableName ++ " " ++ nftPostroutingChain ++
    " \x7b type nat hook postrouting priority srcnat; \x7d\n" ++
  "add rule " ++ nftTableFamily ++ " " ++ nftTableName ++ " " ++ nftPostroutingChain ++
    " iifname \"" ++ spec.tunInterface ++ "\" oifname \"" ++ spec.egressInterface ++ "\" ip saddr " ++
    AddressText.net spec.sourceNetwork ++ " counter masquerade\n"

section
variable {R : Type} [CommandRunner R]

def inspectInterface (interface : String) : Action R Failure Unit := do
  let _ ← runChecked .installing "ip" ["-j", "link", "show", "dev", interface] none
    ("NAT interface " ++ interface ++ " does not exist")
  pure ()

def tableExists (purpose : Purpose) : Action R Failure Bool := do
  let result ← runChecked purpose "nft" ["-j", "list", "tables"] none "failed to inspect nftables tables"
  match readNftListing result.stdout.document with
  | none => Action.fail (.of "failed to parse JSON returned by `nft -j list tables`")
  | some listing => pure (listing.any fun object => object == some ⟨nftTableFamily, nftTableName⟩)

def inspectTable (purpose : Purpose) : Action R Failure Value := do
  let result ← runChecked purpose "nft" ["-j", "list", "table", nftTableFamily, nftTableName] none
    "failed to inspect the Crabnet NAT table"
  match result.stdout.document with
  | none => Action.fail (.of "failed to parse JSON returned by `nft -j list table`")
  | some value => pure (normalizeFingerprint value)

-- Issued to take an installation back, also where the installation itself fails.
def deleteTable : Action R Failure Unit := do
  let _ ← runChecked .restoring "nft" ["delete", "table", nftTableFamily, nftTableName] none
    "failed to delete the Crabnet NAT table"
  pure ()

def installTable (ruleset : String) : Action R Failure Unit := do
  let _ ← runChecked .installing "nft" ["-f", "-"] (some ruleset) "failed to install Crabnet NAT ruleset"
  pure ()

def existingTable : String := "cannot install NAT: nftables table " ++ nftTableFamily ++ " " ++ nftTableName ++
  " already exists; Crabnet cannot prove ownership"

def changedTable : String := "refusing to remove nftables table " ++ nftTableFamily ++ " " ++ nftTableName ++
  ": NAT state changed after Crabnet installed it"

-- The emergency cleanup after a fingerprint that could not be read.
def abandonTable (inspectError : Failure) : Action R Failure AppliedNat := fun r =>
  match deleteTable r with
  | (.ok (), r) => (.error (inspectError.context
      "NAT was installed but its ownership fingerprint could not be captured"), r)
  | (.error cleanupError, r) => (.error (inspectError.context ("NAT was installed but fingerprint inspection failed; " ++
      "emergency cleanup also failed: " ++ cleanupError.display)), r)

def captureFingerprint : Action R Failure AppliedNat := fun r =>
  match inspectTable .installing r with
  | (.ok fingerprint, r) => (.ok ⟨fingerprint⟩, r)
  | (.error inspectError, r) => abandonTable inspectError r

def applyNat [AddressText] (spec : NatSpec) : Action R Failure AppliedNat := do
  inspectInterface spec.tunInterface
  inspectInterface spec.egressInterface
  if (← tableExists .installing) = true then Action.fail (.of existingTable)
  else do
    installTable (renderRuleset spec)
    captureFingerprint

def revertNat (applied : AppliedNat) : Action R Failure Unit := do
  if (← tableExists .restoring) = false then pure ()
  else do
    let current ← inspectTable .restoring
    if current ≠ applied.fingerprint then Action.fail (.of changedTable)
    else deleteTable

end

structure LinuxNatBackend (R : Type) where
  runner : R

def onNatRunner {R α : Type} (x : Action R Failure α) : Action (LinuxNatBackend R) Failure α :=
  Action.within LinuxNatBackend.runner (fun _ runner => ⟨runner⟩) x

instance {R : Type} [CommandRunner R] [AddressText] : NatBackend (LinuxNatBackend R) where
  apply spec := onNatRunner (applyNat spec)
  revert applied := onNatRunner (revertNat applied)

end Crabnet.ServerNat
