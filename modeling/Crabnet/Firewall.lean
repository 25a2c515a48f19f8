import Mathlib.Data.Prod.Lex
import Mathlib.Data.String.Basic
import Crabnet.LinuxRoutes

/-! The advice on the host's firewall that a server gives before it changes the host
(firewall/diagnostics.rs, firewall/linux.rs): the base chains of nftables that see
forwarded IPv4 packets, by their default policies. -/
namespace Crabnet.Firewall
open SessionTypes NetworkTypes Fallible JsonValue RuntimeConfig Routing LinuxRoutes

structure FirewallDiagnosticContext where
  sourceNetwork : IpNet
  inputInterface : String
  outputInterfaces : List String
  deriving DecidableEq

inductive FirewallFamily where
  | ip | inet
  deriving DecidableEq, Repr

inductive BaseChainPolicy where
  | accept | implicitAccept | drop
  | unknown (text : String)
  deriving DecidableEq, Repr

structure ForwardBaseChain where
  family : FirewallFamily
  table : String
  chain : String
  policy : BaseChainPolicy
  deriving DecidableEq, Repr

inductive FirewallAssessment where
  | noForwardHookObserved | noDefaultDropObserved | defaultDropObserved | inconclusive
  deriving DecidableEq, Repr

inductive FirewallCaveat where
  | rulesNotEvaluated | legacyIptablesNotInspected | otherFilteringSystemsNotInspected | outputInterfaceIncomplete
  deriving DecidableEq, Repr

structure FirewallDiagnosticReport where
  assessment : FirewallAssessment
  forwardChains : List ForwardBaseChain
  caveats : List FirewallCaveat
  deriving DecidableEq

/-! The derived order of chains: field by field, and the variants as declared. -/

def FirewallFamily.rank : FirewallFamily → Nat
  | ip => 0
  | inet => 1

def BaseChainPolicy.rank : BaseChainPolicy → Nat × String
  | accept => (0, "")
  | implicitAccept => (1, "")
  | drop => (2, "")
  | unknown text => (3, text)

def ForwardBaseChain.rank (c : ForwardBaseChain) : Nat ×ₗ String ×ₗ String ×ₗ Nat ×ₗ String :=
  toLex (c.family.rank, toLex (c.table, toLex (c.chain, toLex c.policy.rank)))

def ForwardBaseChain.le (a b : ForwardBaseChain) : Bool := decide (a.rank ≤ b.rank)

def sort (chains : List ForwardBaseChain) : List ForwardBaseChain := chains.mergeSort ForwardBaseChain.le

structure NftChain where
  family : String
  table : String
  name : String
  chainType : Option String
  hook : Option String
  policy : Option String
  deriving DecidableEq

def chainFields : List String := ["family", "table", "name", "type", "hook", "policy"]

def NftChain.read (v : Value) : Option NftChain :=
  match derived chainFields v with
  | some [family, table, name, chainType, hook, policy] => do
    let family ← requiredString family
    let table ← requiredString table
    let name ← requiredString name
    let chainType ← optionalString chainType
    let hook ← optionalString hook
    let policy ← optionalString policy
    some ⟨family, table, name, chainType, hook, policy⟩
  | _ => none

def NftObject.read (v : Value) : Option (Option NftChain) :=
  match derived ["chain"] v with
  | some [none] | some [some .null] => some none
  | some [some chain] => (NftChain.read chain).map some
  | _ => none

def NftChainListing.read (document : Option Value) : Option (List (Option NftChain)) :=
  match document.bind (derived ["nftables"]) with
  | some [nftables] => readArray NftObject.read nftables
  | _ => none

def isIpv4ForwardBaseChain (chain : NftChain) : Bool :=
  (chain.family == "ip" || chain.family == "inet") && chain.hook == some "forward" && chain.chainType == some "filter"

-- The lower case of a text, by the tables of the standard library.
class Lowercase where
  toLowercase : String → String

section
variable [Lowercase]

def classifyPolicy : Option String → BaseChainPolicy
  | some policyValue =>
    let lowercasePolicy := Lowercase.toLowercase policyValue
    if lowercasePolicy = "accept" then .accept
    else if lowercasePolicy = "drop" then .drop
    else .unknown lowercasePolicy
  | none => .implicitAccept

def forwardBaseChain (chain : NftChain) : Option ForwardBaseChain :=
  if isIpv4ForwardBaseChain chain then
    if chain.family = "inet" then some ⟨.inet, chain.table, chain.name, classifyPolicy chain.policy⟩
    else if chain.family = "ip" then some ⟨.ip, chain.table, chain.name, classifyPolicy chain.policy⟩
    else none
  else none

def parseForwardBaseChains (json : Output) : Except Failure (List ForwardBaseChain) :=
  match NftChainListing.read json.document with
  | none => .error (.of "failed to parse JSON returned from nft -j list chains")
  | some chains => .ok (sort (chains.filterMap fun object => object.bind forwardBaseChain))

end

def BaseChainPolicy.isUnknown : BaseChainPolicy → Bool
  | unknown _ => true
  | accept | implicitAccept | drop => false

def assessForwardChains (chains : List ForwardBaseChain) : FirewallAssessment :=
  if chains = [] then .noForwardHookObserved
  else if chains.any fun chain => chain.policy.isUnknown then .inconclusive
  else if chains.any fun chain => chain.policy == .drop then .defaultDropObserved
  else .noDefaultDropObserved

structure FirewallCommandResult where
  success : Bool
  exitCode : Option Int
  stdout : Output
  stderr : String
  deriving DecidableEq

-- A command that has not ended within the limit is killed and gives no result.
class FirewallCommandRunner (R : Type) where
  run : Duration → (program : String) → (args : List String) → R → Option (Except Failure FirewallCommandResult) × R

-- At most `digits` decimal digits of a fraction, without the zeros at its end.
def fractionDigits : (digits : Nat) → (part : Nat) → List Char
  | 0, _ => []
  | digits + 1, part =>
    if part = 0 then [] else Nat.digitChar (part / 10 ^ digits) :: fractionDigits digits (part % 10 ^ digits)

def debugDecimal (whole part digits : Nat) (unit : String) : String :=
  toString whole ++ (if part = 0 then "" else "." ++ .ofList (fractionDigits digits part)) ++ unit

def debugDuration (d : Duration) : String :=
  if 1000000000 ≤ d then debugDecimal (d / 1000000000) (d % 1000000000) 9 "s"
  else if 1000000 ≤ d then debugDecimal (d / 1000000) (d % 1000000) 6 "ms"
  else if 1000 ≤ d then debugDecimal (d / 1000) (d % 1000) 3 "µs"
  else debugDecimal d 0 0 "ns"

example : debugDuration 2000000000 = "2s" ∧ debugDuration 1050000 = "1.05ms" := by decide

section
variable {R : Type} [FirewallCommandRunner R]

def inspectChains (limit : Duration) (r : R) : Option (Except Failure Output) × R :=
  let (ended, r) := FirewallCommandRunner.run limit "nft" ["-j", "list", "chains"] r
  match ended with
  | none => (none, r)
  | some (.error e) => (some (.error (e.context "failed to execute nftables firewall inspection")), r)
  | some (.ok result) =>
    let stderr := RuntimeConfig.trim result.stderr
    if result.success = false then
      (some (.error (.of ("`nft -j list chains` exited unsuccessfully with status " ++
        debugOption toString result.exitCode ++ ": " ++ if stderr = "" then "<no stderr>" else stderr))), r)
    else (some (.ok result.stdout), r)

def caveats (context : FirewallDiagnosticContext) : List FirewallCaveat :=
  [.rulesNotEvaluated, .legacyIptablesNotInspected, .otherFilteringSystemsNotInspected] ++
    if context.outputInterfaces = [] then [.outputInterfaceIncomplete] else []

def diagnose [Lowercase] (timeout : Duration) (context : FirewallDiagnosticContext) :
    Action R Failure FirewallDiagnosticReport := fun r =>
  match inspectChains timeout r with
  | (some (.ok rawChains), r) =>
    match parseForwardBaseChains rawChains with
    | .error e => (.error e, r)
    | .ok chains => (.ok ⟨assessForwardChains chains, chains, caveats context⟩, r)
  | (some (.error e), r) =>
    (.error (.of ("failed to inspect firewall for TUN interface " ++ context.inputInterface ++ ": " ++ e.display)), r)
  | (none, r) =>
    (.error (.of ("firewall inspection for TUN interface " ++ context.inputInterface ++ " exceeded " ++
      debugDuration timeout)), r)

end

def ordered (texts : List String) : List String := texts.dedup.mergeSort fun a b => decide (a ≤ b)

def outputInterfaces (routing : RoutingConfig) : List String :=
  ordered (routing.natEgressInterface.toList ++ routing.serverRoutes.filterMap fun route => route.interface)

def buildDiagnosticContext (tun : TunConfig) (routing : RoutingConfig) : Except Failure (Option FirewallDiagnosticContext) :=
  if routing.enableForwarding = false then .ok none
  else match tun.address with
    | .v6 _ => .error (.of "firewall diagnostics currently support only IPv4 forwarding")
    | .v4 address =>
      match IpNet.new (.v4 address) tun.prefixLen.toNat with
      | none => .error (.of "invalid tun address")
      | some network => .ok (some ⟨network.trunc, tun.name, outputInterfaces routing⟩)

inductive Level where
  | debug | info | warn
  deriving DecidableEq, Repr

inductive LogLine where
  | noForwardChain | noDefaultDrop | allowRulesNeeded | unclassified
  | observedChain (chain : ForwardBaseChain)
  | expectedPath (context : FirewallDiagnosticContext)
  | caveat (caveat : FirewallCaveat)
  | contextNotBuilt (error : Failure)
  | diagnosticsFailed (error : Failure)
  deriving DecidableEq

def caveatLevel : FirewallCaveat → Level
  | .rulesNotEvaluated | .legacyIptablesNotInspected | .otherFilteringSystemsNotInspected => .debug
  | .outputInterfaceIncomplete => .warn

def observedChains (report : FirewallDiagnosticReport) : List (Level × LogLine) :=
  report.forwardChains.map fun chain => (.debug, .observedChain chain)

def logFirewallReport (context : FirewallDiagnosticContext) (report : FirewallDiagnosticReport) : List (Level × LogLine) :=
  (match report.assessment with
    | .noForwardHookObserved => [(.info, .noForwardChain)]
    | .noDefaultDropObserved => [(.info, .noDefaultDrop)]
    | .defaultDropObserved => (.warn, .allowRulesNeeded) :: (observedChains report ++ [(.warn, .expectedPath context)])
    | .inconclusive => (.warn, .unclassified) :: observedChains report) ++
  report.caveats.map fun caveat => (caveatLevel caveat, .caveat caveat)

def inspectionTimeout : Duration := 2000000000

/- The result is what is logged, and the server starts whatever it is. -/
def runServerFirewallDiagnostics {R : Type} [FirewallCommandRunner R] [Lowercase] (tun : TunConfig) (routing : RoutingConfig)
    (r : R) : List (Level × LogLine) × R :=
  match buildDiagnosticContext tun routing with
  | .ok none => ([], r)
  | .error e => ([(.warn, .contextNotBuilt e)], r)
  | .ok (some context) =>
    match diagnose inspectionTimeout context r with
    | (.ok report, r) => (logFirewallReport context report, r)
    | (.error e, r) => ([(.warn, .diagnosticsFailed e)], r)

end Crabnet.Firewall
