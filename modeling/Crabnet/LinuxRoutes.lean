import Crabnet.JsonValue
import Crabnet.RuntimeConfig

/-! Commands of the operating system, and the routing backend that runs them
(routing/linux.rs). A command also says what it is issued for; the source has no
such argument, and no program sees it. -/
namespace Crabnet.LinuxRoutes
open SessionTypes NetworkTypes Fallible Routing JsonValue

inductive Purpose where
  | installing | restoring
  deriving DecidableEq, Repr

-- What a program prints: a text, or a text that `serde_json` reads as this document.
inductive Output where
  | text (value : String)
  | json (value : Value)
  deriving DecidableEq

def Output.document : Output → Option Value
  | json value => some value
  | text _ => none

structure CommandResult where
  success : Bool
  exitCode : Option Int
  stdout : Output
  stderr : String
  deriving DecidableEq

-- The runner of the routes never passes an input.
class CommandRunner (R : Type) where
  run : Purpose → (program : String) → (args : List String) → (stdin : Option String) → Action R Failure CommandResult

section
variable {R : Type} [CommandRunner R]

def runChecked (purpose : Purpose) (program : String) (args : List String) (stdin : Option String) (action : String) :
    Action R Failure CommandResult := do
  let result ← CommandRunner.run purpose program args stdin
  let stderr := RuntimeConfig.trim result.stderr
  if result.success = false then
    Action.fail (.of (action ++ " failed with exit code " ++ debugOption toString result.exitCode ++ ": " ++
      if stderr = "" then "<no stderr>" else stderr))
  else pure result

end

structure IpRoute where
  dst : Option String
  dev : Option String
  gateway : Option String
  deriving DecidableEq

def routeFields : List String := ["dst", "dev", "gateway"]

def IpRoute.read (v : Value) : Option IpRoute :=
  match derived routeFields v with
  | some [dst, dev, gateway] => do
    let dst ← optionalString dst
    let dev ← optionalString dev
    let gateway ← optionalString gateway
    some ⟨dst, dev, gateway⟩
  | _ => none

inductive ExistingRoute where
  | missing | identical | conflicting
  deriving DecidableEq, Repr

-- Without a requested interface, any interface of the kernel's choice matches.
def routeMatches (route : IpRoute) (gateway interface : Option String) : Bool :=
  route.gateway == gateway && match interface with
    | some interface => route.dev == some interface
    | none => true

section
variable [AddressText]

def destinationMatches (actual : Option String) (expected : IpNet) : Bool :=
  match actual with
  | none => false
  | some actual =>
    if actual = "default" then expected.prefixLen == 0
    else match AddressText.parseNet actual <|> (AddressText.parseAddr actual).map IpNet.ofAddr with
      | some net => net == expected
      | none => false

def classifyExistingRoute (routes : List IpRoute) (destination : IpNet) (gateway : Option IpAddr)
    (interface : Option String) : ExistingRoute :=
  let gateway := gateway.map AddressText.addr
  if routes.isEmpty then .missing
  else
    let identical := routes.any fun route =>
      destinationMatches route.dst destination && routeMatches route gateway interface
    let conflicting := routes.any fun route =>
      destinationMatches route.dst destination && !routeMatches route gateway interface
    if conflicting then .conflicting else if identical then .identical else .missing

def showRouteArgs (destination : IpNet) : List String := ["-j", "route", "show", "exact", AddressText.net destination]

def routeOptions (gateway : Option IpAddr) (interface : Option String) : List String :=
  (match gateway with
    | some gateway => ["via", AddressText.addr gateway]
    | none => []) ++
  match interface with
    | some interface => ["dev", interface]
    | none => []

def routeAddArgs (destination : IpNet) (gateway : Option IpAddr) (interface : Option String) : List String :=
  ["route", "add", AddressText.net destination] ++ routeOptions gateway interface

def routeDeleteArgs (destination : IpNet) (gateway : Option IpAddr) (interface : Option String) : List String :=
  ["route", "del", AddressText.net destination] ++ routeOptions gateway interface

def routeDescription (destination : IpNet) (gateway : Option IpAddr) (interface : Option String) : String :=
  AddressText.net destination ++
    (match gateway with
      | some gateway => " via " ++ AddressText.addr gateway
      | none => "") ++
    match interface with
      | some interface => " dev " ++ interface
      | none => ""

end

def ipv4ForwardingKey : String := "net.ipv4.ip_forward"

def readIpv4ForwardingArgs : List String := ["-n", ipv4ForwardingKey]

def flagText (enabled : Bool) : String := if enabled then "1" else "0"

def writeIpv4ForwardingArgs (enabled : Bool) : List String := ["-w", ipv4ForwardingKey ++ "=" ++ flagText enabled]

-- A document is no number of the kernel's.
def parseIpv4Forwarding [AddressText] (stdout : Output) : Except Failure Bool :=
  let unexpected (value : String) : Failure := .of
    ("unexpected value for " ++ ipv4ForwardingKey ++ ": expected 0 or 1, received " ++ AddressText.quoted value)
  match stdout with
  | .json _ => .error (unexpected "")
  | .text stdout =>
    let value := RuntimeConfig.trim stdout
    if value = "0" then .ok false else if value = "1" then .ok true else .error (unexpected value)

section
variable {R : Type} [CommandRunner R] [AddressText]

def inspectRoute (purpose : Purpose) (destination : IpNet) (gateway : Option IpAddr) (interface : Option String) :
    Action R Failure ExistingRoute := do
  let result ← runChecked purpose "ip" (showRouteArgs destination) none
    ("failed to inspect route " ++ AddressText.net destination)
  match readArray IpRoute.read result.stdout.document with
  | none => Action.fail (.of "failed to parse JSON returned by `ip -j route show`")
  | some routes => pure (classifyExistingRoute routes destination gateway interface)

def readIpv4Forwarding (purpose : Purpose) : Action R Failure Bool := do
  let result ← runChecked purpose "sysctl" readIpv4ForwardingArgs none "failed to read IPv4 forwarding state"
  Action.ofExcept (parseIpv4Forwarding result.stdout)

def writeIpv4Forwarding (purpose : Purpose) (enabled : Bool) : Action R Failure Unit := do
  let _ ← runChecked purpose "sysctl" (writeIpv4ForwardingArgs enabled) none
    ("failed to set IPv4 forwarding to " ++ flagText enabled)
  pure ()

def applyRoute (destination : IpNet) (gateway : Option IpAddr) (interface : Option String) :
    Action R Failure ApplyOutcome := do
  match (← inspectRoute .installing destination gateway interface) with
  | .identical => pure .unchanged
  | .conflicting => Action.fail (.of ("cannot install route " ++ routeDescription destination gateway interface ++
      ": a conflicting route already exists"))
  | .missing => do
    let _ ← runChecked .installing "ip" (routeAddArgs destination gateway interface) none
      ("failed to add route " ++ routeDescription destination gateway interface)
    pure (.applied (.routeAdded destination gateway interface))

def applyIpv4Forwarding (requested : Bool) : Action R Failure ApplyOutcome := do
  let current ← readIpv4Forwarding .installing
  if current = requested then pure .unchanged
  else do
    writeIpv4Forwarding .installing requested
    pure (.applied (.ipv4ForwardingChanged current))

def revertRoute (destination : IpNet) (gateway : Option IpAddr) (interface : Option String) :
    Action R Failure Unit := do
  match (← inspectRoute .restoring destination gateway interface) with
  | .missing => pure ()
  | .conflicting => Action.fail (.of ("refusing to remove route " ++ routeDescription destination gateway interface ++
      ": routing state changed after Crabnet installed it"))
  | .identical => do
    let _ ← runChecked .restoring "ip" (routeDeleteArgs destination gateway interface) none
      ("failed to remove route " ++ routeDescription destination gateway interface)
    pure ()

def revertIpv4Forwarding (previous : Bool) : Action R Failure Unit := do
  let current ← readIpv4Forwarding .restoring
  if current = previous then pure () else writeIpv4Forwarding .restoring previous

end

structure IpRouteLookup where
  gateway : Option String
  dev : Option String

def IpRouteLookup.read (v : Value) : Option IpRouteLookup :=
  match derived ["gateway", "dev"] v with
  | some [gateway, dev] => do
    let gateway ← optionalString gateway
    let dev ← optionalString dev
    some ⟨gateway, dev⟩
  | _ => none

section
variable [AddressText]

def routeGetArgs (destination : IpAddr) : List String := ["-j", "route", "get", AddressText.addr destination]

def parseGateway : Option String → Except Failure (Option IpAddr)
  | none => .ok none
  | some gateway =>
    match AddressText.parseAddr gateway with
    | some address => .ok (some address)
    | none => .error ((Failure.of "invalid IP address syntax").context "route to VPN server contains an invalid gateway")

def parseUnderlayRoute (stdout : Output) (destination : IpAddr) : Except Failure UnderlayRoute :=
  match readArray IpRouteLookup.read stdout.document with
  | none => .error (.of "failed to parse JSON returned by `ip -j route get`")
  | some [] => .error (.of ("no route found to VPN server " ++ AddressText.addr destination))
  | some (route :: _) =>
    match route.dev with
    | none => .error (.of ("route to VPN server " ++ AddressText.addr destination ++ " has no output interface"))
    | some interface => (parseGateway route.gateway).map fun gateway => ⟨gateway, interface⟩

def resolveUnderlayRoute {R : Type} [CommandRunner R] (destination : IpAddr) : Action R Failure UnderlayRoute := do
  let result ← runChecked .installing "ip" (routeGetArgs destination) none
    ("failed to resolve underlay route for " ++ AddressText.addr destination)
  Action.mapError (Failure.context ("failed to parse underlay route for " ++ AddressText.addr destination ++
    " from `ip route get` output")) (Action.ofExcept (parseUnderlayRoute result.stdout destination))

end

structure LinuxRouteBackend (R : Type) where
  runner : R

def onRunner {R α : Type} (x : Action R Failure α) : Action (LinuxRouteBackend R) Failure α :=
  Action.within LinuxRouteBackend.runner (fun _ runner => ⟨runner⟩) x

instance {R : Type} [CommandRunner R] [AddressText] : RouteBackend (LinuxRouteBackend R) where
  apply
    | .addRoute destination gateway interface => onRunner (applyRoute destination gateway interface)
    | .setIpv4Forwarding enabled => onRunner (applyIpv4Forwarding enabled)
  revert
    | .routeAdded destination gateway interface => onRunner (revertRoute destination gateway interface)
    | .ipv4ForwardingChanged previous => onRunner (revertIpv4Forwarding previous)

end Crabnet.LinuxRoutes
