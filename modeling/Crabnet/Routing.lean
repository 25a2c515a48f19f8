import Crabnet.Fallible
import Crabnet.NetworkTypes

/-! Routing intent, its operations, and the manager that owns what a backend
reports as applied (routing/manager.rs). -/
namespace Crabnet.Routing
open SessionTypes NetworkTypes Fallible

structure StaticRoute where
  destination : IpNet
  gateway : Option IpAddr
  interface : Option String
  deriving DecidableEq

structure RoutingConfig where
  protectedRoutes : List IpNet
  serverRoutes : List StaticRoute
  fullTunnel : Bool
  enableForwarding : Bool
  enableNat : Bool
  natEgressInterface : Option String
  deriving DecidableEq

def RoutingConfig.default : RoutingConfig := ⟨[], [], false, false, false, none⟩

inductive RouteOperation where
  | addRoute (destination : IpNet) (gateway : Option IpAddr) (interface : Option String)
  | setIpv4Forwarding (enabled : Bool)
  deriving DecidableEq

inductive AppliedOperation where
  | routeAdded (destination : IpNet) (gateway : Option IpAddr) (interface : Option String)
  | ipv4ForwardingChanged (previous : Bool)
  deriving DecidableEq

inductive ApplyOutcome where
  | applied (operation : AppliedOperation)
  | unchanged
  deriving DecidableEq

def debugOption {α : Type} (debug : α → String) : Option α → String
  | some a => "Some(" ++ debug a ++ ")"
  | none => "None"

def AppliedOperation.debug [AddressText] : AppliedOperation → String
  | routeAdded destination gateway interface =>
    "RouteAdded \x7b destination: " ++ AddressText.net destination ++ ", gateway: " ++
      debugOption AddressText.addr gateway ++ ", interface: " ++ debugOption AddressText.quoted interface ++ " \x7d"
  | ipv4ForwardingChanged previous =>
    "Ipv4ForwardingChanged \x7b previous: " ++ toString previous ++ " \x7d"

class RouteBackend (B : Type) where
  apply : RouteOperation → Action B Failure ApplyOutcome
  revert : AppliedOperation → Action B Failure Unit

structure RouteManager (B : Type) where
  backend : B
  applied : List AppliedOperation

namespace RouteManager
variable {B : Type} [RouteBackend B]

def new (backend : B) : RouteManager B := ⟨backend, []⟩

-- The operations in the order they are popped; the failed ones come back in that order.
def revertAll [AddressText] : List AppliedOperation → B → (List String × List AppliedOperation) × B
  | [], backend => (([], []), backend)
  | operation :: rest, backend =>
    match RouteBackend.revert operation backend with
    | (.ok (), backend) => revertAll rest backend
    | (.error error, backend) =>
      let tail := revertAll rest backend
      (((operation.debug ++ ": " ++ error.display) :: tail.1.1, operation :: tail.1.2), tail.2)

def restore [AddressText] (m : RouteManager B) : Except Failure Unit × RouteManager B :=
  let outcome := revertAll m.applied.reverse m.backend
  (if outcome.1.1 = [] then .ok ()
    else .error (.of ("failed to restore routing state: " ++ "; ".intercalate outcome.1.1)),
    ⟨outcome.2, outcome.1.2.reverse⟩)

def rollback [AddressText] (installError : Failure) (m : RouteManager B) : Except Failure Unit × RouteManager B :=
  match m.restore with
  | (.ok (), m) => (.error installError, m)
  | (.error rollbackError, m) =>
    (.error (installError.context ("route installation rollback also failed: " ++ rollbackError.display)), m)

def applyAll [AddressText] : List RouteOperation → RouteManager B → Except Failure Unit × RouteManager B
  | [], m => (.ok (), m)
  | operation :: rest, m =>
    match RouteBackend.apply operation m.backend with
    | (.ok (.applied applied), backend) => applyAll rest ⟨backend, m.applied ++ [applied]⟩
    | (.ok .unchanged, backend) => applyAll rest {m with backend := backend}
    | (.error installError, backend) => rollback installError {m with backend := backend}

def install [AddressText] (operations : List RouteOperation) (m : RouteManager B) :
    Except Failure Unit × RouteManager B :=
  if m.applied = [] then applyAll operations m
  else (.error (.of "routing state is already installed"), m)

end RouteManager

def addStaticRoute (route : StaticRoute) : RouteOperation :=
  .addRoute route.destination route.gateway route.interface

def serverOperations (config : RoutingConfig) : List RouteOperation :=
  config.serverRoutes.map addStaticRoute ++ if config.enableForwarding then [.setIpv4Forwarding true] else []

def splitTunnelOperations (config : RoutingConfig) (tunName : String) : List RouteOperation :=
  config.protectedRoutes.map fun destination => .addRoute destination none (some tunName)

structure UnderlayRoute where
  gateway : Option IpAddr
  interface : String
  deriving DecidableEq

-- The default routes are the constants "0.0.0.0/0" and "::/0" of the source.
def defaultRoute (tunAddress : IpAddr) : IpNet :=
  if tunAddress.isIpv4 then ⟨.v4 0, 0, Nat.zero_le _⟩ else ⟨.v6 0, 0, Nat.zero_le _⟩

def fullTunnelOperations (tunName : String) (tunAddress serverAddress : IpAddr) (underlay : UnderlayRoute) :
    Except Failure (List RouteOperation) :=
  let endpointPrefix := if serverAddress.isIpv4 then 32 else 128
  match IpNet.new serverAddress endpointPrefix with
  | none => .error (.of "invalid IP prefix length")
  | some endpoint => .ok [.addRoute endpoint underlay.gateway (some underlay.interface),
      .addRoute (defaultRoute tunAddress) none (some tunName)]

end Crabnet.Routing
