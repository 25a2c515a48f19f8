import Crabnet.ServerNetworking
import Crabnet.TunnelCapture

/-! Networking of a client from `Application::bind` to the end of `Application::run`
(application.rs, tun.rs): its TUN, the lookup of the underlay and its routes. A TUN
goes with its last handle and takes its routes along. The legacy client still holds it
when the routes are restored; the Noise-IK runtime has dropped it by then. -/
namespace Crabnet.ClientNetworking
open SessionTypes NetworkTypes Fallible Routing RuntimeConfig JsonValue LinuxRoutes RouteTable HostKernel Reversal ManagerReversal
  KernelRoutes TunnelCapture
open ServerNetworking (restoreRoutes combineRunAndCleanup)

def clientComponent : SecurityMode → String
  | .legacy => "client"
  | .noiseIk => "Noise-IK client"

-- `close` is what the last handle of a device does when it is dropped.
class TunDevices (R : Type) where
  create : TunConfig → Action R Failure Unit
  close : TunConfig → R → R

section
variable {R : Type} [CommandRunner R] [TunDevices R] [AddressText]

def createTun (c : Config) : Action R Failure Unit :=
  Action.mapError (Failure.context (match c.security.mode with
    | .legacy => "failed to create client TUN " ++ c.tun.name
    | .noiseIk => "create Noise-IK client TUN " ++ c.tun.name)) (TunDevices.create c.tun)

def holding {α : Type} (c : Config) (x : Action R Failure α) : Action R Failure α := fun runner =>
  match x runner with
  | (.ok a, runner) => (.ok a, runner)
  | (.error e, runner) => (.error e, TunDevices.close c.tun runner)

/- `endpoint` is the outcome of the rest of the endpoint: the sockets of the legacy
client, which come first, or all of the Noise-IK runtime, which takes the device. -/
def openEndpoint (c : Config) (endpoint : Except Failure Unit) : Action R Failure Unit :=
  match c.security.mode with
  | .legacy => do
    Action.ofExcept endpoint
    createTun c
  | .noiseIk => do
    createTun c
    holding c (Action.ofExcept endpoint)

def installOperations (component : String) (operations : List RouteOperation) : Action R Failure (List AppliedOperation) :=
  fun runner =>
    match RouteManager.install operations (.new (LinuxRouteBackend.mk runner)) with
    | (.ok (), routes) => (.ok routes.applied, routes.backend.runner)
    | (.error e, routes) => (.error (e.context ("failed to install " ++ component ++ " routes")), routes.backend.runner)

def installRoutes (c : Config) (server : IpAddr) : Action R Failure (List AppliedOperation) := do
  let operations ← clientOperations c.tun c.routing server
  installOperations (clientComponent c.security.mode) operations

def bind (c : Config) (server : IpAddr) (endpoint : Except Failure Unit) : Action R Failure (List AppliedOperation) := do
  openEndpoint c endpoint
  holding c (installRoutes c server)

def run (c : Config) (applied : List AppliedOperation) (runResult : Except Failure Unit) : Action R Failure Unit :=
  fun runner =>
    let component := clientComponent c.security.mode
    match c.security.mode with
    | .legacy =>
      let cleanup := restoreRoutes applied runner
      (combineRunAndCleanup component runResult cleanup.1, TunDevices.close c.tun cleanup.2)
    | .noiseIk =>
      let cleanup := restoreRoutes applied (TunDevices.close c.tun runner)
      (combineRunAndCleanup component runResult cleanup.1, cleanup.2)

end

/-! A machine that also looks routes up and has TUN devices. How it makes a device and
what it does when the last handle of one is dropped are its own. -/

structure Site where
  machine : Machine
  create : Nat → TunConfig → NetworkState → Except String NetworkState
  close : TunConfig → NetworkState → NetworkState

structure Host (w : Site) where
  kernel : Kernel w.machine

def Host.state {w : Site} (h : Host w) : NetworkState := h.kernel.state

def onKernel {w : Site} {ε α : Type} (x : Action (Kernel w.machine) ε α) : Action (Host w) ε α :=
  Action.within Host.kernel (fun _ k => ⟨k⟩) x

def entryOf (r : Route Ipv4Addr) : Option Entry := r.dev.map fun dev => ⟨r.dst.net, r.gateway.map IpAddr.v4, dev⟩

section
variable [AddressText] {w : Site}

def getRoute (text : String) (s : NetworkState) : HostEffect :=
  match AddressText.parseAddr text with
  | none => .error "Error: any valid prefix is expected"
  | some address =>
    match lookup address (s.routes.filterMap entryOf) with
    | none => .error "RTNETLINK answers: Network is unreachable"
    | some e => .ok (.json (.array [e.json]), s)

def lookUp (purpose : Purpose) (text : String) : Action (Kernel w.machine) Failure CommandResult := fun k =>
  let later : Kernel w.machine := {k with clock := k.clock + 1}
  let fault := if purpose = .installing then w.machine.fault k.clock else none
  match fault with
  | some (.unspawned reason) => (.error ((Failure.of reason).context "failed to execute `ip`"), later)
  | some (.exited code stderr) => (.ok ⟨false, code, .text "", stderr⟩, later)
  | none =>
    match getRoute text k.state with
    | .ok (stdout, state) => (.ok ⟨true, some 0, stdout, ""⟩, {later with state := state})
    | .error stderr => (.ok ⟨false, some 2, .text "", stderr⟩, later)

@[irreducible] def Host.run (purpose : Purpose) (program : String) (args : List String) (stdin : Option String) :
    Action (Host w) Failure CommandResult :=
  match program, args with
  | "ip", ["-j", "route", "get", text] => onKernel (lookUp purpose text)
  | _, _ => onKernel (Kernel.run purpose program args stdin)

instance : CommandRunner (Host w) where
  run := Host.run

instance : TunDevices (Host w) where
  create tun h :=
    match w.create h.kernel.clock tun h.state with
    | .error reason => (.error (.of reason), h)
    | .ok state => (.ok (), ⟨{h.kernel with state := state}⟩)
  close tun h := ⟨{h.kernel with state := w.close tun h.state}⟩

def NetworkState.without (name : String) (s : NetworkState) : NetworkState :=
  {s with routes := s.routes.filter fun r => decide (r.dev ≠ some name)}

structure Raised (tun : TunConfig) (s t : NetworkState) : Prop where
  unused : ∀ r ∈ s.routes, r.dev ≠ some tun.name
  raised : ∃ connected : List (Route Ipv4Addr), (∀ r ∈ connected, r.dev = some tun.name) ∧
    t = {s with routes := s.routes ++ connected}

/- What is assumed of the devices, which are not part of the program: a name in use is
refused, and a new device comes with routes of its own and takes its routes along. -/
structure LawfulTuns (w : Site) : Prop where
  creates : ∀ clock {tun s t}, w.create clock tun s = .ok t → Raised tun s t
  closes : ∀ tun s, w.close tun s = NetworkState.without tun.name s

theorem ranShow (purpose destination) : CommandRunner.run (R := Host w) purpose "ip" (showRouteArgs destination) none =
    onKernel (Kernel.run purpose "ip" (showRouteArgs destination) none) := by
  change Host.run _ _ _ _ = _
  unfold Host.run
  rfl

theorem ranAdd (purpose destination gateway interface) :
    CommandRunner.run (R := Host w) purpose "ip" (routeAddArgs destination gateway interface) none =
      onKernel (Kernel.run purpose "ip" (routeAddArgs destination gateway interface) none) := by
  change Host.run _ _ _ _ = _
  unfold Host.run
  rfl

theorem ranDelete (purpose destination gateway interface) :
    CommandRunner.run (R := Host w) purpose "ip" (routeDeleteArgs destination gateway interface) none =
      onKernel (Kernel.run purpose "ip" (routeDeleteArgs destination gateway interface) none) := by
  change Host.run _ _ _ _ = _
  unfold Host.run
  rfl

theorem ranGet (purpose destination) : CommandRunner.run (R := Host w) purpose "ip" (routeGetArgs destination) none =
    onKernel (lookUp purpose (AddressText.addr destination)) := by
  change Host.run _ _ _ _ = _
  unfold Host.run
  rfl

variable {h : Host w} {α : Type} {E : Failure → Host w → Prop}

theorem checkedHost {purpose program args action} {Q : CommandResult → Host w → Prop}
    (ran : CommandRunner.run (R := Host w) purpose program args none = onKernel (Kernel.run purpose program args none))
    (done : Action.wp (runChecked (R := Kernel w.machine) purpose program args none action) (fun a k => Q a ⟨k⟩)
      (fun e k => E e ⟨k⟩) h.kernel) : Action.wp (runChecked purpose program args none action) Q E h := by
  change Action.wp (Kernel.run purpose program args none >>= _) _ _ _ at done
  simp only [runChecked, Action.wpBind, ran, onKernel, Action.wpWithin] at done ⊢
  refine Action.wpMono done (fun result k checked => ?_) (fun _ _ failed => failed)
  split at checked
  · rename_i failed
    simp only [failed, if_true, Action.wpFail]
    exact checked
  · rename_i passed
    simp only [passed]
    exact checked

theorem inspectHost {purpose destination gateway interface} {Q : ExistingRoute → Host w → Prop}
    (done : Action.wp (inspectRoute (R := Kernel w.machine) purpose destination gateway interface) (fun a k => Q a ⟨k⟩)
      (fun e k => E e ⟨k⟩) h.kernel) : Action.wp (inspectRoute purpose destination gateway interface) Q E h := by
  simp only [inspectRoute, Action.wpBind] at done ⊢
  refine checkedHost (ranShow purpose destination) (Action.wpMono done (fun result k read => ?_) (fun _ _ failed => failed))
  revert read
  cases readArray IpRoute.read result.stdout.document with
  | none => exact id
  | some routes => exact id

theorem applyHost {destination gateway interface} {Q : ApplyOutcome → Host w → Prop}
    (done : Action.wp (applyRoute (R := Kernel w.machine) destination gateway interface) (fun a k => Q a ⟨k⟩)
      (fun e k => E e ⟨k⟩) h.kernel) : Action.wp (applyRoute destination gateway interface) Q E h := by
  simp only [applyRoute, Action.wpBind] at done ⊢
  refine inspectHost (Action.wpMono done (fun existing k found => ?_) (fun _ _ failed => failed))
  cases existing with
  | identical => exact found
  | conflicting => exact found
  | missing =>
    simp only [Action.wpBind] at found ⊢
    exact checkedHost (h := ⟨k⟩) (ranAdd .installing destination gateway interface) found

theorem revertHost {destination gateway interface} {Q : Unit → Host w → Prop}
    (done : Action.wp (revertRoute (R := Kernel w.machine) destination gateway interface) (fun a k => Q a ⟨k⟩)
      (fun e k => E e ⟨k⟩) h.kernel) : Action.wp (revertRoute destination gateway interface) Q E h := by
  simp only [revertRoute, Action.wpBind] at done ⊢
  refine inspectHost (Action.wpMono done (fun existing k found => ?_) (fun _ _ failed => failed))
  cases existing with
  | missing => exact found
  | conflicting => exact found
  | identical =>
    simp only [Action.wpBind] at found ⊢
    exact checkedHost (h := ⟨k⟩) (ranDelete .restoring destination gateway interface) found

def shownHost (b : LinuxRouteBackend (Host w)) : NetworkState := b.runner.state

def NetworkState.with (s : NetworkState) (r : Route Ipv4Addr) : NetworkState := {s with routes := s.routes ++ [r]}

inductive Grown (origin : NetworkState) : List AppliedOperation → NetworkState → Prop where
  | nil : Grown origin [] origin
  | added {applied s destination gateway interface r} (before : Grown origin applied s)
      (ipv4 : destination.addr.isIpv4 = true) (stores : Stores destination gateway interface r)
      (fresh : ∀ other ∈ s.routes, other.dst.net ≠ destination.trunc) :
    Grown origin (applied ++ [.routeAdded destination gateway interface]) (NetworkState.with s r)

inductive Grows (s : NetworkState) (destination : IpNet) (gateway : Option IpAddr) (interface : Option String) :
    ApplyOutcome → NetworkState → Prop where
  | unchanged (alike : ∀ r ∈ s.routes, r.dst.net = destination →
      routeMatches (Route.reported r) (gateway.map AddressText.addr) interface = true) :
    Grows s destination gateway interface .unchanged s
  | added (r) (stores : Stores destination gateway interface r) (fresh : ∀ other ∈ s.routes, other.dst.net ≠ destination.trunc) :
    Grows s destination gateway interface (.applied (.routeAdded destination gateway interface)) (NetworkState.with s r)

variable [LawfulText Ipv4Addr]

theorem identicalAlike {s : NetworkState} {destination gateway interface}
    (identical : classifyExistingRoute ((listed s.routes destination).map Route.reported) destination gateway interface = .identical) :
    ∀ r ∈ s.routes, r.dst.net = destination →
      routeMatches (Route.reported r) (gateway.map AddressText.addr) interface = true := by
  intro r member same
  have inside : r ∈ listed s.routes destination := by
    refine List.mem_filter.mpr ⟨member, ?_⟩
    rw [decide_eq_true_eq, ← same]
    exact r.dst.canonical.symm
  have found : destinationMatches (Route.reported r).dst destination = true := by
    rw [← same]
    exact destinationSelf r.dst
  have told : Route.reported r ∈ (listed s.routes destination).map Route.reported := List.mem_map.mpr ⟨r, inside, rfl⟩
  unfold classifyExistingRoute at identical
  simp only at identical
  split at identical <;> try contradiction
  split at identical <;> try contradiction
  rename_i calm
  by_contra differs
  rw [Bool.not_eq_true] at differs
  exact calm (List.any_eq_true.mpr ⟨_, told, by rw [found, differs]; rfl⟩)

theorem applyGrows {b : LinuxRouteBackend (Host w)} {destination gateway interface} (ipv4 : destination.addr.isIpv4 = true) :
    Action.wp (RouteBackend.apply (.addRoute destination gateway interface))
      (fun outcome t => Grows (shownHost b) destination gateway interface outcome (shownHost t))
      (fun _ t => shownHost t = shownHost b) b := by
  change Action.wp (onRunner (applyRoute destination gateway interface)) _ _ b
  simp only [onRunner, Action.wpWithin]
  refine applyHost ?_
  simp only [applyRoute, Action.wpBind]
  refine inspected ipv4 ?_ (fun _ e t kept => kept)
  cases found : classifyExistingRoute ((listed b.runner.kernel.state.routes destination).map Route.reported) destination gateway
      interface with
  | identical => exact .unchanged (identicalAlike found)
  | conflicting => exact rfl
  | missing =>
    simp only [Action.wpBind, Action.wpPure]
    refine installRule (fun stdout state ran => ?_) (fun e t kept => kept)
    obtain ⟨r, stores, rfl⟩ := addExecuted ipv4 ran
    exact .added r stores (missingUnlisted (storesCanonical ipv4 stores) found)

theorem storedBack {s : NetworkState} {destination gateway interface} {r : Route Ipv4Addr}
    (ipv4 : destination.addr.isIpv4 = true) (stores : Stores destination gateway interface r)
    (fresh : ∀ other ∈ s.routes, other.dst.net ≠ destination.trunc) :
    TakesBack (shownHost (w := w)) (RouteBackend.revert (.routeAdded destination gateway interface))
      (NetworkState.with s r) s := by
  intro b now
  have back := storedTakenBack (m := w.machine) ipv4 stores fresh ⟨b.runner.kernel⟩ now
  change Action.wp (onRunner (revertRoute destination gateway interface)) _ _ _ at back
  change Action.wp (onRunner (revertRoute destination gateway interface)) _ _ b
  simp only [onRunner, Action.wpWithin] at back ⊢
  exact revertHost back

theorem absentBack {s : NetworkState} {destination : IpNet} {gateway interface} (ipv4 : destination.addr.isIpv4 = true)
    (absent : ∀ r ∈ s.routes, r.dst.net ≠ destination.trunc) :
    TakesBack (shownHost (w := w)) (RouteBackend.revert (.routeAdded destination gateway interface)) s s := by
  intro b now
  change Action.wp (onRunner (revertRoute destination gateway interface)) _ _ b
  simp only [onRunner, Action.wpWithin]
  refine revertHost ?_
  simp only [revertRoute, Action.wpBind]
  refine inspected ipv4 ?_ (by simp)
  have none_ : listed b.runner.kernel.state.routes destination = [] := by
    refine List.filter_eq_nil_iff.mpr ?_
    intro r member
    change b.runner.kernel.state = s at now
    rw [now] at member
    simpa using absent r member
  rw [none_]
  exact now

omit [AddressText] [LawfulText Ipv4Addr] in
theorem withoutMember {s : NetworkState} {name r} :
    r ∈ (NetworkState.without name s).routes ↔ r ∈ s.routes ∧ r.dev ≠ some name := by
  simp [NetworkState.without]

omit [AddressText] [LawfulText Ipv4Addr] in
theorem withoutWith {s : NetworkState} {name r} : NetworkState.without name (NetworkState.with s r) =
    if r.dev = some name then NetworkState.without name s else NetworkState.with (NetworkState.without name s) r := by
  by_cases own : r.dev = some name <;> simp [NetworkState.without, NetworkState.with, own]

theorem grownBack {origin s : NetworkState} {applied} (grown : Grown origin applied s) :
    Unwinds (shownHost (w := w)) RouteBackend.revert applied.reverse s origin := by
  induction grown with
  | nil => exact .nil origin
  | added before ipv4 stores fresh ih =>
    rw [List.reverse_append]
    exact .cons (storedBack ipv4 stores fresh) ih

theorem grownWithoutBack {origin s : NetworkState} {applied} (name : String) (grown : Grown origin applied s) :
    Unwinds (shownHost (w := w)) RouteBackend.revert applied.reverse (NetworkState.without name s)
      (NetworkState.without name origin) := by
  induction grown with
  | nil => exact .nil _
  | @added applied s destination gateway interface r before ipv4 stores fresh ih =>
    have absent : ∀ other ∈ (NetworkState.without name s).routes, other.dst.net ≠ destination.trunc := fun other member =>
      fresh other (withoutMember.mp member).1
    rw [List.reverse_append, withoutWith]
    split
    · exact .cons (absentBack ipv4 absent) ih
    · exact .cons (storedBack ipv4 stores absent) ih

theorem appliesGrown (operations : List RouteOperation)
    (adds : ∀ operation ∈ operations, ∃ destination gateway interface, operation = .addRoute destination gateway interface ∧
      destination.addr.isIpv4 = true) {m : RouteManager (LinuxRouteBackend (Host w))} {origin}
    (grown : Grown origin m.applied (shownHost m.backend)) :
    match RouteManager.applyAll operations m with
    | (.ok (), t) => Grown origin t.applied (shownHost t.backend)
    | (.error _, t) => shownHost t.backend = origin := by
  induction operations generalizing m with
  | nil => exact grown
  | cons operation rest ih =>
    have later := fun operation member => adds operation (List.mem_cons_of_mem _ member)
    obtain ⟨destination, gateway, interface, rfl, ipv4⟩ := adds _ List.mem_cons_self
    have applied := @applyGrows _ w _ m.backend destination gateway interface ipv4
    rw [RouteManager.applyAll]
    rcases ran : RouteBackend.apply (.addRoute destination gateway interface) m.backend with ⟨installError | outcome, backend⟩
    · have kept := Action.wpError applied ran
      have back : Unwinds (shownHost (w := w)) RouteBackend.revert m.applied.reverse (shownHost backend) origin := by
        rw [kept]
        exact grownBack grown
      obtain ⟨t, restored, same⟩ := @restores _ _ _ _ (shownHost (w := w)) {m with backend := backend} origin back
      simp only [RouteManager.rollback, restored]
      exact same
    · have grows := Action.wpOk applied ran
      generalize same : shownHost backend = s at grows
      cases grows with
      | unchanged alike =>
        refine ih later ?_
        change Grown origin m.applied (shownHost backend)
        rw [same]
        exact grown
      | added r stores fresh =>
        refine ih later ?_
        change Grown origin (m.applied ++ [.routeAdded destination gateway interface]) (shownHost backend)
        rw [same]
        exact .added grown ipv4 stores fresh

def AddsRoutes (operations : List RouteOperation) : Prop :=
  ∀ operation ∈ operations, ∃ destination gateway interface, operation = .addRoute destination gateway interface ∧
    destination.addr.isIpv4 = true

theorem installGrows (component : String) {operations : List RouteOperation} (adds : AddsRoutes operations) :
    Action.wp (installOperations component operations) (fun applied t => Grown h.state applied t.state)
      (fun _ t => t.state = h.state) h := by
  have installed := @appliesGrown _ w _ operations adds (.new (LinuxRouteBackend.mk h)) h.state .nil
  unfold Action.wp installOperations
  rw [RouteManager.install, if_pos (show (RouteManager.new (LinuxRouteBackend.mk h)).applied = [] from rfl)]
  revert installed
  rcases RouteManager.applyAll operations (.new (LinuxRouteBackend.mk h)) with ⟨e | ⟨⟩, routes⟩
  · exact id
  · exact id

omit [LawfulText Ipv4Addr] in
theorem restoresBack {applied : List AppliedOperation} {origin}
    (unwinds : Unwinds (shownHost (w := w)) RouteBackend.revert applied.reverse h.state origin) :
    ∃ t, restoreRoutes applied h = (.ok (), t) ∧ t.state = origin := by
  obtain ⟨routes, ran, back⟩ := @restores _ _ _ _ (shownHost (w := w)) ⟨⟨h⟩, applied⟩ origin unwinds
  exact ⟨routes.backend.runner, by rw [restoreRoutes, ran], back⟩

omit [LawfulText Ipv4Addr] in
theorem getRouteKeeps {text : String} {s t : NetworkState} {stdout} (got : getRoute text s = .ok (stdout, t)) : t = s := by
  unfold getRoute at got
  split at got <;> try contradiction
  split at got <;> try contradiction
  cases got
  rfl

omit [LawfulText Ipv4Addr] in
theorem lookUpKeeps (purpose text) (k : Kernel w.machine) :
    Action.wp (lookUp purpose text) (fun _ t => t.state = k.state) (fun _ t => t.state = k.state) k := by
  unfold Action.wp lookUp
  simp only
  generalize (if purpose = .installing then w.machine.fault k.clock else none) = fault
  cases fault with
  | some fault => cases fault <;> simp only
  | none =>
    cases got : getRoute text k.state with
    | error stderr => simp only
    | ok effect =>
      obtain ⟨stdout, t⟩ := effect
      exact getRouteKeeps got

omit [LawfulText Ipv4Addr] in
theorem underlayKeeps (server : IpAddr) :
    Action.wp (resolveUnderlayRoute server) (fun _ t => t.state = h.state) (fun _ t => t.state = h.state) h := by
  simp only [resolveUnderlayRoute, runChecked, Action.wpBind, ranGet, onKernel, Action.wpWithin]
  refine Action.wpMono (lookUpKeeps _ _ h.kernel) (fun result k kept => ?_) (fun _ _ kept => kept)
  split
  · exact kept
  · simp only [Action.wpPure, Action.wpMapError, Action.wpOfExcept]
    split <;> exact kept

def tunnelled (c : Config) : List IpNet :=
  if c.routing.fullTunnel then [defaultRoute c.tun.address] else c.routing.protectedRoutes

structure Planned (c : Config) (operations : List RouteOperation) : Prop where
  adds : AddsRoutes operations
  tunnels : ∀ n ∈ tunnelled c, .addRoute n none (some c.tun.name) ∈ operations

omit [LawfulText Ipv4Addr] in
theorem operationsPlanned {c : Config} {server : IpAddr} (reachable : server.isIpv4 = true)
    (tunnel : c.tun.address.isIpv4 = true) (ipv4 : ∀ n ∈ c.routing.protectedRoutes, n.addr.isIpv4 = true) :
    Action.wp (clientOperations c.tun c.routing server) (fun operations t => Planned c operations ∧ t.state = h.state)
      (fun _ t => t.state = h.state) h := by
  unfold clientOperations
  rw [Action.wpIte]
  refine ⟨fun full => ?_, fun split => ?_⟩
  · simp only [Action.wpBind, Action.wpMapError, Action.wpOfExcept]
    refine Action.wpMono (underlayKeeps server) (fun underlay t kept => ?_) (fun _ _ kept => kept)
    rw [fullTunnelOperations, endpointMade]
    refine ⟨⟨?_, ?_⟩, kept⟩
    · intro operation member
      rcases List.mem_cons.mp member with rfl | last
      · exact ⟨_, _, _, rfl, reachable⟩
      · rw [List.mem_singleton.mp last]
        refine ⟨_, _, _, rfl, ?_⟩
        rw [defaultRoute, if_pos tunnel]
        rfl
    · rw [tunnelled, if_pos full]
      simp
  · refine (Action.wpPure _).mpr ⟨⟨?_, ?_⟩, rfl⟩
    · intro operation member
      obtain ⟨n, protected_, rfl⟩ := List.mem_map.mp member
      exact ⟨_, _, _, rfl, ipv4 n protected_⟩
    · rw [tunnelled, if_neg split]
      intro n protected_
      exact List.mem_map.mpr ⟨n, protected_, rfl⟩

def Holds (c : Config) (origin : NetworkState) (applied : List AppliedOperation) (now : NetworkState) : Prop :=
  ∃ raised, Raised c.tun origin raised ∧ Grown raised applied now

section
variable (lawful : LawfulTuns w)
include lawful

omit [AddressText] [LawfulText Ipv4Addr] in
theorem raisedClosed {tun : TunConfig} {s t : NetworkState} (raised : Raised tun s t) : w.close tun t = s := by
  obtain ⟨unused, connected, named, rfl⟩ := raised
  have own : connected.filter (fun r => decide (r.dev ≠ some tun.name)) = [] := by
    refine List.filter_eq_nil_iff.mpr fun r member => ?_
    simp [named r member]
  have others : s.routes.filter (fun r => decide (r.dev ≠ some tun.name)) = s.routes := by
    refine List.filter_eq_self.mpr fun r member => ?_
    simp [unused r member]
  simp only [lawful.closes, NetworkState.without, List.filter_append, own, others, List.append_nil]

omit [AddressText] [LawfulText Ipv4Addr] in
theorem createRaises (c : Config) :
    Action.wp (createTun c) (fun _ t => Raised c.tun h.state t.state) (fun _ t => t.state = h.state) h := by
  simp only [createTun, Action.wpMapError]
  unfold Action.wp
  simp only [TunDevices.create]
  cases made : w.create h.kernel.clock c.tun h.state with
  | error reason => simp only
  | ok state => exact lawful.creates _ made

omit lawful [AddressText] [LawfulText Ipv4Addr] in
theorem holdingRule {c : Config} {x : Action (Host w) Failure α} {Q : α → Host w → Prop}
    (done : Action.wp x Q (fun e t => E e (TunDevices.close c.tun t)) h) : Action.wp (holding c x) Q E h := by
  unfold Action.wp at done ⊢
  unfold holding
  rcases ran : x h with ⟨e | a, t⟩
  · rw [ran] at done
    exact done
  · rw [ran] at done
    exact done

omit [AddressText] [LawfulText Ipv4Addr] in
theorem openRaises (c : Config) (endpoint : Except Failure Unit) :
    Action.wp (openEndpoint c endpoint) (fun _ t => Raised c.tun h.state t.state) (fun _ t => t.state = h.state) h := by
  unfold openEndpoint
  cases c.security.mode with
  | legacy =>
    simp only [Action.wpBind, Action.wpOfExcept]
    cases endpoint with
    | error e => trivial
    | ok _ => exact createRaises lawful c
  | noiseIk =>
    simp only [Action.wpBind]
    refine Action.wpMono (createRaises lawful c) (fun _ t raised => ?_) (fun _ _ kept => kept)
    refine holdingRule ?_
    simp only [Action.wpOfExcept]
    cases endpoint with
    | error e => exact raisedClosed lawful raised
    | ok _ => exact raised

theorem bindHolds {c : Config} {server : IpAddr} (reachable : server.isIpv4 = true) (tunnel : c.tun.address.isIpv4 = true)
    (ipv4 : ∀ n ∈ c.routing.protectedRoutes, n.addr.isIpv4 = true) (endpoint : Except Failure Unit) :
    Action.wp (bind c server endpoint) (fun applied t => Holds c h.state applied t.state)
      (fun _ t => t.state = h.state) h := by
  simp only [bind, Action.wpBind]
  refine Action.wpMono (openRaises lawful c endpoint) (fun _ t raised => ?_) (fun _ _ kept => kept)
  refine holdingRule ?_
  have closed := raisedClosed lawful raised
  simp only [installRoutes, Action.wpBind]
  refine Action.wpMono (operationsPlanned reachable tunnel ipv4) (fun operations u listed => ?_) (fun _ u kept => ?_)
  · obtain ⟨planned, same⟩ := listed
    refine Action.wpMono (installGrows _ planned.adds) (fun applied v grown => ?_) (fun _ v kept => ?_)
    · rw [same] at grown
      exact ⟨t.state, raised, grown⟩
    · change w.close c.tun v.state = h.state
      rw [kept, same]
      exact closed
  · change w.close c.tun u.state = h.state
    rw [kept]
    exact closed

theorem runReturns {c : Config} {applied : List AppliedOperation} {origin} (holds : Holds c origin applied h.state)
    (runResult : Except Failure Unit) : ∃ t, run c applied runResult h = (runResult, t) ∧ t.state = origin := by
  obtain ⟨raised, device, grown⟩ := holds
  have closed := raisedClosed lawful device
  have combined component : combineRunAndCleanup component runResult (.ok ()) = runResult := by
    cases runResult <;> rfl
  unfold run
  cases c.security.mode with
  | legacy =>
    obtain ⟨t, ran, back⟩ := restoresBack (grownBack grown)
    refine ⟨TunDevices.close c.tun t, ?_, ?_⟩
    · simp only [ran, combined]
    · change w.close c.tun t.state = origin
      rw [back]
      exact closed
  | noiseIk =>
    have lowered := grownWithoutBack (w := w) c.tun.name grown
    rw [← lawful.closes, ← lawful.closes, closed] at lowered
    obtain ⟨t, ran, back⟩ := restoresBack (h := TunDevices.close c.tun h) lowered
    exact ⟨t, by simp only [ran, combined], back⟩

/- A client that cannot be bound leaves the kernel as it was, and one that was bound
leaves it so when it stops, at whatever time and with whatever result. -/
def AllOrNothing (c : Config) (server : IpAddr) (endpoint : Except Failure Unit) (h : Host w) : Prop :=
  match bind c server endpoint h with
  | (.error _, after) => after.state = h.state
  | (.ok applied, after) => ∀ later runResult, ∃ t : Host w,
      run c applied runResult ⟨{after.kernel with clock := later}⟩ = (runResult, t) ∧ t.state = h.state

theorem clientAllOrNothing {c : Config} {server : IpAddr} (reachable : server.isIpv4 = true)
    (tunnel : c.tun.address.isIpv4 = true) (ipv4 : ∀ n ∈ c.routing.protectedRoutes, n.addr.isIpv4 = true)
    (endpoint : Except Failure Unit) (h : Host w) : AllOrNothing c server endpoint h := by
  have bound := bindHolds lawful (h := h) reachable tunnel ipv4 endpoint
  unfold AllOrNothing
  unfold Action.wp at bound
  split at bound
  · rename_i applied after ran
    rw [ran]
    intro later runResult
    exact @runReturns _ w ⟨{after.kernel with clock := later}⟩ _ lawful c applied _ bound runResult
  · rename_i e after ran
    rw [ran]
    exact bound

omit lawful in
theorem appliesAlike (operations : List RouteOperation) (adds : AddsRoutes operations)
    {m t : RouteManager (LinuxRouteBackend (Host w))} (ok : RouteManager.applyAll operations m = (.ok (), t)) :
    ∀ destination gateway interface, .addRoute destination gateway interface ∈ operations →
      ∀ r ∈ (shownHost m.backend).routes, r.dst.net = destination →
        routeMatches (Route.reported r) (gateway.map AddressText.addr) interface = true := by
  induction operations generalizing m with
  | nil => exact fun _ _ _ impossible => absurd impossible List.not_mem_nil
  | cons operation rest ih =>
    obtain ⟨destination, gateway, interface, rfl, ipv4⟩ := adds _ List.mem_cons_self
    have later : AddsRoutes rest := fun operation member => adds operation (List.mem_cons_of_mem _ member)
    have applied := @applyGrows _ w _ m.backend destination gateway interface ipv4
    rw [RouteManager.applyAll] at ok
    rcases ran : RouteBackend.apply (.addRoute destination gateway interface) m.backend with ⟨installError | outcome, backend⟩
    · rw [ran] at ok
      simp only [RouteManager.rollback] at ok
      split at ok <;> cases ok
    · rw [ran] at ok
      have grows := Action.wpOk applied ran
      generalize same : shownHost backend = s at grows
      intro destination' gateway' interface' member r inside fits
      cases grows with
      | unchanged alike =>
        rcases List.mem_cons.mp member with here | further
        · cases here
          exact alike r inside fits
        · refine ih later ok destination' gateway' interface' further r ?_ fits
          change r ∈ (shownHost backend).routes
          rw [same]
          exact inside
      | added r' stores fresh =>
        rcases List.mem_cons.mp member with here | further
        · cases here
          exact absurd (fits ▸ r.dst.canonical.symm) (fresh r inside)
        · refine ih later ok destination' gateway' interface' further r ?_ fits
          change r ∈ (shownHost backend).routes
          rw [same]
          exact List.mem_append_left _ inside

omit lawful in
theorem installRefused {component operations} {c : Config} {r : Route Ipv4Addr} (planned : Planned c operations)
    (inside : r ∈ h.state.routes) (wanted : r.dst.net ∈ tunnelled c) (other : r.dev ≠ some c.tun.name) :
    Action.wp (installOperations component operations) (fun _ _ => False) (fun _ _ => True) h := by
  unfold Action.wp installOperations
  rw [RouteManager.install, if_pos (show (RouteManager.new (LinuxRouteBackend.mk h)).applied = [] from rfl)]
  rcases ran : RouteManager.applyAll operations (.new (LinuxRouteBackend.mk h)) with ⟨e | ⟨⟩, routes⟩
  · exact trivial
  · have alike := appliesAlike operations planned.adds ran _ _ _ (planned.tunnels _ wanted) r inside rfl
    simp [routeMatches, Route.reported, other] at alike

/- A route that is already there is never replaced: a client that would route its
destination into the tunnel cannot be bound, and leaves it as it was. -/
theorem routesKept {c : Config} {server : IpAddr} (reachable : server.isIpv4 = true)
    (tunnel : c.tun.address.isIpv4 = true) (ipv4 : ∀ n ∈ c.routing.protectedRoutes, n.addr.isIpv4 = true)
    (endpoint : Except Failure Unit) (h : Host w) {r : Route Ipv4Addr} (inside : r ∈ h.state.routes)
    (wanted : r.dst.net ∈ tunnelled c) : ∃ e t, bind c server endpoint h = (.error e, t) ∧ t.state = h.state := by
  have refused : Action.wp (bind c server endpoint) (fun _ _ => False) (fun _ _ => True) h := by
    simp only [bind, Action.wpBind]
    refine Action.wpMono (openRaises lawful c endpoint) (fun _ t raised => ?_) (fun _ _ _ => trivial)
    obtain ⟨unused, connected, _, raised⟩ := raised
    refine holdingRule ?_
    simp only [installRoutes, Action.wpBind]
    refine Action.wpMono (operationsPlanned reachable tunnel ipv4) (fun operations u listed => ?_) (fun _ _ _ => trivial)
    obtain ⟨planned, same⟩ := listed
    refine installRefused (c := c) planned ?_ wanted (unused r inside)
    rw [same, raised]
    exact List.mem_append_left _ inside
  have bound := bindHolds lawful (h := h) reachable tunnel ipv4 endpoint
  rcases ran : bind c server endpoint h with ⟨e | applied, t⟩
  · have kept := Action.wpError bound ran
    exact ⟨e, t, rfl, kept⟩
  · exact (Action.wpOk refused ran).elim

end
end

section Dotted
open ServerNetworking (dotted dottedLawful tickingMachine)

def connectedRoutes (tun : TunConfig) : List (Route Ipv4Addr) :=
  match IpNet.new tun.address tun.prefixLen.toNat with
  | none => []
  | some n => if ipv4 : serves Ipv4Addr n.addr = true then [⟨.of n ipv4, none, some tun.name, noAttributes⟩] else []

theorem connectedNamed (tun : TunConfig) : ∀ r ∈ connectedRoutes tun, r.dev = some tun.name := by
  intro r member
  unfold connectedRoutes at member
  split at member
  · cases member
  · split at member
    · rw [List.mem_singleton.mp member]
    · cases member

def raise (tun : TunConfig) (s : NetworkState) : Except String NetworkState :=
  if s.routes.any fun r => decide (r.dev = some tun.name) then .error "Device or resource busy (os error 16)"
  else .ok {s with routes := s.routes ++ connectedRoutes tun}

def home (fault : Nat → Option Fault) : Site :=
  ⟨tickingMachine fault, fun _ => raise, fun tun => NetworkState.without tun.name⟩

theorem homeLawful (fault : Nat → Option Fault) : LawfulTuns (home fault) := by
  refine ⟨fun _ {tun s t} made => ?_, fun _ _ => rfl⟩
  change raise tun s = .ok t at made
  unfold raise at made
  split at made <;> try contradiction
  rename_i unused
  cases made
  refine ⟨fun r member named => unused ?_, connectedRoutes tun, connectedNamed tun, rfl⟩
  exact List.any_eq_true.mpr ⟨r, member, decide_eq_true named⟩

def lanRoute : Route Ipv4Addr := ⟨⟨(IpNet.new (.v4 0xC0000200) 24).get rfl, rfl, rfl⟩, none, some "eth0", noAttributes⟩
def uplink : Route Ipv4Addr := ⟨⟨defaultRoute (.v4 0xC0000202), rfl, rfl⟩, some 0xC0000201, some "eth0", noAttributes⟩

def secondUnadded (clock : Nat) : Option Fault := if clock = 4 then some (.exited (some 2) "") else none

def homeHost (fault : Nat → Option Fault) (routes : List (Route Ipv4Addr)) : Host (home fault) := ⟨⟨⟨routes, 0, []⟩, 0⟩⟩

def fullClient (mode : SecurityMode) : Config := {homeClient 0xC0000202 true with security := {SecurityConfig.default with mode := mode}}

def bindHome (mode : SecurityMode) (fault : Nat → Option Fault) (routes : List (Route Ipv4Addr)) :
    Except Failure (List AppliedOperation) × Host (home fault) :=
  letI := dotted
  bind (fullClient mode) (.v4 0xC0000202) (.ok ()) (homeHost fault routes)

theorem clientAllOrNothingHome :
    (bindHome .noiseIk (fun _ => none) [lanRoute]).1.isOk = true ∧
    @AllOrNothing dotted (home fun _ => none) (fullClient .noiseIk) (.v4 0xC0000202) (.ok ()) (homeHost _ [lanRoute]) ∧
    (bindHome .legacy secondUnadded [lanRoute]).1.isOk = false ∧
    @AllOrNothing dotted (home secondUnadded) (fullClient .legacy) (.v4 0xC0000202) (.ok ()) (homeHost _ [lanRoute]) := by
  have ipv4 mode : ∀ n ∈ (fullClient mode).routing.protectedRoutes, n.addr.isIpv4 = true := by
    intro n member
    cases member
  refine ⟨by decide +kernel, ?_, by decide +kernel, ?_⟩
  · exact @clientAllOrNothing dotted _ dottedLawful (homeLawful _) _ _ rfl rfl (ipv4 .noiseIk) _ _
  · exact @clientAllOrNothing dotted _ dottedLawful (homeLawful _) _ _ rfl rfl (ipv4 .legacy) _ _

theorem routesKeptHome : ∃ e t, bindHome .legacy (fun _ => none) [uplink, lanRoute] = (.error e, t) ∧
    t.state.routes = [uplink, lanRoute] := by
  have ipv4 : ∀ n ∈ (fullClient .legacy).routing.protectedRoutes, n.addr.isIpv4 = true := by
    intro n member
    cases member
  obtain ⟨e, t, ran, kept⟩ := @routesKept dotted (home fun _ => none) dottedLawful (homeLawful _) (fullClient .legacy)
    (.v4 0xC0000202) rfl rfl ipv4 (.ok ()) (homeHost _ [uplink, lanRoute]) uplink List.mem_cons_self
    (List.mem_singleton.mpr rfl)
  exact ⟨e, t, ran, by rw [kept]; rfl⟩

end Dotted
end Crabnet.ClientNetworking
