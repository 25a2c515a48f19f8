import Crabnet.AcceptedConfig
import Crabnet.KernelNat

/-! Networking of a server as `Application::bind` installs it and `Application::run`
takes it down again (application.rs): NAT first, then routes and forwarding. The
endpoint that is bound and run in between touches nothing of it, and its outcomes are
arguments here. -/
namespace Crabnet.ServerNetworking
open SessionTypes NetworkTypes Fallible Routing RuntimeConfig AcceptedConfig JsonValue LinuxRoutes RouteTable ServerNat HostKernel Reversal
  ManagerReversal KernelRoutes KernelNat

def serverComponent : SecurityMode → String
  | .legacy => "server"
  | .noiseIk => "Noise-IK server"

structure Networking where
  routes : List AppliedOperation
  nat : Option AppliedNat
  deriving DecidableEq

def combineCleanupResults (firstComponent : String) (first : Except Failure Unit) (secondComponent : String)
    (second : Except Failure Unit) : Except Failure Unit :=
  match first, second with
  | .ok (), .ok () => .ok ()
  | .error error, .ok () => .error (error.context (firstComponent ++ " cleanup failed"))
  | .ok (), .error error => .error (error.context (secondComponent ++ " cleanup failed"))
  | .error firstError, .error secondError => .error (firstError.context
      (firstComponent ++ " cleanup failed; " ++ secondComponent ++ " cleanup also failed: " ++ secondError.display))

def combineRunAndCleanup (component : String) (runResult cleanupResult : Except Failure Unit) : Except Failure Unit :=
  match runResult, cleanupResult with
  | .ok (), .ok () => .ok ()
  | .error runError, .ok () => .error runError
  | .ok (), .error cleanupError =>
    .error (cleanupError.context (component ++ " stopped but network cleanup failed"))
  | .error runError, .error cleanupError => .error (runError.context
      (component ++ " also failed to clean up network state: " ++ cleanupError.display))

section
variable {R : Type} [CommandRunner R] [AddressText]

def installNat (component : String) (spec : Option NatSpec) : Action R Failure (Option AppliedNat) := fun runner =>
  match spec with
  | none => (.ok none, runner)
  | some spec =>
    match NatManager.install spec (.new (LinuxNatBackend.mk runner)) with
    | (.ok (), nat) => (.ok nat.applied, nat.backend.runner)
    | (.error e, nat) => (.error (e.context ("failed to configure " ++ component ++ " NAT")), nat.backend.runner)

def restoreNat (applied : Option AppliedNat) : Action R Failure Unit := fun runner =>
  let outcome := NatManager.restore ⟨LinuxNatBackend.mk runner, applied⟩
  (outcome.1, outcome.2.backend.runner)

def restoreRoutes (applied : List AppliedOperation) : Action R Failure Unit := fun runner =>
  let outcome := RouteManager.restore ⟨LinuxRouteBackend.mk runner, applied⟩
  (outcome.1, outcome.2.backend.runner)

-- Routes that cannot be installed take the NAT down with them.
def installRoutes (component : String) (operations : List RouteOperation) (nat : Option AppliedNat) :
    Action R Failure Networking := fun runner =>
  match RouteManager.install operations (.new (LinuxRouteBackend.mk runner)) with
  | (.ok (), routing) => (.ok ⟨routing.applied, nat⟩, routing.backend.runner)
  | (.error routingError, routing) =>
    match restoreNat nat routing.backend.runner with
    | (.ok (), runner) => (.error (routingError.context ("failed to configure " ++ component ++ " networking")), runner)
    | (.error natError, runner) => (.error (routingError.context ("failed to configure " ++ component ++
        " networking; NAT rollback also failed: " ++ natError.display)), runner)

def bind (c : Config) (endpoint : Except Failure Unit) : Action R Failure Networking := do
  let natSpec ← Action.ofExcept (buildNatSpec c.tun c.routing)
  let _ ← Action.ofExcept endpoint
  let nat ← installNat (serverComponent c.security.mode) natSpec
  installRoutes (serverComponent c.security.mode) (serverOperations c.routing) nat

def run (c : Config) (networking : Networking) (runResult : Except Failure Unit) : Action R Failure Unit := fun runner =>
  let component := serverComponent c.security.mode
  let routingCleanup := restoreRoutes networking.routes runner
  let natCleanup := restoreNat networking.nat routingCleanup.2
  let cleanupResult := combineCleanupResults (component ++ " routing") routingCleanup.1 (component ++ " NAT") natCleanup.1
  (combineRunAndCleanup component runResult cleanupResult, natCleanup.2)

end

theorem byteEncoded {name : String} {c : Char} (member : c ∈ name.toList) {byte : UInt8}
    (encodes : byte ∈ String.utf8EncodeChar c) : byte ∈ utf8 name := by
  unfold utf8
  rw [String.toUTF8_eq_toByteArray, ← String.utf8Encode_toList, List.utf8Encode]
  simp only [List.data_toByteArray, List.mem_flatMap]
  exact ⟨c, member, encodes⟩

theorem nameSolid {field name : String} (ok : validateNftInterfaceName field name = .ok ()) : Solid name := by
  have bytes := ensured (checked (checked ok).2).2
  rw [List.all_eq_true] at bytes
  intro c member
  refine ⟨?_, ?_⟩
  · rintro rfl
    exact absurd (bytes 32 (byteEncoded member (by decide))) (by decide)
  · rintro rfl
    exact absurd (bytes 10 (byteEncoded member (by decide))) (by decide)

theorem validServer [AddressText] [KeyFiles] {c : Config} {bindAddr} (server : c.mode = .server bindAddr)
    (valid : c.validate = .ok ()) : validateNat c = .ok () := by
  have routing := (checked (checked (checked valid).2).2).2
  rw [server] at routing
  exact (checked (checked routing).2).2

theorem networkTruncated {n : IpNet} (ipv4 : n.addr.isIpv4 = true) : n.trunc.addr.isIpv4 = true := by
  cases address : n.addr with
  | v4 bits => simp [IpNet.trunc, address, IpAddr.network, IpAddr.isIpv4]
  | v6 bits => simp [address, IpAddr.isIpv4] at ipv4

theorem specWorded [AddressText] [UnbrokenText] {c : Config} {spec : NatSpec} (valid : validateNat c = .ok ())
    (built : buildNatSpec c.tun c.routing = .ok (some spec)) : Worded spec := by
  unfold buildNatSpec at built
  split at built
  · cases built
  rename_i enabled
  rw [Bool.not_eq_false] at enabled
  rw [validateNat, if_pos enabled] at valid
  obtain ⟨tun, named⟩ := checked (checked (checked (checked valid).2).2).2
  obtain ⟨egress, found, last⟩ := obtained named
  split at built <;> try contradiction
  rename_i address _
  rw [requiredSome found] at built
  simp only at built
  split at built <;> try contradiction
  rename_i network made
  cases built
  refine ⟨nameSolid tun, nameSolid (checked last).1, UnbrokenText.unbroken _ ?_⟩
  refine networkTruncated ?_
  unfold IpNet.new at made
  split at made <;> try contradiction
  cases made
  rfl

section
variable [AddressText] {m : Machine}

-- What is recorded leads back to `origin`: the routes first, then the NAT.
def Returns (m : Machine) (networking : Networking) (now origin : NetworkState) : Prop :=
  ∃ middle, Unwinds (shown (m := m)) RouteBackend.revert networking.routes.reverse now middle ∧
    Kept (natShown (m := m)) networking.nat middle origin

theorem natTakenBack {applied : Option AppliedNat} {k : Kernel m} {origin}
    (kept : Kept (natShown (m := m)) applied k.state origin) :
    ∃ t, restoreNat applied k = (.ok (), t) ∧ t.state = origin := by
  obtain ⟨nat, ran, back⟩ := @natRestores _ _ _ (natShown (m := m)) ⟨⟨k⟩, applied⟩ origin kept
  exact ⟨nat.backend.runner, by rw [restoreNat, ran], back⟩

theorem routesTakenBack {applied : List AppliedOperation} {k : Kernel m} {origin}
    (unwinds : Unwinds (shown (m := m)) RouteBackend.revert applied.reverse k.state origin) :
    ∃ t, restoreRoutes applied k = (.ok (), t) ∧ t.state = origin := by
  obtain ⟨routing, ran, back⟩ := @restores _ _ _ _ (shown (m := m)) ⟨⟨k⟩, applied⟩ origin unwinds
  exact ⟨routing.backend.runner, by rw [restoreRoutes, ran], back⟩

theorem runReturns {networking : Networking} {k : Kernel m} {origin} (returns : Returns m networking k.state origin)
    (c : Config) (runResult : Except Failure Unit) :
    ∃ t, run c networking runResult k = (runResult, t) ∧ t.state = origin := by
  obtain ⟨middle, routes, nat⟩ := returns
  obtain ⟨t, routesBack, rfl⟩ := routesTakenBack routes
  obtain ⟨u, natBack, origin⟩ := natTakenBack nat
  refine ⟨u, ?_, origin⟩
  simp only [run, routesBack, natBack, combineCleanupResults]
  cases runResult with
  | error e => rfl
  | ok _ => rfl

theorem natInstalled {spec : Option NatSpec} (worded : ∀ s, spec = some s → Worded s) (component : String) (k : Kernel m) :
    Action.wp (installNat component spec) (fun nat t => Kept (natShown (m := m)) nat t.state k.state)
      (fun _ t => t.state = k.state) k := by
  unfold Action.wp installNat
  cases spec with
  | none => rfl
  | some spec =>
    have installed := natInstalls (natReverses (m := m) (worded spec rfl)) ⟨k⟩
    simp only
    rcases ran : NatManager.install spec (.new (LinuxNatBackend.mk k)) with ⟨e | ⟨⟩, nat⟩
    · rw [ran] at installed
      exact installed
    · rw [ran] at installed
      exact installed

theorem routesInstalled {operations : List RouteOperation}
    (reverses : ∀ operation ∈ operations, OperationReverses (shown (m := m)) operation) {nat : Option AppliedNat}
    {k : Kernel m} {origin} (kept : Kept (natShown (m := m)) nat k.state origin) (component : String) :
    Action.wp (installRoutes component operations nat) (fun networking t => Returns m networking t.state origin)
      (fun _ t => t.state = origin) k := by
  have installed := installs reverses ⟨k⟩
  unfold Action.wp installRoutes
  revert installed
  rcases RouteManager.install operations (.new (LinuxRouteBackend.mk k)) with ⟨e | ⟨⟩, routing⟩
  · intro unchanged
    change routing.backend.runner.state = k.state at unchanged
    rw [← unchanged] at kept
    obtain ⟨t, ran, back⟩ := natTakenBack kept
    simp only [ran]
    exact back
  · intro recorded
    exact ⟨k.state, recorded, kept⟩

theorem operationsReverse [UnbrokenText] {routing : RoutingConfig}
    (ipv4 : ∀ route ∈ routing.serverRoutes, route.destination.addr.isIpv4 = true) :
    ∀ operation ∈ serverOperations routing, OperationReverses (shown (m := m)) operation := by
  intro operation member
  rcases List.mem_append.mp member with added | flag
  · obtain ⟨route, configured, rfl⟩ := List.mem_map.mp added
    exact routeReverses (ipv4 route configured)
  · split at flag
    · rw [List.mem_singleton.mp flag]
      exact flagReverses true
    · cases flag

theorem bindReturns [UnbrokenText] [KeyFiles] {c : Config} {bindAddr} (server : c.mode = .server bindAddr)
    (valid : c.validate = .ok ()) (ipv4 : ∀ route ∈ c.routing.serverRoutes, route.destination.addr.isIpv4 = true)
    (endpoint : Except Failure Unit) (k : Kernel m) :
    Action.wp (bind c endpoint) (fun networking t => Returns m networking t.state k.state)
      (fun _ t => t.state = k.state) k := by
  simp only [bind, Action.wpBind, Action.wpOfExcept]
  cases built : buildNatSpec c.tun c.routing with
  | error e => trivial
  | ok spec =>
    cases endpoint with
    | error e => trivial
    | ok bound =>
      have worded : ∀ s, spec = some s → Worded s := by
        rintro s rfl
        exact specWorded (validServer server valid) built
      refine Action.wpMono (natInstalled worded _ k) (fun nat t kept => ?_) (fun _ _ unchanged => unchanged)
      exact routesInstalled (operationsReverse ipv4) kept _

/- Networking that cannot be installed leaves the kernel as it was, and networking
that was installed leaves it so when the endpoint stops, at whatever time and with
whatever result. -/
def AllOrNothing (c : Config) (endpoint : Except Failure Unit) (k : Kernel m) : Prop :=
  match bind c endpoint k with
  | (.error _, after) => after.state = k.state
  | (.ok networking, after) => ∀ later runResult, ∃ t : Kernel m,
      run c networking runResult {after with clock := later} = (runResult, t) ∧ t.state = k.state

theorem networkingAllOrNothing [UnbrokenText] [KeyFiles] {c : Config} {bindAddr} (server : c.mode = .server bindAddr)
    (valid : c.validate = .ok ()) (ipv4 : ∀ route ∈ c.routing.serverRoutes, route.destination.addr.isIpv4 = true)
    (endpoint : Except Failure Unit) (k : Kernel m) : AllOrNothing c endpoint k := by
  have bound := bindReturns server valid ipv4 endpoint k
  unfold AllOrNothing
  unfold Action.wp at bound
  split at bound
  · rename_i networking after ran
    rw [ran]
    intro later runResult
    exact @runReturns _ m networking {after with clock := later} _ bound c runResult
  · rename_i e after ran
    rw [ran]
    exact bound

end

section Dotted

def octet (n : Nat) : List Char := Nat.toDigits 10 n

def readOctet (digits : List Char) : Option Nat :=
  let n := digits.foldl (fun n c => 10 * n + (c.toNat - 48)) 0
  if n < 256 ∧ octet n = digits then some n else none

def plainChar (c : Char) : Bool := c ≠ '.' && c ≠ '/' && c ≠ ' ' && c ≠ '\n'

theorem octetReads : ∀ n < 256, readOctet (octet n) = some n := by decide +kernel

theorem octetPlain : ∀ n < 256, (octet n).all plainChar = true := by decide +kernel

def octets (bits : BitVec 32) : List Nat :=
  [bits.toNat / 2 ^ 24, bits.toNat / 2 ^ 16 % 256, bits.toNat / 2 ^ 8 % 256, bits.toNat % 256]

def dottedAddr : IpAddr → List Char
  | .v4 bits => ['.'].intercalate ((octets bits).map octet)
  | .v6 _ => "::".toList

def readDotted (text : List Char) : Option IpAddr :=
  match (text.splitOn '.').map readOctet with
  | [some a, some b, some c, some d] => some (.v4 (.ofNat 32 (a * 2 ^ 24 + b * 2 ^ 16 + c * 2 ^ 8 + d)))
  | _ => none

def dottedNet (n : IpNet) : List Char := dottedAddr n.addr ++ '/' :: octet n.prefixLen

def readDottedNet (text : List Char) : Option IpNet :=
  match text.splitOn '/' with
  | [address, length] =>
    match readDotted address, readOctet length with
    | some addr, some prefixLen => IpNet.new addr prefixLen
    | _, _ => none
  | _ => none

@[reducible] def dotted : AddressText where
  addr a := .ofList (dottedAddr a)
  net n := .ofList (dottedNet n)
  socket a := .ofList (dottedAddr (SocketAddr.ip a))
  parseAddr s := readDotted s.toList
  parseNet s := readDottedNet s.toList
  quoted s := "\"" ++ s ++ "\""

theorem octetsSmall (bits : BitVec 32) : ∀ n ∈ octets bits, n < 256 := by
  have := bits.isLt
  simp only [octets, List.mem_cons, List.not_mem_nil, or_false]
  rintro n (rfl | rfl | rfl | rfl) <;> omega

theorem octetsPlain (bits : BitVec 32) : ∀ digits ∈ (octets bits).map octet, digits.all plainChar = true := by
  intro digits member
  obtain ⟨n, inside, rfl⟩ := List.mem_map.mp member
  exact octetPlain n (octetsSmall bits n inside)

theorem plainOnly {digits : List Char} (plain : digits.all plainChar = true) {c : Char} (odd : plainChar c = false) :
    c ∉ digits := by
  intro member
  rw [List.all_eq_true] at plain
  exact absurd (plain c member) (by simp [odd])

theorem dottedReads (bits : BitVec 32) : readDotted (dottedAddr (.v4 bits)) = some (.v4 bits) := by
  have split : (dottedAddr (.v4 bits)).splitOn '.' = (octets bits).map octet :=
    List.splitOn_intercalate '.' (fun digits member => plainOnly (octetsPlain bits digits member) rfl) (by simp [octets])
  have read : ((octets bits).map octet).map readOctet = (octets bits).map some := by
    rw [List.map_map]
    exact List.map_congr_left fun n member => octetReads n (octetsSmall bits n member)
  have joined : bits.toNat / 2 ^ 24 * 2 ^ 24 + bits.toNat / 2 ^ 16 % 256 * 2 ^ 16 + bits.toNat / 2 ^ 8 % 256 * 2 ^ 8 +
      bits.toNat % 256 = bits.toNat := by omega
  rw [readDotted, split, read]
  simp only [octets, List.map_cons, List.map_nil, joined, BitVec.ofNat_toNat, BitVec.setWidth_eq]

theorem addressChars (bits : BitVec 32) {c : Char} (member : c ∈ dottedAddr (.v4 bits)) :
    c = '.' ∨ ∃ n < 256, c ∈ octet n := by
  have small := octetsSmall bits
  simp only [octets, List.forall_mem_cons] at small
  simp [dottedAddr, octets, List.intercalate] at member
  grind

theorem dottedChars (bits : BitVec 32) : ∀ c ∈ dottedAddr (.v4 bits), c = '.' ∨ plainChar c = true := by
  intro c member
  obtain dot | ⟨n, small, digit⟩ := addressChars bits member
  · exact .inl dot
  · exact .inr (List.all_eq_true.mp (octetPlain n small) c digit)

theorem slashless (bits : BitVec 32) : '/' ∉ dottedAddr (.v4 bits) := by
  intro member
  rcases dottedChars bits '/' member with dot | plain
  · exact absurd dot (by decide)
  · exact absurd plain (by decide)

theorem dottedNetReads (n : IpNet) (ipv4 : n.addr.isIpv4 = true) : readDottedNet (dottedNet n) = some n := by
  obtain ⟨addr, prefixLen, fits⟩ := n
  cases addr with
  | v6 bits => cases ipv4
  | v4 bits =>
    have small : prefixLen < 256 := Nat.lt_of_le_of_lt fits (by decide : 32 < 256)
    have length : '/' ∉ octet prefixLen := plainOnly (octetPlain prefixLen small) rfl
    have split : (dottedNet ⟨.v4 bits, prefixLen, fits⟩).splitOn '/' = [dottedAddr (.v4 bits), octet prefixLen] := by
      rw [dottedNet, List.splitOn_append_cons_self_of_not_mem (slashless bits), List.splitOn_eq_singleton length]
    simp only [readDottedNet, split, dottedReads, octetReads prefixLen small, IpNet.new, dif_pos fits]

theorem networkChars {n : IpNet} (ipv4 : n.addr.isIpv4 = true) {c : Char} (member : c ∈ dottedNet n) :
    c = '/' ∨ c = '.' ∨ ∃ m < 256, c ∈ octet m := by
  obtain ⟨addr, prefixLen, fits⟩ := n
  cases addr with
  | v6 bits => cases ipv4
  | v4 bits =>
    have small : prefixLen < 256 := Nat.lt_of_le_of_lt fits (by decide : 32 < 256)
    rcases List.mem_append.mp member with address | length
    · exact .inr (addressChars bits address)
    · rcases List.mem_cons.mp length with slash | digit
      · exact .inl slash
      · exact .inr (.inr ⟨prefixLen, small, digit⟩)

theorem dottedNetChars (n : IpNet) (ipv4 : n.addr.isIpv4 = true) : ∀ c ∈ dottedNet n, c ≠ ' ' ∧ c ≠ '\n' := by
  intro c member
  obtain rfl | rfl | ⟨m, small, digit⟩ := networkChars ipv4 member
  · decide
  · decide
  · have plain := List.all_eq_true.mp (octetPlain m small) c digit
    simp only [plainChar, Bool.and_eq_true, decide_eq_true_eq] at plain
    exact ⟨plain.1.2, plain.2⟩

theorem dottedLawful : @LawfulText Ipv4Addr _ dotted := by
  refine @LawfulText.mk Ipv4Addr _ dotted ?_ ?_ ?_ ?_ (by decide +kernel) (by decide +kernel)
  · intro x served
    cases x with
    | v6 bits => contradiction
    | v4 bits =>
      change readDotted (String.ofList _).toList = _
      rw [String.toList_ofList, dottedReads]
  · intro n served
    have ipv4 : n.addr.isIpv4 = true := (servesIpv4 _).symm.trans served
    change readDottedNet (String.ofList _).toList = _
    rw [String.toList_ofList, dottedNetReads n ipv4]
  · intro x a read
    cases x with
    | v4 bits =>
      change readDotted (String.ofList _).toList = _ at read
      rw [String.toList_ofList, dottedReads] at read
      exact Option.some.inj read
    | v6 bits =>
      have unread : readDotted (String.ofList "::".toList).toList = none := by decide +kernel
      cases unread.symm.trans read
  · intro x served
    cases x with
    | v6 bits => contradiction
    | v4 bits =>
      change readDottedNet (String.ofList _).toList = _
      rw [String.toList_ofList, readDottedNet, List.splitOn_eq_singleton (slashless bits)]

theorem dottedUnbroken : @UnbrokenText dotted := by
  refine @UnbrokenText.mk dotted dottedLawful fun n ipv4 c member => ?_
  change c ∈ (String.ofList _).toList at member
  rw [String.toList_ofList] at member
  exact dottedNetChars n ipv4 c member

def tickingListing (clock : Nat) (t : Table) : Value :=
  .object [("nftables", .array [.object [("metainfo", .object [("release", .number (.integer clock))])], t.json,
    .object [("rule", .object [("expr", .array [.object [("counter", .object [("packets", .number (.integer clock)),
      ("bytes", .number (.integer (64 * clock)))])]])])]])]

theorem tickingAlike (early late : Nat) (t : Table) : ListingsAlike (tickingListing early t) (tickingListing late t) := by
  have counter : AlikeFields true [("packets", .number (.integer early)), ("bytes", .number (.integer (64 * early)))]
      [("packets", .number (.integer late)), ("bytes", .number (.integer (64 * late)))] :=
    .counted _ _ _ (.inl rfl) (.counted _ _ _ (.inr rfl) (.nil true))
  have rule : Alike false
      (.object [("rule", .object [("expr", .array [.object [("counter", .object [("packets", .number (.integer early)),
        ("bytes", .number (.integer (64 * early)))])]])])])
      (.object [("rule", .object [("expr", .array [.object [("counter", .object [("packets", .number (.integer late)),
        ("bytes", .number (.integer (64 * late)))])]])])]) :=
    .object (.cons _ (.object (.cons _ (.array _ (.cons (.object (.cons _ (.object counter) (.nil _))) .nil)) (.nil _)))
      (.nil _))
  exact ⟨_, _, rfl, rfl, .cons (.same _ _) (.cons rule .nil)⟩

def tickingMachine (fault : Nat → Option Fault) : Machine where
  fault := fault
  device _ _ := some "eth0"
  attributes := ⟨[("protocol", .string "boot")], by decide⟩
  metainfo clock := .number (.integer clock)
  listing := tickingListing
  listings := tickingAlike

def privateNet : IpNet := (IpNet.new (.v4 0xC0A80000) 16).get rfl

def busyState : NetworkState where
  routes := [⟨⟨(IpNet.new (.v4 0) 0).get rfl, rfl, rfl⟩, some 0xC0A80001, some "eth0", noAttributes⟩]
  forwarding := 0
  tables := [⟨"inet", "filter", []⟩]

def natServer : Config where
  mode := .server (.v4 0 defaultPort)
  tun := Config.default.tun
  routing := ⟨[], [⟨privateNet, some (.v4 0x0A000002), none⟩], false, true, true, some "eth0"⟩
  security := .default

-- The fifth command reads the fingerprint of the new table.
def unlisted (clock : Nat) : Option Fault := if clock = 4 then some (.exited (some 1) "") else none

theorem networkingAllOrNothingBusy : @Config.validate dotted plainKeys natServer = .ok () ∧
    @AllOrNothing dotted (tickingMachine fun _ => none) natServer (.ok ()) ⟨busyState, 0⟩ ∧
    @AllOrNothing dotted (tickingMachine unlisted) natServer (.ok ()) ⟨busyState, 0⟩ := by
  have valid : @Config.validate dotted plainKeys natServer = .ok () := by decide +kernel
  have ipv4 : ∀ route ∈ natServer.routing.serverRoutes, route.destination.addr.isIpv4 = true := by decide
  exact ⟨valid, @networkingAllOrNothing dotted _ dottedUnbroken plainKeys natServer _ rfl valid ipv4 _ _,
    @networkingAllOrNothing dotted _ dottedUnbroken plainKeys natServer _ rfl valid ipv4 _ _⟩

example : letI := dotted
    (bind {natServer with routing := {natServer.routing with enableNat := false, natEgressInterface := none}} (.ok ())
      (Kernel.mk (m := tickingMachine fun _ => none) busyState 0)).1.isOk = true := by
  decide +kernel

end Dotted
end Crabnet.ServerNetworking
