import Mathlib.Data.List.MinMax
import Crabnet.AcceptedConfig
import Crabnet.FamilyRoutes

/-! The routes of a client (application.rs) in a table that is searched by the longest
prefix, and whether the datagrams to its server leave through its own tunnel. -/
namespace Crabnet.TunnelCapture
open SessionTypes NetworkTypes Fallible Routing RuntimeConfig AcceptedConfig JsonValue LinuxRoutes RouteTable FamilyRoutes

structure Entry where
  network : IpNet
  gateway : Option IpAddr
  interface : String
  deriving DecidableEq

-- Of two routes of one length the older one stands.
def lookup (address : IpAddr) (table : List Entry) : Option Entry :=
  (table.filter fun e => e.network.contains address).argmax fun e => e.network.prefixLen

section
variable {address : IpAddr} {table : List Entry} {e c : Entry}

theorem lookupAside {others : List Entry} (outside : ∀ e ∈ others, e.network.contains address = false) :
    lookup address (table ++ others) = lookup address table := by
  have none_ : others.filter (fun e => e.network.contains address) = [] := by
    refine List.filter_eq_nil_iff.mpr ?_
    intro e member
    rw [outside e member]
    decide
  rw [lookup, List.filter_append, none_, List.append_nil, lookup]

theorem lookupMatching (inside : e.network.contains address = true) (found : lookup address table = some c) :
    lookup address (table ++ [e]) = if c.network.prefixLen < e.network.prefixLen then some e else some c := by
  have here : [e].filter (fun e => e.network.contains address) = [e] := by simp [inside]
  unfold lookup at found ⊢
  rw [List.filter_append, here, List.argmax_concat, found]

theorem lookupShorter (found : lookup address table = some c) (short : e.network.prefixLen ≤ c.network.prefixLen) :
    lookup address (table ++ [e]) = some c := by
  cases inside : e.network.contains address with
  | false =>
    rw [lookupAside (by simpa using inside)]
    exact found
  | true => rw [lookupMatching inside found, if_neg (Nat.not_lt.mpr short)]

theorem lookupLongest (found : lookup address table = some c) (member : e ∈ table)
    (inside : e.network.contains address = true) : e.network.prefixLen ≤ c.network.prefixLen := by
  have matching : e ∈ table.filter fun e => e.network.contains address := List.mem_filter.mpr ⟨member, inside⟩
  exact List.le_of_mem_argmax (f := fun e : Entry => e.network.prefixLen) matching found

theorem lookupMember (found : lookup address table = some c) : c ∈ table ∧ c.network.contains address = true := by
  have member : c ∈ table.filter fun e => e.network.contains address := List.argmax_mem found
  exact List.mem_filter.mp member

end

theorem truncContains (n : IpNet) (address : IpAddr) : n.trunc.contains address = n.contains address := by
  have family : n.trunc.addr.isIpv4 = n.addr.isIpv4 := by
    cases held : n.addr <;> simp [IpNet.trunc, held, IpAddr.network, IpAddr.isIpv4]
  have network : n.trunc.addr.network n.trunc.prefixLen = n.addr.network n.prefixLen := networkTwice n.addr n.prefixLen
  rw [IpNet.contains, IpNet.contains, family, network]
  rfl

def connected (tun : TunConfig) (table : List Entry) : List Entry :=
  match IpNet.new tun.address tun.prefixLen.toNat with
  | some n => table ++ [⟨n.trunc, none, tun.name⟩]
  | none => table

def installed : RouteOperation → Option Entry
  | .addRoute destination gateway (some interface) => some ⟨destination.trunc, gateway, interface⟩
  | _ => none

def install (operations : List RouteOperation) (table : List Entry) : List Entry := table ++ operations.filterMap installed

def clientOperations {R : Type} [CommandRunner R] [AddressText] (tun : TunConfig) (routing : RoutingConfig) (server : IpAddr) :
    Action R Failure (List RouteOperation) :=
  if routing.fullTunnel then do
    let underlay ← Action.mapError (Failure.context "failed to resolve VPN server underlay route") (resolveUnderlayRoute server)
    Action.ofExcept (fullTunnelOperations tun.name tun.address server underlay)
  else pure (splitTunnelOperations routing tun.name)

structure Router where
  table : List Entry

def Entry.json [AddressText] (e : Entry) : Value :=
  .object ((match e.gateway with
    | some gateway => [("gateway", .string (AddressText.addr gateway))]
    | none => []) ++ [("dev", .string e.interface)])

def answer [AddressText] (table : List Entry) (program : String) (args : List String) : Except String Output :=
  match program, args with
  | "ip", ["-j", "route", "get", text] =>
    match AddressText.parseAddr text with
    | none => .error "Error: any valid prefix is expected"
    | some address =>
      match lookup address table with
      | none => .error "RTNETLINK answers: Network is unreachable"
      | some e => .ok (.json (.array [e.json]))
  | _, _ => .error "unknown command"

instance [AddressText] : CommandRunner Router where
  run _ program args _ r :=
    match answer r.table program args with
    | .ok stdout => (.ok ⟨true, some 0, stdout, ""⟩, r)
    | .error stderr => (.ok ⟨false, some 2, .text "", stderr⟩, r)

theorem endpointMade (server : IpAddr) : IpNet.new server (if server.isIpv4 then 32 else 128) = some (.ofAddr server) := by
  cases server with
  | v4 bits => rfl
  | v6 bits => rfl

section
variable [AddressText] [LawfulText IpAddr]

omit [LawfulText IpAddr] in
theorem entryRead (e : Entry) : IpRouteLookup.read e.json = some ⟨e.gateway.map AddressText.addr, some e.interface⟩ := by
  obtain ⟨network, gateway, interface⟩ := e
  cases gateway <;> rfl

theorem underlayParsed (e : Entry) (server : IpAddr) :
    parseUnderlayRoute (.json (.array [e.json])) server = .ok ⟨e.gateway, e.interface⟩ := by
  have read := @readArrayMap IpRouteLookup Entry IpRouteLookup.read Entry.json _ entryRead [e]
  simp only [List.map_cons, List.map_nil] at read
  cases via : e.gateway with
  | none => simp [parseUnderlayRoute, Output.document, read, parseGateway, via, Except.map]
  | some gateway => simp [parseUnderlayRoute, Output.document, read, parseGateway, via, LawfulText.addr (A := IpAddr) gateway rfl, Except.map]

theorem underlayResolved {server : IpAddr} {r : Router} {u : Entry} (found : lookup server r.table = some u) :
    resolveUnderlayRoute server r = (.ok ⟨u.gateway, u.interface⟩, r) := by
  have ran : answer r.table "ip" (routeGetArgs server) = .ok (.json (.array [u.json])) := by
    simp only [answer, routeGetArgs, LawfulText.addr (A := IpAddr) server rfl, found]
  unfold resolveUnderlayRoute
  change Action.andThen (Action.andThen _ _) _ r = _
  simp only [Action.andThen, CommandRunner.run, ran]
  change Action.mapError _ (Action.ofExcept (parseUnderlayRoute (.json (.array [u.json])) server)) r = _
  rw [underlayParsed]
  rfl

theorem fullOperated {tun : TunConfig} {routing : RoutingConfig} {server : IpAddr} {r : Router} {u : Entry}
    (full : routing.fullTunnel = true) (found : lookup server r.table = some u) :
    clientOperations tun routing server r = (.ok [.addRoute (.ofAddr server) u.gateway (some u.interface),
      .addRoute (defaultRoute tun.address) none (some tun.name)], r) := by
  unfold clientOperations
  rw [if_pos full]
  change Action.andThen (Action.mapError _ _) _ r = _
  rw [Action.andThen, Action.mapError, underlayResolved found]
  change Action.ofExcept (fullTunnelOperations tun.name tun.address server ⟨u.gateway, u.interface⟩) r = _
  rw [fullTunnelOperations, endpointMade]
  rfl

end

theorem connectedLookup {tun : TunConfig} {n : IpNet} (made : IpNet.new tun.address tun.prefixLen.toNat = some n) {server : IpAddr}
    {table : List Entry} {e : Entry} (found : lookup server table = some e) (outside : e.interface ≠ tun.name) :
    ∃ u, lookup server (connected tun table) = some u ∧
      (u.interface = tun.name ↔ n.contains server = true ∧ e.network.prefixLen < n.prefixLen) := by
  simp only [connected, made]
  cases inside : n.contains server with
  | false =>
    refine ⟨e, (lookupAside ?_).trans found, by simp [outside]⟩
    simpa [truncContains] using inside
  | true =>
    have matching : n.trunc.contains server = true := (truncContains n server).trans inside
    rw [lookupMatching (e := ⟨n.trunc, none, tun.name⟩) matching found]
    change ∃ u, (if e.network.prefixLen < n.prefixLen then _ else _) = some u ∧ _
    by_cases longer : e.network.prefixLen < n.prefixLen
    · exact ⟨_, if_pos longer, by simp [longer]⟩
    · exact ⟨_, if_neg longer, by simp [longer, outside]⟩

theorem fullLookup {tunName : String} {tunAddress server : IpAddr} {table : List Entry} {u : Entry}
    (found : lookup server table = some u) :
    ∃ last, lookup server (install [.addRoute (.ofAddr server) u.gateway (some u.interface),
        .addRoute (defaultRoute tunAddress) none (some tunName)] table) = some last ∧ last.interface = u.interface := by
  have own : (IpNet.ofAddr server).trunc.contains server = true := by
    rw [truncContains]
    simp [IpNet.contains, IpNet.ofAddr]
  have short : (defaultRoute tunAddress).trunc.prefixLen = 0 := by
    unfold defaultRoute
    split <;> rfl
  obtain ⟨kept, chosen, same⟩ : ∃ kept, lookup server (table ++ [⟨(IpNet.ofAddr server).trunc, u.gateway, u.interface⟩]) = some kept ∧
      kept.interface = u.interface := by
    rw [lookupMatching own found]
    split
    · exact ⟨_, rfl, rfl⟩
    · exact ⟨_, rfl, rfl⟩
  have last := lookupShorter (e := ⟨(defaultRoute tunAddress).trunc, none, tunName⟩) chosen (by simp [short])
  rw [List.append_assoc] at last
  exact ⟨kept, last, same⟩

theorem splitLookup {routing : RoutingConfig} {tunName : String} {server : IpAddr} {table : List Entry}
    (apart : ∀ route ∈ routing.protectedRoutes, route.contains server = false) :
    lookup server (install (splitTunnelOperations routing tunName) table) = lookup server table := by
  refine lookupAside ?_
  intro e member
  obtain ⟨operation, listed, made⟩ := List.mem_filterMap.mp member
  obtain ⟨route, protected_, rfl⟩ := List.mem_map.mp listed
  cases made
  rw [truncContains]
  exact apart route protected_

theorem clientApart [AddressText] {c : Config} {serverAddr : SocketAddr} (valid : validateClientRouting c serverAddr = .ok ()) :
    ∀ route ∈ c.routing.protectedRoutes, route.contains (SocketAddr.ip serverAddr) = false := by
  have last := (checked (checked (checked valid).2).2).2
  split at last <;> try contradiction
  rename_i absent
  intro route member
  simpa using List.find?_eq_none.mp absent route member

/- The server is reached through the tunnel exactly where the network of the TUN has it
and no route of the underlay to it is as long. -/
theorem transportCapture [AddressText] [LawfulText IpAddr] [KeyFiles] {c : Config} {bindAddr serverAddr : SocketAddr}
    (client : c.mode = .client bindAddr serverAddr) (valid : c.validate = .ok ()) {table : List Entry} {e : Entry}
    (reachable : lookup (SocketAddr.ip serverAddr) table = some e) (outside : e.interface ≠ c.tun.name) :
    ∃ n operations last, IpNet.new c.tun.address c.tun.prefixLen.toNat = some n ∧
      (clientOperations c.tun c.routing (SocketAddr.ip serverAddr) (Router.mk (connected c.tun table))).1 = .ok operations ∧
      lookup (SocketAddr.ip serverAddr) (install operations (connected c.tun table)) = some last ∧
      (last.interface ≠ c.tun.name ↔ n.contains (SocketAddr.ip serverAddr) = false ∨
        ∃ r ∈ table, r.network.contains (SocketAddr.ip serverAddr) = true ∧ n.prefixLen ≤ r.network.prefixLen) := by
  obtain ⟨n, made, -⟩ := tunNetwork (checked valid).1
  obtain ⟨u, found, captured⟩ := connectedLookup made reachable outside
  have escapes : u.interface ≠ c.tun.name ↔ n.contains (SocketAddr.ip serverAddr) = false ∨
      ∃ r ∈ table, r.network.contains (SocketAddr.ip serverAddr) = true ∧ n.prefixLen ≤ r.network.prefixLen := by
    rw [Ne, captured, not_and_or, Bool.not_eq_true, Nat.not_lt]
    refine or_congr_right ⟨fun short => ?_, ?_⟩
    · obtain ⟨member, inside⟩ := lookupMember reachable
      exact ⟨e, member, inside, short⟩
    · rintro ⟨r, member, inside, longer⟩
      exact Nat.le_trans longer (lookupLongest reachable member inside)
  have routing := (checked (checked (checked valid).2).2).2
  rw [client] at routing
  cases full : c.routing.fullTunnel with
  | true =>
    obtain ⟨last, ended, same⟩ := @fullLookup c.tun.name c.tun.address _ _ _ found
    have operated := @fullOperated _ _ c.tun _ _ (Router.mk (connected c.tun table)) _ full found
    exact ⟨n, _, last, made, congrArg Prod.fst operated, ended, by rw [same]; exact escapes⟩
  | false =>
    have operated : (clientOperations c.tun c.routing (SocketAddr.ip serverAddr) (Router.mk (connected c.tun table))).1 =
        .ok (splitTunnelOperations c.routing c.tun.name) := by
      rw [clientOperations, full]
      rfl
    exact ⟨n, _, u, made, operated, (splitLookup (clientApart routing)).trans found, escapes⟩

def homeClient (server : BitVec 32) (fullTunnel : Bool) : Config where
  mode := .client (.v4 0 0) (.v4 server defaultPort)
  tun := Config.default.tun
  routing := {RoutingConfig.default with fullTunnel := fullTunnel}
  security := .default

def homeTable : List Entry := [⟨defaultRoute (.v4 0), some (.v4 0xC0A80001), "eth0"⟩]

theorem transportCaptureHome : letI := grouped
    @Config.validate grouped plainKeys (homeClient 0xCB007107 true) = .ok () ∧
      ∃ operations last, (clientOperations Config.default.tun (homeClient 0xCB007107 true).routing (.v4 0xCB007107)
          (Router.mk (connected Config.default.tun homeTable))).1 = .ok operations ∧
        lookup (.v4 0xCB007107) (install operations (connected Config.default.tun homeTable)) = some last ∧
        last.interface ≠ "crabnet0" := by
  have valid : @Config.validate grouped plainKeys (homeClient 0xCB007107 true) = .ok () := by decide +kernel
  have reachable : lookup (.v4 0xCB007107) homeTable = some ⟨defaultRoute (.v4 0), some (.v4 0xC0A80001), "eth0"⟩ := by
    decide +kernel
  obtain ⟨n, operations, last, made, operated, ended, escapes⟩ :=
    @transportCapture grouped groupedLawful plainKeys (homeClient 0xCB007107 true) _ _ rfl valid _ _ reachable (by decide)
  cases (rfl : IpNet.new _ _ = some _).symm.trans made
  exact ⟨valid, operations, last, operated, ended, escapes.mpr (.inl (by decide +kernel))⟩

def leavesThrough [AddressText] (server : BitVec 32) (fullTunnel : Bool) : Except Failure (Option String) :=
  let table := connected Config.default.tun homeTable
  (clientOperations Config.default.tun (homeClient server fullTunnel).routing (.v4 server) (Router.mk table)).1.map
    fun operations => (lookup (.v4 server) (install operations table)).map Entry.interface

theorem serverCaptured : letI := grouped
    @Config.validate grouped plainKeys (homeClient 0x0A000005 false) = .ok () ∧
      @Config.validate grouped plainKeys (homeClient 0x0A000005 true) = .ok () ∧
      (lookup (.v4 0x0A000005) homeTable).map Entry.interface = some "eth0" ∧
      leavesThrough 0x0A000005 false = .ok (some "crabnet0") ∧ leavesThrough 0x0A000005 true = .ok (some "crabnet0") := by
  refine ⟨?_, ?_, ?_, ?_, ?_⟩ <;> decide +kernel

end Crabnet.TunnelCapture
