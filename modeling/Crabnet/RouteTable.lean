import Crabnet.LinuxRoutes

/-! A routing table of one family of addresses under the program `ip`. Which routes the
machine refuses, the interface of a route that names none and what it adds to those it
takes are parameters. -/
namespace Crabnet.RouteTable
open NetworkTypes JsonValue LinuxRoutes

class Family (A : Type) where
  addr : A → IpAddr
  read : IpAddr → Option A
  readAddr : ∀ a, read (addr a) = some a
  addrRead : ∀ {x a}, read x = some a → x = addr a
  -- A family has all addresses of a version or none.
  whole : ∀ {x y}, x.isIpv4 = y.isIpv4 → (read x).isSome = (read y).isSome

abbrev Ipv4Addr := BitVec 32

instance : Family Ipv4Addr where
  addr := .v4
  read
    | .v4 bits => some bits
    | .v6 _ => none
  readAddr _ := rfl
  addrRead {x a} same := by
    cases x with
    | v4 bits =>
      cases Option.some.inj same
      rfl
    | v6 bits => contradiction
  whole {x y} same := by cases x <;> cases y <;> first | rfl | contradiction

instance : Family IpAddr where
  addr := id
  read := some
  readAddr _ := rfl
  addrRead same := Option.some.inj same
  whole _ := rfl

section
variable {A : Type} [Family A]

def serves (A : Type) [Family A] (x : IpAddr) : Bool := (Family.read (A := A) x).isSome

theorem servesTrunc (n : IpNet) : serves A n.trunc.addr = serves A n.addr := by
  refine Family.whole ?_
  cases address : n.addr <;> simp [IpNet.trunc, address, IpAddr.network, IpAddr.isIpv4]

theorem servesIpv4 (x : IpAddr) : serves Ipv4Addr x = x.isIpv4 := by
  cases x <;> rfl

class LawfulText (A : Type) [Family A] [AddressText] : Prop where
  addr : ∀ x, serves A x = true → AddressText.parseAddr (AddressText.addr x) = some x
  net : ∀ n : IpNet, serves A n.addr = true → AddressText.parseNet (AddressText.net n) = some n
  -- No other address is printed as one of the family, and a prefix is read only with its slash.
  only : ∀ x (a : A), AddressText.parseAddr (AddressText.addr x) = some (Family.addr a) → x = Family.addr a
  bare : ∀ x, serves A x = true → AddressText.parseNet (AddressText.addr x) = none
  defaultNet : AddressText.parseNet "default" = none
  defaultAddr : AddressText.parseAddr "default" = none

structure Attributes where
  fields : List (String × Value)
  apart : ∀ f ∈ fields, f.1 ∉ routeFields

def noAttributes : Attributes := ⟨[], List.forall_mem_nil _⟩

structure Destination (A : Type) [Family A] where
  net : IpNet
  served : serves A net.addr = true
  canonical : net.trunc = net

def Destination.of (n : IpNet) (served : serves A n.addr = true) : Destination A :=
  ⟨n.trunc, (servesTrunc n).trans served, truncTwice n⟩

structure Route (A : Type) [Family A] where
  dst : Destination A
  gateway : Option A
  dev : Option String
  attributes : Attributes

structure Rules (A : Type) [Family A] where
  refuses : Destination A → Option A → Option String → List (Route A) → Option String
  device : Destination A → Option A → Option String
  attributes : Attributes

abbrev Effect (A : Type) [Family A] := Except String (Output × List (Route A))

def listed (routes : List (Route A)) (destination : IpNet) : List (Route A) :=
  routes.filter fun r => r.dst.net = destination.trunc

variable [AddressText]

def destinationText (n : IpNet) : String :=
  if n.prefixLen = 0 then "default"
  else if n.prefixLen = n.addr.maxPrefixLen then AddressText.addr n.addr
  else AddressText.net n

def gatewayText (gateway : Option A) : Option String := gateway.map fun a => AddressText.addr (Family.addr a)

def Route.json (r : Route A) : Value :=
  .object ([("dst", .string (destinationText r.dst.net))] ++
    (match gatewayText r.gateway with
      | some gateway => [("gateway", .string gateway)]
      | none => []) ++
    (match r.dev with
      | some dev => [("dev", .string dev)]
      | none => []) ++ r.attributes.fields)

def readOptions : List String → Option (Option A × Option String)
  | [] => some (none, none)
  | "via" :: gateway :: rest => do
    let address ← AddressText.parseAddr gateway
    let a ← Family.read address
    let options ← readOptions rest
    some (some a, options.2)
  | "dev" :: name :: rest => (readOptions rest).map fun options => (options.1, some name)
  | _ => none

-- `ip` refuses an IPv4 prefix with bits beyond its length; of an IPv6 one it takes the network.
def readTarget (text : String) : Option (Destination A) :=
  match AddressText.parseNet text with
  | some n =>
    if reads : serves A n.addr = true ∧ (n.addr.isIpv4 = true → n.trunc = n) then some (.of n reads.1) else none
  | none => none

def showRoutes (dst : String) (routes : List (Route A)) : Effect A :=
  match AddressText.parseNet dst with
  | some n => .ok (.json (.array ((listed routes n).map Route.json)), routes)
  | none => .error "Error: any valid prefix is expected"

def addRoute (rules : Rules A) (dst : String) (options : List String) (routes : List (Route A)) : Effect A :=
  match readTarget dst, readOptions options with
  | some n, some (gateway, dev) =>
    match rules.refuses n gateway dev routes with
    | some complaint => .error complaint
    | none => .ok (.text "", routes ++ [⟨n, gateway, dev <|> rules.device n gateway, rules.attributes⟩])
  | none, _ => .error "Error: Invalid prefix for given prefix length"
  | _, none => .error "Error: inet address is expected"

variable [DecidableEq A]

def Route.selected (n : Destination A) (gateway : Option A) (dev : Option String) (r : Route A) : Bool :=
  r.dst.net = n.net && (gateway.isNone || r.gateway == gateway) && (dev.isNone || r.dev == dev)

def deleteRoute (dst : String) (options : List String) (routes : List (Route A)) : Effect A :=
  match readTarget dst, readOptions options with
  | some n, some (gateway, dev) =>
    if routes.any (Route.selected n gateway dev) then .ok (.text "", routes.eraseP (Route.selected n gateway dev))
    else .error "RTNETLINK answers: No such process"
  | none, _ => .error "Error: Invalid prefix for given prefix length"
  | _, none => .error "Error: inet address is expected"

omit [DecidableEq A]

def Route.reported (r : Route A) : IpRoute := ⟨some (destinationText r.dst.net), r.dev, gatewayText r.gateway⟩

theorem routeRead (r : Route A) : IpRoute.read r.json = some r.reported := by
  unfold IpRoute.read Route.json
  rw [derivedApart r.attributes.apart]
  obtain ⟨dst, gateway, dev, attributes⟩ := r
  cases gateway <;> cases dev <;> rfl

theorem listingShown [LawfulText A] {destination : IpNet} (served : serves A destination.addr = true)
    (routes : List (Route A)) : showRoutes (AddressText.net destination) routes =
      .ok (.json (.array ((listed routes destination).map Route.json)), routes) := by
  simp only [showRoutes, LawfulText.net (A := A) destination served]

theorem addrNotDefault [LawfulText A] {x : IpAddr} (served : serves A x = true) : AddressText.addr x ≠ "default" := by
  intro same
  have read := LawfulText.addr (A := A) x served
  rw [same, LawfulText.defaultAddr A] at read
  contradiction

theorem netNotDefault [LawfulText A] {n : IpNet} (served : serves A n.addr = true) : AddressText.net n ≠ "default" := by
  intro same
  have read := LawfulText.net (A := A) n served
  rw [same, LawfulText.defaultNet A] at read
  contradiction

-- However a destination is printed, it is read as itself; a default route loses its address.
theorem destinationRead [LawfulText A] (d : Destination A) (expected : IpNet) :
    destinationMatches (some (destinationText d.net)) expected =
      if d.net.prefixLen = 0 then expected.prefixLen == 0 else d.net == expected := by
  obtain ⟨⟨address, prefixLen, fits⟩, served, canonical⟩ := d
  simp only [destinationMatches, destinationText]
  by_cases zero : prefixLen = 0
  · simp [zero]
  · by_cases host : prefixLen = address.maxPrefixLen
    · subst host
      simp [zero, addrNotDefault served, LawfulText.bare (A := A) address served, LawfulText.addr (A := A) address served,
        IpNet.ofAddr]
    · have net := LawfulText.net (A := A) ⟨address, prefixLen, fits⟩ served
      simp [zero, host, @netNotDefault A _ _ _ ⟨address, prefixLen, fits⟩ served, net]

theorem destinationSelf [LawfulText A] (d : Destination A) :
    destinationMatches (some (destinationText d.net)) d.net = true := by
  rw [destinationRead]
  split
  · rename_i zero
    rw [zero]
    rfl
  · exact beq_self_eq_true _

theorem viaRead {gateway : String} {rest} {options : Option A × Option String}
    (read : readOptions ("via" :: gateway :: rest) = some options) :
    ∃ x a given, AddressText.parseAddr gateway = some x ∧ Family.read x = some a ∧ readOptions (A := A) rest = some given ∧
      options = (some a, given.2) := by
  simp only [readOptions, Option.bind_eq_bind, Option.bind_eq_some_iff] at read
  obtain ⟨x, parsed, a, known, given, later, same⟩ := read
  exact ⟨x, a, given, parsed, known, later, (Option.some.inj same).symm⟩

theorem optionsRead [LawfulText A] {gateway : Option IpAddr} {interface dev : Option String} {via : Option A}
    (read : readOptions (routeOptions gateway interface) = some (via, dev)) :
    gateway = via.map Family.addr ∧ dev = interface := by
  have last : readOptions (A := A) (routeOptions none interface) = some (none, interface) := by
    cases interface <;> rfl
  cases gateway with
  | none =>
    cases last.symm.trans read
    exact ⟨rfl, rfl⟩
  | some address =>
    obtain ⟨x, a, given, parsed, known, later, same⟩ := @viaRead A _ _ _ (routeOptions none interface) _ read
    cases last.symm.trans later
    cases same
    cases Family.addrRead known
    exact ⟨congrArg some (LawfulText.only address a parsed), rfl⟩

structure Stores (destination : IpNet) (gateway : Option IpAddr) (interface : Option String) (r : Route A) : Prop where
  dst : r.dst.net = destination.trunc
  via : gateway = r.gateway.map Family.addr
  dev : ∀ name, interface = some name → r.dev = some name
  target : readTarget (AddressText.net destination) = some r.dst
  options : readOptions (routeOptions gateway interface) = some (r.gateway, interface)

variable {destination : IpNet} {gateway : Option IpAddr} {interface : Option String} {r : Route A}
  {routes after : List (Route A)}

theorem addStores [LawfulText A] {rules : Rules A} {stdout} (served : serves A destination.addr = true)
    (ran : addRoute rules (AddressText.net destination) (routeOptions gateway interface) routes = .ok (stdout, after)) :
    ∃ r, Stores destination gateway interface r ∧ after = routes ++ [r] ∧
      rules.refuses r.dst r.gateway interface routes = none := by
  unfold addRoute at ran
  split at ran <;> try contradiction
  rename_i n via dev target options
  split at ran <;> try contradiction
  rename_i taken
  cases ran
  obtain ⟨named, rfl⟩ := optionsRead options
  refine ⟨_, ⟨?_, named, ?_, target, options⟩, rfl, taken⟩
  · unfold readTarget at target
    rw [LawfulText.net (A := A) destination served] at target
    simp only at target
    split at target <;> try contradiction
    cases target
    rfl
  · intro name same
    simp [same]

theorem storesCanonical {r : Route Ipv4Addr} [LawfulText Ipv4Addr] (ipv4 : destination.addr.isIpv4 = true)
    (stores : Stores destination gateway interface r) : destination.trunc = destination := by
  have target := stores.target
  unfold readTarget at target
  rw [LawfulText.net (A := Ipv4Addr) destination ((servesIpv4 _).trans ipv4)] at target
  simp only at target
  split at target <;> try contradiction
  rename_i reads
  exact reads.2 ipv4

theorem storedMatches (stores : Stores destination gateway interface r) :
    routeMatches r.reported (gateway.map AddressText.addr) interface = true := by
  have gateways : r.reported.gateway = gateway.map AddressText.addr := by
    rw [stores.via, Option.map_map]
    rfl
  simp only [routeMatches, gateways, beq_self_eq_true, Bool.true_and]
  cases interface with
  | none => rfl
  | some name => simp [Route.reported, stores.dev name rfl]

theorem listedStored (stores : Stores destination gateway interface r)
    (fresh : ∀ other ∈ routes, other.dst.net ≠ destination.trunc) : listed (routes ++ [r]) destination = [r] := by
  have others : routes.filter (fun other => other.dst.net = destination.trunc) = [] := by
    refine List.filter_eq_nil_iff.mpr ?_
    intro other member
    rw [decide_eq_true_eq]
    exact fresh other member
  simp [listed, others, stores.dst]

theorem deletesStored [DecidableEq A] (stores : Stores destination gateway interface r)
    (fresh : ∀ other ∈ routes, other.dst.net ≠ destination.trunc) :
    deleteRoute (AddressText.net destination) (routeOptions gateway interface) (routes ++ [r]) = .ok (.text "", routes) := by
  have devs : (interface.isNone || r.dev == interface) = true := by
    cases interface with
    | none => rfl
    | some name => simp [stores.dev name rfl]
  have here : Route.selected r.dst r.gateway interface r = true := by simp [Route.selected, devs]
  have elsewhere : ∀ other ∈ routes, ¬ Route.selected r.dst r.gateway interface other = true := by
    intro other member picked
    simp only [Route.selected, Bool.and_eq_true, decide_eq_true_eq] at picked
    exact fresh other member (picked.1.1.trans stores.dst)
  simp only [deleteRoute, stores.target, stores.options]
  rw [if_pos (List.any_eq_true.mpr ⟨r, List.mem_append_right _ (List.mem_singleton.mpr rfl), here⟩),
    List.eraseP_append_right _ elsewhere]
  simp [here]

end
end Crabnet.RouteTable
