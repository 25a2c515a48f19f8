import Crabnet.ServerNetworking

/-! Routes of both families under the routing backend (routing/linux.rs). The machine
decides which routes it refuses, besides those whose gateway is of the other family and
those whose network it has. -/
namespace Crabnet.FamilyRoutes
open SessionTypes NetworkTypes Fallible Routing JsonValue LinuxRoutes RouteTable

structure Machine where
  refuses : Destination IpAddr → Option IpAddr → Option String → Option String
  device : Destination IpAddr → Option IpAddr → Option String
  attributes : Attributes

def Machine.rules (m : Machine) : Rules IpAddr where
  refuses n gateway dev routes :=
    if gateway.any (fun address => address.isIpv4 != n.net.addr.isIpv4) then some "Error: inet address is expected"
    else (m.refuses n gateway dev).orElse fun _ =>
      if routes.any (fun r => r.dst.net = n.net) then some "RTNETLINK answers: File exists" else none
  device := m.device
  attributes := m.attributes

section
variable [AddressText]

def execute (m : Machine) (program : String) (args : List String) (routes : List (Route IpAddr)) : Effect IpAddr :=
  match program, args with
  | "ip", ["-j", "route", "show", "exact", dst] => showRoutes dst routes
  | "ip", "route" :: "add" :: dst :: options => addRoute m.rules dst options routes
  | "ip", "route" :: "del" :: dst :: options => deleteRoute dst options routes
  | _, _ => .error "unknown command"

structure Kernel (m : Machine) where
  routes : List (Route IpAddr)

instance {m : Machine} : CommandRunner (Kernel m) where
  run _ program args _ k :=
    match execute m program args k.routes with
    | .ok (stdout, routes) => (.ok ⟨true, some 0, stdout, ""⟩, ⟨routes⟩)
    | .error stderr => (.ok ⟨false, some 2, .text "", stderr⟩, k)

variable {m : Machine} {k : Kernel m}

theorem commandRan {purpose program args action stdout routes} (ran : execute m program args k.routes = .ok (stdout, routes)) :
    runChecked purpose program args none action k = (.ok ⟨true, some 0, stdout, ""⟩, (⟨routes⟩ : Kernel m)) := by
  change Action.andThen _ _ k = _
  simp only [Action.andThen, CommandRunner.run, ran]
  rfl

theorem commandRefused {purpose program args action stderr} (refused : execute m program args k.routes = .error stderr) :
    ∃ e, runChecked purpose program args none action k = (.error e, k) := by
  have failed : (runChecked purpose program args none action k).2 = k ∧
      ∃ e, (runChecked purpose program args none action k).1 = .error e := by
    change (Action.andThen _ _ k).2 = k ∧ ∃ e, (Action.andThen _ _ k).1 = .error e
    simp only [Action.andThen, CommandRunner.run, refused]
    exact ⟨rfl, _, rfl⟩
  obtain ⟨kept, e, ended⟩ := failed
  exact ⟨e, Prod.ext ended kept⟩

theorem commandEnds (purpose : Purpose) (program : String) (args : List String) (action : String) (k : Kernel m) :
    (∃ e, runChecked purpose program args none action k = (.error e, k)) ∨
      ∃ stdout routes, execute m program args k.routes = .ok (stdout, routes) ∧
        runChecked purpose program args none action k = (.ok ⟨true, some 0, stdout, ""⟩, ⟨routes⟩) := by
  cases ran : execute m program args k.routes with
  | error stderr => exact .inl (commandRefused ran)
  | ok effect => exact .inr ⟨effect.1, effect.2, rfl, commandRan ran⟩

variable [LawfulText IpAddr]

theorem inspected {purpose} {destination : IpNet} {gateway interface} :
    inspectRoute purpose destination gateway interface k =
      (.ok (classifyExistingRoute ((listed k.routes destination).map Route.reported) destination gateway interface), k) := by
  have ran : execute m "ip" (showRouteArgs destination) k.routes =
      .ok (.json (.array ((listed k.routes destination).map Route.json)), k.routes) := listingShown rfl k.routes
  unfold inspectRoute
  change Action.andThen _ _ k = _
  rw [Action.andThen, commandRan ran]
  simp only [Output.document, readArrayMap routeRead]
  rfl

def Recognised (destination : IpNet) : Prop := destination.trunc = destination ∨ destination.prefixLen = 0

instance (destination : IpNet) : Decidable (Recognised destination) :=
  inferInstanceAs (Decidable (_ ∨ _))

theorem storedRead {r : Route IpAddr} {destination : IpNet} (same : r.dst.net = destination.trunc) :
    destinationMatches (some (destinationText r.dst.net)) destination = decide (Recognised destination) := by
  rw [destinationRead, same]
  change (if destination.prefixLen = 0 then _ else destination.trunc == destination) = _
  by_cases zero : destination.prefixLen = 0
  · simp [zero, Recognised]
  · rw [if_neg zero, beq_eq_decide]
    simp only [Recognised, zero, or_false]

structure Stored (destination : IpNet) (gateway : Option IpAddr) (interface : Option String)
    (before after : List (Route IpAddr)) (r : Route IpAddr) : Prop where
  added : after = before ++ [r]
  stores : Stores destination gateway interface r
  fresh : ∀ other ∈ before, other.dst.net ≠ destination.trunc

variable {destination : IpNet} {gateway : Option IpAddr} {interface : Option String} {before after : List (Route IpAddr)}
  {r : Route IpAddr}

theorem addStored {stdout} (ran : execute m "ip" (routeAddArgs destination gateway interface) before = .ok (stdout, after)) :
    ∃ r, Stored destination gateway interface before after r := by
  change addRoute m.rules (AddressText.net destination) (routeOptions gateway interface) before = _ at ran
  obtain ⟨r, stores, added, taken⟩ := addStores rfl ran
  refine ⟨r, added, stores, fun other member same => ?_⟩
  have there : before.any (fun other => other.dst.net = r.dst.net) = true :=
    List.any_eq_true.mpr ⟨other, member, decide_eq_true (same.trans stores.dst.symm)⟩
  simp only [Machine.rules, there, if_true] at taken
  split at taken <;> try contradiction
  cases refused : m.refuses r.dst r.gateway interface <;> rw [refused] at taken <;> contradiction

theorem classifiedStored (stored : Stored destination gateway interface before after r) :
    classifyExistingRoute ((listed after destination).map Route.reported) destination gateway interface =
      if Recognised destination then .identical else .missing := by
  have read : destinationMatches (Route.reported r).dst destination = decide (Recognised destination) :=
    storedRead stored.stores.dst
  rw [stored.added, listedStored stored.stores stored.fresh, List.map_singleton]
  by_cases known : Recognised destination
  · simp [classifyExistingRoute, read, storedMatches stored.stores, known]
  · simp [classifyExistingRoute, read, known]

omit [LawfulText IpAddr] in
theorem storedDeleted (stored : Stored destination gateway interface before after r) :
    execute m "ip" (routeDeleteArgs destination gateway interface) after = .ok (.text "", before) := by
  change deleteRoute (AddressText.net destination) (routeOptions gateway interface) after = _
  rw [stored.added, deletesStored stored.stores stored.fresh]

theorem appliedStores {op} {k' : Kernel m} (applied : applyRoute destination gateway interface k = (.ok (.applied op), k')) :
    op = .routeAdded destination gateway interface ∧ ∃ r, Stored destination gateway interface k.routes k'.routes r := by
  unfold applyRoute at applied
  change Action.andThen _ _ k = _ at applied
  rw [Action.andThen, inspected] at applied
  generalize classifyExistingRoute _ destination gateway interface = found at applied
  cases found with
  | identical => cases applied
  | conflicting => cases applied
  | missing =>
    change Action.andThen _ _ k = _ at applied
    obtain ⟨e, refused⟩ | ⟨stdout, routes, ran, ended⟩ := commandEnds .installing "ip"
      (routeAddArgs destination gateway interface) ("failed to add route " ++ routeDescription destination gateway interface) k
    · rw [Action.andThen, refused] at applied
      cases applied
    · rw [Action.andThen, ended] at applied
      cases applied
      exact ⟨rfl, addStored ran⟩

theorem reapplied {k' : Kernel m} (stored : Stored destination gateway interface before k'.routes r) :
    (applyRoute destination gateway interface k').1 = .ok .unchanged ↔ Recognised destination := by
  unfold applyRoute
  change (Action.andThen _ _ k').1 = _ ↔ _
  rw [Action.andThen, inspected, classifiedStored stored]
  by_cases known : Recognised destination
  · rw [if_pos known]
    exact ⟨fun _ => known, fun _ => rfl⟩
  · rw [if_neg known]
    refine ⟨fun unchanged => ?_, fun absurd_ => absurd absurd_ known⟩
    change (Action.andThen _ _ k').1 = _ at unchanged
    obtain ⟨e, refused⟩ | ⟨stdout, routes, -, ended⟩ := commandEnds .installing "ip"
      (routeAddArgs destination gateway interface) ("failed to add route " ++ routeDescription destination gateway interface) k'
    · rw [Action.andThen, refused] at unchanged
      cases unchanged
    · rw [Action.andThen, ended] at unchanged
      cases unchanged

theorem reverted {k' : Kernel m} (stored : Stored destination gateway interface before k'.routes r) :
    revertRoute destination gateway interface k' =
      (.ok (), if Recognised destination then ⟨before⟩ else k') := by
  unfold revertRoute
  change Action.andThen _ _ k' = _
  rw [Action.andThen, inspected, classifiedStored stored]
  by_cases known : Recognised destination
  · rw [if_pos known, if_pos known]
    change Action.andThen _ _ k' = _
    rw [Action.andThen, commandRan (storedDeleted stored)]
    rfl
  · rw [if_neg known, if_neg known]
    rfl

/- What was applied is taken back exactly where its destination is one that is printed as
it is stored. The kernel keeps a network without the bits beyond its length, and such a
report is never taken for the destination. -/
theorem routeInverse {b after : LinuxRouteBackend (Kernel m)} {op : AppliedOperation}
    (applied : RouteBackend.apply (.addRoute destination gateway interface) b = (.ok (.applied op), after)) :
    ((∃ done, RouteBackend.revert op after = (.ok (), done) ∧ done.runner.routes = b.runner.routes) ↔
        destination.trunc = destination ∨ destination.prefixLen = 0) ∧
      ((RouteBackend.apply (.addRoute destination gateway interface) after).1 = .ok .unchanged ↔
        destination.trunc = destination ∨ destination.prefixLen = 0) := by
  have outcome : (applyRoute destination gateway interface b.runner).1 = .ok (.applied op) := congrArg Prod.fst applied
  have state : (applyRoute destination gateway interface b.runner).2 = after.runner :=
    congrArg (fun answer => answer.2.runner) applied
  obtain ⟨rfl, r, stored⟩ := appliedStores (Prod.ext outcome state)
  have revert : RouteBackend.revert (.routeAdded destination gateway interface) after =
      ((.ok ()), LinuxRouteBackend.mk (if Recognised destination then ⟨b.runner.routes⟩ else after.runner)) := by
    change onRunner (revertRoute destination gateway interface) after = _
    rw [onRunner, Action.within, reverted stored]
  refine ⟨⟨?_, ?_⟩, reapplied stored⟩
  · rintro ⟨done, ended, back⟩
    cases revert.symm.trans ended
    by_contra unknown
    have kept : after.runner.routes = b.runner.routes := by simpa [Recognised, unknown] using back
    rw [stored.added] at kept
    simp at kept
  · intro known
    have restored : (if Recognised destination then ⟨b.runner.routes⟩ else after.runner : Kernel m) = ⟨b.runner.routes⟩ :=
      if_pos known
    rw [restored] at revert
    exact ⟨_, revert, rfl⟩

end

/-! Text of both families: dotted decimals, and eight groups of four hexadecimal digits,
as an address is displayed whose groups all have four. -/

section Grouped
open ServerNetworking (octet readOctet dottedAddr readDotted dottedReads octetReads addressChars slashless)

def hexDigit (n : Nat) : Char := "0123456789abcdef".toList.getD n '0'

def hexValue (c : Char) : Nat := "0123456789abcdef".toList.idxOf c

def hexDigits : Nat → Nat → List Char
  | 0, _ => []
  | size + 1, n => hexDigits size (n / 16) ++ [hexDigit (n % 16)]

def readHex (digits : List Char) : Nat := digits.foldl (fun n c => 16 * n + hexValue c) 0

theorem hexValueDigit : ∀ n < 16, hexValue (hexDigit n) = n := by decide +kernel

theorem hexReads (size n : Nat) : readHex (hexDigits size n) = n % 16 ^ size := by
  induction size generalizing n with
  | zero => simp [hexDigits, readHex, Nat.mod_one]
  | succ size ih =>
    have last := hexValueDigit (n % 16) (Nat.mod_lt n (by decide))
    have step : readHex (hexDigits (size + 1) n) = 16 * readHex (hexDigits size (n / 16)) + n % 16 := by
      simp only [readHex, hexDigits, List.foldl_append, List.foldl_cons, List.foldl_nil, last]
    rw [step, ih, Nat.pow_succ', Nat.mod_mul]
    omega

def isHex (c : Char) : Bool := c != ':' && c != '/' && c != '.'

theorem hexDigitPlain : ∀ n < 16, isHex (hexDigit n) = true := by decide +kernel

theorem hexDigitsPlain (size n : Nat) : ∀ c ∈ hexDigits size n, isHex c = true := by
  induction size generalizing n with
  | zero => simp [hexDigits]
  | succ size ih =>
    intro c member
    rcases List.mem_append.mp member with earlier | last
    · exact ih (n / 16) c earlier
    · rw [List.mem_singleton.mp last]
      exact hexDigitPlain (n % 16) (Nat.mod_lt n (by decide))

def groups (bits : BitVec 128) : List Nat :=
  [bits.toNat / 2 ^ 112, bits.toNat / 2 ^ 96 % 2 ^ 16, bits.toNat / 2 ^ 80 % 2 ^ 16, bits.toNat / 2 ^ 64 % 2 ^ 16,
    bits.toNat / 2 ^ 48 % 2 ^ 16, bits.toNat / 2 ^ 32 % 2 ^ 16, bits.toNat / 2 ^ 16 % 2 ^ 16, bits.toNat % 2 ^ 16]

theorem groupsSmall (bits : BitVec 128) : ∀ n ∈ groups bits, n < 16 ^ 4 := by
  have := bits.isLt
  simp only [groups, List.mem_cons, List.not_mem_nil, or_false]
  rintro n (rfl | rfl | rfl | rfl | rfl | rfl | rfl | rfl) <;> omega

def joinGroups (groups : List Nat) : Nat := groups.foldl (fun n group => 2 ^ 16 * n + group) 0

theorem groupsJoined (bits : BitVec 128) : joinGroups (groups bits) = bits.toNat := by
  simp only [joinGroups, groups, List.foldl_cons, List.foldl_nil]
  omega

def groupedAddr : IpAddr → List Char
  | .v4 bits => dottedAddr (.v4 bits)
  | .v6 bits => [':'].intercalate ((groups bits).map (hexDigits 4))

def readGroups (text : List Char) : Option IpAddr :=
  let bits := BitVec.ofNat 128 (joinGroups ((text.splitOn ':').map readHex))
  if groupedAddr (.v6 bits) = text then some (.v6 bits) else none

def readGrouped (text : List Char) : Option IpAddr := if ':' ∈ text then readGroups text else readDotted text

def groupedNet (n : IpNet) : List Char := groupedAddr n.addr ++ '/' :: octet n.prefixLen

def readGroupedNet (text : List Char) : Option IpNet :=
  match text.splitOn '/' with
  | [address, length] =>
    match readGrouped address, readOctet length with
    | some addr, some prefixLen => IpNet.new addr prefixLen
    | _, _ => none
  | _ => none

@[reducible] def grouped : AddressText where
  addr a := .ofList (groupedAddr a)
  net n := .ofList (groupedNet n)
  socket a := .ofList (groupedAddr (SocketAddr.ip a))
  parseAddr s := readGrouped s.toList
  parseNet s := readGroupedNet s.toList
  quoted s := "\"" ++ s ++ "\""

theorem groupsRead (bits : BitVec 128) : readGroups (groupedAddr (.v6 bits)) = some (.v6 bits) := by
  have split : (groupedAddr (.v6 bits)).splitOn ':' = (groups bits).map (hexDigits 4) := by
    refine List.splitOn_intercalate ':' ?_ (by simp [groups])
    intro digits member
    obtain ⟨n, -, rfl⟩ := List.mem_map.mp member
    intro colon
    exact absurd (hexDigitsPlain 4 n ':' colon) (by decide)
  have read : ((groups bits).map (hexDigits 4)).map readHex = groups bits := by
    rw [List.map_map]
    refine (List.map_congr_left fun n member => ?_).trans (List.map_id _)
    rw [Function.comp_apply, hexReads, Nat.mod_eq_of_lt (groupsSmall bits n member)]
    rfl
  simp only [readGroups, split, read, groupsJoined, BitVec.ofNat_toNat, BitVec.setWidth_eq, if_true]

theorem groupedChars (bits : BitVec 128) {c : Char} (member : c ∈ groupedAddr (.v6 bits)) : c = ':' ∨ isHex c = true := by
  have plain := hexDigitsPlain 4
  simp only [groupedAddr, groups, List.map_cons, List.map_nil] at member
  simp [List.intercalate] at member
  grind

theorem colonGrouped (bits : BitVec 128) : ':' ∈ groupedAddr (.v6 bits) := by
  simp [groupedAddr, groups, List.intercalate]

theorem octetColonless : ∀ n < 256, (octet n).all (· != ':') = true := by decide +kernel

theorem colonless (bits : BitVec 32) : ':' ∉ dottedAddr (.v4 bits) := by
  intro member
  obtain dot | ⟨n, small, digit⟩ := addressChars bits member
  · exact absurd dot (by decide)
  · exact absurd (List.all_eq_true.mp (octetColonless n small) ':' digit) (by decide)

theorem groupedReads (a : IpAddr) : readGrouped (groupedAddr a) = some a := by
  cases a with
  | v4 bits => rw [readGrouped, groupedAddr, if_neg (colonless bits), dottedReads]
  | v6 bits => rw [readGrouped, if_pos (colonGrouped bits), groupsRead]

theorem groupedSlashless (a : IpAddr) : '/' ∉ groupedAddr a := by
  cases a with
  | v4 bits => exact slashless bits
  | v6 bits =>
    intro member
    rcases groupedChars bits member with colon | digit
    · exact absurd colon (by decide)
    · exact absurd digit (by decide)

theorem octetSlashless : ∀ n < 256, (octet n).all (· != '/') = true := by decide +kernel

theorem groupedNetReads (n : IpNet) : readGroupedNet (groupedNet n) = some n := by
  obtain ⟨address, prefixLen, fits⟩ := n
  have short : address.maxPrefixLen ≤ 128 := by cases address <;> simp [IpAddr.maxPrefixLen]
  have small : prefixLen < 256 := by omega
  have length : '/' ∉ octet prefixLen := by
    intro member
    exact absurd (List.all_eq_true.mp (octetSlashless prefixLen small) '/' member) (by decide)
  have split : (groupedNet ⟨address, prefixLen, fits⟩).splitOn '/' = [groupedAddr address, octet prefixLen] := by
    rw [groupedNet, List.splitOn_append_cons_self_of_not_mem (groupedSlashless address), List.splitOn_eq_singleton length]
  simp only [readGroupedNet, split, groupedReads, octetReads prefixLen small, IpNet.new, dif_pos fits]

theorem groupedLawful : @LawfulText IpAddr _ grouped := by
  refine @LawfulText.mk IpAddr _ grouped ?_ ?_ ?_ ?_ (by decide +kernel) (by decide +kernel)
  · intro x _
    change readGrouped (String.ofList _).toList = _
    rw [String.toList_ofList, groupedReads]
  · intro n _
    change readGroupedNet (String.ofList _).toList = _
    rw [String.toList_ofList, groupedNetReads]
  · intro x a read
    change readGrouped (String.ofList _).toList = _ at read
    rw [String.toList_ofList, groupedReads] at read
    exact Option.some.inj read
  · intro x _
    change readGroupedNet (String.ofList _).toList = _
    rw [String.toList_ofList, readGroupedNet, List.splitOn_eq_singleton (groupedSlashless x)]

def plainMachine : Machine where
  refuses _ _ _ := none
  device _ _ := some "eth0"
  attributes := ⟨[("protocol", .string "boot"), ("metric", .number (.integer 1024))], by decide⟩

def emptyTable : LinuxRouteBackend (Kernel plainMachine) := ⟨⟨[]⟩⟩

def localNet (bits : BitVec 128) : IpNet := ⟨.v6 bits, 127, by simp [IpAddr.maxPrefixLen]⟩

theorem routeInverseLocal : letI := grouped
    let destination := localNet 0xFD001111222233334444555566667776
    ∃ after : LinuxRouteBackend (Kernel plainMachine),
      RouteBackend.apply (.addRoute destination none (some "eth0")) emptyTable =
        (.ok (.applied (.routeAdded destination none (some "eth0"))), after) ∧
      ∃ done, RouteBackend.revert (.routeAdded destination none (some "eth0")) after = (.ok (), done) ∧
        done.runner.routes = [] := by
  let := grouped
  have := groupedLawful
  let destination := localNet 0xFD001111222233334444555566667776
  have outcome : (RouteBackend.apply (.addRoute destination none (some "eth0")) emptyTable).1 =
      .ok (.applied (.routeAdded destination none (some "eth0"))) := by decide +kernel
  have canonical : destination.trunc = destination := by decide +kernel
  rcases applied : RouteBackend.apply (.addRoute destination none (some "eth0")) emptyTable with ⟨answer, after⟩
  rw [applied] at outcome
  subst outcome
  exact ⟨after, applied, (routeInverse applied).1.mpr (.inl canonical)⟩

/- The network is stored, its report is not taken for the destination, and the route stays. -/
theorem hostBitsStay : letI := grouped
    let destination := localNet 0xFD001111222233334444555566667777
    let operation := RouteOperation.addRoute destination none (some "eth0")
    let after := (RouteBackend.apply operation emptyTable).2
    (RouteBackend.apply operation emptyTable).1 = .ok (.applied (.routeAdded destination none (some "eth0"))) ∧
      (RouteBackend.revert (.routeAdded destination none (some "eth0")) after).1 = .ok () ∧
      (RouteBackend.revert (.routeAdded destination none (some "eth0")) after).2.runner.routes.length = 1 ∧
      (RouteBackend.apply operation after).1 ≠ .ok .unchanged := by
  decide +kernel

end Grouped
end Crabnet.FamilyRoutes
