import Crabnet.HostKernel
import Crabnet.ManagerReversal

/-! The routing backend on the machine: each of its operations ends without a trace
or is taken back from any later moment that shows the same state. -/
namespace Crabnet.KernelRoutes
open NetworkTypes Fallible Routing JsonValue LinuxRoutes RouteTable HostKernel Reversal ManagerReversal

section
open RuntimeConfig

theorem digitSolid {c : Char} (digit : c.isDigit = true) : whiteSpace c = false := by
  simp only [Char.isDigit, Bool.and_eq_true, decide_eq_true_eq, ge_iff_le, UInt32.le_iff_toNat_le] at digit
  obtain ⟨low, high⟩ := digit
  have low : 48 ≤ c.val.toNat := low
  have high : c.val.toNat ≤ 57 := high
  have apart : ∀ v : UInt32, v.toNat < 48 ∨ 57 < v.toNat → c.val ≠ v := by
    rintro v bound rfl
    omega
  simp only [whiteSpace, List.contains_eq_mem, List.mem_cons, List.not_mem_nil, or_false, Bool.or_eq_false_iff,
    Bool.and_eq_false_iff, decide_eq_false_iff_not, UInt32.le_iff_toNat_le, not_or]
  refine ⟨⟨.inr ?_, .inl ?_⟩, ?_⟩
  · exact Nat.not_le.mpr (Nat.lt_of_lt_of_le (by decide) low)
  · exact Nat.not_le.mpr (Nat.lt_of_le_of_lt high (by decide))
  · refine ⟨apart _ ?_, apart _ ?_, apart _ ?_, apart _ ?_, apart _ ?_, apart _ ?_, apart _ ?_, apart _ ?_, apart _ ?_⟩ <;>
      decide

theorem digitsTrimmed (n : Nat) : trim (toString n ++ "\n") = toString n := by
  have solid : ∀ c ∈ Nat.toDigits 10 n, whiteSpace c = false := fun c member =>
    digitSolid (Nat.isDigit_of_mem_toDigits (by decide) (by decide) member)
  have texts : (toString n ++ "\n").toList = Nat.toDigits 10 n ++ ['\n'] := by
    rw [String.toList_append]
    simp [toString]
  have kept : ∀ l : List Char, (∀ c ∈ l, whiteSpace c = false) → l.dropWhile whiteSpace = l := by
    intro l solid
    cases l with
    | nil => rfl
    | cons c rest =>
      rw [List.dropWhile_cons, solid c List.mem_cons_self]
      rfl
  have first : (Nat.toDigits 10 n ++ ['\n']).dropWhile whiteSpace = Nat.toDigits 10 n ++ ['\n'] := by
    cases digits : Nat.toDigits 10 n with
    | nil => exact absurd digits Nat.toDigits_ne_nil
    | cons c rest =>
      rw [digits] at solid
      rw [List.cons_append, List.dropWhile_cons, solid c List.mem_cons_self]
      rfl
  have second : ('\n' :: (Nat.toDigits 10 n).reverse).dropWhile whiteSpace = (Nat.toDigits 10 n).reverse := by
    rw [List.dropWhile_cons, show whiteSpace '\n' = true from by decide]
    exact kept _ fun c member => solid c (List.mem_reverse.mp member)
  rw [trim, texts, first, List.reverse_append, List.reverse_singleton, List.singleton_append, second, List.reverse_reverse]
  exact Nat.repr_eq_ofList_toDigits.symm

theorem digitsOf {n d : Nat} (small : d < 10) : toString n = String.ofList [Nat.digitChar d] ↔ n = d := by
  constructor
  · intro same
    have digits : Nat.toDigits 10 n = [Nat.digitChar d] := by
      rw [← Nat.toList_repr]
      exact (congrArg String.toList same).trans String.toList_ofList
    have short : n < 10 ^ 1 := (Nat.length_toDigits_le_iff (by decide) (by decide)).mp (by rw [digits]; exact Nat.le_refl 1)
    rw [Nat.toDigits_of_lt_base (by simpa using short)] at digits
    have chars := congrArg Char.toNat (List.head_eq_of_cons_eq digits)
    rw [Nat.toNat_digitChar_of_lt_ten (by simpa using short), Nat.toNat_digitChar_of_lt_ten small] at chars
    omega
  · rintro rfl
    exact congrArg String.ofList (Nat.toDigits_of_lt_base small)

end

section
variable [AddressText] {m : Machine} {k : Kernel m} {s : NetworkState} {clock : Nat}

theorem installRule {program args stdin action} {Q : CommandResult → Kernel m → Prop} {E : Failure → Kernel m → Prop}
    (done : ∀ stdout state, execute m k.clock program args stdin k.state = .ok (stdout, state) →
      Q ⟨true, some 0, stdout, ""⟩ ⟨state, k.clock + 1⟩)
    (failed : ∀ e t, t.state = k.state → E e t) :
    Action.wp (runChecked .installing program args stdin action) Q E k := by
  simp only [runChecked, Action.wpBind]
  change Action.wp (Kernel.run .installing program args stdin) _ _ k
  simp only [Action.wp, Kernel.run, if_true]
  cases m.fault k.clock with
  | some fault =>
    cases fault with
    | unspawned reason => exact failed _ _ rfl
    | exited code stderr => exact failed _ _ rfl
  | none =>
    cases ran : execute m k.clock program args stdin k.state with
    | error stderr => exact failed _ _ rfl
    | ok effect => exact done _ _ ran

theorem restoreRule {program args stdin action stdout state} {Q : CommandResult → Kernel m → Prop}
    {E : Failure → Kernel m → Prop} (ran : execute m k.clock program args stdin k.state = .ok (stdout, state))
    (done : Q ⟨true, some 0, stdout, ""⟩ ⟨state, k.clock + 1⟩) :
    Action.wp (runChecked .restoring program args stdin action) Q E k := by
  simp only [runChecked, Action.wpBind]
  change Action.wp (Kernel.run .restoring program args stdin) _ _ k
  simp only [Action.wp, Kernel.run, reduceCtorEq, if_false, ran]
  exact done

theorem commandRule {purpose program args stdin action stdout state} {Q : CommandResult → Kernel m → Prop}
    {E : Failure → Kernel m → Prop} (ran : execute m k.clock program args stdin k.state = .ok (stdout, state))
    (done : Q ⟨true, some 0, stdout, ""⟩ ⟨state, k.clock + 1⟩)
    (failed : purpose = .installing → ∀ e t, t.state = k.state → E e t) :
    Action.wp (runChecked purpose program args stdin action) Q E k := by
  cases purpose with
  | restoring => exact restoreRule ran done
  | installing =>
    refine installRule (fun stdout' state' again => ?_) (failed rfl)
    cases ran.symm.trans again
    exact done

variable [LawfulText Ipv4Addr]

theorem inspected {purpose} {destination : IpNet} {gateway interface} {Q : ExistingRoute → Kernel m → Prop} {E}
    (ipv4 : destination.addr.isIpv4 = true)
    (done : Q (classifyExistingRoute ((listed k.state.routes destination).map Route.reported) destination gateway interface)
      {k with clock := k.clock + 1}) (failed : purpose = .installing → ∀ e t, t.state = k.state → E e t) :
    Action.wp (inspectRoute purpose destination gateway interface) Q E k := by
  have ran : execute m k.clock "ip" (showRouteArgs destination) none k.state =
      .ok (.json (.array ((listed k.state.routes destination).map Route.json)), k.state) := by
    rw [showRouteArgs, executeShow, onRoutes, listingShown ((servesIpv4 _).trans ipv4)]
    rfl
  simp only [inspectRoute, Action.wpBind]
  refine commandRule ran ?_ failed
  simp only [Output.document, readArrayMap routeRead, Action.wpPure]
  exact done

theorem missingUnlisted {routes : List (Route Ipv4Addr)} {destination : IpNet} {gateway interface}
    (canonical : destination.trunc = destination)
    (missing : classifyExistingRoute ((listed routes destination).map Route.reported) destination gateway interface = .missing) :
    ∀ r ∈ routes, r.dst.net ≠ destination.trunc := by
  rw [canonical]
  intro r member same
  have inside : r ∈ listed routes destination := List.mem_filter.mpr ⟨member, by rw [canonical, decide_eq_true_eq]; exact same⟩
  have found : destinationMatches (Route.reported r).dst destination = true := by
    rw [← same]
    exact destinationSelf r.dst
  have shown : Route.reported r ∈ (listed routes destination).map Route.reported := List.mem_map.mpr ⟨r, inside, rfl⟩
  unfold classifyExistingRoute at missing
  generalize (listed routes destination).map Route.reported = reports at missing shown
  have some_ : reports.isEmpty = false := by
    cases reports with
    | nil => cases shown
    | cons => rfl
  rw [some_] at missing
  simp only [Bool.false_eq_true, if_false] at missing
  split at missing <;> try contradiction
  rename_i calm
  split at missing <;> try contradiction
  rename_i strange
  cases fits : routeMatches (Route.reported r) (gateway.map AddressText.addr) interface with
  | true => exact strange (List.any_eq_true.mpr ⟨_, shown, by rw [found, fits]; rfl⟩)
  | false => exact calm (List.any_eq_true.mpr ⟨_, shown, by rw [found, fits]; rfl⟩)

theorem soleIdentical {r : Route Ipv4Addr} {gateway interface}
    (fits : routeMatches (Route.reported r) (gateway.map AddressText.addr) interface = true) :
    classifyExistingRoute [Route.reported r] r.dst.net gateway interface = .identical := by
  have found : destinationMatches (Route.reported r).dst r.dst.net = true := destinationSelf r.dst
  simp [classifyExistingRoute, found, fits]

def shown (b : LinuxRouteBackend (Kernel m)) : NetworkState := b.runner.state

theorem storedTakenBack {destination : IpNet} {gateway interface} {r : Route Ipv4Addr}
    (ipv4 : destination.addr.isIpv4 = true) (stores : Stores destination gateway interface r)
    (fresh : ∀ other ∈ s.routes, other.dst.net ≠ destination.trunc) :
    TakesBack (shown (m := m)) (RouteBackend.revert (.routeAdded destination gateway interface))
      {s with routes := s.routes ++ [r]} s := by
  intro b now
  change Action.wp (onRunner (revertRoute destination gateway interface)) _ _ b
  simp only [onRunner, Action.wpWithin, revertRoute, Action.wpBind]
  refine inspected ipv4 ?_ (by simp)
  change b.runner.state = _ at now
  have identical : classifyExistingRoute [Route.reported r] destination gateway interface = .identical := by
    have sole := soleIdentical (storedMatches stores)
    rw [stores.dst, storesCanonical ipv4 stores] at sole
    exact sole
  have deleted (clock) : execute m clock "ip" (routeDeleteArgs destination gateway interface) none
      {s with routes := s.routes ++ [r]} = .ok (.text "", s) := by
    refine (executeDelete (AddressText.net destination) (routeOptions gateway interface)).trans ?_
    rw [onRoutes, deletesStored stores fresh]
    rfl
  rw [now, listedStored stores fresh, List.map_singleton, identical]
  simp only [Action.wpBind, Action.wpPure]
  exact restoreRule (deleted _) rfl

theorem addExecuted {destination : IpNet} {gateway interface stdout state} (ipv4 : destination.addr.isIpv4 = true)
    (ran : execute m clock "ip" (routeAddArgs destination gateway interface) none s = .ok (stdout, state)) :
    ∃ r, Stores destination gateway interface r ∧ state = {s with routes := s.routes ++ [r]} := by
  have added := (executeAdd (AddressText.net destination) (routeOptions gateway interface)).symm.trans ran
  unfold onRoutes at added
  cases effect : addRoute m.rules (AddressText.net destination) (routeOptions gateway interface) s.routes with
  | error complaint =>
    rw [effect] at added
    contradiction
  | ok done =>
    rw [effect] at added
    cases added
    obtain ⟨r, stores, same, _⟩ := addStores ((servesIpv4 _).trans ipv4) effect
    exact ⟨r, stores, by rw [same]⟩

theorem routeReverses {destination : IpNet} {gateway interface} (ipv4 : destination.addr.isIpv4 = true) :
    OperationReverses (shown (m := m)) (.addRoute destination gateway interface) := by
  intro b
  change Action.wp (onRunner (applyRoute destination gateway interface)) _ _ b
  simp only [onRunner, Action.wpWithin, applyRoute, Action.wpBind]
  refine inspected ipv4 ?_ (fun _ e t kept => kept)
  cases found : classifyExistingRoute ((listed b.runner.state.routes destination).map Route.reported) destination gateway interface with
  | identical => rfl
  | conflicting => rfl
  | missing =>
    simp only [Action.wpBind, Action.wpPure]
    refine installRule (fun stdout state ran => ?_) (fun e t kept => kept)
    obtain ⟨r, stores, rfl⟩ := addExecuted ipv4 ran
    exact storedTakenBack ipv4 stores (missingUnlisted (storesCanonical ipv4 stores) found)

end

section
variable [AddressText] {m : Machine} {s : NetworkState} {clock : Nat}

theorem readExecuted : execute m clock "sysctl" readIpv4ForwardingArgs none s =
    .ok (.text (toString s.forwarding ++ "\n"), s) := executeRead

theorem writeExecuted (b : Bool) : ∃ stdout, execute m clock "sysctl" (writeIpv4ForwardingArgs b) none s =
    .ok (stdout, {s with forwarding := b.toNat}) := by
  rw [writeIpv4ForwardingArgs, executeWrite]
  cases b with
  | false => exact ⟨_, rfl⟩
  | true => exact ⟨_, rfl⟩

theorem flagRead {n : Nat} {b : Bool} :
    parseIpv4Forwarding (.text (toString n ++ "\n")) = .ok b ↔ n = b.toNat := by
  simp only [parseIpv4Forwarding, digitsTrimmed]
  have off : toString n = "0" ↔ n = 0 := @digitsOf n 0 (by decide)
  have on : toString n = "1" ↔ n = 1 := @digitsOf n 1 (by decide)
  simp only [off, on]
  by_cases zero : n = 0
  · cases b <;> simp [zero]
  · by_cases one : n = 1
    · cases b <;> simp [one]
    · cases b <;> simp [zero, one]

theorem flagTakenBack {current requested : Bool} (differ : current ≠ requested) (flag : s.forwarding = current.toNat) :
    TakesBack (shown (m := m)) (RouteBackend.revert (.ipv4ForwardingChanged current))
      {s with forwarding := requested.toNat} s := by
  intro b now
  change Action.wp (onRunner (revertIpv4Forwarding current)) _ _ b
  change b.runner.state = _ at now
  simp only [onRunner, Action.wpWithin, revertIpv4Forwarding, readIpv4Forwarding, Action.wpBind]
  refine restoreRule readExecuted ?_
  have read : parseIpv4Forwarding (.text (toString b.runner.state.forwarding ++ "\n")) = .ok requested := by
    rw [flagRead, now]
  simp only [Action.wpOfExcept, read, Action.wpIte]
  refine ⟨fun same => absurd same.symm differ, fun _ => ?_⟩
  simp only [writeIpv4Forwarding, Action.wpBind, Action.wpPure]
  obtain ⟨stdout, wrote⟩ := @writeExecuted _ m b.runner.state (b.runner.clock + 1) current
  refine restoreRule wrote ?_
  change {b.runner.state with forwarding := current.toNat} = s
  rw [now, ← flag]

theorem flagReverses (requested : Bool) : OperationReverses (shown (m := m)) (.setIpv4Forwarding requested) := by
  intro b
  change Action.wp (onRunner (applyIpv4Forwarding requested)) _ _ b
  simp only [onRunner, Action.wpWithin, applyIpv4Forwarding, readIpv4Forwarding, Action.wpBind]
  refine commandRule readExecuted ?_ (fun _ e t kept => kept)
  simp only [Action.wpOfExcept]
  cases read : parseIpv4Forwarding (.text (toString b.runner.state.forwarding ++ "\n")) with
  | error e => rfl
  | ok current =>
    simp only [Action.wpIte, Action.wpPure, Action.wpBind, writeIpv4Forwarding]
    obtain ⟨told, wrote⟩ := @writeExecuted _ m b.runner.state (b.runner.clock + 1) requested
    refine ⟨fun _ => rfl, fun differ => commandRule wrote ?_ (fun _ e t kept => kept)⟩
    exact flagTakenBack differ (flagRead.mp read)

end
end Crabnet.KernelRoutes
