import Crabnet.RouteTable

/-! The machine under the networking code, as far as the code's commands reach: an
IPv4 routing table, the forwarding flag and the nftables tables, and the programs
`ip`, `sysctl` and `nft` over them. What the machine decides for itself is a
parameter: which installing commands fail, what it adds to a route it stores, and
what it prints besides. -/
namespace Crabnet.HostKernel
open NetworkTypes Fallible JsonValue LinuxRoutes RouteTable

class UnbrokenText [AddressText] : Prop extends LawfulText Ipv4Addr where
  unbroken : ∀ n : IpNet, n.addr.isIpv4 = true → ∀ c ∈ (AddressText.net n).toList, c ≠ ' ' ∧ c ≠ '\n'

structure Chain where
  name : String
  rules : List (List String)
  body : List String

structure Table where
  family : String
  name : String
  chains : List Chain

structure NetworkState where
  routes : List (Route Ipv4Addr)
  forwarding : Nat
  tables : List Table

/-! What listings of one table may differ in: the packets and bytes of counters, and
the objects that describe the program that printed them. -/

mutual

inductive Alike : Bool → Value → Value → Prop
  | same (counter v) : Alike counter v v
  | array (counter) {vs ws} (all : AlikeValues vs ws) : Alike counter (.array vs) (.array ws)
  | object {counter fs gs} (all : AlikeFields counter fs gs) : Alike counter (.object fs) (.object gs)

inductive AlikeValues : List Value → List Value → Prop
  | nil : AlikeValues [] []
  | cons {v w vs ws} (first : Alike false v w) (rest : AlikeValues vs ws) : AlikeValues (v :: vs) (w :: ws)

-- The flag holds between the fields of two counters.
inductive AlikeFields : Bool → List (String × Value) → List (String × Value) → Prop
  | nil (counter) : AlikeFields counter [] []
  | counted (key v w) {fs gs} (ticks : key = "packets" ∨ key = "bytes") (rest : AlikeFields true fs gs) :
    AlikeFields true ((key, v) :: fs) ((key, w) :: gs)
  | cons (key) {counter v w fs gs} (first : Alike (key == "counter") v w) (rest : AlikeFields counter fs gs) :
    AlikeFields counter ((key, v) :: fs) ((key, w) :: gs)

end

def describes (object : Value) : Bool := (object.get "metainfo").isSome

def ListingsAlike (v w : Value) : Prop :=
  ∃ vs ws, v = .object [("nftables", .array vs)] ∧ w = .object [("nftables", .array ws)] ∧
    AlikeValues (vs.filter fun o => !describes o) (ws.filter fun o => !describes o)

inductive Fault where
  | unspawned (reason : String)
  | exited (code : Option Int) (stderr : String)

structure Machine where
  fault : Nat → Option Fault
  device : Destination Ipv4Addr → Option Ipv4Addr → Option String
  attributes : Attributes
  metainfo : Nat → Value
  listing : Nat → Table → Value
  listings : ∀ early late table, ListingsAlike (listing early table) (listing late table)

def Machine.rules (m : Machine) : Rules Ipv4Addr where
  refuses _ _ _ _ := none
  device := m.device
  attributes := m.attributes

/-! The programs. Each ends with what it prints and the state it leaves, or with its
complaint and no effect. -/

abbrev HostEffect := Except String (Output × NetworkState)

def onRoutes (x : List (Route Ipv4Addr) → Effect Ipv4Addr) (s : NetworkState) : HostEffect :=
  (x s.routes).map fun done => (done.1, {s with routes := done.2})

def writeSetting (setting : String) (s : NetworkState) : HostEffect :=
  if setting = "net.ipv4.ip_forward=0" then .ok (.text "net.ipv4.ip_forward = 0\n", {s with forwarding := 0})
  else if setting = "net.ipv4.ip_forward=1" then .ok (.text "net.ipv4.ip_forward = 1\n", {s with forwarding := 1})
  else .error ("sysctl: cannot set " ++ setting)

def Table.isNamed (family name : String) (t : Table) : Bool := t.family == family && t.name == name

def Table.json (t : Table) : Value :=
  .object [("table", .object [("family", .string t.family), ("name", .string t.name)])]

def listTables (m : Machine) (clock : Nat) (s : NetworkState) : HostEffect :=
  .ok (.json (.object [("nftables", .array (.object [("metainfo", m.metainfo clock)] :: s.tables.map Table.json))]), s)

def listTable (m : Machine) (clock : Nat) (family name : String) (s : NetworkState) : HostEffect :=
  match s.tables.find? (Table.isNamed family name) with
  | some t => .ok (.json (m.listing clock t), s)
  | none => .error "Error: No such file or directory"

def deleteTable (family name : String) (s : NetworkState) : HostEffect :=
  if s.tables.any (Table.isNamed family name) then
    .ok (.text "", {s with tables := s.tables.eraseP (Table.isNamed family name)})
  else .error "Error: No such file or directory"

/-! Batches of nftables commands: lines of words, of which all take effect or none. -/

def Chain.accepts (name : String) (rule : List String) (c : Chain) : Chain :=
  if c.name = name then {c with rules := c.rules ++ [rule]} else c

def Table.addChain (name : String) (body : List String) (t : Table) : Table :=
  if t.chains.any (·.name == name) then t else {t with chains := t.chains ++ [⟨name, [], body⟩]}

def Table.addRule (name : String) (rule : List String) (t : Table) : Option Table :=
  if t.chains.any (·.name == name) then some {t with chains := t.chains.map (Chain.accepts name rule)} else none

def changeTable (family name : String) (f : Table → Option Table) : List Table → Option (List Table)
  | [] => none
  | t :: rest =>
    if t.isNamed family name then (f t).map (· :: rest) else (changeTable family name f rest).map (t :: ·)

def runLine (tables : List Table) : List String → Option (List Table)
  | ["add", "table", family, name] =>
    some (if tables.any (Table.isNamed family name) then tables else tables ++ [⟨family, name, []⟩])
  | "add" :: "chain" :: family :: table :: name :: body =>
    changeTable family table (fun t => some (t.addChain name body)) tables
  | "add" :: "rule" :: family :: table :: name :: rule => changeTable family table (Table.addRule name rule) tables
  | _ => none

def words (line : List Char) : List String := (line.splitOn ' ').map .ofList

def batchLines (text : String) : List (List String) := ((text.toList.splitOn '\n').filter fun l => l ≠ []).map words

def runBatch (stdin : Option String) (s : NetworkState) : HostEffect :=
  match (batchLines (stdin.getD "")).foldlM runLine s.tables with
  | some tables => .ok (.text "", {s with tables := tables})
  | none => .error "Error: syntax error"

@[irreducible] def execute [AddressText] (m : Machine) (clock : Nat) (program : String) (args : List String) (stdin : Option String)
    (s : NetworkState) : HostEffect :=
  match program, args with
  | "ip", ["-j", "link", "show", "dev", _] => .ok (.json (.array []), s)
  | "ip", ["-j", "route", "show", "exact", dst] => onRoutes (showRoutes dst) s
  | "ip", "route" :: "add" :: dst :: options => onRoutes (addRoute m.rules dst options) s
  | "ip", "route" :: "del" :: dst :: options => onRoutes (deleteRoute dst options) s
  | "sysctl", ["-n", "net.ipv4.ip_forward"] => .ok (.text (toString s.forwarding ++ "\n"), s)
  | "sysctl", ["-w", setting] => writeSetting setting s
  | "nft", ["-j", "list", "tables"] => listTables m clock s
  | "nft", ["-j", "list", "table", family, name] => listTable m clock family name s
  | "nft", ["delete", "table", family, name] => deleteTable family name s
  | "nft", ["-f", "-"] => runBatch stdin s
  | _, _ => .error "unknown command"

section
variable [AddressText] {m : Machine} {clock : Nat} {stdin : Option String} {s : NetworkState}

theorem executeLink (name) : execute m clock "ip" ["-j", "link", "show", "dev", name] stdin s = .ok (.json (.array []), s) := by
  unfold execute
  rfl

theorem executeShow (dst) : execute m clock "ip" ["-j", "route", "show", "exact", dst] stdin s =
    onRoutes (showRoutes dst) s := by
  unfold execute
  rfl

theorem executeAdd (dst options) :
    execute m clock "ip" ("route" :: "add" :: dst :: options) stdin s =
      onRoutes (addRoute m.rules dst options) s := by
  unfold execute
  rfl

theorem executeDelete (dst options) :
    execute m clock "ip" ("route" :: "del" :: dst :: options) stdin s =
      onRoutes (deleteRoute dst options) s := by
  unfold execute
  rfl

theorem executeRead : execute m clock "sysctl" ["-n", "net.ipv4.ip_forward"] stdin s =
    .ok (.text (toString s.forwarding ++ "\n"), s) := by
  unfold execute
  rfl

theorem executeWrite (setting) : execute m clock "sysctl" ["-w", setting] stdin s = writeSetting setting s := by
  unfold execute
  rfl

theorem executeTables : execute m clock "nft" ["-j", "list", "tables"] stdin s = listTables m clock s := by
  unfold execute
  rfl

theorem executeTable (family name) :
    execute m clock "nft" ["-j", "list", "table", family, name] stdin s = listTable m clock family name s := by
  unfold execute
  rfl

theorem executeDeleteTable (family name) :
    execute m clock "nft" ["delete", "table", family, name] stdin s = deleteTable family name s := by
  unfold execute
  rfl

theorem executeBatch : execute m clock "nft" ["-f", "-"] stdin s = runBatch stdin s := by
  unfold execute
  rfl

end

structure Kernel (m : Machine) where
  state : NetworkState
  clock : Nat

-- A fault ends an installing command before it does anything. What takes something back runs
-- without faults: nothing is promised of a host on which a restoration fails.
def Kernel.run [AddressText] {m : Machine} (purpose : Purpose) (program : String) (args : List String)
    (stdin : Option String) : Action (Kernel m) Failure CommandResult := fun k =>
  let later : Kernel m := {k with clock := k.clock + 1}
  let fault := if purpose = .installing then m.fault k.clock else none
  match fault with
  | some (.unspawned reason) => (.error ((Failure.of reason).context ("failed to execute `" ++ program ++ "`")), later)
  | some (.exited code stderr) => (.ok ⟨false, code, .text "", stderr⟩, later)
  | none =>
    match execute m k.clock program args stdin k.state with
    | .ok (stdout, state) => (.ok ⟨true, some 0, stdout, ""⟩, {later with state := state})
    | .error stderr => (.ok ⟨false, some 2, .text "", stderr⟩, later)

instance [AddressText] {m : Machine} : CommandRunner (Kernel m) where
  run := Kernel.run

end Crabnet.HostKernel
