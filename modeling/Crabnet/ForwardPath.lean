import Crabnet.Firewall

/-! What the firewall of a host does to the packets that it forwards, and that the
server's advice is right about it. A base chain whose rules do not decide a packet
leaves it to its policy, and a forwarded packet has to pass every chain. -/
namespace Crabnet.ForwardPath
open SessionTypes NetworkTypes Fallible JsonValue RuntimeConfig Routing LinuxRoutes Firewall

inductive Verdict where
  | accept | drop
  deriving DecidableEq, Repr

def Verdict.word : Verdict → String
  | accept => "accept"
  | drop => "drop"

-- Translation and routing have no chains on the forward hook.
structure Base where
  type : String
  hook : String
  priority : Int
  policy : Verdict
  placed : hook = "forward" → type = "filter"

structure Chain (P : Type) where
  family : String
  table : String
  name : String
  base : Option Base
  rules : P → Option Verdict

namespace Chain
variable {P : Type}

def seesForwarded (c : Chain P) : Bool :=
  (c.family == "ip" || c.family == "inet") && c.base.any fun b => b.hook == "forward"

def dropsByDefault (c : Chain P) : Bool := c.seesForwarded && c.base.any fun b => b.policy == .drop

def verdict (p : P) (c : Chain P) : Verdict :=
  (c.rules p).getD (if c.dropsByDefault then .drop else .accept)

end Chain

def Forwards {P : Type} (chains : List (Chain P)) (p : P) : Prop :=
  ∀ c ∈ chains, c.seesForwarded = true → c.verdict p = .accept

instance {P : Type} (chains : List (Chain P)) (p : P) : Decidable (Forwards chains p) :=
  inferInstanceAs (Decidable (∀ c ∈ chains, c.seesForwarded = true → c.verdict p = .accept))

structure Printer (P : Type) where
  heading : List (List (String × Value))
  headings : ∀ fields ∈ heading, ∀ f ∈ fields, f.1 ≠ "chain"
  besides : Chain P → List (String × Value)
  apart : ∀ c, ∀ f ∈ besides c, f.1 ∉ chainFields

def Base.fields (b : Base) : List (String × Value) :=
  [("type", .string b.type), ("hook", .string b.hook), ("prio", .number (.integer b.priority)),
    ("policy", .string b.policy.word)]

section
variable {P : Type}

def Chain.fields (c : Chain P) : List (String × Value) :=
  [("family", .string c.family), ("table", .string c.table), ("name", .string c.name)] ++
    (c.base.map Base.fields).getD []

def Chain.json (m : Printer P) (c : Chain P) : Value :=
  .object [("chain", .object (c.fields ++ m.besides c))]

def Shows (m : Printer P) (chains : List (Chain P)) (stdout : Output) : Prop :=
  ∃ objects, stdout = .json (.object [("nftables", .array objects)]) ∧
    objects.Perm (m.heading.map Value.object ++ chains.map (Chain.json m))

def Chain.read (c : Chain P) : NftChain where
  family := c.family
  table := c.table
  name := c.name
  chainType := c.base.map Base.type
  hook := c.base.map Base.hook
  policy := c.base.map fun b => b.policy.word

theorem chainReads (m : Printer P) (c : Chain P) : NftObject.read (c.json m) = some (some c.read) := by
  have body : NftChain.read (.object (c.fields ++ m.besides c)) = some c.read := by
    unfold NftChain.read
    rw [derivedApart (m.apart c)]
    rcases c with ⟨family, table, name, _ | base, rules⟩ <;> rfl
  unfold NftObject.read Chain.json
  have field : derived ["chain"] (.object [("chain", .object (c.fields ++ m.besides c))]) =
      some [some (.object (c.fields ++ m.besides c))] := rfl
  rw [field]
  simp only [body, Option.map_some]

theorem headingReads (m : Printer P) {fields : List (String × Value)} (inside : fields ∈ m.heading) :
    NftObject.read (.object fields) = some none := by
  have none : derived ["chain"] (.object ([] ++ fields)) = some [none] := by
    refine (derivedApart fun f member named => ?_).trans rfl
    exact m.headings fields inside f member (List.mem_singleton.mp named)
  unfold NftObject.read
  rw [← List.nil_append fields, none]

theorem readAll {α : Type} {read : Value → Option α} (values : List Value) (all : ∀ v ∈ values, (read v).isSome = true) :
    readArray read (some (.array values)) = some (values.filterMap read) := by
  simp only [readArray]
  induction values with
  | nil => rfl
  | cons v rest ih =>
    obtain ⟨a, here⟩ := Option.isSome_iff_exists.mp (all v List.mem_cons_self)
    have later := ih fun w member => all w (List.mem_cons_of_mem v member)
    rw [List.mapM_cons, later, List.filterMap_cons, here]
    rfl

class LawfulLowercase [Lowercase] : Prop where
  accept : Lowercase.toLowercase "accept" = "accept"
  drop : Lowercase.toLowercase "drop" = "drop"

def observed (c : Chain P) : Option ForwardBaseChain :=
  if c.seesForwarded then
    some ⟨if c.family = "inet" then .inet else .ip, c.table, c.name, if c.dropsByDefault then .drop else .accept⟩
  else none

variable [Lowercase] [LawfulLowercase]

theorem wordClassified (v : Verdict) : classifyPolicy (some v.word) = if v == .drop then .drop else .accept := by
  cases v with
  | accept =>
    simp only [classifyPolicy, Verdict.word, LawfulLowercase.accept]
    rfl
  | drop =>
    simp only [classifyPolicy, Verdict.word, LawfulLowercase.drop]
    rfl

theorem readObserved (c : Chain P) : forwardBaseChain c.read = observed c := by
  rcases c with ⟨family, table, name, _ | base, rules⟩
  · simp [forwardBaseChain, isIpv4ForwardBaseChain, observed, Chain.seesForwarded, Chain.read]
  · by_cases hook : base.hook = "forward"
    · have filter := base.placed hook
      by_cases inet : family = "inet"
      · simp [forwardBaseChain, isIpv4ForwardBaseChain, observed, Chain.seesForwarded, Chain.dropsByDefault, Chain.read,
          hook, filter, inet, wordClassified]
      · by_cases ip : family = "ip"
        · simp [forwardBaseChain, isIpv4ForwardBaseChain, observed, Chain.seesForwarded, Chain.dropsByDefault, Chain.read,
            hook, filter, ip, wordClassified]
        · simp [forwardBaseChain, isIpv4ForwardBaseChain, observed, Chain.seesForwarded, Chain.read, inet, ip]
    · simp [forwardBaseChain, isIpv4ForwardBaseChain, observed, Chain.seesForwarded, Chain.read, hook]

end

theorem familyRank {a b : FirewallFamily} (same : a.rank = b.rank) : a = b := by
  cases a <;> cases b <;> first | rfl | cases same

theorem policyRank {a b : BaseChainPolicy} (same : a.rank = b.rank) : a = b := by
  cases a <;> cases b <;> simp_all [BaseChainPolicy.rank]

theorem chainRank {a b : ForwardBaseChain} (same : a.rank = b.rank) : a = b := by
  obtain ⟨family, table, chain, policy⟩ := a
  obtain ⟨family', table', chain', policy'⟩ := b
  simp only [ForwardBaseChain.rank, toLex_inj, Prod.mk.injEq] at same
  obtain ⟨families, rfl, rfl, policies⟩ := same
  rw [familyRank families, policyRank policies]

def InOrder (chains : List ForwardBaseChain) : Prop := chains.Pairwise fun a b => a.rank ≤ b.rank

theorem sortOrdered (chains : List ForwardBaseChain) : InOrder (sort chains) := by
  have trans : ∀ a b c : ForwardBaseChain, a.le b = true → b.le c = true → a.le c = true := by
    intro a b c first second
    simp only [ForwardBaseChain.le, decide_eq_true_eq] at first second ⊢
    exact le_trans first second
  have total : ∀ a b : ForwardBaseChain, (a.le b || b.le a) = true := by
    intro a b
    simp only [ForwardBaseChain.le, Bool.or_eq_true, decide_eq_true_eq]
    exact le_total a.rank b.rank
  exact (List.pairwise_mergeSort trans total chains).imp fun related => of_decide_eq_true related

theorem sortUnique {chains listed : List ForwardBaseChain} (same : chains.Perm listed) : sort chains = sort listed := by
  have anti : ∀ a b, a ∈ sort chains → b ∈ sort listed → a.rank ≤ b.rank → b.rank ≤ a.rank → a = b := by
    intro a b _ _ below above
    exact chainRank (le_antisymm below above)
  have perm : (sort chains).Perm (sort listed) :=
    (List.mergeSort_perm chains _).trans (same.trans (List.mergeSort_perm listed _).symm)
  exact perm.eq_of_pairwise anti (sortOrdered chains) (sortOrdered listed)

section
variable {P : Type}

theorem printedReads (m : Printer P) {chains : List (Chain P)} {objects : List Value}
    (shown : objects.Perm (m.heading.map Value.object ++ chains.map (Chain.json m))) :
    ∀ v ∈ objects, (NftObject.read v).isSome = true := by
  intro v member
  rcases List.mem_append.mp (shown.mem_iff.mp member) with heading | chain
  · obtain ⟨fields, inside, rfl⟩ := List.mem_map.mp heading
    rw [headingReads m inside]
    rfl
  · obtain ⟨c, _, rfl⟩ := List.mem_map.mp chain
    rw [chainReads m c]
    rfl

theorem listingParsed [Lowercase] [LawfulLowercase] {m : Printer P} {chains : List (Chain P)} {stdout : Output}
    (shown : Shows m chains stdout) : parseForwardBaseChains stdout = .ok (sort (chains.filterMap observed)) := by
  obtain ⟨objects, rfl, same⟩ := shown
  have listing : NftChainListing.read (some (.object [("nftables", .array objects)])) =
      some (objects.filterMap NftObject.read) := readAll objects (printedReads m same)
  simp only [parseForwardBaseChains, Output.document, listing]
  congr 1
  refine sortUnique ?_
  rw [List.filterMap_filterMap]
  refine (same.filterMap _).trans (.of_eq ?_)
  rw [List.filterMap_append, List.filterMap_map, List.filterMap_map]
  have quiet : m.heading.filterMap ((fun v => (NftObject.read v).bind fun object => object.bind forwardBaseChain) ∘
      Value.object) = [] := by
    refine List.filterMap_eq_nil_iff.mpr fun fields inside => ?_
    simp only [Function.comp_apply, headingReads m inside]
    rfl
  rw [quiet, List.nil_append]
  refine List.filterMap_congr fun c _ => ?_
  simp only [Function.comp_apply, chainReads m c, Option.bind_some, readObserved]

variable {chains : List (Chain P)}

theorem observedChain {chain : ForwardBaseChain} (member : chain ∈ sort (chains.filterMap observed)) :
    ∃ c ∈ chains, c.seesForwarded = true ∧ chain.policy = if c.dropsByDefault then .drop else .accept := by
  obtain ⟨c, inside, here⟩ := List.mem_filterMap.mp (List.mem_mergeSort.mp member)
  unfold observed at here
  split at here
  · rename_i sees
    cases Option.some.inj here
    exact ⟨c, inside, sees, rfl⟩
  · contradiction

theorem seenObserved {c : Chain P} (inside : c ∈ chains) (sees : c.seesForwarded = true) :
    ∃ chain ∈ sort (chains.filterMap observed), chain.policy = if c.dropsByDefault then .drop else .accept := by
  have here : observed c = some
      ⟨if c.family = "inet" then .inet else .ip, c.table, c.name, if c.dropsByDefault then .drop else .accept⟩ := if_pos sees
  exact ⟨_, List.mem_mergeSort.mpr (List.mem_filterMap.mpr ⟨c, inside, here⟩), rfl⟩

theorem dropsSeen {c : Chain P} (drops : c.dropsByDefault = true) : c.seesForwarded = true :=
  (Bool.and_eq_true _ _ ▸ drops).1

theorem assessedNone : assessForwardChains (sort (chains.filterMap observed)) = .noForwardHookObserved ↔
    ∀ c ∈ chains, c.seesForwarded = false := by
  constructor
  · intro assessed c inside
    by_contra sees
    obtain ⟨chain, member, _⟩ := seenObserved inside (Bool.eq_true_of_not_eq_false sees)
    unfold assessForwardChains at assessed
    rw [if_neg (List.ne_nil_of_mem member)] at assessed
    split at assessed
    · contradiction
    · split at assessed <;> contradiction
  · intro unseen
    have none : sort (chains.filterMap observed) = [] := by
      refine List.eq_nil_iff_forall_not_mem.mpr fun chain member => ?_
      obtain ⟨c, inside, sees, _⟩ := observedChain member
      rw [unseen c inside] at sees
      contradiction
    rw [none]
    rfl

theorem assessedKnown : assessForwardChains (sort (chains.filterMap observed)) ≠ .inconclusive := by
  have known : ((sort (chains.filterMap observed)).any fun chain => chain.policy.isUnknown) = false := by
    refine List.any_eq_false.mpr fun chain member => ?_
    obtain ⟨c, _, _, policy⟩ := observedChain member
    rw [policy]
    split <;> exact Bool.false_ne_true
  intro assessed
  unfold assessForwardChains at assessed
  rw [known, if_neg Bool.false_ne_true] at assessed
  split at assessed
  · contradiction
  · split at assessed <;> contradiction

theorem assessedDrops : assessForwardChains (sort (chains.filterMap observed)) = .defaultDropObserved ↔
    ∃ c ∈ chains, c.dropsByDefault = true := by
  have dropping : ((sort (chains.filterMap observed)).any fun chain => chain.policy == .drop) = true ↔
      ∃ c ∈ chains, c.dropsByDefault = true := by
    rw [List.any_eq_true]
    constructor
    · intro ⟨chain, member, drop⟩
      obtain ⟨c, inside, _, policy⟩ := observedChain member
      refine ⟨c, inside, ?_⟩
      by_contra kept
      rw [beq_iff_eq.mp drop, if_neg kept] at policy
      contradiction
    · intro ⟨c, inside, drops⟩
      obtain ⟨chain, member, policy⟩ := seenObserved inside (dropsSeen drops)
      refine ⟨chain, member, ?_⟩
      rw [policy, if_pos drops]
      rfl
  rw [← dropping]
  have known := @assessedKnown P chains
  unfold assessForwardChains at known ⊢
  constructor
  · intro assessed
    split at assessed
    · contradiction
    · split at assessed
      · contradiction
      · split at assessed
        · assumption
        · contradiction
  · intro drops
    have some : sort (chains.filterMap observed) ≠ [] := by
      obtain ⟨chain, member, _⟩ := List.any_eq_true.mp drops
      exact List.ne_nil_of_mem member
    rw [if_neg some] at known ⊢
    split at known
    · contradiction
    · rename_i clear
      rw [if_neg clear, if_pos drops]

theorem undecidedVerdict {c : Chain P} {p : P} (decided : c.rules p ≠ some .accept) (drops : c.dropsByDefault = true) :
    c.verdict p = .drop := by
  unfold Chain.verdict
  rw [if_pos drops]
  cases rule : c.rules p with
  | none => rfl
  | some v =>
    cases v with
    | accept => exact absurd rule decided
    | drop => rfl

/- No hidden drop: a packet that does not pass was dropped by a rule, unless the
assessment says that a policy drops; and where it says so, every packet that the
rules of one chain do not accept is dropped. -/
structure Reported (chains : List (Chain P)) (report : FirewallDiagnosticReport) : Prop where
  listed : report.forwardChains = sort (chains.filterMap observed)
  inOrder : InOrder report.forwardChains
  known : report.assessment ≠ .inconclusive
  absent : report.assessment = .noForwardHookObserved ↔ ∀ c ∈ chains, c.seesForwarded = false
  ruled : report.assessment ≠ .defaultDropObserved → ∀ p, ¬ Forwards chains p →
    ∃ c ∈ chains, c.seesForwarded = true ∧ c.rules p = some .drop
  dropped : report.assessment = .defaultDropObserved → ∃ c ∈ chains, c.seesForwarded = true ∧
    ∀ p, c.rules p ≠ some .accept → ¬ Forwards chains p

theorem assessedReported (chains : List (Chain P)) (caveats : List FirewallCaveat) :
    Reported chains ⟨assessForwardChains (sort (chains.filterMap observed)), sort (chains.filterMap observed), caveats⟩ where
  listed := rfl
  inOrder := sortOrdered _
  known := assessedKnown
  absent := assessedNone
  ruled := by
    intro assessed p stopped
    have kept : ∀ c ∈ chains, c.dropsByDefault ≠ true := fun c inside drops => assessed (assessedDrops.mpr ⟨c, inside, drops⟩)
    unfold Forwards at stopped
    push Not at stopped
    obtain ⟨c, inside, sees, verdict⟩ := stopped
    refine ⟨c, inside, sees, ?_⟩
    unfold Chain.verdict at verdict
    rw [if_neg (kept c inside)] at verdict
    cases rule : c.rules p with
    | none =>
      rw [rule] at verdict
      exact absurd rfl verdict
    | some v =>
      cases v with
      | accept =>
        rw [rule] at verdict
        exact absurd rfl verdict
      | drop => rfl
  dropped := by
    intro assessed
    obtain ⟨c, inside, drops⟩ := assessedDrops.mp assessed
    refine ⟨c, inside, dropsSeen drops, fun p undecided passes => ?_⟩
    have dropped := undecidedVerdict undecided drops
    rw [passes c inside (dropsSeen drops)] at dropped
    contradiction

variable {R : Type} [FirewallCommandRunner R]

theorem contextBuilt {tun : TunConfig} {routing : RoutingConfig} (forwarding : routing.enableForwarding = true)
    (ipv4 : tun.address.isIpv4 = true) (fits : tun.prefixLen.toNat ≤ 32) :
    ∃ context, buildDiagnosticContext tun routing = .ok (some context) := by
  unfold buildDiagnosticContext
  rw [if_neg (by rw [forwarding]; exact Bool.true_eq_false_eq_False)]
  cases address : tun.address with
  | v4 bits =>
    have made : IpNet.new (.v4 bits) tun.prefixLen.toNat = some ⟨.v4 bits, tun.prefixLen.toNat, fits⟩ := dif_pos fits
    simp only [made]
    exact ⟨_, rfl⟩
  | v6 bits =>
    rw [address] at ipv4
    contradiction

theorem allowRulesLogged {context : FirewallDiagnosticContext} {report : FirewallDiagnosticReport} :
    (.warn, .allowRulesNeeded) ∈ logFirewallReport context report ↔ report.assessment = .defaultDropObserved := by
  have caveats : ((Level.warn, LogLine.allowRulesNeeded)) ∉
      report.caveats.map fun caveat => (caveatLevel caveat, LogLine.caveat caveat) := by
    simp
  unfold logFirewallReport
  rw [List.mem_append, or_iff_left caveats]
  cases report.assessment <;> simp [observedChains]

end

@[reducible] def asciiLowercase : Lowercase where
  toLowercase text := .ofList (text.toList.map Char.toLower)

theorem asciiLawful : @LawfulLowercase asciiLowercase :=
  @LawfulLowercase.mk asciiLowercase (by decide) (by decide)

structure Listed where
  stdout : Output

instance : FirewallCommandRunner Listed where
  run _ _ _ r := (some (.ok ⟨true, some 0, r.stdout, ""⟩), r)

def guarded : Chain Bool where
  family := "inet"
  table := "filter"
  name := "forward"
  base := some ⟨"filter", "forward", 0, .drop, fun _ => rfl⟩
  rules := fun established => if established then some .accept else none

def openChain : Chain Bool := ⟨"ip", "open", "FORWARD", some ⟨"filter", "forward", 10, .accept, fun _ => rfl⟩, fun _ => none⟩

def masquerade : Chain Bool :=
  ⟨"ip", "crabnet_nat", "postrouting", some ⟨"nat", "postrouting", 100, .accept, fun named => by contradiction⟩, fun _ => none⟩

def handled : Printer Bool where
  heading := [[("metainfo", .object [("version", .string "1.0.9")])]]
  headings := by
    intro fields inside f member
    rw [List.mem_singleton.mp inside] at member
    rw [List.mem_singleton.mp member]
    exact fun same => by contradiction
  besides c := [("handle", .number (.integer c.name.length))]
  apart := by
    intro c f member
    rw [List.mem_singleton.mp member]
    exact (by decide : "handle" ∉ chainFields)

def homeChains : List (Chain Bool) := [guarded, masquerade, openChain]

def homeListing : Output :=
  .json (.object [("nftables", .array ((handled.heading.map Value.object) ++ homeChains.map (Chain.json handled)))])

def homeServer : RoutingConfig := {RoutingConfig.default with enableForwarding := true, natEgressInterface := some "eth0"}

def homeTun : TunConfig := ⟨"crabnet0", .v4 0x0A000009, 24, 1300⟩

def homeAdvice : List (Level × LogLine) :=
  letI := asciiLowercase
  (runServerFirewallDiagnostics homeTun homeServer (⟨homeListing⟩ : Listed)).1

end Crabnet.ForwardPath
