import Crabnet.KernelRoutes

/-! The nftables backend on the machine. Its batch makes one table of its own, and
the fingerprint of that table is the same at every moment. -/
namespace Crabnet.KernelNat
open NetworkTypes Fallible Routing JsonValue LinuxRoutes ServerNat HostKernel Reversal ManagerReversal KernelRoutes

mutual

theorem alikeNormal {counter v w} : Alike counter v w → normalizeCounterValues counter v = normalizeCounterValues counter w
  | .same _ _ => rfl
  | .array _ all => by rw [normalizeCounterValues, normalizeCounterValues, alikeValuesNormal all]
  | .object all => by rw [normalizeCounterValues, normalizeCounterValues, alikeFieldsNormal all]

theorem alikeValuesNormal {vs ws} : AlikeValues vs ws → normalizeValues vs = normalizeValues ws
  | .nil => rfl
  | .cons first rest => by rw [normalizeValues, normalizeValues, alikeNormal first, alikeValuesNormal rest]

theorem alikeFieldsNormal {counter fs gs} : AlikeFields counter fs gs →
    normalizeFields counter fs = normalizeFields counter gs
  | .nil _ => rfl
  | .counted key v w ticks rest => by
    have ticking : (true && (key == "packets" || key == "bytes")) = true := by simpa using ticks
    rw [normalizeFields, normalizeFields, if_pos ticking, if_pos ticking, alikeFieldsNormal rest]
  | .cons key first rest => by
    rw [normalizeFields, normalizeFields, alikeNormal first, alikeFieldsNormal rest]

end

theorem listingsNormal {v w} (alike : ListingsAlike v w) : normalizeFingerprint v = normalizeFingerprint w := by
  obtain ⟨vs, ws, rfl, rfl, objects⟩ := alike
  have described : (fun o : Value => (o.get "metainfo").isNone) = fun o => !describes o := by
    funext o
    simp [describes]
  have same := alikeValuesNormal objects
  simp only [normalizeFingerprint, withoutMetainfo, List.map_cons, List.map_nil, if_true, retainObjects, described,
    normalizeCounterValues, normalizeFields, same]

def Solid (word : String) : Prop := ∀ c ∈ word.toList, c ≠ ' ' ∧ c ≠ '\n'

def lineText (line : List String) : List Char := [' '].intercalate (line.map String.toList)

theorem lineWords {line : List String} (solid : ∀ word ∈ line, Solid word) (some_ : line ≠ []) : words (lineText line) = line := by
  unfold words lineText
  rw [List.splitOn_intercalate]
  · rw [List.map_map]
    have back : String.ofList ∘ String.toList = id := by
      funext word
      exact String.ofList_toList
    rw [back, List.map_id]
  · intro chars member
    obtain ⟨word, inside, rfl⟩ := List.mem_map.mp member
    intro blank
    exact (solid word inside ' ' blank).1 rfl
  · simpa using some_

theorem lineUnbroken {line : List String} (solid : ∀ word ∈ line, Solid word) : '\n' ∉ lineText line := by
  induction line with
  | nil => simp [lineText]
  | cons word rest ih =>
    have here : '\n' ∉ word.toList := fun broken => (solid word List.mem_cons_self '\n' broken).2 rfl
    have later := ih fun other member => solid other (List.mem_cons_of_mem _ member)
    cases rest with
    | nil => simpa [lineText] using here
    | cons next rest =>
      have split : lineText (word :: next :: rest) = word.toList ++ ' ' :: lineText (next :: rest) := by
        simp [lineText, List.intercalate]
      rw [split]
      simp only [List.mem_append, List.mem_cons, not_or]
      exact ⟨here, by decide, later⟩

def batchText (lines : List (List String)) : List Char := (lines.map fun line => lineText line ++ ['\n']).flatten

theorem batchRead {lines : List (List String)} (solid : ∀ line ∈ lines, ∀ word ∈ line, Solid word)
    (some_ : ∀ line ∈ lines, lineText line ≠ []) {text : String} (written : text.toList = batchText lines) :
    batchLines text = lines := by
  rw [batchLines, written]
  clear written
  induction lines with
  | nil => rfl
  | cons line rest ih =>
    have tail := ih (fun other member => solid other (List.mem_cons_of_mem _ member))
      (fun other member => some_ other (List.mem_cons_of_mem _ member))
    have first := some_ line List.mem_cons_self
    have joined : batchText (line :: rest) = lineText line ++ '\n' :: batchText rest := by simp [batchText]
    have word : line ≠ [] := by
      rintro rfl
      exact first rfl
    rw [joined, List.splitOn_append_cons_self_of_not_mem (lineUnbroken (solid line List.mem_cons_self)),
      List.filter_cons_of_pos (by simpa using first), List.map_cons, tail,
      lineWords (solid line List.mem_cons_self) word]

def quotedName (name : String) : String := "\"" ++ name ++ "\""

def rulesetLines [AddressText] (spec : NatSpec) : List (List String) :=
  [["add", "table", "ip", "crabnet_nat"],
    ["add", "chain", "ip", "crabnet_nat", "postrouting", "\x7b", "type", "nat", "hook", "postrouting", "priority", "srcnat;",
      "\x7d"],
    ["add", "rule", "ip", "crabnet_nat", "postrouting", "iifname", quotedName spec.tunInterface, "oifname",
      quotedName spec.egressInterface, "ip", "saddr", AddressText.net spec.sourceNetwork, "counter", "masquerade"]]

theorem lineJoined (word next : String) (rest : List String) :
    lineText (word :: next :: rest) = word.toList ++ ' ' :: lineText (next :: rest) := by
  simp [lineText, List.intercalate]

theorem lineSingle (word : String) : lineText [word] = word.toList := by simp [lineText]

theorem ruleWritten (tun egress network : String) :
    lineText ["add", "rule", "ip", "crabnet_nat", "postrouting", "iifname", quotedName tun, "oifname", quotedName egress, "ip",
      "saddr", network, "counter", "masquerade"] ++ ['\n'] =
    ("add rule " ++ nftTableFamily ++ " " ++ nftTableName ++ " " ++ nftPostroutingChain ++ " iifname \"").toList ++
      (tun.toList ++ ("\" oifname \"".toList ++ (egress.toList ++ ("\" ip saddr ".toList ++
        (network.toList ++ " counter masquerade\n".toList))))) := by
  have start : ("add rule " ++ nftTableFamily ++ " " ++ nftTableName ++ " " ++ nftPostroutingChain ++ " iifname \"").toList =
      "add".toList ++ ' ' :: ("rule".toList ++ ' ' :: ("ip".toList ++ ' ' :: ("crabnet_nat".toList ++ ' ' ::
        ("postrouting".toList ++ ' ' :: ("iifname".toList ++ ' ' :: "\"".toList))))) := by decide +kernel
  have middle : "\" oifname \"".toList = "\"".toList ++ ' ' :: ("oifname".toList ++ ' ' :: "\"".toList) := by
    decide +kernel
  have source : "\" ip saddr ".toList = "\"".toList ++ ' ' :: ("ip".toList ++ ' ' :: ("saddr".toList ++ [' '])) := by
    decide +kernel
  have last : " counter masquerade\n".toList = ' ' :: ("counter".toList ++ ' ' :: ("masquerade".toList ++ ['\n'])) := by
    decide +kernel
  rw [start, middle, source, last]
  simp only [lineJoined, lineSingle, quotedName, String.toList_append, List.append_assoc, List.cons_append, List.nil_append]

theorem rulesetWritten [AddressText] (spec : NatSpec) : (renderRuleset spec).toList = batchText (rulesetLines spec) := by
  have table : lineText ["add", "table", "ip", "crabnet_nat"] ++ ['\n'] =
      ("add table " ++ nftTableFamily ++ " " ++ nftTableName ++ "\n").toList := by decide +kernel
  have chain : lineText ["add", "chain", "ip", "crabnet_nat", "postrouting", "\x7b", "type", "nat", "hook", "postrouting",
        "priority", "srcnat;", "\x7d"] ++ ['\n'] =
      ("add chain " ++ nftTableFamily ++ " " ++ nftTableName ++ " " ++ nftPostroutingChain ++
        " \x7b type nat hook postrouting priority srcnat; \x7d\n").toList := by decide +kernel
  simp only [batchText, rulesetLines, List.map_cons, List.map_nil, List.flatten_cons, List.flatten_nil, List.append_nil]
  rw [table, chain, ruleWritten]
  unfold renderRuleset
  repeat rw [String.toList_append]
  repeat rw [List.append_assoc]

theorem quotedSolid {name : String} (solid : Solid name) : Solid (quotedName name) := by
  intro c member
  simp only [quotedName, String.toList_append, List.mem_append] at member
  rcases member with (mark | inside) | mark
  · rw [List.mem_singleton.mp mark]
    decide
  · exact solid c inside
  · rw [List.mem_singleton.mp mark]
    decide

structure Worded [AddressText] (spec : NatSpec) : Prop where
  tun : Solid spec.tunInterface
  egress : Solid spec.egressInterface
  network : Solid (AddressText.net spec.sourceNetwork)

def fixedWords : List String :=
  ["add", "table", "ip", "crabnet_nat", "chain", "postrouting", "\x7b", "type", "nat", "hook", "priority", "srcnat;", "\x7d", "rule",
    "iifname", "oifname", "saddr", "counter", "masquerade"]

theorem fixedSolid : ∀ word ∈ fixedWords, Solid word := by
  have unbroken : (fixedWords.all fun word => word.toList.all fun c => !(c == ' ' || c == '\n')) = true := by
    decide +kernel
  intro word member c inside
  have plain := List.all_eq_true.mp (List.all_eq_true.mp unbroken word member) c inside
  simpa using plain

theorem rulesetSolid [AddressText] {spec : NatSpec} (worded : Worded spec) :
    ∀ line ∈ rulesetLines spec, ∀ word ∈ line, Solid word := by
  have words : ∀ line ∈ rulesetLines spec, ∀ word ∈ line, word ∈ fixedWords ∨ word = quotedName spec.tunInterface ∨
      word = quotedName spec.egressInterface ∨ word = AddressText.net spec.sourceNetwork := by
    simp [rulesetLines, fixedWords]
  intro line inside word member
  rcases words line inside word member with fixed | rfl | rfl | rfl
  · exact fixedSolid word fixed
  · exact quotedSolid worded.tun
  · exact quotedSolid worded.egress
  · exact worded.network

theorem rulesetRead [AddressText] {spec : NatSpec} (worded : Worded spec) :
    batchLines (renderRuleset spec) = rulesetLines spec := by
  refine batchRead (rulesetSolid worded) ?_ (rulesetWritten spec)
  intro line member
  simp only [rulesetLines, List.mem_cons, List.not_mem_nil, or_false] at member
  rcases member with rfl | rfl | rfl <;> simp [lineJoined]

def owned (t : Table) : Bool := t.isNamed nftTableFamily nftTableName

theorem changesLast {family name} {f : Table → Option Table} {t : Table} {tables : List Table}
    (others : ∀ other ∈ tables, Table.isNamed family name other = false) (named : t.isNamed family name = true) :
    changeTable family name f (tables ++ [t]) = (f t).map fun t => tables ++ [t] := by
  induction tables with
  | nil => simp [changeTable, named]
  | cons first rest ih =>
    have later := ih fun other member => others other (List.mem_cons_of_mem _ member)
    rw [List.cons_append, changeTable, others first List.mem_cons_self, later]
    simp only [Bool.false_eq_true, if_false, Option.map_map]
    rfl

def madeTable [AddressText] (spec : NatSpec) : Table :=
  ⟨"ip", "crabnet_nat", [⟨"postrouting", [["iifname", quotedName spec.tunInterface, "oifname", quotedName spec.egressInterface,
      "ip", "saddr", AddressText.net spec.sourceNetwork, "counter", "masquerade"]],
    ["\x7b", "type", "nat", "hook", "postrouting", "priority", "srcnat;", "\x7d"]⟩]⟩

theorem batchRuns [AddressText] {spec : NatSpec} (worded : Worded spec) {s : NetworkState}
    (fresh : s.tables.any owned = false) :
    runBatch (some (renderRuleset spec)) s = .ok (.text "", {s with tables := s.tables ++ [madeTable spec]}) := by
  have others : ∀ other ∈ s.tables, Table.isNamed "ip" "crabnet_nat" other = false := fun other member =>
    (Bool.not_eq_true _).mp (List.any_eq_false.mp fresh other member)
  have table : runLine s.tables ["add", "table", "ip", "crabnet_nat"] = some (s.tables ++ [⟨"ip", "crabnet_nat", []⟩]) := by
    have absent : s.tables.any (Table.isNamed "ip" "crabnet_nat") = false := fresh
    simp [runLine, absent]
  have chain : ∀ body, runLine (s.tables ++ [⟨"ip", "crabnet_nat", []⟩])
      ("add" :: "chain" :: "ip" :: "crabnet_nat" :: "postrouting" :: body) =
      some (s.tables ++ [⟨"ip", "crabnet_nat", [⟨"postrouting", [], body⟩]⟩]) := by
    intro body
    simp only [runLine]
    exact changesLast others (by decide)
  have rule : ∀ body words, runLine (s.tables ++ [⟨"ip", "crabnet_nat", [⟨"postrouting", [], body⟩]⟩])
      ("add" :: "rule" :: "ip" :: "crabnet_nat" :: "postrouting" :: words) =
      some (s.tables ++ [⟨"ip", "crabnet_nat", [⟨"postrouting", [words], body⟩]⟩]) := by
    intro body words
    simp only [runLine]
    rw [changesLast others (by simp [Table.isNamed])]
    simp [Table.addRule, Chain.accepts]
  simp only [runBatch, Option.getD_some, rulesetRead worded, rulesetLines, List.foldlM_cons, List.foldlM_nil, table, chain,
    rule, Option.bind_eq_bind, Option.bind_some, Option.pure_def]
  rfl

theorem ownedListed (s : NetworkState) : ((none : Option NftTable) :: s.tables.map fun t => some ⟨t.family, t.name⟩).any
    (fun object => object == some ⟨nftTableFamily, nftTableName⟩) = s.tables.any owned := by
  rw [List.any_cons, List.any_map]
  have same : ((fun object => object == some ⟨nftTableFamily, nftTableName⟩) ∘ fun t : Table =>
      some (NftTable.mk t.family t.name)) = owned := by
    funext t
    rw [Bool.eq_iff_iff]
    simp [owned, Table.isNamed]
  rw [same]
  rfl

section
variable [AddressText] {m : Machine} {k : Kernel m} {s : NetworkState} {clock : Nat}

theorem tablesRead : ∃ document, execute m clock "nft" ["-j", "list", "tables"] none s = .ok (.json document, s) ∧
    readNftListing (some document) = some (none :: s.tables.map fun t => some ⟨t.family, t.name⟩) := by
  refine ⟨_, executeTables, ?_⟩
  have tables := @readArrayMap (Option NftTable) Table readNftObject Table.json (fun t => some ⟨t.family, t.name⟩)
    (fun _ => rfl) s.tables
  simp only [readArray] at tables
  change readArray readNftObject (some (.array (_ :: s.tables.map Table.json))) = _
  simp only [readArray, List.mapM_cons, tables]
  rfl

theorem existsRead {purpose} {Q : Bool → Kernel m → Prop} {E}
    (done : Q (k.state.tables.any owned) {k with clock := k.clock + 1})
    (failed : purpose = .installing → ∀ e t, t.state = k.state → E e t) : Action.wp (tableExists purpose) Q E k := by
  obtain ⟨document, ran, read⟩ := @tablesRead _ m k.state k.clock
  simp only [tableExists, Action.wpBind]
  refine commandRule ran ?_ failed
  simp only [Output.document, read, Action.wpPure, ownedListed]
  exact done

def withTable (s : NetworkState) (t : Table) : NetworkState := {s with tables := s.tables ++ [t]}

theorem foundTable {t : Table} (fresh : s.tables.any owned = false) (own : owned t = true) :
    execute m clock "nft" ["-j", "list", "table", nftTableFamily, nftTableName] none (withTable s t) =
      .ok (.json (m.listing clock t), withTable s t) := by
  have none_ : s.tables.find? (Table.isNamed nftTableFamily nftTableName) = none := by
    rw [List.find?_eq_none]
    exact List.any_eq_false.mp fresh
  have own : Table.isNamed nftTableFamily nftTableName t = true := own
  rw [executeTable, listTable, withTable, List.find?_append, none_]
  simp [own]

theorem deletedTable {t : Table} (fresh : s.tables.any owned = false) (own : owned t = true) :
    execute m clock "nft" ["delete", "table", nftTableFamily, nftTableName] none (withTable s t) = .ok (.text "", s) := by
  have own : Table.isNamed nftTableFamily nftTableName t = true := own
  have there : (s.tables ++ [t]).any (Table.isNamed nftTableFamily nftTableName) = true := by simp [own]
  have others : ∀ other ∈ s.tables, ¬ Table.isNamed nftTableFamily nftTableName other = true := List.any_eq_false.mp fresh
  have left : (s.tables ++ [t]).eraseP (Table.isNamed nftTableFamily nftTableName) = s.tables := by
    rw [List.eraseP_append_right _ others]
    simp [own]
  rw [executeDeleteTable, HostKernel.deleteTable, withTable, if_pos there, left]

theorem inspectsFound {purpose} {t : Table} {Q : Value → Kernel m → Prop} {E} (fresh : s.tables.any owned = false)
    (own : owned t = true) (now : k.state = withTable s t)
    (done : Q (normalizeFingerprint (m.listing k.clock t)) {k with clock := k.clock + 1})
    (failed : purpose = .installing → ∀ e t, t.state = k.state → E e t) : Action.wp (inspectTable purpose) Q E k := by
  have found := @foundTable _ m s k.clock t fresh own
  rw [← now] at found
  simp only [inspectTable, Action.wpBind]
  exact commandRule found done failed

theorem deletesFound {t : Table} {Q : Unit → Kernel m → Prop} {E} (fresh : s.tables.any owned = false)
    (own : owned t = true) (now : k.state = withTable s t) (done : Q () ⟨s, k.clock + 1⟩) :
    Action.wp ServerNat.deleteTable Q E k := by
  have deleted := @deletedTable _ m s k.clock t fresh own
  rw [← now] at deleted
  simp only [ServerNat.deleteTable, Action.wpBind, Action.wpPure]
  exact restoreRule deleted done

def natShown (b : LinuxNatBackend (Kernel m)) : NetworkState := b.runner.state

theorem tableTakenBack {t : Table} (moment : Nat) (fresh : s.tables.any owned = false) (own : owned t = true) :
    TakesBack (natShown (m := m)) (NatBackend.revert ⟨normalizeFingerprint (m.listing moment t)⟩) (withTable s t) s := by
  intro b now
  change Action.wp (onNatRunner (revertNat _)) _ _ b
  change b.runner.state = _ at now
  simp only [onNatRunner, Action.wpWithin, revertNat, Action.wpBind]
  refine existsRead ?_ (by simp)
  have there : b.runner.state.tables.any owned = true := by simp [now, withTable, own]
  simp only [there, Bool.true_eq_false, if_false, Action.wpBind]
  refine inspectsFound fresh own now ?_ (by simp)
  simp only [Action.wpIte]
  refine ⟨fun changed => absurd (listingsNormal (m.listings _ _ t)) changed, fun _ => ?_⟩
  exact deletesFound fresh own now rfl

theorem madeOwned (spec : NatSpec) : owned (madeTable spec) = true := rfl

theorem abandonTraceless {t : Table} {e : Failure} {Q} (fresh : s.tables.any owned = false) (own : owned t = true)
    (now : k.state = withTable s t) : Action.wp (abandonTable e) Q (fun _ after => after.state = s) k := by
  have deleted : Action.wp ServerNat.deleteTable (fun _ after => after.state = s) (fun _ _ => False) k :=
    deletesFound fresh own now rfl
  unfold Action.wp abandonTable
  unfold Action.wp at deleted
  split at deleted
  · rename_i ran
    rw [ran]
    exact deleted
  · exact deleted.elim

/- The fingerprint is read, or the table is gone again. -/
theorem captured {t : Table} (fresh : s.tables.any owned = false) (own : owned t = true) (now : k.state = withTable s t) :
    Action.wp captureFingerprint
      (fun applied after => after.state = withTable s t ∧ ∃ moment, applied = ⟨normalizeFingerprint (m.listing moment t)⟩)
      (fun _ after => after.state = s) k := by
  have read : Action.wp (inspectTable .installing)
      (fun value after => after.state = withTable s t ∧ ∃ moment, value = normalizeFingerprint (m.listing moment t))
      (fun _ after => after.state = k.state) k :=
    inspectsFound fresh own now ⟨now, k.clock, rfl⟩ (fun _ _ _ kept => kept)
  unfold Action.wp captureFingerprint
  unfold Action.wp at read
  split at read
  · rename_i value after ran
    obtain ⟨state, moment, rfl⟩ := read
    rw [ran]
    exact ⟨state, moment, rfl⟩
  · rename_i e after ran
    rw [ran]
    exact abandonTraceless fresh own (read.trans now)

theorem interfaceInspected {name : String} {Q : Unit → Kernel m → Prop} {E} (done : ∀ t, t.state = k.state → Q () t)
    (failed : ∀ e t, t.state = k.state → E e t) : Action.wp (inspectInterface name) Q E k := by
  simp only [inspectInterface, Action.wpBind, Action.wpPure]
  exact commandRule (executeLink name) (done _ rfl) (fun _ => failed)

theorem tableInstalled {spec : NatSpec} (worded : Worded spec) {Q : Unit → Kernel m → Prop} {E}
    (fresh : k.state.tables.any owned = false) (done : ∀ t, t.state = withTable k.state (madeTable spec) → Q () t)
    (failed : ∀ e t, t.state = k.state → E e t) : Action.wp (installTable (renderRuleset spec)) Q E k := by
  simp only [installTable, Action.wpBind, Action.wpPure]
  exact commandRule (executeBatch.trans (batchRuns worded fresh)) (done _ rfl) (fun _ => failed)

theorem natReverses {spec : NatSpec} (worded : Worded spec) : NatReverses (natShown (m := m)) spec := by
  intro b
  change Action.wp (onNatRunner (applyNat spec)) _ _ b
  simp only [onNatRunner, Action.wpWithin, applyNat, Action.wpBind]
  refine interfaceInspected (fun first same => ?_) (fun _ _ kept => kept)
  refine interfaceInspected (fun second again => ?_) (fun _ _ kept => kept.trans same)
  have here : second.state = b.runner.state := again.trans same
  refine existsRead ?_ (fun _ _ _ kept => kept.trans here)
  simp only [Action.wpIte, Action.wpFail, Action.wpBind]
  refine ⟨fun _ => here, fun absent => ?_⟩
  rw [Bool.not_eq_true] at absent
  refine tableInstalled worded absent (fun third made => ?_) (fun _ _ kept => kept.trans here)
  refine Action.wpMono (captured absent (madeOwned spec) made) ?_ (fun _ _ gone => gone.trans here)
  rintro applied after ⟨state, moment, rfl⟩
  have back := tableTakenBack (m := m) moment absent (madeOwned spec)
  simp only [natShown]
  rw [state, ← here]
  exact back

end
end Crabnet.KernelNat
