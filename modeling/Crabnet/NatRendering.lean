import Crabnet.Tokens
import Crabnet.ServerNetworking

/-! The batch of a NAT installation (nat/linux.rs) as a text of nftables: what it is read
as, token by token, for the names and networks that validation lets through. -/
namespace Crabnet.NatRendering
open SessionTypes NetworkTypes Fallible RuntimeConfig AcceptedConfig ServerNat KernelNat ServerNetworking Tokens

/- An IPv4 network is displayed as four decimal octets, a slash and the length. -/
class DottedText [AddressText] : Prop where
  net : ∀ n : IpNet, n.addr.isIpv4 = true → AddressText.net n = .ofList (dottedNet n)

def isMark (c : Char) : Bool := c == ';' || c == '\x7b' || c == '\x7d' || c == '\n'

def nftStatements (text : String) : Option (List (List Token)) := statements isMark Char.isWhitespace '\n' text.toList

def word (letters : String) : Token := .word letters.toList
def quoted (letters : String) : Token := .quoted letters.toList

def tableStatement : List Token := [word "add", word "table", word "ip", word "crabnet_nat"]

def chainStatement : List Token :=
  [word "add", word "chain", word "ip", word "crabnet_nat", word "postrouting", .mark '\x7b', word "type", word "nat", word "hook",
    word "postrouting", word "priority", word "srcnat", .mark ';', .mark '\x7d']

def ruleStatement (tun egress network : String) : List Token :=
  [word "add", word "rule", word "ip", word "crabnet_nat", word "postrouting", word "iifname", quoted tun, word "oifname",
    quoted egress, word "ip", word "saddr", word network, word "counter", word "masquerade"]

theorem lineSpelled {words : List (String × List Token)} (spelled : ∀ w ∈ words, Spells isMark Char.isWhitespace w.1.toList w.2) :
    Spells isMark Char.isWhitespace (lineText (words.map Prod.fst)) (words.map Prod.snd).flatten := by
  induction words with
  | nil => exact spellsNothing
  | cons first rest ih =>
    have later := ih fun other member => spelled other (List.mem_cons_of_mem first member)
    have here := spelled first List.mem_cons_self
    cases rest with
    | nil => simpa [lineSingle] using here
    | cons second rest =>
      rw [List.map_cons, List.map_cons, lineJoined, List.map_cons, List.flatten_cons]
      exact spellsBlank (by decide) (by decide) (by decide) here later

theorem batchSpelled {lines : List (List String × List Token)}
    (spelled : ∀ line ∈ lines, Spells isMark Char.isWhitespace (lineText line.1) line.2) :
    Spells isMark Char.isWhitespace (batchText (lines.map Prod.fst))
      ((lines.map Prod.snd).map (· ++ [.mark '\n'])).flatten := by
  induction lines with
  | nil => exact spellsNothing
  | cons line rest ih =>
    have later := ih fun other member => spelled other (List.mem_cons_of_mem line member)
    have newline : isMark '\n' = true := by decide
    have ended := spellsMark newline (by decide) (spelled line List.mem_cons_self) later
    simpa [batchText] using ended

def plainWord (letters : String) : Bool :=
  letters ≠ "" && letters.toList.all fun c => c != '"' && !isMark c && !c.isWhitespace

def plain (letters : String) : String × List Token := (letters, [word letters])

theorem plainSpelled {letters : String} (allowed : plainWord letters = true) :
    Spells isMark Char.isWhitespace letters.toList [word letters] := by
  simp only [plainWord, Bool.and_eq_true, decide_eq_true_eq, List.all_eq_true, bne_iff_ne, Bool.not_eq_true'] at allowed
  refine spellsWord ?_ fun c member => ?_
  · simpa using allowed.1
  · obtain ⟨⟨quote, mark⟩, blank⟩ := allowed.2 c member
    exact ⟨quote, mark, blank⟩

theorem plainsSpelled {words : List String} (allowed : words.all plainWord = true) :
    ∀ w ∈ words.map plain, Spells isMark Char.isWhitespace w.1.toList w.2 := by
  intro w member
  obtain ⟨letters, inside, rfl⟩ := List.mem_map.mp member
  exact plainSpelled (List.all_eq_true.mp allowed letters inside)

theorem quotedSpelled {name : String} (unquoted : '"' ∉ name.toList) :
    Spells isMark Char.isWhitespace (quotedName name).toList [quoted name] := by
  have shape : (quotedName name).toList = '"' :: (name.toList ++ ['"']) := by
    rw [quotedName, String.toList_append, String.toList_append]
    rfl
  rw [shape]
  exact spellsQuoted unquoted

def tableWords : List (String × List Token) := ["add", "table", "ip", "crabnet_nat"].map plain

def chainWords : List (String × List Token) :=
  ["add", "chain", "ip", "crabnet_nat", "postrouting"].map plain ++ [("\x7b", [.mark '\x7b'])] ++
    ["type", "nat", "hook", "postrouting", "priority"].map plain ++
    [("srcnat;", [word "srcnat", .mark ';']), ("\x7d", [.mark '\x7d'])]

def ruleWords (tun egress network : String) : List (String × List Token) :=
  ["add", "rule", "ip", "crabnet_nat", "postrouting", "iifname"].map plain ++ [(quotedName tun, [quoted tun])] ++
    [plain "oifname"] ++ [(quotedName egress, [quoted egress])] ++ ["ip", "saddr"].map plain ++ [plain network] ++
    ["counter", "masquerade"].map plain

theorem tableSpelled : Spells isMark Char.isWhitespace (lineText (tableWords.map Prod.fst)) tableStatement :=
  lineSpelled (plainsSpelled (by decide +kernel))

theorem chainSpelled : Spells isMark Char.isWhitespace (lineText (chainWords.map Prod.fst)) chainStatement := by
  have opening : Spells isMark Char.isWhitespace "\x7b".toList [.mark '\x7b'] :=
    spellsMark (by decide) (by decide) spellsNothing spellsNothing
  have closing : Spells isMark Char.isWhitespace "\x7d".toList [.mark '\x7d'] :=
    spellsMark (by decide) (by decide) spellsNothing spellsNothing
  have name : Spells isMark Char.isWhitespace "srcnat".toList [word "srcnat"] := plainSpelled (by decide +kernel)
  have last : Spells isMark Char.isWhitespace "srcnat;".toList [word "srcnat", .mark ';'] :=
    spellsMark (by decide) (by decide) name spellsNothing
  have spelled : ∀ w ∈ chainWords, Spells isMark Char.isWhitespace w.1.toList w.2 := by
    simp only [chainWords, List.forall_mem_append, List.forall_mem_cons]
    exact ⟨⟨⟨plainsSpelled (by decide +kernel), opening, by simp⟩, plainsSpelled (by decide +kernel)⟩, last, closing, by simp⟩
  exact lineSpelled spelled

theorem ruleSpelled {tun egress network : String} (tunUnquoted : '"' ∉ tun.toList) (egressUnquoted : '"' ∉ egress.toList)
    (networkPlain : plainWord network = true) :
    Spells isMark Char.isWhitespace (lineText ((ruleWords tun egress network).map Prod.fst)) (ruleStatement tun egress network) := by
  have spelled : ∀ w ∈ ruleWords tun egress network, Spells isMark Char.isWhitespace w.1.toList w.2 := by
    simp only [ruleWords, List.forall_mem_append, List.forall_mem_cons]
    refine ⟨⟨⟨⟨⟨⟨plainsSpelled (by decide +kernel), quotedSpelled tunUnquoted, by simp⟩, plainSpelled (by decide +kernel), by simp⟩,
      quotedSpelled egressUnquoted, by simp⟩, plainsSpelled (by decide +kernel)⟩, plainSpelled networkPlain, by simp⟩,
      plainsSpelled (by decide +kernel)⟩
  exact lineSpelled spelled

theorem rulesetStatements [AddressText] {spec : NatSpec} (tun : '"' ∉ spec.tunInterface.toList)
    (egress : '"' ∉ spec.egressInterface.toList) (network : plainWord (AddressText.net spec.sourceNetwork) = true) :
    nftStatements (renderRuleset spec) = some [tableStatement, chainStatement,
      ruleStatement spec.tunInterface spec.egressInterface (AddressText.net spec.sourceNetwork)] := by
  have lines := @batchSpelled [(tableWords.map Prod.fst, tableStatement), (chainWords.map Prod.fst, chainStatement),
    ((ruleWords spec.tunInterface spec.egressInterface (AddressText.net spec.sourceNetwork)).map Prod.fst,
      ruleStatement spec.tunInterface spec.egressInterface (AddressText.net spec.sourceNetwork))] (by
    simp only [List.forall_mem_cons]
    exact ⟨tableSpelled, chainSpelled, ruleSpelled tun egress network, by simp⟩)
  have written : (renderRuleset spec).toList = _ := rulesetWritten spec
  rw [nftStatements, written]
  refine statementsSpelled lines ?_
  simp [tableStatement, chainStatement, ruleStatement, word, quoted]

theorem nameUnquoted {field name : String} (ok : validateNftInterfaceName field name = .ok ()) : '"' ∉ name.toList := by
  have bytes := ensured (checked (checked ok).2).2
  rw [List.all_eq_true] at bytes
  intro member
  exact absurd (bytes 34 (byteEncoded member (by decide))) (by decide)

theorem octetWord : ∀ n < 256, ((octet n).all fun c => c != '"' && !isMark c && !c.isWhitespace) = true := by
  decide +kernel

theorem networkPlain [AddressText] [DottedText] {n : IpNet} (ipv4 : n.addr.isIpv4 = true) :
    plainWord (AddressText.net n) = true := by
  rw [DottedText.net n ipv4, plainWord, String.toList_ofList, Bool.and_eq_true, decide_eq_true_eq]
  refine ⟨?_, List.all_eq_true.mpr fun c member => ?_⟩
  · rw [Ne, ← String.toList_inj, String.toList_ofList, dottedNet]
    simp
  · obtain rfl | rfl | ⟨m, small, digit⟩ := networkChars ipv4 member
    · decide
    · decide
    · exact List.all_eq_true.mp (octetWord m small) c digit

def Validated [AddressText] [KeyFiles] (spec : NatSpec) : Prop :=
  ∃ (c : Config) (bindAddr : SocketAddr), c.mode = .server bindAddr ∧ c.routing.enableNat = true ∧ c.validate = .ok () ∧
    buildNatSpec c.tun c.routing = .ok (some spec)

theorem natChecked {c : Config} (enabled : c.routing.enableNat = true) (valid : validateNat c = .ok ()) :
    c.tun.address.isIpv4 = true ∧ '"' ∉ c.tun.name.toList ∧
      ∃ egress, c.routing.natEgressInterface = some egress ∧ '"' ∉ egress.toList := by
  rw [validateNat, if_pos enabled] at valid
  obtain ⟨ipv4, rest⟩ := checked (checked valid).2
  obtain ⟨tun, named⟩ := checked (checked rest).2
  obtain ⟨egress, found, last⟩ := obtained named
  exact ⟨ensured ipv4, nameUnquoted tun, egress, requiredSome found, nameUnquoted (checked last).1⟩

theorem specBuilt [AddressText] [KeyFiles] {c : Config} {bindAddr} (server : c.mode = .server bindAddr)
    (enabled : c.routing.enableNat = true) (valid : c.validate = .ok ()) :
    ∃ network egress, IpNet.new c.tun.address c.tun.prefixLen.toNat = some network ∧
      c.routing.natEgressInterface = some egress ∧
      buildNatSpec c.tun c.routing = .ok (some ⟨network.trunc, c.tun.name, egress⟩) ∧
      network.trunc.addr.isIpv4 = true ∧ '"' ∉ c.tun.name.toList ∧ '"' ∉ egress.toList := by
  obtain ⟨ipv4, tun, egress, found, unquoted⟩ := natChecked enabled (validServer server valid)
  obtain ⟨network, made, same⟩ := tunNetwork (checked valid).1
  refine ⟨network, egress, made, found, ?_, networkTruncated (same ▸ ipv4), tun, unquoted⟩
  cases address : c.tun.address with
  | v6 bits => simp [address, IpAddr.isIpv4] at ipv4
  | v4 bits =>
    rw [address] at made
    simp only [buildNatSpec, enabled, address, found, made, Bool.true_eq_false, if_false]

theorem validatedParts [AddressText] [KeyFiles] {spec : NatSpec} (validated : Validated spec) :
    spec.sourceNetwork.addr.isIpv4 = true ∧ '"' ∉ spec.tunInterface.toList ∧ '"' ∉ spec.egressInterface.toList := by
  obtain ⟨c, bindAddr, server, enabled, valid, built⟩ := validated
  obtain ⟨network, egress, -, -, again, parts⟩ := specBuilt server enabled valid
  cases built.symm.trans again
  exact parts

theorem validatedStatements [AddressText] [DottedText] [KeyFiles] {spec : NatSpec} (validated : Validated spec) :
    nftStatements (renderRuleset spec) = some [tableStatement, chainStatement,
      ruleStatement spec.tunInterface spec.egressInterface (AddressText.net spec.sourceNetwork)] := by
  obtain ⟨ipv4, tun, egress⟩ := validatedParts validated
  exact rulesetStatements tun egress (networkPlain ipv4)

theorem networkTextInj [AddressText] [DottedText] {n n' : IpNet} (ipv4 : n.addr.isIpv4 = true) (ipv4' : n'.addr.isIpv4 = true)
    (same : (AddressText.net n).toList = (AddressText.net n').toList) : n = n' := by
  rw [DottedText.net n ipv4, DottedText.net n' ipv4', String.toList_ofList, String.toList_ofList] at same
  have read := dottedNetReads n ipv4
  rw [same, dottedNetReads n' ipv4'] at read
  exact (Option.some.inj read).symm

theorem renderingUninjectable [AddressText] [DottedText] [KeyFiles] :
    (∀ (c : Config) (bindAddr : SocketAddr), c.mode = .server bindAddr → c.routing.enableNat = true → c.validate = .ok () →
      ∃ network egress, IpNet.new c.tun.address c.tun.prefixLen.toNat = some network ∧
        c.routing.natEgressInterface = some egress ∧
        buildNatSpec c.tun c.routing = .ok (some ⟨network.trunc, c.tun.name, egress⟩) ∧
        nftStatements (renderRuleset ⟨network.trunc, c.tun.name, egress⟩) =
          some [tableStatement, chainStatement, ruleStatement c.tun.name egress (AddressText.net network.trunc)]) ∧
    (∀ spec spec' : NatSpec, Validated spec → Validated spec' → renderRuleset spec = renderRuleset spec' → spec = spec') := by
  constructor
  · intro c bindAddr server enabled valid
    obtain ⟨network, egress, made, found, built, -⟩ := specBuilt server enabled valid
    exact ⟨network, egress, made, found, built, validatedStatements ⟨c, bindAddr, server, enabled, valid, built⟩⟩
  · intro spec spec' validated validated' same
    have read := validatedStatements validated
    rw [same, validatedStatements validated'] at read
    simp only [ruleStatement, quoted, word, Option.some.injEq, List.cons.injEq, Token.quoted.injEq, Token.word.injEq, true_and,
      and_true] at read
    obtain ⟨tun, egress, network⟩ := read
    have networks := networkTextInj (validatedParts validated').1 (validatedParts validated).1 network
    obtain ⟨source, tun', egress'⟩ := spec
    obtain ⟨source', tun'', egress''⟩ := spec'
    rw [NatSpec.mk.injEq]
    exact ⟨networks.symm, String.toList_inj.mp tun.symm, String.toList_inj.mp egress.symm⟩

theorem dottedDisplay : @DottedText dotted := @DottedText.mk dotted fun _ _ => rfl

theorem renderingUninjectableServer : letI := dotted
    @Config.validate dotted plainKeys natServer = .ok () ∧
      nftStatements (renderRuleset ⟨((IpNet.new (.v4 0x0A000001) 24).get rfl).trunc, "crabnet0", "eth0"⟩) =
        some [tableStatement, chainStatement, ruleStatement "crabnet0" "eth0" "10.0.0.0/24"] := by
  have valid : @Config.validate dotted plainKeys natServer = .ok () := by decide +kernel
  obtain ⟨network, egress, made, found, -, read⟩ :=
    (@renderingUninjectable dotted dottedDisplay plainKeys).1 natServer _ rfl rfl valid
  cases (rfl : IpNet.new natServer.tun.address natServer.tun.prefixLen.toNat = some _).symm.trans made
  cases found
  have text : String.ofList (dottedNet ((IpNet.new (.v4 0x0A000001) 24).get rfl).trunc) = "10.0.0.0/24" := by decide +kernel
  rw [← text]
  exact ⟨valid, read⟩

end Crabnet.NatRendering
