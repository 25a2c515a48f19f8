import Crabnet.JsonPrune
import Crabnet.ServerNetworking

/-! What the fingerprint of a NAT installation forgets of a listing (nat/linux.rs):
objects with metainfo in the array of the listing, and the packets and bytes of a
counter, wherever it stands. -/
namespace Crabnet.Fingerprint
open SessionTypes NetworkTypes Fallible JsonValue JsonPrune LinuxRoutes ServerNat ServerNetworking

def inListing (path : List Step) : Bool := path == [.element, .field "nftables"]

def inCounter : List Step → Bool
  | .field key :: .field parent :: _ => parent == "counter" && (key == "packets" || key == "bytes")
  | _ => false

def isTraffic (path : List Step) (_ : Value) : Bool := inCounter path
def isVolatile (path : List Step) (v : Value) : Bool := (inListing path && (v.get "metainfo").isSome) || isTraffic path v

def withoutVolatile (v : Value) : Value := prune isVolatile [] v

def belowCounter : List Step → Bool
  | .field parent :: _ => parent == "counter"
  | _ => false

theorem inCounterField (key : String) (path : List Step) :
    inCounter (.field key :: path) = (belowCounter path && (key == "packets" || key == "bytes")) := by
  match path with
  | [] => rfl
  | .element :: _ => rfl
  | .field parent :: _ => rfl

mutual

theorem countersPruned (path : List Step) : (v : Value) →
    normalizeCounterValues (belowCounter path) v = prune isTraffic path v
  | .null | .bool _ | .number _ | .string _ => rfl
  | .array values => by rw [normalizeCounterValues, prune, valuesPruned path values]
  | .object fields => by rw [normalizeCounterValues, prune, fieldsPruned path fields]

theorem valuesPruned (path : List Step) : (values : List Value) →
    normalizeValues values = pruneValues isTraffic path values
  | [] => rfl
  | v :: rest => by
    rw [normalizeValues, pruneValues, valuesPruned path rest, ← countersPruned (.element :: path) v]
    rfl

theorem fieldsPruned (path : List Step) : (fields : List (String × Value)) →
    normalizeFields (belowCounter path) fields = pruneFields isTraffic path fields
  | [] => rfl
  | (key, v) :: rest => by
    rw [normalizeFields, pruneFields, fieldsPruned path rest, ← countersPruned (.field key :: path) v, isTraffic,
      inCounterField]
    rfl

end

theorem volatileOutside (path : List Step) (outside : inListing path = false) (v : Value) :
    isVolatile path v = isTraffic path v := by
  rw [isVolatile, outside, Bool.false_and, Bool.false_or]

theorem sameBelowListing (path : List Step) (deep : 2 ≤ path.length) : SameBelow isVolatile isTraffic path := by
  intro steps step v
  refine volatileOutside _ ?_ v
  rw [inListing, beq_eq_false_iff_ne]
  intro same
  have sizes := congrArg List.length same
  simp only [List.length_append, List.length_cons, List.length_nil] at sizes
  omega

theorem sameBesideListing {first : Step} (beside : first ≠ .field "nftables") : SameBelow isVolatile isTraffic [first] := by
  intro steps step v
  refine volatileOutside _ ?_ v
  rw [inListing, beq_eq_false_iff_ne]
  intro same
  have last := congrArg List.getLast? same
  simp [beside] at last

theorem listingPruned (values : List Value) :
    pruneValues isVolatile [.field "nftables"] values =
      pruneValues isTraffic [.field "nftables"] (values.filter fun object => (object.get "metainfo").isNone) := by
  induction values with
  | nil => rfl
  | cons v rest ih =>
    have deeper := pruneSame (sameBelowListing [.element, .field "nftables"] (Nat.le_refl 2)) v
    rw [pruneValues, List.filter_cons, ih, deeper]
    cases described : v.get "metainfo" with
    | none => simp [isVolatile, isTraffic, inListing, inCounter, described, pruneValues]
    | some info => simp [isVolatile, inListing, described]

theorem retainedPruned (v : Value) :
    prune isVolatile [.field "nftables"] v = prune isTraffic [.field "nftables"] (retainObjects v) := by
  cases v with
  | array values => rw [retainObjects, prune, prune, listingPruned values]
  | object fields =>
    have kept : retainObjects (.object fields) = .object fields := rfl
    have same := pruneFieldsSame (fun key v => volatileOutside [.field key, .field "nftables"] rfl v)
      (fun key => sameBelowListing [.field key, .field "nftables"] (Nat.le_refl 2)) fields
    rw [kept, prune, prune, same]
  | null | bool | number | string => rfl

theorem fieldPruned (key : String) (v : Value) :
    prune isVolatile [.field key] v =
      prune isTraffic [.field key] (if key = "nftables" then (key, retainObjects v) else (key, v)).2 := by
  by_cases listing : key = "nftables"
  · rw [if_pos listing, listing]
    exact retainedPruned v
  · rw [if_neg listing]
    exact pruneSame (sameBesideListing fun same => listing (Step.field.inj same)) v

theorem membersPruned (fields : List (String × Value)) :
    pruneFields isVolatile [] fields =
      pruneFields isTraffic [] (fields.map fun f => if f.1 = "nftables" then (f.1, retainObjects f.2) else f) := by
  induction fields with
  | nil => rfl
  | cons f rest ih =>
    obtain ⟨key, v⟩ := f
    have stays : isVolatile [.field key] v = isTraffic [.field key] v := volatileOutside _ rfl v
    rw [List.map_cons, pruneFields, ih, fieldPruned key v, stays]
    by_cases listing : key = "nftables"
    · simp only [listing, if_true, pruneFields]
      rfl
    · simp only [if_neg listing, pruneFields]

theorem normalizePrunes (v : Value) : normalizeFingerprint v = withoutVolatile v := by
  have counters := countersPruned [] (withoutMetainfo v)
  refine counters.trans ?_
  rw [withoutVolatile]
  cases v with
  | array values =>
    have same := pruneValuesSame (volatileOutside [.element] rfl) (sameBesideListing (by simp)) values
    rw [withoutMetainfo, prune, prune, same]
    simp
  | object fields => rw [withoutMetainfo, prune, prune, membersPruned fields]
  | null | bool | number | string => rfl

theorem volatileStays (path : List Step) (v : Value) (stays : isVolatile path v = false) :
    isVolatile path (prune isVolatile path v) = false := by
  simp only [isVolatile, Bool.or_eq_false_iff, Bool.and_eq_false_iff] at stays ⊢
  obtain ⟨outside | plain, counter⟩ := stays
  · exact ⟨.inl outside, counter⟩
  · exact ⟨.inr (getPruned plain path), counter⟩

structure Command where
  program : String
  args : List String
  deriving DecidableEq

structure Logged (R : Type) where
  runner : R
  log : List (Command × Option CommandResult)

instance {R : Type} [CommandRunner R] : CommandRunner (Logged R) where
  run purpose program args stdin l :=
    match CommandRunner.run purpose program args stdin l.runner with
    | (.ok result, runner) => (.ok result, ⟨runner, (⟨program, args⟩, some result) :: l.log⟩)
    | (.error e, runner) => (.error e, ⟨runner, (⟨program, args⟩, none) :: l.log⟩)

def listTable : Command := ⟨"nft", ["-j", "list", "table", nftTableFamily, nftTableName]⟩
def deletion : Command := ⟨"nft", ["delete", "table", nftTableFamily, nftTableName]⟩

def Logged.listing {R : Type} (l : Logged R) : Option Value :=
  l.log.findSome? fun entry => if entry.1 = listTable then entry.2.bind fun result => result.stdout.document else none

def Logged.issued {R : Type} (l : Logged R) (command : Command) : Prop := command ∈ l.log.map Prod.fst

instance {R : Type} (l : Logged R) (command : Command) : Decidable (l.issued command) :=
  inferInstanceAs (Decidable (command ∈ l.log.map Prod.fst))

section
variable {R : Type} [CommandRunner R]

theorem ranLogged {purpose program args stdin} {Q : CommandResult → Logged R → Prop} {E : Failure → Logged R → Prop}
    {l : Logged R} (done : ∀ result runner, Q result ⟨runner, (⟨program, args⟩, some result) :: l.log⟩)
    (failed : ∀ e runner, E e ⟨runner, (⟨program, args⟩, none) :: l.log⟩) :
    Action.wp (CommandRunner.run purpose program args stdin) Q E l := by
  simp only [Action.wp, CommandRunner.run]
  rcases CommandRunner.run purpose program args stdin l.runner with ⟨e | result, runner⟩
  · exact failed e runner
  · exact done result runner

theorem checkedLogged {purpose program args stdin action} {Q : CommandResult → Logged R → Prop} {E : Failure → Logged R → Prop}
    {l : Logged R} (done : ∀ result runner, Q result ⟨runner, (⟨program, args⟩, some result) :: l.log⟩)
    (failed : ∀ e runner answer, E e ⟨runner, (⟨program, args⟩, answer) :: l.log⟩) :
    Action.wp (runChecked purpose program args stdin action) Q E l := by
  rw [runChecked, Action.wpBind]
  refine ranLogged (fun result runner => ?_) (fun e runner => failed e runner none)
  simp only [Action.wpIte, Action.wpFail, Action.wpPure]
  exact ⟨fun _ => failed _ runner _, fun _ => done result runner⟩

theorem existsLogged {purpose} {Q : Bool → Logged R → Prop} {E : Failure → Logged R → Prop} {l : Logged R}
    (done : ∀ found runner answer, Q found ⟨runner, (⟨"nft", ["-j", "list", "tables"]⟩, answer) :: l.log⟩)
    (failed : ∀ e runner answer, E e ⟨runner, (⟨"nft", ["-j", "list", "tables"]⟩, answer) :: l.log⟩) :
    Action.wp (tableExists purpose) Q E l := by
  rw [tableExists, Action.wpBind]
  refine checkedLogged (fun result runner => ?_) failed
  cases readNftListing result.stdout.document with
  | none => exact failed _ runner _
  | some listing => exact done _ runner _

theorem inspectLogged {purpose} {Q : Value → Logged R → Prop} {E : Failure → Logged R → Prop} {l : Logged R}
    (done : ∀ value result runner, result.stdout.document = some value →
      Q (normalizeFingerprint value) ⟨runner, (listTable, some result) :: l.log⟩)
    (failed : ∀ e runner answer, E e ⟨runner, (listTable, answer) :: l.log⟩) :
    Action.wp (inspectTable purpose) Q E l := by
  rw [inspectTable, Action.wpBind]
  refine checkedLogged (fun result runner => ?_) failed
  cases document : result.stdout.document with
  | none => exact failed _ runner _
  | some value => exact done value result runner document

theorem listingLatest {R : Type} {result : CommandResult} {value : Value} (document : result.stdout.document = some value)
    (runner : R) (log : List (Command × Option CommandResult)) :
    (Logged.mk runner ((listTable, some result) :: log)).listing = some value := by
  simp [Logged.listing, document]

theorem abandonFails (e : Failure) (l : Logged R) : ∃ reported last, abandonTable e l = (.error reported, last) := by
  unfold abandonTable
  rcases deleteTable l with ⟨cleanup | done, last⟩
  · exact ⟨_, last, rfl⟩
  · exact ⟨_, last, rfl⟩

theorem captureLogged (l : Logged R) :
    Action.wp captureFingerprint
      (fun applied after => ∃ installed, after.listing = some installed ∧ applied.fingerprint = normalizeFingerprint installed)
      (fun _ _ => True) l := by
  have inspected : Action.wp (inspectTable .installing)
      (fun value after => ∃ installed, after.listing = some installed ∧ value = normalizeFingerprint installed)
      (fun _ _ => True) l :=
    inspectLogged (fun value result runner document => ⟨value, listingLatest document runner _, rfl⟩) (fun _ _ _ => trivial)
  rcases ran : inspectTable .installing l with ⟨e | value, after⟩
  · have abandoned : captureFingerprint l = abandonTable e after := by simp only [captureFingerprint, ran]
    obtain ⟨reported, last, failed⟩ := abandonFails e after
    simp only [Action.wp, abandoned, failed]
  · have ended : captureFingerprint l = (.ok ⟨value⟩, after) := by simp only [captureFingerprint, ran]
    exact Action.wpOfOk ended (Action.wpOk inspected ran)

theorem applyLogged [AddressText] (spec : NatSpec) (l : Logged R) :
    Action.wp (applyNat spec)
      (fun applied after => ∃ installed, after.listing = some installed ∧ applied.fingerprint = normalizeFingerprint installed)
      (fun _ _ => True) l := by
  simp only [applyNat, inspectInterface, installTable, Action.wpBind, Action.wpPure]
  refine checkedLogged (fun _ _ => ?_) (fun _ _ _ => trivial)
  refine checkedLogged (fun _ _ => ?_) (fun _ _ _ => trivial)
  refine existsLogged (fun found _ _ => ?_) (fun _ _ _ => trivial)
  simp only [Action.wpIte, Action.wpFail, Action.wpBind, Action.wpPure]
  refine ⟨fun _ => trivial, fun _ => ?_⟩
  exact checkedLogged (fun _ _ => captureLogged _) (fun _ _ _ => trivial)

def Warranted (applied : AppliedNat) (l : Logged R) : Prop :=
  l.issued deletion → ∃ current, l.listing = some current ∧ normalizeFingerprint current = applied.fingerprint

theorem revertLogged (applied : AppliedNat) (runner : R) :
    Action.wp (revertNat applied) (fun _ after => Warranted applied after) (fun _ after => Warranted applied after)
      ⟨runner, []⟩ := by
  have unissued (runner : R) (answer) : Warranted applied (Logged.mk runner [(⟨"nft", ["-j", "list", "tables"]⟩, answer)]) :=
    fun issued => absurd issued (by simp [Logged.issued, deletion])
  have listed (runner : R) (answer answer') : Warranted applied
      (Logged.mk runner [(listTable, answer), (⟨"nft", ["-j", "list", "tables"]⟩, answer')]) :=
    fun issued => absurd issued (by simp [Logged.issued, deletion, listTable])
  simp only [revertNat, Action.wpBind]
  refine existsLogged (fun found runner answer => ?_) (fun _ runner answer => unissued runner answer)
  simp only [Action.wpIte, Action.wpPure, Action.wpBind, Action.wpFail]
  refine ⟨fun _ => unissued runner answer, fun _ => ?_⟩
  refine inspectLogged (fun value result runner document => ?_) (fun _ runner answer' => listed runner answer' answer)
  refine ⟨fun _ => listed runner _ answer, fun same => ?_⟩
  have agreed : normalizeFingerprint value = applied.fingerprint := not_not.mp same
  simp only [deleteTable, Action.wpBind, Action.wpPure]
  refine checkedLogged (fun _ _ _ => ?_) (fun _ _ _ _ => ?_)
  · exact ⟨value, by simp [Logged.listing, listTable, document], agreed⟩
  · exact ⟨value, by simp [Logged.listing, listTable, document], agreed⟩

end

theorem fingerprintExactness :
    (∀ u v, normalizeFingerprint u = normalizeFingerprint v ↔ withoutVolatile u = withoutVolatile v) ∧
    (∀ v, normalizeFingerprint (normalizeFingerprint v) = normalizeFingerprint v) ∧
    ∀ (R : Type) [CommandRunner R] [AddressText] (spec : NatSpec) (r : Logged R) (applied : AppliedNat) (after),
      NatBackend.apply spec (LinuxNatBackend.mk r) = (.ok applied, after) →
      ∃ installed, after.runner.listing = some installed ∧ ∀ s : R,
        let reverted := (NatBackend.revert applied (LinuxNatBackend.mk (Logged.mk s []))).2.runner
        reverted.issued deletion →
          ∃ current, reverted.listing = some current ∧ withoutVolatile current = withoutVolatile installed := by
  refine ⟨fun u v => ?_, fun v => ?_, fun R _ _ spec r applied after ran => ?_⟩
  · rw [normalizePrunes, normalizePrunes]
  · rw [normalizePrunes, normalizePrunes]
    exact pruneTwice volatileStays [] v
  · have applies : Action.wp (NatBackend.apply spec) (fun applied (b : LinuxNatBackend (Logged R)) =>
        ∃ installed, b.runner.listing = some installed ∧ applied.fingerprint = normalizeFingerprint installed)
        (fun _ _ => True) ⟨r⟩ :=
      (Action.wpWithin LinuxNatBackend.runner (fun _ runner => ⟨runner⟩) (applyNat spec)).mpr (applyLogged spec r)
    obtain ⟨installed, listing, same⟩ := Action.wpOk applies ran
    refine ⟨installed, listing, ?_⟩
    intro s reverted issued
    have warranted : Warranted applied reverted :=
      Action.wpOutcome (R := fun outcome => Warranted applied outcome.2) (revertLogged applied s)
    obtain ⟨current, now, agreed⟩ := warranted issued
    refine ⟨current, now, ?_⟩
    rw [← normalizePrunes, ← normalizePrunes, agreed, same]

/- Answers that are fixed before the commands are known. -/
instance : CommandRunner (List CommandResult) where
  run _ _ _ _
    | [] => (.error (.of "no answer"), [])
    | result :: rest => (.ok result, rest)

def answered (value : Value) : CommandResult := ⟨true, some 0, .json value, ""⟩

def countedListing (packets : Int) : Value :=
  .object [("nftables", .array [.object [("metainfo", .object [("release", .number (.integer packets))])],
    .object [("rule", .object [("expr", .array [.object [("counter", .object [("bytes", .number (.integer 0)),
      ("packets", .number (.integer packets))])]]), ("handle", .number (.integer 4))])]])]

def ownTables : Value :=
  .object [("nftables", .array [.object [("table", .object [("family", .string nftTableFamily),
    ("name", .string nftTableName)])]])]

def installing : LinuxNatBackend (Logged (List CommandResult)) :=
  ⟨⟨[answered .null, answered .null, answered (.object [("nftables", .array [])]), answered .null,
    answered (countedListing 1)], []⟩⟩

theorem fingerprintExactnessCounting : letI := dotted
    ∃ applied after, NatBackend.apply ⟨privateNet, "tun0", "eth0"⟩ installing = (.ok applied, after) ∧
      ∃ installed, after.runner.listing = some installed ∧
        let answers := [answered ownTables, answered (countedListing 9), answered .null]
        let reverted := (NatBackend.revert applied (LinuxNatBackend.mk (Logged.mk answers []))).2.runner
        reverted.issued deletion ∧
          ∃ current, reverted.listing = some current ∧ withoutVolatile current = withoutVolatile installed := by
  let := dotted
  have ran : NatBackend.apply ⟨privateNet, "tun0", "eth0"⟩ installing = (.ok ⟨normalizeFingerprint (countedListing 1)⟩, _) := rfl
  obtain ⟨installed, listing, agrees⟩ := fingerprintExactness.2.2 _ _ _ _ _ ran
  have issued : (NatBackend.revert ⟨normalizeFingerprint (countedListing 1)⟩ (LinuxNatBackend.mk
      (Logged.mk [answered ownTables, answered (countedListing 9), answered .null] []))).2.runner.issued deletion := by
    decide +kernel
  exact ⟨_, _, ran, installed, listing, issued, agrees _ issued⟩

end Crabnet.Fingerprint
