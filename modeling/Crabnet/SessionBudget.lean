import Crabnet.DataSession
import Mathlib.Algebra.GroupWithZero.Nat

/-! The traffic budget of a session lifetime over whole runs. A run keeps every
call with its answer; a success is recorded only right after the permit for
the same packet, as the forwarding loop does, and the clock never turns back. -/
namespace Crabnet.SessionBudget
open MachineWord SessionTypes Fallible DataSession

def maximumPackets (limits : SessionLimits) : TrafficDirection → UInt64
  | .outbound => limits.maximumOutboundPackets
  | .inbound => limits.maximumInboundPackets

def maximumBytes (limits : SessionLimits) : TrafficDirection → UInt64
  | .outbound => limits.maximumOutboundPlaintextBytes
  | .inbound => limits.maximumInboundPlaintextBytes

theorem overPacketsNat (limits next direction) :
    SessionLifetime.overPackets limits next direction = true ↔
      (maximumPackets limits direction).toNat < next.packets.toNat := by
  cases direction <;> simp [SessionLifetime.overPackets, maximumPackets, UInt64.lt_iff_toNat_lt]

theorem overBytesNat (limits next direction) :
    SessionLifetime.overBytes limits next direction = true ↔
      (maximumBytes limits direction).toNat < next.bytes.toNat := by
  cases direction <;> simp [SessionLifetime.overBytes, maximumBytes, UInt64.lt_iff_toNat_lt]

structure Fits (l : SessionLifetime) (direction : TrafficDirection) (plaintextBytes : UInt64) : Prop where
  packets : (l.counters direction).packets.toNat + 1 ≤ (maximumPackets l.limits direction).toNat
  bytes : (l.counters direction).bytes.toNat + plaintextBytes.toNat ≤
    (maximumBytes l.limits direction).toNat

theorem nextNat {c next : TrafficCounters} {n : UInt64} (ok : c.next n = .ok next) :
    next.packets.toNat = c.packets.toNat + 1 ∧ next.bytes.toNat = c.bytes.toNat + n.toNat := by
  simp only [TrafficCounters.next] at ok
  split at ok <;> try contradiction
  rename_i packets packetsSum
  split at ok <;> try contradiction
  rename_i bytes bytesSum
  cases Except.ok.inj ok
  exact ⟨checkedAddSome packetsSum, checkedAddSome bytesSum⟩

theorem nextBeyond {c : TrafficCounters} {n : UInt64} {e} (failed : c.next n = .error e) :
    u64Limit ≤ c.packets.toNat + 1 ∨ u64Limit ≤ c.bytes.toNat + n.toNat := by
  simp only [TrafficCounters.next] at failed
  split at failed
  · rename_i packetsSum
    exact .inl (checkedAddNone packetsSum)
  · split at failed <;> try contradiction
    rename_i bytesSum
    exact .inr (checkedAddNone bytesSum)

-- A failed sum is beyond every limit, so the early overflow error hides no packet that fits.
theorem nextFails {l : SessionLifetime} {direction n e}
    (failed : (l.counters direction).next n = .error e) : ¬ Fits l direction n := by
  intro fits
  have packetRange := u64Bound (maximumPackets l.limits direction)
  have byteRange := u64Bound (maximumBytes l.limits direction)
  have packets := fits.packets
  have bytes := fits.bytes
  rcases nextBeyond failed with beyond | beyond <;> omega

def closedBy (l : SessionLifetime) (reason : SessionCloseReason) : SessionLifetime :=
  {l with state := .closed reason}

inductive Permission (l : SessionLifetime) (direction : TrafficDirection) (n : UInt64) (now : Instant) :
    Except SessionLifetimeError SessionDecision × SessionLifetime → Prop where
  | closed {reason} (state : l.state = .closed reason) :
      Permission l direction n now (.ok (.close reason), l)
  | failed {e} (state : l.state = .established) (why : l.idleDeadline = none ∨ ¬ Fits l direction n) :
      Permission l direction n now (.error e, l)
  | due {deadline} (state : l.state = .established) (idle : l.idleDeadline = some deadline)
      (late : deadline ≤ now) :
      Permission l direction n now (.ok (.close .idleTimeout), closedBy l .idleTimeout)
  | spent {reason} (state : l.state = .established) (exceeded : ¬ Fits l direction n) :
      Permission l direction n now (.ok (.close reason), closedBy l reason)
  | granted {deadline} (state : l.state = .established) (idle : l.idleDeadline = some deadline)
      (early : now < deadline) (fits : Fits l direction n) :
      Permission l direction n now (.ok .permit, l)

inductive Expiry (l : SessionLifetime) (now : Instant) :
    Except SessionLifetimeError SessionDecision × SessionLifetime → Prop where
  | closed {reason} (state : l.state = .closed reason) : Expiry l now (.ok (.close reason), l)
  | failed (state : l.state = .established) (idle : l.idleDeadline = none) :
      Expiry l now (.error .deadlineOverflow, l)
  | due {deadline} (state : l.state = .established) (idle : l.idleDeadline = some deadline)
      (late : deadline ≤ now) : Expiry l now (.ok (.close .idleTimeout), closedBy l .idleTimeout)
  | early {deadline} (state : l.state = .established) (idle : l.idleDeadline = some deadline)
      (before : now < deadline) : Expiry l now (.ok .permit, l)

theorem closeWp {l : SessionLifetime} {Q : SessionDecision → SessionLifetime → Prop}
    {E : SessionLifetimeError → SessionLifetime → Prop} (state : l.state = .established) {reason}
    (closed : Q (.close reason) (closedBy l reason)) : Action.wp (SessionLifetime.close reason) Q E l := by
  simp only [SessionLifetime.close, Action.wpBind, Action.wpRead, state, Action.wpModify, Action.wpPure]
  exact closed

theorem expireCases (l : SessionLifetime) (now : Instant) :
    Expiry l now (SessionLifetime.expireIfDue now l) := by
  apply Action.wpOutcome
  simp only [SessionLifetime.expireIfDue, Action.wpBind, Action.wpRead]
  split
  · rename_i reason state
    exact .closed state
  · rename_i state
    split
    · rename_i idle
      exact .failed state idle
    · rename_i deadline idle
      rw [Action.wpIte]
      constructor
      · intro late
        exact closeWp state (.due state idle late)
      · intro before
        exact .early state idle (Nat.lt_of_not_le before)

theorem permitCases (l : SessionLifetime) (direction : TrafficDirection) (n : UInt64) (now : Instant) :
    Permission l direction n now (SessionLifetime.permit direction n now l) := by
  apply Action.wpOutcome
  rw [SessionLifetime.permit, Action.wpBind]
  have checked := expireCases l now
  unfold Action.wp
  generalize SessionLifetime.expireIfDue now l = outcome at checked ⊢
  cases checked with
  | closed state => exact .closed state
  | failed state idle => exact .failed state (.inl idle)
  | due state idle late => exact .due state idle late
  | early state idle before =>
    change Action.wp _ _ _ l
    simp only [Action.wpBind, Action.wpRead, Action.wpOfExcept]
    cases sum : (l.counters direction).next n with
    | error e => exact .failed state (.inr (nextFails sum))
    | ok next =>
      have value := nextNat sum
      simp only [Action.wpIte, overPacketsNat, overBytesNat]
      refine ⟨fun above => closeWp state (.spent state ?_), fun packets =>
        ⟨fun above => closeWp state (.spent state ?_), fun bytes => .granted state idle before ?_⟩⟩
      · intro fits
        have packets := fits.packets
        omega
      · intro fits
        have bytes := fits.bytes
        omega
      · exact ⟨by omega, by omega⟩

theorem permitIff {l : SessionLifetime} {deadline} (idle : l.idleDeadline = some deadline) (direction n now) :
    (SessionLifetime.permit direction n now l).1 = .ok .permit ↔
      l.state = .established ∧ now < deadline ∧ Fits l direction n := by
  have cases_ := permitCases l direction n now
  generalize SessionLifetime.permit direction n now l = outcome at cases_ ⊢
  cases cases_ with
  | closed state => simp [state]
  | failed state why =>
    rcases why with absent | exceeded
    · rw [idle] at absent
      contradiction
    · simp [exceeded]
  | due state found late =>
    cases Option.some.inj (idle.symm.trans found)
    simp [Nat.not_lt.mpr late]
  | spent state exceeded => simp [exceeded]
  | granted state found early fits =>
    cases Option.some.inj (idle.symm.trans found)
    simp [state, early, fits]

inductive LifetimeCall where
  | permit (direction : TrafficDirection) (plaintextBytes : UInt64) (now : Instant)
  | recordSuccess (direction : TrafficDirection) (plaintextBytes : UInt64) (now : Instant)
  | expireIfDue (now : Instant)
  | close (reason : SessionCloseReason)
  | nextDeadline
  deriving DecidableEq

inductive LifetimeAnswer where
  | decision (result : Except SessionLifetimeError SessionDecision)
  | recorded (result : Except SessionLifetimeError Unit)
  | deadline (result : Except SessionLifetimeError (Option Instant))

def LifetimeAnswer.failed : LifetimeAnswer → Bool
  | .decision (.error _) | .recorded (.error _) | .deadline (.error _) => true
  | _ => false

def perform (l : SessionLifetime) : LifetimeCall → LifetimeAnswer × SessionLifetime
  | .permit direction n now =>
    (.decision (SessionLifetime.permit direction n now l).1, (SessionLifetime.permit direction n now l).2)
  | .recordSuccess direction n now =>
    (.recorded (SessionLifetime.recordSuccess direction n now l).1,
      (SessionLifetime.recordSuccess direction n now l).2)
  | .expireIfDue now =>
    (.decision (SessionLifetime.expireIfDue now l).1, (SessionLifetime.expireIfDue now l).2)
  | .close reason => (.decision (SessionLifetime.close reason l).1, (SessionLifetime.close reason l).2)
  | .nextDeadline => (.deadline l.nextDeadline, l)

structure Event where
  call : LifetimeCall
  answer : LifetimeAnswer

def LifetimeCall.at (clock : Instant) : LifetimeCall → Instant
  | .permit _ _ now | .recordSuccess _ _ now | .expireIfDue now => now
  | .close _ | .nextDeadline => clock

def Disciplined (events : List Event) : LifetimeCall → Prop
  | .recordSuccess direction n _ =>
    ∃ asked, events.getLast? = some ⟨.permit direction n asked, .decision (.ok .permit)⟩
  | _ => True

inductive Run (created : Instant) (limits : SessionLimits) :
    List Event → Instant → SessionLifetime → Prop where
  | start : Run created limits [] created (.new created limits)
  | call {events clock l} (earlier : Run created limits events clock l) (c : LifetimeCall)
      (ordered : clock ≤ c.at clock) (disciplined : Disciplined events c) :
      Run created limits (events ++ [⟨c, (perform l c).1⟩]) (c.at clock) (perform l c).2

def recordedBytes (direction : TrafficDirection) : Event → Option UInt64
  | ⟨.recordSuccess recorded n _, .recorded (.ok _)⟩ => if recorded = direction then some n else none
  | _ => none

def recordedAt : Event → Option Instant
  | ⟨.recordSuccess _ _ now, .recorded (.ok _)⟩ => some now
  | _ => none

def successes (direction : TrafficDirection) (events : List Event) : List UInt64 :=
  events.filterMap (recordedBytes direction)

def lastSuccess (created : Instant) (events : List Event) : Instant :=
  events.foldl (fun last event => (recordedAt event).getD last) created

def credited (l : SessionLifetime) (direction : TrafficDirection) (next : TrafficCounters) (now : Instant) :
    SessionLifetime :=
  {l.setCounters next direction with lastSuccessfulActivity := now}

inductive Effect (l : SessionLifetime) : Event → SessionLifetime → Prop where
  | kept {event} (unrecorded : recordedAt event = none) (none_ : ∀ direction, recordedBytes direction event = none)
      (asked : ∀ direction n now, event = ⟨.permit direction n now, .decision (.ok .permit)⟩ →
        l.state = .established ∧ Fits l direction n)
      (first : ∀ reason, event.answer = .decision (.ok (.close reason)) → l.state = .closed reason) :
      Effect l event l
  | closed {c reason} (state : l.state = .established) :
      Effect l ⟨c, .decision (.ok (.close reason))⟩ (closedBy l reason)
  | recorded {direction n now next} (state : l.state = .established)
      (sum : (l.counters direction).next n = .ok next) :
      Effect l ⟨.recordSuccess direction n now, .recorded (.ok ())⟩ (credited l direction next now)

theorem performCases (l : SessionLifetime) (c : LifetimeCall) : Effect l ⟨c, (perform l c).1⟩ (perform l c).2 := by
  cases c with
  | permit direction n now =>
    have cases_ := permitCases l direction n now
    simp only [perform]
    generalize SessionLifetime.permit direction n now l = outcome at cases_ ⊢
    cases cases_ with
    | closed state => exact .kept rfl (fun _ => rfl) (by simp) (by simp [state])
    | failed state why => exact .kept rfl (fun _ => rfl) (by simp) (by simp)
    | due state idle late => exact .closed state
    | spent state exceeded => exact .closed state
    | granted state idle early fits =>
      refine .kept rfl (fun _ => rfl) ?_ (by simp)
      intro d m t same
      cases same
      exact ⟨state, fits⟩
  | recordSuccess direction n now =>
    simp only [perform]
    apply Action.wpOutcome (R := fun outcome =>
      Effect l ⟨.recordSuccess direction n now, .recorded outcome.1⟩ outcome.2)
    simp only [SessionLifetime.recordSuccess, Action.wpBind, Action.wpRead]
    split
    · exact .kept rfl (fun _ => rfl) (by simp) (by simp)
    · rename_i state
      simp only [Action.wpBind, Action.wpOfExcept]
      cases sum : (l.counters direction).next n with
      | error e => exact .kept rfl (fun _ => rfl) (by simp) (by simp)
      | ok next => exact .recorded state sum
  | expireIfDue now =>
    have cases_ := expireCases l now
    simp only [perform]
    generalize SessionLifetime.expireIfDue now l = outcome at cases_ ⊢
    cases cases_ with
    | closed state => exact .kept rfl (fun _ => rfl) (by simp) (by simp [state])
    | failed state idle => exact .kept rfl (fun _ => rfl) (by simp) (by simp)
    | due state idle late => exact .closed state
    | early state idle before => exact .kept rfl (fun _ => rfl) (by simp) (by simp)
  | close reason =>
    simp only [perform]
    apply Action.wpOutcome (R := fun outcome => Effect l ⟨.close reason, .decision outcome.1⟩ outcome.2)
    cases state : l.state with
    | established => exact closeWp state (.closed state)
    | closed first =>
      simp only [SessionLifetime.close, Action.wpBind, Action.wpRead, state, Action.wpPure]
      exact .kept rfl (fun _ => rfl) (by simp) (by simp [state])
  | nextDeadline => exact .kept rfl (fun _ => rfl) (by simp) (by simp [perform])

theorem failedKeeps {l c} (failed : (perform l c).1.failed = true) : (perform l c).2 = l := by
  have effect := performCases l c
  generalize (perform l c).2 = t at effect ⊢
  generalize (perform l c).1 = answer at effect failed
  cases effect with
  | kept => rfl
  | closed => contradiction
  | recorded => contradiction

structure Balanced (events : List Event) (l : SessionLifetime) (direction : TrafficDirection) : Prop where
  packets : (l.counters direction).packets.toNat = (successes direction events).length
  bytes : (l.counters direction).bytes.toNat = ((successes direction events).map UInt64.toNat).sum
  packetLimit : (l.counters direction).packets.toNat ≤ (maximumPackets l.limits direction).toNat
  byteLimit : (l.counters direction).bytes.toNat ≤ (maximumBytes l.limits direction).toNat

structure Accounts (created : Instant) (limits : SessionLimits) (events : List Event)
    (l : SessionLifetime) : Prop where
  limits : l.limits = limits
  balanced : ∀ direction, Balanced events l direction
  activity : l.lastSuccessfulActivity = lastSuccess created events
  allowed : ∀ direction n asked,
    events.getLast? = some ⟨.permit direction n asked, .decision (.ok .permit)⟩ →
      l.state = .established ∧ Fits l direction n
  closed : ∀ event ∈ events, ∀ reason,
    event.answer = .decision (.ok (.close reason)) → l.state = .closed reason

theorem startAccounts (created limits) : Accounts created limits [] (.new created limits) where
  limits := rfl
  balanced direction := by cases direction <;> exact ⟨rfl, rfl, Nat.zero_le _, Nat.zero_le _⟩
  activity := rfl
  allowed _ _ _ last := by cases last
  closed _ member := by cases member

@[simp] theorem successesSnoc (direction events event) :
    successes direction (events ++ [event]) =
      successes direction events ++ (recordedBytes direction event).toList := by
  cases recorded : recordedBytes direction event <;> simp [successes, recorded]

@[simp] theorem lastSuccessSnoc (created events event) :
    lastSuccess created (events ++ [event]) = (recordedAt event).getD (lastSuccess created events) := by
  simp [lastSuccess]

theorem balancedSnoc {events l t event direction} (inv : Balanced events l direction)
    (nothing : recordedBytes direction event = none) (counters : t.counters direction = l.counters direction)
    (limits : t.limits = l.limits) : Balanced (events ++ [event]) t direction := by
  have same : successes direction (events ++ [event]) = successes direction events := by simp [nothing]
  refine ⟨?_, ?_, ?_, ?_⟩
  · rw [counters, same, inv.packets]
  · rw [counters, same, inv.bytes]
  · rw [counters, limits]
    exact inv.packetLimit
  · rw [counters, limits]
    exact inv.byteLimit

theorem keptAccounts {created limits events l event} (inv : Accounts created limits events l)
    (unrecorded : recordedAt event = none) (none_ : ∀ direction, recordedBytes direction event = none)
    (asked : ∀ direction n now, event = ⟨.permit direction n now, .decision (.ok .permit)⟩ →
      l.state = .established ∧ Fits l direction n)
    (first : ∀ reason, event.answer = .decision (.ok (.close reason)) → l.state = .closed reason) :
    Accounts created limits (events ++ [event]) l where
  limits := inv.limits
  balanced direction := balancedSnoc (inv.balanced direction) (none_ direction) rfl rfl
  activity := by simp [unrecorded, inv.activity]
  allowed direction n now last := by
    rw [List.getLast?_concat] at last
    exact asked direction n now (Option.some.inj last)
  closed other member reason closes := by
    rcases List.mem_append.mp member with earlier | last
    · exact inv.closed other earlier reason closes
    · rw [List.mem_singleton.mp last] at closes
      exact first reason closes

theorem closedAccounts {created limits events l c reason} (inv : Accounts created limits events l)
    (state : l.state = .established) :
    Accounts created limits (events ++ [⟨c, .decision (.ok (.close reason))⟩]) (closedBy l reason) where
  limits := inv.limits
  balanced direction := balancedSnoc (inv.balanced direction) (by cases c <;> rfl) (by cases direction <;> rfl) rfl
  activity := by
    have nothing : recordedAt ⟨c, .decision (.ok (.close reason))⟩ = none := by cases c <;> rfl
    rw [lastSuccessSnoc, nothing]
    exact inv.activity
  allowed direction n now last := by
    rw [List.getLast?_concat] at last
    cases last
  closed other member first closes := by
    rcases List.mem_append.mp member with earlier | last
    · -- no earlier event closed the session, which was still established
      rw [inv.closed other earlier first closes] at state
      contradiction
    · rw [List.mem_singleton.mp last] at closes
      cases closes
      rfl

theorem creditedSame (l : SessionLifetime) (direction next now) :
    (credited l direction next now).counters direction = next := by
  cases direction <;> rfl

theorem creditedOther (l : SessionLifetime) (next now) {direction other} (different : direction ≠ other) :
    (credited l direction next now).counters other = l.counters other := by
  cases direction <;> cases other <;> first | contradiction | rfl

theorem creditedLimits (l : SessionLifetime) (direction next now) :
    (credited l direction next now).limits = l.limits := by
  cases direction <;> rfl

theorem creditedBalanced {events l direction n now next} (inv : Balanced events l direction)
    (fits : Fits l direction n) (sum : (l.counters direction).next n = .ok next) :
    Balanced (events ++ [⟨.recordSuccess direction n now, .recorded (.ok ())⟩])
      (credited l direction next now) direction := by
  have value := nextNat sum
  have mine : recordedBytes direction ⟨.recordSuccess direction n now, .recorded (.ok ())⟩ = some n := by
    simp [recordedBytes]
  refine ⟨?_, ?_, ?_, ?_⟩
  · rw [creditedSame, value.1, inv.packets, successesSnoc, mine]
    simp
  · rw [creditedSame, value.2, inv.bytes, successesSnoc, mine]
    simp
  · rw [creditedSame, creditedLimits, value.1]
    exact fits.packets
  · rw [creditedSame, creditedLimits, value.2]
    exact fits.bytes

theorem recordedAccounts {created limits events l direction n now next}
    (inv : Accounts created limits events l) (state : l.state = .established) (fits : Fits l direction n)
    (sum : (l.counters direction).next n = .ok next) :
    Accounts created limits (events ++ [⟨.recordSuccess direction n now, .recorded (.ok ())⟩])
      (credited l direction next now) where
  limits := (creditedLimits l direction next now).trans inv.limits
  balanced other := by
    by_cases same : direction = other
    · subst same
      exact creditedBalanced (inv.balanced direction) fits sum
    · have nothing : recordedBytes other ⟨.recordSuccess direction n now, .recorded (.ok ())⟩ = none := by
        simp [recordedBytes, same]
      exact balancedSnoc (inv.balanced other) nothing (creditedOther l next now same)
        (creditedLimits l direction next now)
  activity := by
    rw [lastSuccessSnoc]
    rfl
  allowed _ _ _ last := by
    rw [List.getLast?_concat] at last
    cases last
  closed other member reason closes := by
    rcases List.mem_append.mp member with earlier | last
    · rw [inv.closed other earlier reason closes] at state
      contradiction
    · rw [List.mem_singleton.mp last] at closes
      cases closes

theorem runAccounts {created limits events clock l} (reached : Run created limits events clock l) :
    Accounts created limits events l := by
  induction reached with
  | start => exact startAccounts created limits
  | @call events clock l earlier c ordered disciplined ih =>
    have effect := performCases l c
    generalize (perform l c).2 = t at effect ⊢
    generalize (perform l c).1 = answer at effect ⊢
    cases effect with
    | kept unrecorded none_ asked first => exact keptAccounts ih unrecorded none_ asked first
    | closed state => exact closedAccounts ih state
    | recorded state sum =>
      obtain ⟨asked, last⟩ := disciplined
      exact recordedAccounts ih state (ih.allowed _ _ _ last).2 sum

theorem closedAnswers {l : SessionLifetime} {reason} (state : l.state = .closed reason) (direction n now) :
    SessionLifetime.permit direction n now l = (.ok (.close reason), l) ∧
      SessionLifetime.expireIfDue now l = (.ok (.close reason), l) ∧
      (∃ e, SessionLifetime.recordSuccess direction n now l = (.error e, l)) ∧
      l.nextDeadline = .ok none := by
  refine ⟨?_, ?_, ?_, ?_⟩
  · have cases_ := permitCases l direction n now
    generalize SessionLifetime.permit direction n now l = outcome at cases_ ⊢
    cases cases_ <;> simp_all
  · have cases_ := expireCases l now
    generalize SessionLifetime.expireIfDue now l = outcome at cases_ ⊢
    cases cases_ <;> simp_all
  · refine ⟨.recordAfterClose direction reason, ?_⟩
    apply Action.wpOutcome (R := fun outcome => outcome = (.error (SessionLifetimeError.recordAfterClose direction reason), l))
    simp only [SessionLifetime.recordSuccess, Action.wpBind, Action.wpRead, state, Action.wpFail]
  · simp only [SessionLifetime.nextDeadline, state]

def ofDirection {α : Type} (outbound inbound : α) : TrafficDirection → α
  | .outbound => outbound
  | .inbound => inbound

theorem newConfigures {outboundPackets outboundBytes inboundPackets inboundBytes idle limits}
    (accepted : SessionLimits.new outboundPackets outboundBytes inboundPackets inboundBytes idle = .ok limits) :
    maximumPackets limits = ofDirection outboundPackets inboundPackets ∧
      maximumBytes limits = ofDirection outboundBytes inboundBytes ∧ limits.idleTimeout = idle := by
  simp only [SessionLimits.new] at accepted
  iterate 5 split at accepted <;> try contradiction
  cases Except.ok.inj accepted
  refine ⟨?_, ?_, rfl⟩ <;> funext direction <;> cases direction <;> rfl

theorem lifetimeBudget {outboundPackets outboundBytes inboundPackets inboundBytes : UInt64} {idle : Duration}
    {limits : SessionLimits} {created clock : Instant} {events : List Event} {l : SessionLifetime}
    (accepted : SessionLimits.new outboundPackets outboundBytes inboundPackets inboundBytes idle = .ok limits)
    (reached : Run created limits events clock l) :
    (∀ direction,
      (l.counters direction).packets.toNat = (successes direction events).length ∧
      (l.counters direction).bytes.toNat = ((successes direction events).map UInt64.toNat).sum ∧
      (l.counters direction).packets.toNat ≤ (ofDirection outboundPackets inboundPackets direction).toNat ∧
      (l.counters direction).bytes.toNat ≤ (ofDirection outboundBytes inboundBytes direction).toNat) ∧
    (∀ deadline, Instant.checkedAdd (lastSuccess created events) idle = some deadline →
      ∀ direction n now, (SessionLifetime.permit direction n now l).1 = .ok .permit ↔
        l.state = .established ∧ now < deadline ∧
        (successes direction events).length + 1 ≤ (ofDirection outboundPackets inboundPackets direction).toNat ∧
        ((successes direction events).map UInt64.toNat).sum + n.toNat ≤
          (ofDirection outboundBytes inboundBytes direction).toNat) ∧
    (∀ event ∈ events, ∀ reason, event.answer = .decision (.ok (.close reason)) →
      ∀ direction n now, SessionLifetime.permit direction n now l = (.ok (.close reason), l) ∧
        SessionLifetime.expireIfDue now l = (.ok (.close reason), l) ∧
        (∃ e, SessionLifetime.recordSuccess direction n now l = (.error e, l)) ∧
        l.nextDeadline = .ok none) ∧
    (∀ c, (perform l c).1.failed = true → (perform l c).2 = l) := by
  have inv := runAccounts reached
  obtain ⟨packetMaximum, byteMaximum, idleTimeout⟩ := newConfigures accepted
  rw [← packetMaximum, ← byteMaximum, ← inv.limits]
  refine ⟨?_, ?_, ?_, fun c => failedKeeps⟩
  · intro direction
    have balanced := inv.balanced direction
    exact ⟨balanced.packets, balanced.bytes, balanced.packetLimit, balanced.byteLimit⟩
  · intro deadline representable direction n now
    have idleDeadline : l.idleDeadline = some deadline := by
      rw [SessionLifetime.idleDeadline, inv.activity, inv.limits, idleTimeout]
      exact representable
    rw [permitIff idleDeadline, ← (inv.balanced direction).packets, ← (inv.balanced direction).bytes]
    constructor
    · intro ⟨state, early, fits⟩
      exact ⟨state, early, fits.packets, fits.bytes⟩
    · intro ⟨state, early, packets, bytes⟩
      exact ⟨state, early, packets, bytes⟩
  · intro event member reason closes direction n now
    exact closedAnswers (inv.closed event member reason closes) direction n now

def plainLimits : SessionLimits := (SessionLimits.new 1 100 2 90 10).toOption.get rfl

theorem plainRun : ∃ events clock, Run 3 plainLimits events clock
    (credited (.new 3 plainLimits) .outbound ⟨1, 40⟩ 6) ∧
      successes .outbound events = [40] ∧ lastSuccess 3 events = 6 := by
  have first := Run.call (@Run.start 3 plainLimits) (.permit .outbound 40 5) (by decide) trivial
  have second := Run.call first (.recordSuccess .outbound 40 6) (by decide) ⟨5, rfl⟩
  exact ⟨_, _, second, rfl, rfl⟩

theorem lifetimeBudgetSpent : SessionLimits.new 1 100 2 90 10 = .ok plainLimits ∧
    ∃ events clock l, Run 3 plainLimits events clock l ∧ (l.counters .outbound).packets.toNat = 1 ∧
      (∀ n now, (SessionLifetime.permit .outbound n now l).1 ≠ .ok .permit) ∧
      ((SessionLifetime.permit .inbound 90 15 l).1 = .ok .permit) := by
  have accepted : SessionLimits.new 1 100 2 90 10 = .ok plainLimits := rfl
  obtain ⟨events, clock, reached, recorded, last⟩ := plainRun
  obtain ⟨counted, permits, -, -⟩ := lifetimeBudget accepted reached
  have idle : Instant.checkedAdd (lastSuccess 3 events) 10 = some 16 := by rw [last]; rfl
  refine ⟨accepted, events, clock, _, reached, rfl, ?_, ?_⟩
  · intro n now granted
    obtain ⟨-, -, packets, -⟩ := (permits 16 idle .outbound n now).mp granted
    rw [recorded] at packets
    exact absurd packets (by decide)
  · refine (permits 16 idle .inbound 90 15).mpr ⟨rfl, by decide, ?_, ?_⟩
    · rw [← (counted .inbound).1]
      decide
    · rw [← (counted .inbound).2.1]
      decide

end Crabnet.SessionBudget
