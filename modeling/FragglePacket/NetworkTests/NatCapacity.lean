import FragglePacket.Load.Guard
import FragglePacket.Systems.Runs

/-! The NAT session-rate probe: the phase that connects, the guard's loop around it, and
the watcher thread that turns `stop` into `cancel`. -/

namespace FragglePacket.NetworkTests

open FragglePacket.Load FragglePacket.Systems

inductive ErrorKind where
  | connectionRefused
  | timedOut
  | other
deriving DecidableEq

/-- An `io::Error`: from an error code of the system, or made by the library. -/
inductive IoError where
  | os (code : Int) (text : String)
  | custom (kind : ErrorKind) (text : String)

/-- Error codes of Linux. -/
def enfile : Int := 23
def emfile : Int := 24
def eaddrnotavail : Int := 99
def enobufs : Int := 105
def etimedout : Int := 110
def econnrefused : Int := 111

namespace IoError

def kind : IoError → ErrorKind
  | os code _ =>
    if code = econnrefused then .connectionRefused else if code = etimedout then .timedOut
    else .other
  | custom kind _ => kind

def rawOsError : IoError → Option Int
  | os code _ => some code
  | custom _ _ => none

def text : IoError → String
  | os _ text => text
  | custom _ text => text

end IoError

inductive SessionOutcome where
  | created
  | remoteRefused
  | remoteTimedOut
  | localResourceExhausted (detail : String)
  | otherLocalError (detail : String)

def classifyConnectError (e : IoError) : SessionOutcome :=
  match e.kind with
  | .connectionRefused => .remoteRefused
  | .timedOut => .remoteTimedOut
  | .other =>
    match e.rawOsError with
    | some code =>
      if code = emfile ∨ code = enfile ∨ code = enobufs then .localResourceExhausted e.text
      else .otherLocalError e.text
    | none => .otherLocalError e.text

structure SessionRateResult where
  attempted : Nat
  created : Nat
  remoteRefused : Nat
  remoteTimedOut : Nat
  localResourceExhausted : Nat
  otherLocalError : Nat
  elapsedSecs : ℚ

/-- The ceiling that a result is evidence for. -/
def SessionRateResult.remoteCeilingEvidence (r : SessionRateResult) : Option Nat :=
  if 0 < r.localResourceExhausted then none
  else if r.remoteRefused = 0 ∧ r.remoteTimedOut = 0 then none
  else some r.created

/-- What `connect_timeout` returns. -/
abbrev Connect := Except IoError Unit

def idleTick : PhaseTick where
  gatewayLatencyMs := none
  lossPct := none
  endpointError := none
  bytesSentDelta := 0

/-- One tick of the phase on the result of its connect: the counts, what the guard is told,
and the flag. -/
def tick (r : SessionRateResult) (stop : Bool) (connect : Connect) :
    SessionRateResult × PhaseTick × Bool :=
  let r := { r with attempted := r.attempted + 1 }
  match connect with
  | .ok () => ({ r with created := r.created + 1 }, { idleTick with bytesSentDelta := 1 }, stop)
  | .error e =>
    match classifyConnectError e with
    | .remoteRefused => ({ r with remoteRefused := r.remoteRefused + 1 }, idleTick, true)
    | .remoteTimedOut => ({ r with remoteTimedOut := r.remoteTimedOut + 1 }, idleTick, true)
    | .localResourceExhausted _ =>
      ({ r with localResourceExhausted := r.localResourceExhausted + 1 }, idleTick, true)
    | .otherLocalError _ => ({ r with otherLocalError := r.otherLocalError + 1 }, idleTick, stop)
    -- no error is classified as created
    | .created => (r, idleTick, stop)

/-- Where the watcher thread is: asleep or reading `stop`, about to write `cancel`, gone. -/
inductive Watcher where
  | polling
  | relaying
  | finished
deriving DecidableEq

/-- The two threads with what they share. `checked` is set between the loop's look at
`cancel` and the tick that follows it. -/
structure ProbeState where
  phase : PhaseState
  checked : Option ℚ
  stop : Bool
  cancel : Bool
  watcher : Watcher
  result : SessionRateResult

/-- One atomic step: the loop looks at the time in its step and at `cancel`, ticks and
sleeps; the sampler stores a reading; the watcher reads one flag or writes the other. -/
inductive ProbeAction where
  | check (tested : ℚ)
  | connect (outcome : Connect) (spent : ℚ)
  | sample
  | poll
  | relay

def emptyResult : SessionRateResult where
  attempted := 0
  created := 0
  remoteRefused := 0
  remoteTimedOut := 0
  localResourceExhausted := 0
  otherLocalError := 0
  elapsedSecs := 0

def probeStart (guard : LoadGuard) : ProbeState where
  phase := guard.start
  checked := none
  stop := false
  cancel := false
  watcher := .polling
  result := emptyResult

/-- The radio source of the probe has nothing to say. -/
def probeRadio : RadioSnapshot := .unavailable

def probeStep (guard : LoadGuard) (s : ProbeState) : ProbeAction → Option ProbeState
  | .check tested =>
    match s.checked, s.phase.control with
    | none, .step _ _ =>
      if guard.stepDuration ≤ tested ∨ s.cancel = true then
        some { s with phase := guard.advance probeRadio s.phase
                        (.round ⟨tested, s.cancel, idleTick, 0⟩) }
      else some { s with checked := some tested }
    | _, _ => none
  | .connect outcome spent =>
    s.checked.map fun tested =>
      let (result, answer, stop) := tick s.result s.stop outcome
      { s with
        phase := guard.advance probeRadio s.phase (.round ⟨tested, false, answer, spent⟩)
        checked := none
        stop := stop
        result := result }
  | .sample =>
    some { s with phase := guard.advance probeRadio s.phase (.sampled (.ok .unavailable)) }
  | .poll =>
    match s.watcher with
    | .polling => some { s with watcher := if s.stop then .relaying else .polling }
    | _ => none
  | .relay =>
    match s.watcher with
    | .relaying => some { s with cancel := true, watcher := .finished }
    | _ => none

/-- The result that is returned when the guard's loop has ended. -/
def finalResult (s : ProbeState) (elapsedSecs : ℚ) : Option SessionRateResult :=
  match s.phase.control with
  | .ended _ => some { s.result with elapsedSecs := elapsedSecs }
  | .step _ _ => none

/-- `run_session_rate_probe` over the steps that its threads take; `none` while they go on. -/
def runSessionRateProbe (budget : LoadBudget) (interface : String) (actions : List ProbeAction)
    (elapsedSecs : ℚ) : Option (Except BudgetError SessionRateResult) :=
  match LoadGuard.new budget interface false with
  | .error refused => some (.error refused)
  | .ok guard =>
    ((runFrom (probeStep guard) (probeStart guard) actions).bind
      (finalResult · elapsedSecs)).map .ok

def sessionOutcomeOf : Connect → SessionOutcome
  | .ok () => .created
  | .error e => classifyConnectError e

namespace SessionOutcome

def isCreated : SessionOutcome → Bool
  | created => true
  | _ => false

def isRemoteRefused : SessionOutcome → Bool
  | remoteRefused => true
  | _ => false

def isRemoteTimedOut : SessionOutcome → Bool
  | remoteTimedOut => true
  | _ => false

def isLocalResourceExhausted : SessionOutcome → Bool
  | localResourceExhausted _ => true
  | _ => false

def isOtherLocalError : SessionOutcome → Bool
  | otherLocalError _ => true
  | _ => false

/-- The remote side pushes back. -/
def pushesBack (outcome : SessionOutcome) : Bool :=
  outcome.isRemoteRefused || outcome.isRemoteTimedOut

/-- The probe has to stop. -/
def stopsProbe (outcome : SessionOutcome) : Bool :=
  outcome.pushesBack || outcome.isLocalResourceExhausted

end SessionOutcome

/-- The results of the connects of a run, in order. -/
def connects (actions : List ProbeAction) : List Connect :=
  actions.filterMap fun action =>
    match action with
    | .connect outcome _ => some outcome
    | _ => none

/-- The connect found no local port left. -/
def NoLocalPort (outcome : Connect) : Prop := ∃ text, outcome = .error (.os eaddrnotavail text)

/-- The connect failed for a local reason: descriptors, buffers or ports. -/
def LocalReason (outcome : Connect) : Prop :=
  ∃ code text, outcome = .error (.os code text) ∧ code ∈ [emfile, enfile, enobufs, eaddrnotavail]

/-- The probe stops at the first push-back, counts what it tried, and gives a ceiling only
as evidence of one. -/
structure HonestProbe (attempts : List Connect) (r : SessionRateResult) : Prop where
  counted : r.attempted = r.created + r.remoteRefused + r.remoteTimedOut +
    r.localResourceExhausted +
    r.otherLocalError
  stops : ∀ past outcome later, attempts = past ++ outcome :: later →
    (sessionOutcomeOf outcome).stopsProbe = true → later = []
  evidence : ∀ c, r.remoteCeilingEvidence = some c → (∀ outcome ∈ attempts, ¬ LocalReason outcome) ∧
    ∃ past push later, attempts = past ++ push :: later ∧
      (sessionOutcomeOf push).pushesBack = true ∧
      (∀ earlier ∈ past, (sessionOutcomeOf earlier).pushesBack = false) ∧
        past.countP (fun earlier => (sessionOutcomeOf earlier).isCreated) = c

/-- The watcher has relayed `stop` before the loop looks at `cancel`, unless the time of its
step is over, and no connect fails for want of a local port. -/
def Prompt (guard : LoadGuard) (s : ProbeState) : ProbeAction → Prop
  | .check tested => s.stop = true → guard.stepDuration ≤ tested ∨ s.cancel = true
  | .connect outcome _ => ¬ NoLocalPort outcome
  | _ => True

/-- The counters say how often each outcome was met. -/
structure Tallied (attempts : List Connect) (r : SessionRateResult) : Prop where
  attempted : r.attempted = attempts.length
  created : r.created = attempts.countP fun outcome => (sessionOutcomeOf outcome).isCreated
  remoteRefused : r.remoteRefused = attempts.countP fun outcome =>
    (sessionOutcomeOf outcome).isRemoteRefused
  remoteTimedOut : r.remoteTimedOut = attempts.countP fun outcome =>
    (sessionOutcomeOf outcome).isRemoteTimedOut
  localResourceExhausted : r.localResourceExhausted =
    attempts.countP fun outcome => (sessionOutcomeOf outcome).isLocalResourceExhausted
  otherLocalError : r.otherLocalError = attempts.countP fun outcome =>
    (sessionOutcomeOf outcome).isOtherLocalError

theorem classifyConnectError_ne_created (e : IoError) : classifyConnectError e ≠ .created := by
  unfold classifyConnectError
  split
  · simp
  · simp
  · split
    · split <;> simp
    · simp

/-- A tick raises the counter of its outcome, and no other. -/
theorem tick_result (r : SessionRateResult) (stop : Bool) (outcome : Connect) :
    (tick r stop outcome).1 =
      { r with
        attempted := r.attempted + 1
        created := r.created + if (sessionOutcomeOf outcome).isCreated then 1 else 0
        remoteRefused :=
          r.remoteRefused + if (sessionOutcomeOf outcome).isRemoteRefused then 1 else 0
        remoteTimedOut :=
          r.remoteTimedOut + if (sessionOutcomeOf outcome).isRemoteTimedOut then 1 else 0
        localResourceExhausted :=
          r.localResourceExhausted + if (sessionOutcomeOf outcome).isLocalResourceExhausted
            then 1 else 0
        otherLocalError := r.otherLocalError +
          if (sessionOutcomeOf outcome).isOtherLocalError then 1 else 0 } := by
  cases outcome with
  | ok value => rfl
  | error e =>
    cases classified : classifyConnectError e with
    | created => exact absurd classified (classifyConnectError_ne_created e)
    | _ =>
      simp only [tick, sessionOutcomeOf, classified]
      rfl

theorem tick_tallied {attempts : List Connect} {r : SessionRateResult}
    (tallied : Tallied attempts r) (stop : Bool) (outcome : Connect) :
    Tallied (attempts ++ [outcome]) (tick r stop outcome).1 := by
  obtain ⟨attempted, created, refused, timedOut, exhausted, other⟩ := tallied
  rw [tick_result]
  constructor
  · simp only [attempted, List.length_append, List.length_singleton]
  · simp only [created, List.countP_append, List.countP_singleton]
  · simp only [refused, List.countP_append, List.countP_singleton]
  · simp only [timedOut, List.countP_append, List.countP_singleton]
  · simp only [exhausted, List.countP_append, List.countP_singleton]
  · simp only [other, List.countP_append, List.countP_singleton]

theorem tick_stop (r : SessionRateResult) (stop : Bool) (outcome : Connect) :
    (tick r stop outcome).2.2 = (stop || (sessionOutcomeOf outcome).stopsProbe) := by
  cases outcome with
  | ok value => exact (Bool.or_false stop).symm
  | error e =>
    cases classified : classifyConnectError e with
    | created | otherLocalError detail =>
      simp only [tick, sessionOutcomeOf, classified]
      exact (Bool.or_false stop).symm
    | remoteRefused | remoteTimedOut | localResourceExhausted detail =>
      simp only [tick, sessionOutcomeOf, classified]
      exact (Bool.or_true stop).symm

theorem SessionOutcome.exactly_one (outcome : SessionOutcome) :
    (if outcome.isCreated then 1 else 0) + (if outcome.isRemoteRefused then 1 else 0) +
      (if outcome.isRemoteTimedOut then 1 else 0) +
        (if outcome.isLocalResourceExhausted then 1 else 0) +
        (if outcome.isOtherLocalError then 1 else 0) = 1 := by
  cases outcome <;> rfl

/-- Every outcome is counted once. -/
theorem Tallied.counted {attempts : List Connect} {r : SessionRateResult}
    (tallied : Tallied attempts r) :
    r.attempted = r.created + r.remoteRefused + r.remoteTimedOut + r.localResourceExhausted +
      r.otherLocalError := by
  obtain ⟨attempted, created, refused, timedOut, exhausted, other⟩ := tallied
  rw [attempted, created, refused, timedOut, exhausted, other]
  clear attempted created refused timedOut exhausted other
  induction attempts with
  | nil => rfl
  | cons outcome rest ih =>
    have one := (sessionOutcomeOf outcome).exactly_one
    simp only [List.length_cons, List.countP_cons, ih]
    omega

/-- Once `stop` is set, the connect that set it is the last one and no other is due. -/
structure Orderly (attempts : List Connect) (s : ProbeState) : Prop where
  tallied : Tallied attempts s.result
  running : s.stop = false → ∀ outcome ∈ attempts, (sessionOutcomeOf outcome).stopsProbe = false
  stopped : s.stop = true → s.checked = none ∧ ∃ past last, attempts = past ++ [last] ∧
    (sessionOutcomeOf last).stopsProbe = true ∧
      ∀ outcome ∈ past, (sessionOutcomeOf outcome).stopsProbe = false
  ports : ∀ outcome ∈ attempts, ¬ NoLocalPort outcome

theorem orderly_start (guard : LoadGuard) : Orderly [] (probeStart guard) where
  tallied := ⟨rfl, rfl, rfl, rfl, rfl, rfl⟩
  running _ _ member := nomatch member
  stopped set := nomatch set
  ports _ member := nomatch member

/-- A step without a connect keeps the order when it leaves the flag and the counters, and
has no connect due behind the flag. -/
theorem Orderly.keep {attempts : List Connect} {s next : ProbeState} (orderly : Orderly attempts s)
    (result : next.result = s.result) (stop : next.stop = s.stop)
    (checked : s.stop = true → s.checked = none → next.checked = none) : Orderly attempts next where
  tallied := result ▸ orderly.tallied
  running unset := orderly.running (stop ▸ unset)
  stopped set := by
    obtain ⟨due, order⟩ := orderly.stopped (stop ▸ set)
    exact ⟨checked (stop ▸ set) due, order⟩
  ports := orderly.ports

theorem connects_append (past : List ProbeAction) (action : ProbeAction) :
    connects (past ++ [action]) = connects past ++ connects [action] := List.filterMap_append

theorem connects_silent {past : List ProbeAction} {action : ProbeAction}
    (silent : connects [action] = []) :
    connects (past ++ [action]) = connects past := by
  rw [connects_append, silent, List.append_nil]

/-- A connect is only due while `stop` is unset, and may set it. -/
theorem Orderly.connect {attempts : List Connect} {s next : ProbeState} {outcome : Connect}
    {tested : ℚ} (orderly : Orderly attempts s) (due : s.checked = some tested)
    (ports : ¬ NoLocalPort outcome) (checked : next.checked = none)
    (stop : next.stop = (tick s.result s.stop outcome).2.2)
    (result : next.result = (tick s.result s.stop outcome).1) :
    Orderly (attempts ++ [outcome]) next := by
  have unset : s.stop = false := by
    by_contra set
    have none := (orderly.stopped (by simpa using set)).1
    rw [due] at none
    cases none
  have quiet := orderly.running unset
  rw [tick_stop, unset, Bool.false_or] at stop
  refine ⟨result ▸ tick_tallied orderly.tallied s.stop outcome, fun stays other member => ?_,
    fun sets => ?_, ?_⟩
  · rcases List.mem_append.mp member with before | here
    · exact quiet other before
    · rw [List.mem_singleton.mp here, ← stop]
      exact stays
  · exact ⟨checked, attempts, outcome, rfl, stop ▸ sets, quiet⟩
  · intro other member
    rcases List.mem_append.mp member with before | here
    · exact orderly.ports other before
    · rw [List.mem_singleton.mp here]
      exact ports

theorem orderly_step {guard : LoadGuard} {past : List ProbeAction} {s next : ProbeState}
    {action : ProbeAction} (prompt : Prompt guard s action)
    (stepped : probeStep guard s action = some next) (orderly : Orderly (connects past) s) :
    Orderly (connects (past ++ [action])) next := by
  cases action with
  | check tested =>
    rw [connects_silent rfl]
    simp only [probeStep] at stepped
    split at stepped
    · rename_i _ due _
      split at stepped
      · obtain rfl := Option.some.inj stepped
        exact orderly.keep rfl rfl fun _ _ => due
      · rename_i goesOn
        obtain rfl := Option.some.inj stepped
        exact orderly.keep rfl rfl fun set _ => absurd (prompt set) goesOn
    · cases stepped
  | connect outcome spent =>
    obtain ⟨tested, due, rfl⟩ := Option.map_eq_some_iff.mp stepped
    rw [connects_append]
    exact orderly.connect due prompt rfl rfl rfl
  | sample =>
    rw [connects_silent rfl]
    obtain rfl := Option.some.inj stepped
    exact orderly.keep rfl rfl fun _ due => due
  | poll | relay =>
    rw [connects_silent rfl]
    simp only [probeStep] at stepped
    split at stepped
    · obtain rfl := Option.some.inj stepped
      exact orderly.keep rfl rfl fun _ due => due
    · cases stepped

/-- A local failure that is no lack of ports is one of resources. -/
theorem localResourceExhausted_of_localReason {outcome : Connect} (reason : LocalReason outcome)
    (ports : ¬ NoLocalPort outcome) :
    (sessionOutcomeOf outcome).isLocalResourceExhausted = true := by
  obtain ⟨code, text, rfl, member⟩ := reason
  simp only [List.mem_cons, List.not_mem_nil, or_false] at member
  rcases member with rfl | rfl | rfl | rfl
  · rfl
  · rfl
  · rfl
  · exact absurd ⟨text, rfl⟩ ports

theorem not_created_of_pushesBack {outcome : SessionOutcome} (pushes : outcome.pushesBack = true) :
    outcome.isCreated = false := by
  cases outcome with
  | created => cases pushes
  | _ => rfl

/-- What a ceiling says of the counters. -/
theorem remoteCeilingEvidence_eq_some {r : SessionRateResult} {c : Nat}
    (evidence : r.remoteCeilingEvidence = some c) :
    r.localResourceExhausted = 0 ∧ (r.remoteRefused ≠ 0 ∨ r.remoteTimedOut ≠ 0) ∧
      r.created = c := by
  unfold SessionRateResult.remoteCeilingEvidence at evidence
  split at evidence
  · cases evidence
  · rename_i exhausted
    split at evidence
    · cases evidence
    · rename_i pushed
      exact ⟨Nat.eq_zero_of_not_pos exhausted,
        by simpa [Classical.or_iff_not_imp_left] using pushed, Option.some.inj evidence⟩

/-- Counted push-backs were met. -/
theorem Tallied.pushed {attempts : List Connect} {r : SessionRateResult}
    (tallied : Tallied attempts r) (pushed : r.remoteRefused ≠ 0 ∨ r.remoteTimedOut ≠ 0) :
    ∃ outcome ∈ attempts, (sessionOutcomeOf outcome).pushesBack = true := by
  rcases pushed with refused | timedOut
  · rw [tallied.remoteRefused] at refused
    obtain ⟨outcome, member, here⟩ := List.countP_pos_iff.mp (Nat.pos_of_ne_zero refused)
    exact ⟨outcome, member, by simp [SessionOutcome.pushesBack, here]⟩
  · rw [tallied.remoteTimedOut] at timedOut
    obtain ⟨outcome, member, here⟩ := List.countP_pos_iff.mp (Nat.pos_of_ne_zero timedOut)
    exact ⟨outcome, member, by simp [SessionOutcome.pushesBack, here]⟩

/-- Without a counted exhaustion none was met. -/
theorem Tallied.unexhausted {attempts : List Connect} {r : SessionRateResult}
    (tallied : Tallied attempts r) (none : r.localResourceExhausted = 0) :
    ∀ outcome ∈ attempts, (sessionOutcomeOf outcome).isLocalResourceExhausted = false := by
  rw [tallied.localResourceExhausted, List.countP_eq_zero] at none
  exact fun outcome member => by simpa using none outcome member

theorem Orderly.honest {attempts : List Connect} {s : ProbeState} (orderly : Orderly attempts s) :
    HonestProbe attempts s.result where
  counted := orderly.tallied.counted
  stops := by
    rintro past outcome later rfl stops
    have set : s.stop = true := by
      by_contra unset
      have quiet := orderly.running (by simpa using unset) outcome (by simp)
      rw [quiet] at stops
      cases stops
    obtain ⟨_, front, last, same, _, quiet⟩ := orderly.stopped set
    rcases List.eq_nil_or_concat later with rfl | ⟨init, final, rfl⟩
    · rfl
    · have inFront : past ++ outcome :: init = front := by
        have regrouped : (past ++ outcome :: init) ++ [final] = front ++ [last] := by
          simpa using same
        exact (List.append_inj' regrouped rfl).1
      have silent := quiet outcome (inFront ▸ List.mem_append_right past List.mem_cons_self)
      rw [silent] at stops
      cases stops
  evidence := by
    intro c evidence
    obtain ⟨none, pushed, created⟩ := remoteCeilingEvidence_eq_some evidence
    have unexhausted := orderly.tallied.unexhausted none
    obtain ⟨push, met, pushes⟩ := orderly.tallied.pushed pushed
    have set : s.stop = true := by
      by_contra unset
      have quiet := orderly.running (by simpa using unset) push met
      simp [SessionOutcome.stopsProbe, pushes] at quiet
    obtain ⟨_, past, last, rfl, stops, quiet⟩ := orderly.stopped set
    have lastPushes : (sessionOutcomeOf last).pushesBack = true := by
      simpa [SessionOutcome.stopsProbe, unexhausted last (by simp)] using stops
    refine ⟨fun outcome member reason => ?_, past, last, [], rfl, lastPushes,
      fun earlier member => ?_, ?_⟩
    · have exhausted := localResourceExhausted_of_localReason reason (orderly.ports outcome member)
      rw [unexhausted outcome member] at exhausted
      cases exhausted
    · exact (Bool.or_eq_false_iff.mp (quiet earlier member)).1
    · rw [← created, orderly.tallied.created]
      simp [List.countP_append, not_created_of_pushesBack lastPushes]

theorem orderly_run {guard : LoadGuard} {actions : List ProbeAction} {final : ProbeState}
    (prompt : Throughout (probeStep guard) (Prompt guard) (probeStart guard) actions)
    (reached : runFrom (probeStep guard) (probeStart guard) actions = some final) :
    Orderly (connects actions) final :=
  @invariant_throughout _ _ (probeStep guard) (probeStart guard) final actions (Prompt guard)
    (fun past s => Orderly (connects past) s) (orderly_start guard)
    (fun _ _ _ _ _ allowed stepped holds => orderly_step allowed stepped holds) prompt reached

/-- What the probe returns is the result of the state in which its loop ended. -/
theorem runSessionRateProbe_honest {budget : LoadBudget} {interface : String} {guard : LoadGuard}
    {actions : List ProbeAction} {elapsedSecs : ℚ} {r : SessionRateResult}
    (admitted : LoadGuard.new budget interface false = .ok guard)
    (prompt : Throughout (probeStep guard) (Prompt guard) (probeStart guard) actions)
    (returned : runSessionRateProbe budget interface actions elapsedSecs = some (.ok r)) :
    HonestProbe (connects actions) r := by
  rw [runSessionRateProbe, admitted] at returned
  obtain ⟨result, ended, same⟩ := Option.map_eq_some_iff.mp returned
  obtain rfl := Except.ok.inj same
  obtain ⟨final, reached, ended⟩ := Option.bind_eq_some_iff.mp ended
  have honest := (orderly_run prompt reached).honest
  unfold finalResult at ended
  split at ended
  · obtain rfl := Option.some.inj ended
    exact ⟨honest.counted, honest.stops, honest.evidence⟩
  · cases ended

/-- In a run whose watcher is prompt, and that never lacks a local port, every state that is
reached has an honest result. -/
theorem probe_honest (guard : LoadGuard) (actions : List ProbeAction) (final : ProbeState)
    (prompt : Throughout (probeStep guard) (Prompt guard) (probeStart guard) actions)
    (reached : runFrom (probeStep guard) (probeStart guard) actions = some final) :
    HonestProbe (connects actions) final.result :=
  (orderly_run prompt reached).honest

/-- The guard of a probe for ten seconds. -/
def tenSeconds : LoadGuard where
  budget := .liveEvent 1 10 1
  accepted := rfl
  interface := "en0"
  defaultRouteIsTunnel := false
  radioSourceIsSynthetic := false

def refusedConnect : Connect := .error (.os econnrefused "Connection refused")

/-- A refusal, which the watcher relays before the loop comes round. -/
def refusedRun : List ProbeAction := [.check 0, .connect refusedConnect 0, .poll, .relay, .check 0]

theorem refusedRun_prompt :
    Throughout (probeStep tenSeconds) (Prompt tenSeconds) (probeStart tenSeconds) refusedRun := by
  intro past action later mid split reached
  have relayed : (runFrom (probeStep tenSeconds) (probeStart tenSeconds)
      [.check 0, .connect refusedConnect 0, .poll, .relay]).map (·.cancel) = some true := by
    decide +kernel
  match past, split with
  | [], split =>
    obtain ⟨rfl, _⟩ := List.cons.inj split
    obtain rfl := Option.some.inj reached
    exact fun set => nomatch set
  | [_], split =>
    simp only [refusedRun, List.cons_append, List.nil_append, List.cons.injEq] at split
    obtain ⟨rfl, rfl, _⟩ := split
    rintro ⟨text, same⟩
    cases same
  | [_, _], split =>
    simp only [refusedRun, List.cons_append, List.nil_append, List.cons.injEq] at split
    obtain ⟨rfl, rfl, rfl, _⟩ := split
    trivial
  | [_, _, _], split =>
    simp only [refusedRun, List.cons_append, List.nil_append, List.cons.injEq] at split
    obtain ⟨rfl, rfl, rfl, rfl, _⟩ := split
    trivial
  | [_, _, _, _], split =>
    simp only [refusedRun, List.cons_append, List.nil_append, List.cons.injEq] at split
    obtain ⟨rfl, rfl, rfl, rfl, rfl, _⟩ := split
    rw [reached] at relayed
    exact fun _ => .inr (Option.some.inj relayed)
  | _ :: _ :: _ :: _ :: _ :: _, split => simp [refusedRun] at split

theorem probe_honest_refused :
    ∃ final, runFrom (probeStep tenSeconds) (probeStart tenSeconds) refusedRun =
    some final ∧ HonestProbe (connects refusedRun) final.result := by
  have runs : (runFrom (probeStep tenSeconds) (probeStart tenSeconds) refusedRun).isSome =
      true := by
    decide +kernel
  obtain ⟨final, reached⟩ := Option.isSome_iff_exists.mp runs
  exact ⟨final, reached, probe_honest tenSeconds refusedRun final refusedRun_prompt reached⟩

/-- A watcher that is asleep lets the next connect through. -/
theorem probe_connects_after_refusal :
    ¬ ∀ (guard : LoadGuard) (actions : List ProbeAction) (final : ProbeState),
    runFrom (probeStep guard) (probeStart guard) actions = some final →
      HonestProbe (connects actions) final.result := by
  intro claim
  have runs : (runFrom (probeStep tenSeconds) (probeStart tenSeconds)
      [.check 0, .connect refusedConnect 0, .check 0, .connect (.ok ()) 0]).isSome = true := by
    decide +kernel
  obtain ⟨final, reached⟩ := Option.isSome_iff_exists.mp runs
  have honest := claim tenSeconds _ final reached
  have none := honest.stops [] refusedConnect [.ok ()] rfl rfl
  cases none

end FragglePacket.NetworkTests
