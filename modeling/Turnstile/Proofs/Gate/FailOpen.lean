import Turnstile.Proofs.Gate.Answers
import Turnstile.Proofs.Gate.Outage
import Turnstile.Proofs.Policy
namespace Turnstile

variable {ν : Type}

namespace Gate

-- What a store says if it says nothing against a client.
def Lenient (p : Policy) : Except StoreError Counts → Prop
  | .error _ => True
  | .ok counts => p.tierFor counts.failures = none

theorem judge_lenient {g : Gate ν} {reading : Except StoreError Counts} (lenient : Lenient g.policy reading)
    (client endpoint : String) : g.judge client endpoint reading = (.admitted, g) := by
  cases reading with
  | error e => rfl
  | ok counts => exact judge_of_none ((Policy.verdict_window ..).trans lenient) client endpoint

end Gate

namespace World

variable [Quantity ν] {w : World ν} {client endpoint : String} {critical : Bool} {meanwhile : List Nat}

inductive Answered (w : World ν) (client endpoint : String) (critical : Bool) (meanwhile : List Nat) :
    List Heard → Reply × World ν → Prop where
  | unsound {fault : ClientFault} (faulty : Client.fault? client = some fault) :
      Answered w client endpoint critical meanwhile [] (.admission (.error (.client fault)), w)
  | atOnce {a : Admission} {gate : Gate ν} (valid : Client.Valid client)
      (screened : w.gate.screen client endpoint critical = (.answered a, gate)) :
      Answered w client endpoint critical meanwhile [] (.admission (.ok a), { w with gate })
  | judged {gate : Gate ν} {n : Nat} {u : World ν} {reading : Except StoreError Counts} (valid : Client.Valid client)
      (screened : w.gate.screen client endpoint critical = (.undecided, gate)) (few : n ≤ meanwhile.headD 0)
      (waited : u = deliverMany n { w with gate, backend := w.backend.arrive.2 }) :
      Answered w client endpoint critical meanwhile [⟨.count client endpoint (gate.horizon client), reading⟩]
        (.admission (.ok (u.gate.judge client endpoint reading).1),
          { u with gate := (u.gate.judge client endpoint reading).2 })

theorem answered (w : World ν) (client endpoint : String) (critical : Bool) (meanwhile : List Nat) :
    Answered w client endpoint critical meanwhile (Visit.heard ⟨w, .command (.enter client endpoint critical) meanwhile⟩)
      (w.step (.command (.enter client endpoint critical) meanwhile)) := by
  have mapped : w.step (.command (.enter client endpoint critical) meanwhile) = _ :=
    perform_map Reply.admission (Gate.enter client endpoint critical) meanwhile w
  have told : Visit.heard ⟨w, .command (.enter client endpoint critical) meanwhile⟩ = _ :=
    heard_map Reply.admission (Gate.enter client endpoint critical) meanwhile w
  rw [mapped, told]
  unfold Gate.enter
  cases valid : Client.fault? client with
  | some fault => exact .unsound valid
  | none =>
    dsimp only
    rw [perform_update, heard_update]
    cases screened : w.gate.screen client endpoint critical with
    | mk screening gate =>
      cases screening with
      | answered a => exact .atOnce valid screened
      | undecided =>
        dsimp only
        rw [perform_state, heard_state]
        obtain ⟨n, u, reading, few, waited, _, asked, done⟩ := perform_lookup (some gate.config.criticalReadTimeout)
          (Store.answer_count client endpoint (gate.horizon client)) (fun answer g => g.judge client endpoint answer)
          Except.ok meanwhile ({ w with gate } : World ν)
        have judged hears (result : Except GateError Admission × World ν)
            (same : hears = [⟨.count client endpoint (gate.horizon client), reading⟩])
            (told : result = (.ok (u.gate.judge client endpoint reading).1,
              { u with gate := (u.gate.judge client endpoint reading).2 })) :
            Answered w client endpoint critical meanwhile hears (.admission result.1, result.2) := by
          rw [same, told]
          exact .judged valid screened few waited
        exact judged _ _ asked done

def passed (w : World ν) (client : String) (n : Nat) : World ν :=
  deliverMany n { w with gate := (w.gate.acquire client).2, backend := w.backend.arrive.2 }

theorem gate_passed (w : World ν) (client : String) (n : Nat) :
    (w.passed client n).gate = (w.gate.acquire client).2.setOutbox (w.passed client n).gate.tally.outbox :=
  gate_deliverMany n _

theorem pending_passed (w : World ν) (client : String) (n : Nat) : (w.passed client n).pending = w.pending.drop n :=
  pending_deliverMany n _

namespace Answered

variable {hears : List Heard} {result : Reply × World ν}

theorem reply (told : Answered w client endpoint critical meanwhile hears result) :
    ∃ answer, result.1 = .admission answer ∧ ((∃ a, answer = .ok a) ↔ Client.Valid client) ∧
      ∀ e, answer = .error e → ∃ fault, Client.fault? client = some fault ∧ e = .client fault := by
  cases told with
  | unsound faulty =>
    refine ⟨_, rfl, ⟨nofun, fun valid => ?_⟩, fun e same => ⟨_, faulty, (Except.error.inj same).symm⟩⟩
    cases valid.symm.trans faulty
  | atOnce valid => exact ⟨_, rfl, ⟨fun _ => valid, fun _ => ⟨_, rfl⟩⟩, nofun⟩
  | judged valid => exact ⟨_, rfl, ⟨fun _ => valid, fun _ => ⟨_, rfl⟩⟩, nofun⟩

theorem asked {h : Heard} (told : Answered w client endpoint critical meanwhile hears result) (member : h ∈ hears) :
    ∃ n reading, n ≤ meanwhile.headD 0 ∧ h = ⟨.count client endpoint (w.gate.horizon client), reading⟩ ∧
      result = (.admission (.ok ((w.passed client n).gate.judge client endpoint reading).1),
        { w.passed client n with gate := ((w.passed client n).gate.judge client endpoint reading).2 }) := by
  cases told with
  | unsound | atOnce => cases member
  | @judged gate n u reading valid screened few waited =>
    obtain ⟨_, rfl⟩ := Gate.screen_undecided screened
    exact ⟨n, reading, few, List.mem_singleton.1 member, by rw [waited]; rfl⟩

theorem once (told : Answered w client endpoint true meanwhile hears result) (valid : Client.Valid client)
    (free : w.gate.activeBan client = none) (token : (w.gate.acquire client).1.isAllowed = true) :
    ∃ reading, hears = [⟨.count client endpoint (w.gate.horizon client), reading⟩] := by
  have passes := Gate.screen_of_token free token endpoint
  cases told with
  | unsound faulty => cases valid.symm.trans faulty
  | atOnce _ screened => cases passes.symm.trans screened
  | judged _ screened =>
    cases passes.symm.trans screened
    exact ⟨_, rfl⟩

theorem lenient {reading : Except StoreError Counts}
    (told : Answered w client endpoint critical meanwhile hears result)
    (heard : hears = [⟨.count client endpoint (w.gate.horizon client), reading⟩])
    (lenient : Gate.Lenient w.gate.policy reading) :
    ∃ n ≤ meanwhile.headD 0, result = (.admission (.ok .admitted), w.passed client n) := by
  obtain ⟨n, other, few, same, judged⟩ := told.asked (heard ▸ List.mem_cons_self)
  cases same
  have policy : (w.passed client n).gate.policy = w.gate.policy := by
    rw [gate_passed]
    rfl
  refine ⟨n, few, ?_⟩
  rw [judged, Gate.judge_lenient (policy ▸ lenient)]

theorem harmless {u : World ν} {later : List Nat} {others : List Heard} {result' : Reply × World ν}
    (told : Answered w client endpoint false meanwhile hears result)
    (beside : Answered u client endpoint false later others result') (same : u.gate = w.gate) :
    hears = [] ∧ result.2.backend = w.backend ∧ result'.1 = result.1 ∧ result'.2.gate = result.2.gate := by
  cases told with
  | unsound faulty =>
    cases beside with
    | unsound other =>
      cases faulty.symm.trans other
      exact ⟨rfl, rfl, rfl, same⟩
    | atOnce valid => cases valid.symm.trans faulty
    | judged valid => cases valid.symm.trans faulty
  | atOnce valid screened =>
    cases beside with
    | unsound faulty => cases valid.symm.trans faulty
    | atOnce _ other =>
      rw [same] at other
      cases screened.symm.trans other
      exact ⟨rfl, rfl, rfl, rfl⟩
    | judged _ other => cases (Gate.screen_undecided other).1
  | judged _ screened => cases (Gate.screen_undecided screened).1

theorem refused {a : Admission} (told : Answered w client endpoint critical meanwhile hears result)
    (failures : ∀ h ∈ hears, h.isFailure = true) (reply : result.1 = .admission (.ok a)) (refused : a.allowed = false) :
    (∃ wait, (w.gate.acquire client).1 = .denied wait ∧ a = .rateLimited wait) ∨
      ∃ b, w.gate.activeBan client = some b ∧ a = .banned (b.timeLeft w.gate.now) b.reason := by
  cases told with
  | unsound => cases reply
  | atOnce valid screened =>
    cases reply
    exact Gate.screen_refused screened refused
  | @judged gate n u reading =>
    cases reading with
    | error e =>
      cases reply
      cases refused
    | ok counts => cases failures _ List.mem_cons_self

end Answered

theorem fail_open (client endpoint : String) :
    -- Only a malformed client is an error.
    (∀ (w : World ν) (critical : Bool) (meanwhile : List Nat), ∃ answer,
      (w.step (.command (.enter client endpoint critical) meanwhile)).1 = .admission answer ∧
        ((∃ a, answer = .ok a) ↔ Client.Valid client) ∧
        ∀ e, answer = .error e → ∃ fault, Client.fault? client = some fault ∧ e = .client fault) ∧
    -- A request that is neither banned nor out of tokens asks once; if that fails, it is admitted, and nothing is done but what is
    -- delivered meanwhile.
    (∀ (w : World ν) (meanwhile : List Nat), Client.Valid client → w.gate.activeBan client = none →
      (w.gate.acquire client).1.isAllowed = true → ∃ reading,
        Visit.heard ⟨w, .command (.enter client endpoint true) meanwhile⟩ =
            [⟨.count client endpoint (w.gate.horizon client), reading⟩] ∧
          ∀ e, reading = .error e → ∃ n ≤ meanwhile.headD 0,
            w.step (.command (.enter client endpoint true) meanwhile) = (.admission (.ok .admitted), w.passed client n)) ∧
    -- The same gate over a store that finds no failures goes the same way.
    (∀ (w u : World ν) (meanwhile later : List Nat) (e : StoreError) (counts : Counts), u.gate = w.gate →
      Policy.fault? w.gate.policy.tiers = none → counts.failures = 0 →
      Visit.heard ⟨w, .command (.enter client endpoint true) meanwhile⟩ =
        [⟨.count client endpoint (w.gate.horizon client), .error e⟩] →
      Visit.heard ⟨u, .command (.enter client endpoint true) later⟩ =
        [⟨.count client endpoint (w.gate.horizon client), .ok counts⟩] →
      ∃ n ≤ meanwhile.headD 0, ∃ m ≤ later.headD 0, ∃ after after' : World ν,
        w.step (.command (.enter client endpoint true) meanwhile) = (.admission (.ok .admitted), after) ∧
        u.step (.command (.enter client endpoint true) later) = (.admission (.ok .admitted), after') ∧
        after.pending = w.pending.drop n ∧ after'.pending = w.pending.drop m ∧
        (∀ o, after.gate.setOutbox o = after'.gate.setOutbox o) ∧ (n = 0 → m = 0 → after.gate = after'.gate)) ∧
    -- A harmless request asks nothing, and whatever the store is like, it is answered alike and leaves the same gate.
    (∀ (w u : World ν) (meanwhile later : List Nat), u.gate = w.gate →
      Visit.heard ⟨w, .command (.enter client endpoint false) meanwhile⟩ = [] ∧
      (w.step (.command (.enter client endpoint false) meanwhile)).2.backend = w.backend ∧
      (u.step (.command (.enter client endpoint false) later)).1 =
        (w.step (.command (.enter client endpoint false) meanwhile)).1 ∧
      (u.step (.command (.enter client endpoint false) later)).2.gate =
        (w.step (.command (.enter client endpoint false) meanwhile)).2.gate) ∧
    -- While all fails, a request is refused by its bucket or by a ban that was asked for.
    (∀ (b : Blueprint) (start : Nat) (backend : Backend) (sink : Sink) (w : World ν) (moves : List Move) (critical : Bool)
      (meanwhile : List Nat) (a : Admission), World.build b start backend sink = .ok w →
      (∀ v ∈ w.visits (moves ++ [.command (.enter client endpoint critical) meanwhile]), v.Unanswered) →
      ((w.run moves).step (.command (.enter client endpoint critical) meanwhile)).1 = .admission (.ok a) →
      a.allowed = false →
      (∃ wait, ((w.run moves).gate.acquire client).1 = .denied wait ∧ a = .rateLimited wait) ∨
        ∃ ban, (w.run moves).gate.activeBan client = some ban ∧ Explicit (w.visits moves) client ban ∧
          a = .banned (ban.timeLeft (w.run moves).gate.now) ban.reason) := by
  refine ⟨fun w critical meanwhile => (answered w client endpoint critical meanwhile).reply, ?_, ?_, ?_, ?_⟩
  · intro w meanwhile valid free token
    have told := answered w client endpoint true meanwhile
    obtain ⟨reading, heard⟩ := told.once valid free token
    refine ⟨reading, heard, fun e failed => told.lenient heard ?_⟩
    rw [failed]
    trivial
  · intro w u meanwhile later e counts same sound clean failed found
    have horizon : u.gate.horizon client = w.gate.horizon client := by rw [same]
    obtain ⟨n, few, left⟩ := (answered w client endpoint true meanwhile).lenient failed trivial
    obtain ⟨m, also, right⟩ := (answered u client endpoint true later).lenient (horizon ▸ found) (by
      show u.gate.policy.tierFor counts.failures = none
      rw [same, clean]
      exact Policy.tierFor_zero sound)
    refine ⟨n, few, m, also, _, _, left, right, pending_passed .., ?_, fun o => ?_, fun none none' => ?_⟩
    · rw [pending_passed]
      exact congrArg (fun g : Gate ν => g.tally.outbox.pending.drop m) same
    · rw [gate_passed, gate_passed u, same]
      rfl
    · rw [none, none']
      exact congrArg (fun g : Gate ν => (g.acquire client).2) same.symm
  · intro w u meanwhile later same
    exact (answered w client endpoint false meanwhile).harmless (answered u client endpoint false later) same
  · intro b start backend sink w moves critical meanwhile a made unanswered reply refused
    rw [visits_snoc] at unanswered
    have warranted := warranted_run (built made) moves fun v member => unanswered v (List.mem_append_left _ member)
    have last := unanswered _ (List.mem_append_right _ List.mem_cons_self)
    rcases (answered (w.run moves) client endpoint critical meanwhile).refused last.failures reply refused with
      empty | ⟨ban, active, told⟩
    · exact .inl empty
    · exact .inr ⟨ban, active, warranted client ban (Option.eq_some_of_filter_eq_some active), told⟩

-- While the store is out of reach, failures go unseen, and nothing is reloaded.
def outage : List Move :=
  [.reach false, .command (.outcome "b" "login" false) [], .command (.outcome "b" "login" false) [], .flush,
    .command (.enter "b" "login" true) [], .command (.ban "b" "abuse" (.ofSecs 60) 0 "admin") [],
    .command (.maintain true) [], .command .restore []]

theorem outage_bans_by_hand :
    ((strict.run [.reach false]).step (.command (.enter "b" "login" true) [])).2.gate =
        (strict.step (.command (.enter "b" "login" true) [])).2.gate ∧
      ∃ ban, Explicit (strict.visits outage) "b" ban ∧ (strict.run outage).gate.activeBan "b" = some ban := by
  obtain ⟨_, _, alike, _, refusals⟩ := fail_open (ν := Rat) "b" "login"
  constructor
  · obtain ⟨n, none, m, none', after, after', left, right, _, _, _, same⟩ :=
      alike (strict.run [.reach false]) strict [] [] (.unavailable "in-memory store switched off") ⟨0, 0, 0⟩ rfl
        (by decide +kernel) rfl (by decide +kernel) (by decide +kernel)
    rw [left, right]
    exact same (Nat.le_zero.1 none) (Nat.le_zero.1 none')
  · have valid : Client.Valid "b" := by decide +kernel
    have full : ((strict.run outage).gate.acquire "b").1.isAllowed = true := by decide +kernel
    have screened : ((strict.run outage).gate.screen "b" "login" true).1 =
      .answered (.banned (.ofSecs 60) "abuse") := by decide +kernel
    have told : ((strict.run outage).step (.command (.enter "b" "login" true) [])).1 =
        .admission (.ok (.banned (.ofSecs 60) "abuse")) := by
      rw [step_command, Command.run_enter, Gate.enter_of_answered valid (Prod.ext screened rfl)]
    rcases refusals _ 0 .memory _ strict outage true [] _ build_strict (by decide +kernel) told rfl with
      ⟨wait, empty, _⟩ | ⟨ban, active, explicit, _⟩
    · rw [empty] at full
      cases full
    · exact ⟨ban, explicit, active⟩

end World

end Turnstile
