import Turnstile.Proofs.Registry.Standing
import Turnstile.Proofs.World.Steps
namespace Turnstile

namespace Gate

variable {ν : Type}

inductive Banned (g : Gate ν) (client reason : String) (d : Duration) (failures : Nat) (actor : String) :
    Except GateError Ban × Gate ν → Prop where
  | refused {fault : GateError} (faulty : banFault? client reason d = some fault) :
      Banned g client reason d failures actor (.error fault, g)
  | made (sound : banFault? client reason d = none) (event : Event) :
      Banned g client reason d failures actor
        (.ok (g.bans.ban g.now client reason d failures actor).2.1,
          (({ g with bans := (g.bans.ban g.now client reason d failures actor).2.2 } : Gate ν).send
            (.ban (g.bans.ban g.now client reason d failures actor).2.1)).report event)

theorem ban_cases (g : Gate ν) (client reason : String) (d : Duration) (failures : Nat) (actor : String) :
    Banned g client reason d failures actor (g.ban client reason d failures actor) := by
  unfold ban
  cases sound : banFault? client reason d with
  | some fault => exact .refused sound
  | none => exact .made sound _

inductive Unbanned (g : Gate ν) (client actor : String) : Except GateError (Option Ban) × Gate ν → Prop where
  | refused {fault : ClientFault} (faulty : Client.fault? client = some fault) :
      Unbanned g client actor (.error (.client fault), g)
  | idle (free : g.activeBan client = none) :
      Unbanned g client actor (.ok none, { g with bans := (g.bans.unban g.now client).2 })
  | ended {before : Ban} (active : g.activeBan client = some before) (event : Event) :
      Unbanned g client actor
        (.ok (some (before.release g.now actor false)),
          (({ g with bans := (g.bans.unban g.now client).2 } : Gate ν).send
            (.release client g.now actor false)).report event)

theorem unban_cases (g : Gate ν) (client actor : String) (note : Option String) :
    Unbanned g client actor (g.unban client actor note) := by
  have found : (g.bans.unban g.now client).1 = g.activeBan client := Registry.unban_found ..
  unfold unban
  cases sound : Client.fault? client with
  | some fault => exact .refused sound
  | none =>
    cases ended : g.bans.unban g.now client with
    | mk before bans =>
      rw [ended] at found
      have after : bans = (g.bans.unban g.now client).2 := by rw [ended]
      subst after
      cases before with
      | none => exact .idle found.symm
      | some b => exact .ended found.symm _

theorem unban_active {g : Gate ν} {client : String} {before : Ban} (valid : Client.Valid client)
    (active : g.activeBan client = some before) (actor : String) (note : Option String) :
    (g.unban client actor note).1 = .ok (some (before.release g.now actor false)) := by
  have unbanned := g.unban_cases client actor note
  generalize g.unban client actor note = result at unbanned
  cases unbanned with
  | refused faulty => cases valid.symm.trans faulty
  | idle free => cases free.symm.trans active
  | ended other event =>
    cases other.symm.trans active
    rfl

-- What neither bans nor reports are about: the clock, the settings, the limits and the books of maintenance.
structure SameBasis (g h : Gate ν) : Prop where
  now : h.now = g.now
  config : h.config = g.config
  policy : h.policy = g.policy
  limiter : h.limiter = g.limiter
  granularity : h.tally.granularity = g.tally.granularity
  upkeep : h.upkeep = g.upkeep

theorem basis_ban (g : Gate ν) (client reason : String) (d : Duration) (failures : Nat) (actor : String) :
    g.SameBasis (g.ban client reason d failures actor).2 := by
  have banned := g.ban_cases client reason d failures actor
  generalize g.ban client reason d failures actor = result at banned
  cases banned with
  | refused => exact ⟨rfl, rfl, rfl, rfl, rfl, rfl⟩
  | made => exact ⟨rfl, rfl, rfl, rfl, rfl, rfl⟩

theorem basis_unban (g : Gate ν) (client actor : String) (note : Option String) :
    g.SameBasis (g.unban client actor note).2 := by
  have unbanned := g.unban_cases client actor note
  generalize g.unban client actor note = result at unbanned
  cases unbanned with
  | refused => exact ⟨rfl, rfl, rfl, rfl, rfl, rfl⟩
  | idle => exact ⟨rfl, rfl, rfl, rfl, rfl, rfl⟩
  | ended => exact ⟨rfl, rfl, rfl, rfl, rfl, rfl⟩

variable [Quantity ν]

inductive Screened (g : Gate ν) (client endpoint : String) (critical : Bool) : Screening × Gate ν → Prop where
  | banned {b : Ban} (active : g.activeBan client = some b) :
      Screened g client endpoint critical (.answered (.banned (b.timeLeft g.now) b.reason), g)
  | limited (wait : Duration) (limiter : Limiter ν) (free : g.activeBan client = none) :
      Screened g client endpoint critical
        (.answered (.rateLimited wait), ({ g with limiter } : Gate ν).count client endpoint .throttled)
  | admitted (limiter : Limiter ν) (free : g.activeBan client = none) (harmless : critical = false) :
      Screened g client endpoint critical
        (.answered .admitted, ({ g with limiter } : Gate ν).count client endpoint .succeeded)
  | undecided (limiter : Limiter ν) (free : g.activeBan client = none) (severe : critical = true) :
      Screened g client endpoint critical (.undecided, { g with limiter })

theorem screen_cases (g : Gate ν) (client endpoint : String) (critical : Bool) :
    Screened g client endpoint critical (g.screen client endpoint critical) := by
  unfold screen
  cases free : g.activeBan client with
  | some b => exact .banned free
  | none =>
    unfold acquire
    cases g.limiter.acquire g.now client with
    | mk decision limiter =>
      cases decision with
      | denied wait => exact .limited wait limiter free
      | allowed left =>
        cases critical with
        | true => exact .undecided limiter free rfl
        | false => exact .admitted limiter free rfl

omit [Quantity ν] in
inductive Judged (g : Gate ν) (client endpoint : String) : Except StoreError Counts → Admission × Gate ν → Prop where
  | admitted (reading : Except StoreError Counts) : Judged g client endpoint reading (.admitted, g)
  | banned {counts : Counts} {tier : Tier} {made : Ban} {g' : Gate ν}
      (reached : g.policy.verdict counts.failures g.policy.window = some tier)
      (banned : g.ban client g.policy.reason tier.duration (toHalf counts.failures) systemActor = (.ok made, g'))
      (event : Event) :
      Judged g client endpoint (.ok counts) (.banned (made.timeLeft g'.now) made.reason, g'.report event)

omit [Quantity ν] in
theorem ban_error {g g' : Gate ν} {client reason actor : String} {d : Duration} {failures : Nat} {e : GateError}
    (refused : g.ban client reason d failures actor = (.error e, g')) : g' = g := by
  have banned := ban_cases g client reason d failures actor
  rw [refused] at banned
  cases banned with
  | refused _ => rfl

omit [Quantity ν] in
theorem judge_cases (g : Gate ν) (client endpoint : String) (reading : Except StoreError Counts) :
    Judged g client endpoint reading (g.judge client endpoint reading) := by
  cases reading with
  | error e => exact .admitted _
  | ok counts =>
    cases reached : g.policy.verdict counts.failures g.policy.window with
    | none =>
      simp only [judge, escalate, reached]
      exact .admitted _
    | some tier =>
      cases banned : g.ban client g.policy.reason tier.duration (toHalf counts.failures) systemActor with
      | mk answer g' =>
        simp only [judge, escalate, reached, banned]
        cases answer with
        | error e =>
          rw [ban_error banned]
          exact .admitted _
        | ok made => exact .banned reached banned _

omit [Quantity ν] in
theorem judge_of_verdict {g : Gate ν} {counts : Counts} {tier : Tier}
    (reached : g.policy.verdict counts.failures g.policy.window = some tier) (client endpoint : String) :
    g.judge client endpoint (.ok counts) =
      match g.ban client g.policy.reason tier.duration (toHalf counts.failures) systemActor with
      | (.ok made, g') => (.banned (made.timeLeft g'.now) made.reason, g'.report (.accessDenied client endpoint made.reason g'.now))
      | (.error _, g') => (.admitted, g') := by
  simp only [Gate.judge, escalate, reached]
  cases g.ban client g.policy.reason tier.duration (toHalf counts.failures) systemActor with
  | mk answer g' => cases answer <;> rfl

omit [Quantity ν] in
theorem judge_of_none {g : Gate ν} {counts : Counts} (lenient : g.policy.verdict counts.failures g.policy.window = none)
    (client endpoint : String) : g.judge client endpoint (.ok counts) = (.admitted, g) := by
  simp only [Gate.judge, escalate, lenient]

omit [Quantity ν] in
-- A refusal is reported together with the ban that it comes from.
theorem judge_denied (g : Gate ν) (client endpoint : String) (reading : Except StoreError Counts) :
    (g.judge client endpoint reading).2 = g ∨
      ∃ reason d failures made g', g.ban client reason d failures systemActor = (.ok made, g') ∧
        (g.judge client endpoint reading).2 = g'.report (.accessDenied client endpoint made.reason g'.now) := by
  cases reading with
  | error e => exact .inl rfl
  | ok counts =>
    cases reached : g.policy.verdict counts.failures g.policy.window with
    | none =>
      rw [judge_of_none reached]
      exact .inl rfl
    | some tier =>
      rw [judge_of_verdict reached]
      cases ban : g.ban client g.policy.reason tier.duration (toHalf counts.failures) systemActor with
      | mk answer g' =>
        cases answer with
        | error e => exact .inl (ban_error ban)
        | ok made => exact .inr ⟨_, _, _, made, g', ban, rfl⟩

omit [Quantity ν] in
theorem basis_judge (g : Gate ν) (client endpoint : String) (reading : Except StoreError Counts) :
    g.SameBasis (g.judge client endpoint reading).2 := by
  rcases g.judge_denied client endpoint reading with same | ⟨reason, d, failures, made, g', ban, same⟩
  · rw [same]
    exact ⟨rfl, rfl, rfl, rfl, rfl, rfl⟩
  · have banned := g.basis_ban client reason d failures systemActor
    rw [ban] at banned
    rw [same]
    exact ⟨banned.now, banned.config, banned.policy, banned.limiter, banned.granularity, banned.upkeep⟩

end Gate

namespace Command

-- Commands that are neither about the clock nor about limits and settings.
def keepsBasis : Command → Bool
  | .acquire _ | .reconfigure _ | .clock _ => false
  | _ => true

theorem basis_update {ν : Type} [Quantity ν] {c : Command} (keeps : c.keepsBasis = true) (g : Gate ν) :
    g.SameBasis (c.update g) := by
  cases c with
  | login | refused | outcome | record | append =>
    rw [update_reports rfl]
    exact ⟨rfl, rfl, rfl, rfl, rfl, rfl⟩
  | ban client reason d failures actor => exact g.basis_ban client reason d failures actor
  | unban client actor note => exact g.basis_unban client actor note
  | release client actor reason => exact g.basis_unban client actor (some reason)
  | acquire | reconfigure | clock => cases keeps
  | _ => exact ⟨rfl, rfl, rfl, rfl, rfl, rfl⟩

end Command

namespace World

variable {ν : Type} {w u : World ν} {I : World ν → Prop}

theorem fresh_ban {client : String} {g g' : Gate ν} {reason actor : String} {d : Duration} {failures : Nat} {made : Ban}
    (ban : g.ban client reason d failures actor = (.ok made, g')) {other : String} {b : Ban}
    (free : g.activeBan other = none) (banned : g'.activeBan other = some b) :
    other = client ∧ b = made ∧ made = Registry.fresh client g.now (Registry.deadline g.now d) reason failures actor := by
  have cases := g.ban_cases client reason d failures actor
  rw [ban] at cases
  cases cases with
  | made sound event =>
    have there : ((g.bans.ban g.now client reason d failures actor).2.2.standing other).activeBan g.now = some b :=
      banned
    rw [Registry.standing_ban] at there
    split at there
    · rename_i same
      subst same
      have found := (Standing.activeBan_eq_some.1 there).1
      rw [Registry.ban_made]
      rw [show (g.bans.standing other).activeBan g.now = none from free] at found ⊢
      exact ⟨rfl, (Option.some.inj found).symm, rfl⟩
    · rw [show (g.bans.standing other).activeBan g.now = none from free] at there
      cases there

theorem ban_blocks {client : String} {g g' : Gate ν} {reason actor : String} {d : Duration} {failures : Nat} {made : Ban}
    (ban : g.ban client reason d failures actor = (.ok made, g')) :
    g'.activeBan client = some made ∧ g'.now = g.now := by
  have cases := g.ban_cases client reason d failures actor
  rw [ban] at cases
  cases cases with
  | made sound event =>
    refine ⟨?_, rfl⟩
    show ((g.bans.ban g.now client reason d failures actor).2.2.standing client).activeBan g.now = some _
    obtain ⟨unreleased, live, _⟩ := Registry.banned_live (g.bans.standing client) g.now client reason d failures actor
    rw [Registry.standing_ban, if_pos rfl, Registry.ban_made]
    exact Standing.activeBan_eq_some.2 ⟨rfl, unreleased, live⟩

theorem ban_other {client other : String} (away : other ≠ client) (g : Gate ν) (reason : String) (d : Duration)
    (failures : Nat) (actor : String) :
    (g.ban client reason d failures actor).2.activeBan other = g.activeBan other := by
  have cases := g.ban_cases client reason d failures actor
  generalize g.ban client reason d failures actor = result at cases
  cases cases with
  | refused => rfl
  | made sound event =>
    show ((g.bans.ban g.now client reason d failures actor).2.2.standing other).activeBan g.now = _
    rw [Registry.standing_ban, if_neg away]
    rfl

variable [Quantity ν]

-- A request waits for the store only if its client is free. A token may be taken before, and writes are delivered meanwhile.
theorem waited_of_screened {client endpoint : String} {critical : Bool} {gate : Gate ν} {n : Nat} {v : World ν}
    (screened : w.gate.screen client endpoint critical = (.undecided, gate))
    (waited : v = deliverMany n { w with gate, backend := w.backend.arrive.2 }) :
    critical = true ∧ w.gate.activeBan client = none ∧ ∃ limiter, Acts False w v ∧
      v.gate = ({ w.gate with limiter } : Gate ν).setOutbox v.gate.tally.outbox := by
  have screening := w.gate.screen_cases client endpoint critical
  rw [screened] at screening
  cases screening with
  | undecided limiter free severe =>
    refine ⟨severe, free, limiter, ?_, ?_⟩
    · rw [waited]
      exact .head (.limit w limiter) (.head (.arrive _) (acts_deliverMany False n _))
    · rw [waited]
      exact gate_deliverMany n _

-- A request does what others can see in between, and may then ban its client if it was free.
theorem Entered.denied {client endpoint : String} {critical : Bool} {answer : Except GateError Admission}
    (entered : Entered w client endpoint critical (answer, u)) :
    ∃ v, Acts False w v ∧ v.gate.bans = w.gate.bans ∧ (u = v ∨ ∃ reason d failures made g', v.gate.activeBan client = none ∧
      v.gate.ban client reason d failures systemActor = (.ok made, g') ∧
      u = { v with gate := g'.report (.accessDenied client endpoint made.reason g'.now) }) := by
  generalize result : (answer, u) = r at entered
  cases entered with
  | unsound => cases result; exact ⟨w, .refl, rfl, .inl rfl⟩
  | answered sound screened =>
    cases result
    have screening := w.gate.screen_cases client endpoint critical
    rw [screened] at screening
    cases screening with
    | banned => exact ⟨w, .refl, rfl, .inl rfl⟩
    | limited wait limiter =>
      have quiet : Outcome.throttled ≠ .failed := nofun
      exact ⟨_, .tail (.single (.limit w limiter)) (.count _ client endpoint quiet), rfl, .inl rfl⟩
    | admitted limiter =>
      have quiet : Outcome.succeeded ≠ .failed := nofun
      exact ⟨_, .tail (.single (.limit w limiter)) (.count _ client endpoint quiet), rfl, .inl rfl⟩
  | @judged gate n v reading sound screened waited read =>
    cases result
    obtain ⟨_, free, limiter, acts, kept⟩ := waited_of_screened screened waited
    have still : v.gate.activeBan client = none := by
      rw [kept]
      exact free
    have bans : v.gate.bans = w.gate.bans := by
      rw [kept]
      rfl
    rcases v.gate.judge_denied client endpoint reading with admitted | ⟨reason, d, failures, made, g', ban, denied⟩
    · rw [admitted]
      exact ⟨v, acts, bans, .inl rfl⟩
    · rw [denied]
      exact ⟨v, acts, bans, .inr ⟨reason, d, failures, made, g', still, ban, rfl⟩⟩

theorem Entered.split {client endpoint : String} {critical : Bool} {answer : Except GateError Admission}
    (entered : Entered w client endpoint critical (answer, u)) :
    ∃ v, Acts False w v ∧ v.gate.bans = w.gate.bans ∧ (u = v ∨ ∃ reason d failures made g' event, v.gate.activeBan client = none ∧
      v.gate.ban client reason d failures systemActor = (.ok made, g') ∧
      u = { v with gate := g'.report event }) := by
  obtain ⟨v, acts, bans, same | ⟨reason, d, failures, made, g', free, ban, same⟩⟩ := entered.denied
  · exact ⟨v, acts, bans, .inl same⟩
  · exact ⟨v, acts, bans, .inr ⟨reason, d, failures, made, g', _, free, ban, same⟩⟩

-- A law that the parts of a request keep is kept by the request, however it is answered.
theorem Entered.keeps {client endpoint : String} {critical : Bool} {answer : Except GateError Admission}
    (acted : ∀ w u, Act False w u → I w → I u)
    (banned : ∀ w client reason d failures actor, I w →
      I { w with gate := (w.gate.ban client reason d failures actor).2 })
    (reported : ∀ w event, I w → I { w with gate := w.gate.report event })
    (entered : Entered w client endpoint critical (answer, u)) (before : I w) : I u := by
  obtain ⟨v, acts, _, same | ⟨reason, d, failures, made, g', event, free, ban, same⟩⟩ := entered.split
  · rw [same]
    exact acts.keeps acted before
  · have after := banned v client reason d failures systemActor (acts.keeps acted before)
    rw [ban] at after
    rw [same]
    exact reported { v with gate := g' } event after

omit [Quantity ν] in
theorem frame_ban (w : World ν) (client reason : String) (d : Duration) (failures : Nat) (actor : String) :
    SameFrame w { w with gate := (w.gate.ban client reason d failures actor).2 } := by
  have basis := w.gate.basis_ban client reason d failures actor
  exact ⟨basis.now, basis.config, basis.policy, basis.granularity⟩

-- Once a request was screened, a judgement changes only what bans and reports are about.
theorem Entered.basis {client endpoint : String} {critical : Bool} {answer : Except GateError Admission}
    (entered : Entered w client endpoint critical (answer, u)) :
    (∃ fault, answer = .error fault ∧ u = w) ∨ (w.gate.screen client endpoint critical).2.SameBasis u.gate := by
  generalize result : (answer, u) = r at entered
  cases entered with
  | unsound =>
    cases result
    exact .inl ⟨_, rfl, rfl⟩
  | answered sound screened =>
    cases result
    rw [screened]
    exact .inr ⟨rfl, rfl, rfl, rfl, rfl, rfl⟩
  | @judged gate n v reading sound screened waited read =>
    cases result
    have judged := v.gate.basis_judge client endpoint reading
    have kept := gate_deliverMany n ({ w with gate, backend := w.backend.arrive.2 } : World ν)
    rw [← waited] at kept
    rw [kept] at judged ⊢
    rw [screened]
    exact .inr ⟨judged.now, judged.config, judged.policy, judged.limiter, judged.granularity, judged.upkeep⟩

theorem Entered.frame {client endpoint : String} {critical : Bool} {answer : Except GateError Admission}
    (entered : Entered w client endpoint critical (answer, u)) : SameFrame w u := by
  refine entered.keeps (fun _ _ act so => so.trans act.frame) ?_
    (fun _ _ so => so.trans ⟨rfl, rfl, rfl, rfl⟩) (.refl w)
  exact fun v client reason d failures actor so => so.trans (frame_ban v client reason d failures actor)

-- On a healthy store a reload takes in what the store lists.
theorem restore_healthy {rows : List Ban} (meanwhile : List Nat) (healthy : w.backend.Healthy)
    (idle : w.pending = [] ∨ meanwhile = [])
    (answered : w.backend.store.answer (.active w.gate.now) = (.ok rows, w.backend.store)) :
    ∃ backend, backend.Healthy ∧ backend.store = w.backend.store ∧ w.step (.command .restore meanwhile) =
      (.restored (.ok (w.gate.merge w.gate.now rows).1),
        { w with gate := (w.gate.merge w.gate.now rows).2, backend }) := by
  have kept := Backend.store_arrive w.backend
  have still : ({ w with backend := w.backend.arrive.2 } : World ν) =
      deliverMany (meanwhile.headD 0) { w with backend := w.backend.arrive.2 } := by
    rcases idle with empty | none
    · exact (deliverMany_of_nil (w := { w with backend := w.backend.arrive.2 }) empty _).symm
    · rw [none]
      rfl
  have finished : w.backend.arrive.2.finish (.active w.gate.now) none =
      (.ok rows, { w.backend.arrive.2 with store := w.backend.store }) :=
    healthy.arrive.2.finish (kept ▸ answered)
  refine ⟨{ w.backend.arrive.2 with store := w.backend.store }, healthy.arrive.2.withStore _, rfl, ?_⟩
  have mapped := perform_map Reply.restored (Gate.restore : Routine (Gate ν) _) meanwhile w
  have restored : perform meanwhile (Gate.restore : Routine (Gate ν) _) w =
      (.ok (w.gate.merge w.gate.now rows).1,
        { w with
          gate := (w.gate.merge w.gate.now rows).2
          backend := { w.backend.arrive.2 with store := w.backend.store } }) := by
    unfold Gate.restore
    rw [perform_state]
    exact (perform_ask_arrived healthy.arrive.1 still _).trans (by rw [finished]; rfl)
  rw [restored] at mapped
  exact mapped

theorem frame_deliverMany (n : Nat) (w : World ν) : SameFrame w (deliverMany n w) :=
  (acts_deliverMany False n w).frame

theorem granularity_step {m : Move} (own : m.isOwn) (w : World ν) :
    (w.step m).2.gate.tally.granularity = w.gate.tally.granularity := by
  have told := moved w own
  generalize (w.step m).2 = u at told
  cases told with
  | @plain c same =>
    show (c.update w.gate).tally.granularity = _
    rw [Command.tally_update (Move.plain_asks same).1]
  | idle => rfl
  | entered other enters entered => exact entered.frame.granularity
  | acted other enters acts => exact acts.frame.granularity
  | flushed other n => exact (frame_deliverMany n w).granularity
  | weather => rfl

end World

end Turnstile
