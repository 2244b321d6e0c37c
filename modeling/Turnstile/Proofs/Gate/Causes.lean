import Turnstile.Proofs.World.Fleet
import Turnstile.Proofs.World.Requests
namespace Turnstile

variable {ν : Type}

namespace Admission

@[simp] theorem denial_admitted : admitted.denial = none := rfl

@[simp] theorem denial_rateLimited (wait : Duration) : (rateLimited wait).denial = some (.rateLimited wait) := rfl

theorem denial_banned {reason : String} (own : ¬Reserved reason) (left : Duration) :
    (banned left reason).denial = some (.banned reason left) := by
  have other : reason ≠ limitedReason := fun same => own (.inr (.inl same))
  simp [denial, banned, other]

theorem denial_eq_none (a : Admission) : a.denial = none ↔ a.allowed = true := by
  unfold denial
  dsimp only
  split
  · rename_i allowed
    simp [allowed]
  · rename_i refused
    split <;> simp [refused]

end Admission

variable [Quantity ν]

namespace World

variable {w u : World ν} {client : String}

-- What decided about a request: nothing was in its way, its bucket was empty, its client was banned already, or is banned now.
inductive Caused (w u : World ν) (client : String) : Admission → Prop where
  | admitted {left : Nat} (free : w.gate.activeBan client = none) (token : (w.gate.acquire client).1 = .allowed left)
      (still : u.gate.activeBan client = none) : Caused w u client .admitted
  | limited {wait : Duration} (free : w.gate.activeBan client = none) (empty : (w.gate.acquire client).1 = .denied wait)
      (still : u.gate.activeBan client = none) : Caused w u client (.rateLimited wait)
  | known {b : Ban} (active : w.gate.activeBan client = some b) :
      Caused w u client (.banned (b.timeLeft w.gate.now) b.reason)
  | created {b : Ban} {left : Nat} (free : w.gate.activeBan client = none)
      (token : (w.gate.acquire client).1 = .allowed left) (active : u.gate.activeBan client = some b) :
      Caused w u client (.banned (b.timeLeft w.gate.now) b.reason)

theorem caused_answered {g : Gate ν} {endpoint : String} {critical : Bool} {a : Admission}
    (screened : w.gate.screen client endpoint critical = (.answered a, g)) : Caused w { w with gate := g } client a := by
  cases free : w.gate.activeBan client with
  | some b =>
    rw [Gate.screen_of_active free] at screened
    cases screened
    exact .known free
  | none =>
    rw [Gate.screen_of_free free] at screened
    cases taken : (w.gate.acquire client).1 with
    | denied wait =>
      rw [taken] at screened
      cases screened
      exact .limited free taken free
    | allowed left =>
      rw [taken] at screened
      dsimp only at screened
      split at screened
      · cases screened
      · cases screened
        exact .admitted free taken free

theorem caused_judged {g : Gate ν} {endpoint : String} {critical : Bool} {n : Nat} {v : World ν}
    (screened : w.gate.screen client endpoint critical = (.undecided, g))
    (waited : v = deliverMany n { w with gate := g, backend := w.backend.arrive.2 }) (reading : Except StoreError Counts) :
    Caused w { v with gate := (v.gate.judge client endpoint reading).2 } client (v.gate.judge client endpoint reading).1 := by
  obtain ⟨_, free, limiter, _, kept⟩ := waited_of_screened screened waited
  have now : v.gate.now = w.gate.now := by
    rw [kept]
    rfl
  have still : v.gate.activeBan client = none := by
    rw [kept]
    exact free
  cases token : (w.gate.acquire client).1 with
  | denied wait =>
    rw [Gate.screen_of_free free, token] at screened
    cases screened
  | allowed left =>
    have judged := v.gate.judge_cases client endpoint reading
    generalize v.gate.judge client endpoint reading = outcome at judged
    cases judged with
    | admitted => exact .admitted free token still
    | @banned counts tier made g' reached ban event =>
      obtain ⟨blocks, later⟩ := ban_blocks ban
      rw [later, now]
      exact .created free token blocks

theorem Entered.caused {endpoint : String} {critical : Bool} {a : Admission}
    (entered : Entered w client endpoint critical (.ok a, u)) : Caused w u client a := by
  generalize result : (Except.ok a, u) = r at entered
  cases entered with
  | unsound => cases result
  | answered sound screened =>
    cases result
    exact caused_answered screened
  | @judged g n v reading sound screened waited read =>
    cases result
    exact caused_judged screened waited reading

end World

-- The ban that refuses a request: one that is known when it comes, or one that was not and is there when it has been answered.
def Visit.refusing? (v : Visit ν) (client : String) : Option Ban :=
  (v.world.gate.activeBan client).or (v.after.gate.activeBan client)

def Visit.waiting? (v : Visit ν) (client : String) : Option Duration :=
  match v.world.gate.activeBan client, (v.world.gate.acquire client).1 with
  | none, .denied wait => some wait
  | _, _ => none

-- A login that was refused with an answer, as it is written down.
def refusedLogin (reading : Nat) (client username : String) (answer : Admission) (rateLimited : Bool) : LoginAttempt :=
  ⟨username, client, false, some answer.reason, rateLimited, reading⟩

-- The answer names the cause, and a login that is reported as refused with it is written down as marked by the cause.
structure Request.Classified (v : Visit ν) (r : Request) : Prop where
  admitted : r.answer.denial = none ↔ r.answer.allowed = true
  limited : ∀ wait, r.answer.denial = some (.rateLimited wait) ↔ v.waiting? r.client = some wait
  banned : ∀ reason left, r.answer.denial = some (.banned reason left) ↔
    ∃ b, v.refusing? r.client = some b ∧ reason = b.reason ∧ left = b.timeLeft v.world.gate.now
  marked : ∀ (g : Gate ν) client username, Client.Valid client → ∃ rateLimited,
    g.reportRefused client username r.answer = (.ok (), g.send (.attempt (refusedLogin g.now client username r.answer rateLimited))) ∧
      (rateLimited = true ↔ (v.waiting? r.client).isSome)

omit [Quantity ν] in
theorem reportRefused_marks {g : Gate ν} {client : String} (valid : Client.Valid client) (username : String) (a : Admission) :
    ∃ rateLimited, g.reportRefused client username a = (.ok (), g.send (.attempt (refusedLogin g.now client username a rateLimited))) ∧
      (rateLimited = true ↔ a.reason = Admission.limitedReason) := by
  unfold Gate.reportRefused Gate.forClient
  rw [show Client.fault? client = none from valid]
  exact ⟨_, rfl, beq_iff_eq⟩

section
variable {v : Visit ν} {r : Request}

theorem Request.classified_of_marks (marks : r.answer.reason = Admission.limitedReason ↔ (v.waiting? r.client).isSome)
    (limited : ∀ wait, r.answer.denial = some (.rateLimited wait) ↔ v.waiting? r.client = some wait)
    (banned : ∀ reason left, r.answer.denial = some (.banned reason left) ↔
      ∃ b, v.refusing? r.client = some b ∧ reason = b.reason ∧ left = b.timeLeft v.world.gate.now) : r.Classified v := by
  refine ⟨Admission.denial_eq_none _, limited, banned, fun g client username valid => ?_⟩
  obtain ⟨rateLimited, reported, marked⟩ := reportRefused_marks (g := g) valid username r.answer
  exact ⟨rateLimited, reported, marked.trans marks⟩

theorem Request.classified_of_ban {b : Ban} (own : b.Telling) (answer : r.answer = .banned (b.timeLeft v.world.gate.now) b.reason)
    (waiting : v.waiting? r.client = none) (refusing : v.refusing? r.client = some b) : r.Classified v := by
  have denial : r.answer.denial = some (.banned b.reason (b.timeLeft v.world.gate.now)) := by
    rw [answer]
    exact Admission.denial_banned own _
  apply Request.classified_of_marks
  · rw [waiting, answer]
    exact ⟨fun same => absurd (.inr (.inl same)) own, nofun⟩
  · simp [denial, waiting]
  · simp [denial, refusing, eq_comm]

theorem Visit.classified (member : r ∈ v.requests) (before : v.world.Telling) (after : v.after.Telling) : r.Classified v := by
  have caused := (v.entered_of_mem member).caused
  generalize answer : r.answer = a at caused
  cases caused with
  | admitted free token still =>
    apply Request.classified_of_marks
    · simp [answer, waiting?, free, token, Admission.admitted, Admission.okReason, Admission.limitedReason]
    · simp [answer, waiting?, free, token]
    · simp [answer, refusing?, free, still]
  | limited free empty still =>
    apply Request.classified_of_marks
    · simp [answer, waiting?, free, empty, Admission.rateLimited]
    · simp [answer, waiting?, free, empty]
    · simp [answer, refusing?, free, still]
  | @known b active =>
    apply Request.classified_of_ban (before.known.active b active) answer
    · simp [waiting?, active]
    · simp [refusing?, active]
  | @created b left free token active =>
    apply Request.classified_of_ban (after.known.active b active) answer
    · simp [waiting?, free, token]
    · simp [refusing?, free, active]

end

namespace Fleet

-- Whatever the gates are asked to do and whatever befalls the store, as long as nobody but them stores bans.
theorem denials_classified {f : Fleet ν} (launched : f.Launched) (clean : f.backend.store.Telling) (turns : List (Nat × Move))
    (alone : ∀ turn ∈ turns, turn.2.stores? = none) :
    (∀ m ∈ (f.run turns).members,
      (∀ address b, m.gate.bans.active.get? address = some b → ¬Admission.Reserved b.reason) ∧
        ∀ b, .ban b ∈ m.gate.tally.outbox.pending → ¬Admission.Reserved b.reason) ∧
      (∀ row ∈ (f.run turns).backend.store.bans, ¬Admission.Reserved row.reason) ∧
      ∀ v ∈ f.visits turns, ∀ r ∈ v.requests, r.Classified v := by
  obtain ⟨last, seen⟩ := (launched.telling clean).run turns alone
  refine ⟨fun m member => ?_, last.stored, fun v visited r member => ?_⟩
  · have told := last.members m member
    exact ⟨told.known, told.queued⟩
  · obtain ⟨before, after⟩ := seen v visited
    exact v.classified member before after

-- Two gates over one store: the first one sees a bucket run empty and bans for failures, the other one bans by hand.
def pair : Fleet Rat :=
  ⟨[⟨World.strict.gate, World.strict.sink, World.strict.blueprint⟩, ⟨World.strict.gate, World.strict.sink, World.strict.blueprint⟩],
    .memory⟩

def refusals : List (Nat × Move) :=
  List.replicate 20 (0, .command (.enter "d" "list" false) []) ++
    [(0, .command (.outcome "c" "login" false) []), (0, .command (.outcome "c" "login" false) []), (0, .flush),
      (1, .command (.ban "a" "abuse" (.ofSecs 100) 0 "admin") []), (1, .flush), (0, .command .restore []),
      (0, .command (.enter "d" "list" false) []), (0, .command (.enter "c" "login" true) []),
      (0, .command (.enter "a" "list" false) [])]

theorem refusals_classified :
    ((requests (pair.visits refusals)).drop 20).map (·.answer.denial) =
        [some (.rateLimited (.ofMillis 100)), some (.banned Policy.loginReason (.ofSecs 300)), some (.banned "abuse" (.ofSecs 100))] ∧
      ∀ v ∈ pair.visits refusals, ∀ r ∈ v.requests, r.Classified v := by
  refine ⟨by decide +kernel, (denials_classified ?_ (by decide +kernel) refusals (by decide +kernel)).2.2⟩
  intro m member
  refine ⟨⟨.standard, some .strict, none⟩, 0, ?_⟩
  simp only [pair, List.mem_cons, List.not_mem_nil, or_false, or_self] at member
  subst member
  exact World.build_strict

end Fleet

end Turnstile
