import Mathlib.Logic.Relation
import Mathlib.Order.Bounds.Defs
import Turnstile.Proofs.Gate.Causes
import Turnstile.Proofs.Gate.Errors
import Turnstile.Proofs.World.Terms
namespace Turnstile

open World

-- The gate goes on, or its buckets are looked through, and no token of the client is asked for.
inductive World.Idles (client : String) : World Rat → World Rat → Prop where
  | move {v : Visit Rat} (metered : v.Metered) (other : ¬v.AsksToken client) : Idles client v.world v.after
  | evict (w : World Rat) (idle : Nat) :
      Idles client w { w with gate := { w.gate with limiter := (w.gate.limiter.evictIdle w.gate.now idle).2 } }

namespace Visit

-- The client has less than a token as long as the wait has not passed, and gets one as soon as it has, whatever others do and
-- whatever is forgotten meanwhile. A wait that one word does not hold is cut.
def Awaited (v : Visit Rat) (client : String) (wait : Duration) : Prop :=
  ∀ u, Relation.ReflTransGen (Idles client) v.after u →
    (u.gate.now < v.world.gate.now + wait.millis → ∃ held, u.gate.available client = some held ∧ held < 1) ∧
    ((1 - v.world.gate.limiter.level v.world.gate.now client) / v.world.gate.limiter.rate * 1000 ≤ wordMax →
      v.world.gate.now + wait.millis ≤ u.gate.now → (u.gate.acquire client).1.isAllowed = true)

-- Up to the end of its term the ban that is left alone refuses every request, for its own reason and for the rest of the term.
-- Afterwards the client is not banned when it asks, and is refused for a ban only if the request brings about another one.
def Termed (v : Visit Rat) (client reason : String) (term : Nat) : Prop :=
  ∀ moves, (∀ x ∈ v.after.visits moves, x.Abiding client) → ∀ u, u = v.after.run moves →
    (u.gate.now < v.world.gate.now + term → ∀ endpoint critical meanwhile,
      (u.step (.command (.enter client endpoint critical) meanwhile)).1 =
        .admission (.ok (.banned (.ofMillis (term - (u.gate.now - v.world.gate.now))) reason))) ∧
    (v.world.gate.now + term ≤ u.gate.now → u.gate.activeBan client = none ∧
      ∀ endpoint critical meanwhile a other left,
        (u.step (.command (.enter client endpoint critical) meanwhile)).1 = .admission (.ok a) →
        a.denial = some (.banned other left) →
        ∃ b, (u.step (.command (.enter client endpoint critical) meanwhile)).2.gate.activeBan client = some b ∧
          b.bannedAt = u.gate.now)

variable {v : Visit Rat} {client : String}

theorem Metered.sound (metered : v.Metered) (sound : v.world.gate.limiter.Sound v.world.gate.now) :
    v.after.gate.limiter.Sound v.after.gate.now := by
  have drawn : Limiter.Drawn "" _ _ _ _ := v.drawn metered
  exact (Limiter.Drawn.sound drawn sound).later metered.forward

end Visit

namespace World

variable {w u : World Rat} {client : String} {now : Nat} {l : Limiter Rat}

theorem Built.sound {b : Blueprint} {start : Nat} {backend : Backend} {sink : Sink}
    (made : World.build b start backend sink = .ok w) : w.gate.limiter.Sound w.gate.now := by
  have valid := (Config.fault?_eq_none_iff _).1 (World.built made).config
  have sound := Limiter.sound_start (Quantity.ratOfDouble_pos valid.1) valid.positive.1 start
  obtain ⟨_, policy, _, rfl⟩ := fresh_of_build made
  exact sound

theorem Idles.passed (idles : Idles client w u) (passed : Limiter.Passed client now w.gate.now l w.gate.limiter) :
    Limiter.Passed client now u.gate.now l u.gate.limiter := by
  cases idles with
  | move metered other => exact passed.extend other (Visit.drawn metered) metered.forward
  | evict _ idle => exact passed.extend id (.evict w.gate.limiter idle) (Nat.le_refl _)

theorem passed_of_idles (idles : Relation.ReflTransGen (Idles client) w u)
    (passed : Limiter.Passed client now w.gate.now l w.gate.limiter) :
    Limiter.Passed client now u.gate.now l u.gate.limiter := by
  induction idles with
  | refl => exact passed
  | tail _ last ih => exact last.passed ih

theorem idles_of_visits {moves : List Move} (idle : ∀ v ∈ w.visits moves, v.Metered ∧ ¬v.AsksToken client) :
    Relation.ReflTransGen (Idles client) w (w.run moves) := by
  induction moves generalizing w with
  | nil => exact .refl
  | cons m rest ih =>
    have first := idle ⟨w, m⟩ List.mem_cons_self
    exact .head (.move first.1 first.2) (ih fun v later => idle v (List.mem_cons_of_mem _ later))

theorem Entered.barred {endpoint : String} {critical : Bool} {answer : Except GateError Admission} {b : Ban}
    (entered : Entered w client endpoint critical (answer, u)) (valid : Client.Valid client)
    (active : w.gate.activeBan client = some b) : answer = .ok (.banned (b.timeLeft w.gate.now) b.reason) ∧ u = w := by
  generalize result : (answer, u) = r at entered
  cases entered with
  | unsound faulty => cases valid.symm.trans faulty
  | answered sound screened =>
    cases result
    rw [Gate.screen_of_active active] at screened
    cases screened
    exact ⟨rfl, rfl⟩
  | judged sound screened =>
    rw [Gate.screen_of_active active] at screened
    cases screened

theorem Entered.bannedAt {endpoint : String} {critical : Bool} {answer : Except GateError Admission} {b : Ban}
    (entered : Entered w client endpoint critical (answer, u)) (free : w.gate.activeBan client = none)
    (active : u.gate.activeBan client = some b) : b.bannedAt = w.gate.now := by
  obtain ⟨v, acts, bans, same | ⟨reason, d, failures, made, g', event, unbanned, ban, same⟩⟩ := entered.split
  · have known : u.gate.activeBan client = w.gate.activeBan client := by
      rw [same]
      unfold Gate.activeBan
      rw [bans, acts.frame.now]
    cases active.symm.trans (known.trans free)
  · rw [same] at active
    obtain ⟨_, rfl, fresh⟩ := fresh_ban ban unbanned active
    rw [fresh]
    exact acts.frame.now

end World

namespace Visit

variable {v : Visit Rat} {client endpoint : String} {critical : Bool} {a : Admission} {b : Ban}

theorem waiting?_eq_some {wait : Duration} :
    v.waiting? client = some wait ↔ v.world.gate.activeBan client = none ∧ (v.world.gate.acquire client).1 = .denied wait := by
  unfold waiting?
  cases v.world.gate.activeBan client with
  | some b => simp
  | none => cases (v.world.gate.acquire client).1 <;> simp

theorem awaited {wait : Duration} (sound : v.world.gate.limiter.Sound v.world.gate.now)
    (entered : Entered v.world client endpoint critical (.ok a, v.after)) (waiting : v.waiting? client = some wait) :
    v.Awaited client wait := by
  obtain ⟨free, empty⟩ := waiting?_eq_some.1 waiting
  have after : v.after.gate.limiter = (v.world.gate.limiter.acquire v.world.gate.now client).2 := by
    rw [entered.limiter, Gate.asked, free]
  intro u idles
  have begun := Limiter.Passed.refl client v.world.gate.now v.after.gate.limiter
  rw [← entered.frame.now] at begun
  obtain ⟨start, calls, onward, le, silent, same⟩ := passed_of_idles idles begun
  rw [entered.frame.now] at start onward
  rw [after] at same
  have told := Limiter.wait_exact sound empty onward le start silent
  rw [← same] at told
  exact told

theorem termed (entered : Entered v.world client endpoint critical (.ok a, v.after))
    (active : v.after.gate.activeBan client = some b) : v.Termed client b.reason (b.bannedUntil - v.world.gate.now) := by
  have valid : Client.Valid client := entered.clean.1.1 rfl
  have now := entered.frame.now
  obtain ⟨_, unreleased, _⟩ := Standing.activeBan_eq_some (s := v.after.gate.bans.standing client).1 active
  rintro moves abiding u rfl
  obtain ⟨forward, left⟩ := activeBan_run moves abiding
  rw [now] at forward
  rw [active] at left
  generalize v.after.run moves = u at forward left
  refine ⟨fun early endpoint critical meanwhile => ?_, fun late => ?_⟩
  · have standing : u.gate.activeBan client = some b := by
      rw [left]
      exact Option.filter_some_pos (by simp; omega)
    obtain ⟨answer, replied, entered⟩ := step_enter client endpoint critical meanwhile u
    have term : b.timeLeft u.gate.now = .ofMillis (b.bannedUntil - v.world.gate.now - (u.gate.now - v.world.gate.now)) := by
      unfold Ban.timeLeft remaining Ban.isUnreleased
      rw [unreleased]
      exact congrArg Duration.ofMillis (by omega)
    rw [replied, (entered.barred valid standing).1, term]
  · have free : u.gate.activeBan client = none := by
      rw [left]
      exact Option.filter_some_neg (by simp; omega)
    refine ⟨free, fun endpoint critical meanwhile a other rest replied denied => ?_⟩
    obtain ⟨answer, told, entered⟩ := step_enter client endpoint critical meanwhile u
    cases told.symm.trans replied
    generalize (u.step (.command (.enter client endpoint critical) meanwhile)).2 = after at entered ⊢
    have caused := entered.caused
    cases caused with
    | admitted => cases denied
    | limited => cases denied
    | known active => cases free.symm.trans active
    | created _ _ active => exact ⟨_, active, entered.bannedAt free active⟩

theorem refused (entered : Entered v.world client endpoint critical (.ok a, v.after)) :
    (a.allowed = false → (v.waiting? client).isSome ∨ (v.refusing? client).isSome) ∧
    (∀ wait, v.waiting? client = some wait → a = .rateLimited wait) ∧
    ∀ b, v.refusing? client = some b → a = .banned (b.timeLeft v.world.gate.now) b.reason := by
  have caused := entered.caused
  cases caused with
  | admitted free token still => simp [waiting?, refusing?, free, token, still, Admission.admitted]
  | limited free empty still => simp [waiting?, refusing?, free, empty, still]
  | known active => simp [waiting?, refusing?, active]
  | created free token active => simp [waiting?, refusing?, free, token, active]

theorem active_of_refusing (entered : Entered v.world client endpoint critical (.ok a, v.after))
    (refusing : v.refusing? client = some b) : v.after.gate.activeBan client = some b := by
  unfold refusing? at refusing
  cases known : v.world.gate.activeBan client with
  | some old =>
    obtain ⟨_, same⟩ := entered.barred (entered.clean.1.1 rfl) known
    rw [known] at refusing
    rw [same, known]
    exact refusing
  | none =>
    rw [known] at refusing
    exact refusing

theorem termed_of_refusing (entered : Entered v.world client endpoint critical (.ok a, v.after))
    (refusing : v.refusing? client = some b) :
    ∃ term, 0 < term ∧ a = .banned (.ofMillis term) b.reason ∧ v.Termed client b.reason term := by
  have active := active_of_refusing entered refusing
  obtain ⟨_, unreleased, blocks⟩ := Standing.activeBan_eq_some (s := v.after.gate.bans.standing client).1 active
  rw [entered.frame.now] at blocks
  refine ⟨b.bannedUntil - v.world.gate.now, Nat.sub_pos_of_lt blocks, ?_, termed entered active⟩
  rw [(refused entered).2.2 b refusing]
  unfold Ban.timeLeft Ban.isUnreleased
  rw [unreleased]
  rfl

end Visit

theorem Duration.secsUp_le (d : Duration) (n : Nat) : d.secsUp ≤ n ↔ d.nanos ≤ (Duration.ofSecs n).nanos := by
  unfold secsUp secs subNanos ofSecs
  dsimp only
  split <;> omega

-- A refusal tells when to come back, neither too early nor too late by a millisecond, and the seconds that are advertised are no more
-- than it takes. Whether it is one of the bucket or a ban can be told from the answer, unless a ban that somebody else has stored states a
-- reason of the gate's own.
theorem World.retryAfter_exact {b : Blueprint} {start : Nat} {backend : Backend} {sink : Sink} {first : World Rat}
    (made : World.build b start backend sink = .ok first) {moves : List Move} (metered : ∀ v ∈ first.visits moves, v.Metered) :
    (∀ v ∈ first.visits moves, ∀ r ∈ v.requests,
      (r.answer.allowed = false → (v.waiting? r.client).isSome ∨ (v.refusing? r.client).isSome) ∧
      (∀ wait, v.waiting? r.client = some wait → r.answer = .rateLimited wait ∧ v.Awaited r.client wait) ∧
      ∀ ban, v.refusing? r.client = some ban →
        ∃ term, 0 < term ∧ r.answer = .banned (.ofMillis term) ban.reason ∧ v.Termed r.client ban.reason term) ∧
    (backend.store.Telling → (∀ v ∈ first.visits moves, ∀ row ∈ v.move.stores?, row.Telling) →
      ∀ v ∈ first.visits moves, ∀ r ∈ v.requests, r.Classified v) ∧
    ∀ d : Denial, IsLeast {n | d.retryAfter.nanos ≤ (Duration.ofSecs n).nanos} d.retryAfterSecs := by
  refine ⟨fun v visited r member => ?_, fun own stored v visited r member => ?_, fun d => ⟨?_, fun n fits => ?_⟩⟩
  · obtain ⟨sound, _⟩ := visits_keep (I := fun w : World Rat => w.gate.limiter.Sound w.gate.now) (Built.sound made)
      (fun _ sound metered => metered.sound sound) moves metered v visited
    have entered := v.entered_of_mem member
    obtain ⟨caused, limited, _⟩ := Visit.refused entered
    refine ⟨caused, fun wait waiting => ⟨limited wait waiting, ?_⟩, fun ban refusing => Visit.termed_of_refusing entered refusing⟩
    exact Visit.awaited sound entered waiting
  · obtain ⟨before, after⟩ := visits_keep (I := World.Telling) ((World.built made).telling own)
      (fun v telling stored => telling.step stored) moves stored v visited
    exact v.classified member before after
  · exact (d.retryAfter.secsUp_le d.retryAfterSecs).1 (Nat.le_refl _)
  · exact (d.retryAfter.secsUp_le n).2 fits

namespace World

def rush : List Move := .command (.ban "a" "abuse" (.ofSecs 100) 0 "admin") [] :: List.replicate 20 (.command (.enter "d" "list" false) [])

def hasty : Visit Rat := ⟨strict.run rush, .command (.enter "d" "list" false) []⟩

def barred : Visit Rat := ⟨strict.run rush, .command (.enter "a" "list" false) []⟩

theorem rush_retryAfter :
    hasty.requests.map (·.answer.denial) = [some (.rateLimited (.ofMillis 100))] ∧
    (∃ held, (hasty.after.run [.command (.maintain true) [], .command (.clock 99) []]).gate.available "d" = some held ∧ held < 1) ∧
    ((hasty.after.run [.command (.maintain true) [], .command (.clock 100) []]).gate.acquire "d").1.isAllowed = true ∧
    barred.requests.map (·.answer.denial) = [some (.banned "abuse" (.ofMillis 100000))] ∧
    ((barred.after.run [.command (.clock 99999) []]).step (.command (.enter "a" "list" false) [])).1 =
      .admission (.ok (.banned (.ofMillis 1) "abuse")) ∧
    (barred.after.run [.command (.clock 100000) []]).gate.activeBan "a" = none := by
  have limited : hasty.requests = [⟨"d", "list", false, .rateLimited (.ofMillis 100)⟩] := by decide +kernel
  have banned : barred.requests = [⟨"a", "list", false, .banned (.ofMillis 100000) "abuse"⟩] := by decide +kernel
  have told (v : Visit Rat) (last : v.world = strict.run rush) (metered : ∀ x ∈ strict.visits (rush ++ [v.move]), x.Metered) :=
    (retryAfter_exact build_strict metered).1 v (by rw [visits_snoc, ← last]; exact List.mem_append_right _ List.mem_cons_self)
  have waits := ((told hasty (by rw [hasty]) (by decide +kernel) _ (limited ▸ List.mem_cons_self)).2.1 (.ofMillis 100)
    (by decide +kernel)).2
  obtain ⟨term, _, same, runs⟩ := (told barred (by rw [barred]) (by decide +kernel) _ (banned ▸ List.mem_cons_self)).2.2
    ⟨"a", 0, 100000, "abuse", 0, "admin", none, none, false⟩ (by decide +kernel)
  obtain rfl : term = 100000 := by
    have nanos := congrArg (fun a : Admission => a.retryAfter.map Duration.nanos) same
    simp only [Admission.banned, Option.map_some, Option.some.injEq, Duration.ofMillis] at nanos
    omega
  refine ⟨by rw [limited]; rfl, ?_, ?_, by rw [banned]; decide, ?_, ?_⟩
  · exact (waits _ (idles_of_visits (by decide +kernel))).1 (by decide +kernel)
  · exact (waits _ (idles_of_visits (by decide +kernel))).2 (by decide +kernel) (by decide +kernel)
  · have told := (runs [.command (.clock 99999) []] (by decide +kernel) _ rfl).1 (by decide +kernel) "list" false []
    have start : barred.world.gate.now = 0 := by decide +kernel
    have reading : (barred.after.run [.command (.clock 99999) []]).gate.now = 99999 := by decide +kernel
    rw [start, reading] at told
    exact told
  · exact ((runs [.command (.clock 100000) []] (by decide +kernel) _ rfl).2 (by decide +kernel)).1

end World

end Turnstile
