import Turnstile.Proofs.Gate.Escalation
-- Where a ban ended is known only to the gate that saw it end: a new gate learns of the bans that still block.
namespace Turnstile

section

variable {ν : Type} [Quantity ν]

-- Where the latest ban of a client ended or is to end, as far as the gate at work can know it.
def Visit.knownEnd (client : String) (ended : Option Nat) (v : Visit ν) : Option Nat :=
  match v.move with
  | .restart _ => none
  | _ => v.banEnd client ended

def knownEnd (client : String) (past : List (Visit ν)) : Option Nat := past.foldl (Visit.knownEnd client) none

theorem knownEnd_snoc (client : String) (past : List (Visit ν)) (v : Visit ν) :
    knownEnd client (past ++ [v]) = v.knownEnd client (knownEnd client past) := by
  simp only [knownEnd, List.foldl_append, List.foldl_cons, List.foldl_nil]

omit [Quantity ν] in
theorem reportedSince_anti {low high : Nat} (earlier : low ≤ high) (past : List (Visit ν)) (client endpoint : String) :
    reportedSince past client endpoint high ≤ reportedSince past client endpoint low := by
  refine List.countP_mono_left fun f _ counted => ?_
  simp only [Bool.and_eq_true, decide_eq_true_eq] at counted ⊢
  exact ⟨counted.1, Nat.le_trans earlier counted.2⟩

def Visit.Lasting (b : Blueprint) (window : Duration) (v : Visit ν) : Prop :=
  v.Regular window b.config.windowGranularity ∨ v.move = .restart b

end

namespace World

variable {ν : Type} [Quantity ν] {b : Blueprint} {start reach since : Nat} {client endpoint : String} {ended : Option Nat}
  {granularity : Duration} {past : List (Visit ν)} {w u : World ν}

-- What is kept from one visit to the next: like `Reckoned`, with everything that is fixed for the whole run.
structure Reckoning (granularity : Duration) (reach since : Nat) (client endpoint : String) (past : List (Visit ν))
    (u : World ν) : Prop where
  width : u.gate.tally.granularity = granularity
  tables : InMemory u
  follows : (u.standingOf client).Follows reach u.gate.now (knownEnd client past)
  bounded : Bounded client endpoint (reported past client endpoint granularity) u
  complete : ∃ tables, u.backend.store = .memory tables ∧
    min (reported past client endpoint granularity since) wordMax ≤ counted tables u.pending client endpoint since

theorem reckoning_start (fresh : Built b start .memory w) :
    Reckoning b.config.windowGranularity reach since client endpoint [] w := by
  have empty : w.backend.store = .memory .empty := by rw [fresh.backend]; rfl
  refine ⟨fresh.granularity, ⟨_, empty⟩, ?_, ⟨_, empty, fun low => ?_⟩, ⟨_, empty, ?_⟩⟩
  · unfold standingOf
    rw [fresh.bans]
    exact ⟨Standing.tracks_empty reach _, nofun⟩
  · rw [fresh.pending]
    exact Nat.zero_le _
  · exact Nat.le_trans (Nat.min_le_left ..) (Nat.zero_le _)

theorem Reckoning.ordinary {m : Move} (reckoning : Reckoning granularity reach since client endpoint past u)
    (timely : Visit.Timely reach ⟨u, m⟩) (faithful : Visit.Faithful since ⟨u, m⟩) :
    Reckoning granularity reach since client endpoint (past ++ [⟨u, m⟩]) (u.step m).2 := by
  obtain ⟨same, tables, follows, bounded, complete⟩ := reckoning
  subst same
  obtain ⟨later, followed⟩ := follows_timely timely tables follows
  have known : Visit.knownEnd client (knownEnd client past) ⟨u, m⟩ =
      Visit.banEnd client (knownEnd client past) ⟨u, m⟩ := by
    have ordinary := timely.ordinary
    cases m with
    | restart => cases ordinary
    | _ => rfl
  refine ⟨granularity_step (Move.isOwn_of_isOrdinary timely.ordinary) u, later, ?_, bounded_step timely.ordinary bounded,
    complete_step faithful complete⟩
  rw [knownEnd_snoc, known]
  exact followed

-- The old gate has applied all that it had queued, and the new one has queued nothing and knows of no ban.
theorem Reckoning.restart {sink : Sink} {first : World ν} (made : World.build b start .memory sink = .ok first)
    (reckoning : Reckoning b.config.windowGranularity reach since client endpoint past u) (healthy : u.backend.Healthy) :
    Reckoning b.config.windowGranularity reach since client endpoint (past ++ [⟨u, .restart b⟩]) (u.step (.restart b)).2 := by
  obtain ⟨same, tables, follows, bounded, complete⟩ := reckoning
  have fresh : Built b u.flush.gate.now u.flush.backend (u.step (.restart b)).2 := rebuild_built made u.flush
  have silent : reported (past ++ [⟨u, .restart b⟩]) client endpoint b.config.windowGranularity =
      reported past client endpoint b.config.windowGranularity := by
    funext low
    rw [reported_snoc]
    rfl
  have drained := pending_flush u
  have acts := acts_deliverMany False u.pending.length u
  have kept := Complete.acts acts False.elim ⟨healthy, complete⟩
  have flushed : Bounded client endpoint _ u.flush := acts.bounded bounded
  replace kept : Complete client endpoint since _ u.flush := ⟨kept.healthy, kept.recorded⟩
  generalize (u.step (.restart b)).2 = v at fresh
  obtain ⟨m, there, within⟩ := flushed
  obtain ⟨_, n, also, enough⟩ := kept
  rw [drained] at within enough
  have store : v.backend.store = u.flush.backend.store := by rw [fresh.backend]
  refine ⟨fresh.granularity, ⟨m, store.trans there⟩, ?_, ⟨m, store.trans there, ?_⟩, ⟨n, store.trans also, ?_⟩⟩
  · rw [knownEnd_snoc]
    unfold standingOf
    rw [fresh.bans]
    exact ⟨Standing.tracks_empty reach _, nofun⟩
  · rw [silent, fresh.pending]
    exact within
  · rw [silent, fresh.pending]
    exact enough

theorem reckoning_run {sink : Sink} (made : World.build b start .memory sink = .ok w) (moves : List Move)
    (reach since : Nat) (client endpoint : String) (kept : ∀ v ∈ w.visits moves,
      (v.Timely reach ∧ v.Faithful since) ∨ (v.move = .restart b ∧ v.world.backend.Healthy)) :
    Reckoning b.config.windowGranularity reach since client endpoint (w.visits moves) (w.run moves) := by
  refine run_keeps (I := Reckoning b.config.windowGranularity reach since client endpoint) (reckoning_start (built made)) ?_
    moves kept
  rintro past u m reckoning (⟨timely, faithful⟩ | ⟨rfl, healthy⟩)
  · exact reckoning.ordinary timely faithful
  · exact reckoning.restart made healthy

theorem lasting_forward {v : Visit ν} {window : Duration} (lasting : v.Lasting b window) :
    v.world.gate.now ≤ v.after.gate.now := by
  rcases lasting with regular | restart
  · exact regular.forward
  · refine Nat.le_of_eq ?_
    have same : v.after = v.world.flush.rebuild b := by
      unfold Visit.after
      rw [restart]
      rfl
    have flushed : v.world.flush.gate.now = v.world.gate.now :=
      (acts_deliverMany False v.world.pending.length v.world).frame.now
    rw [same]
    rcases rebuild_cases b v.world.flush with kept | fresh
    · rw [kept, flushed]
    · rw [fresh.now, flushed]

theorem reckoned_lasting {sink : Sink} (made : World.build b start .memory sink = .ok w) (moves : List Move)
    (lasting : ∀ v ∈ w.visits moves, v.Lasting b (w.run moves).gate.policy.window)
    (intact : ∀ v ∈ w.visits moves, v.Intact) (fits : (w.run moves).gate.now ≤ wordMax) (client endpoint : String) :
    (w.run moves).gate.tally.granularity = b.config.windowGranularity ∧
      Reckoned (w.visits moves) client endpoint (knownEnd client (w.visits moves)) (w.run moves) := by
  have fresh := World.built made
  have forward v (member : v ∈ w.visits moves) := lasting_forward (lasting v member)
  have reckoning := reckoning_run made moves
    ((w.run moves).gate.policy.window.millis + windowWidth b.config.windowGranularity)
    (countedFrom (w.run moves).gate.now (w.run moves).gate.policy.window b.config.windowGranularity
      (knownEnd client (w.visits moves))) client endpoint fun v member => by
    rcases lasting v member with regular | restart
    · rw [← fresh.granularity] at regular
      have cutoff (sweeps : v.move.sweeps) := cutoffs_le fresh forward fits member (regular.covered sweeps)
      rw [fresh.granularity] at cutoff
      have past := (forward_run moves forward).1 v member
      refine .inl ⟨⟨regular.ordinary, regular.forward, cutoff⟩, regular.ordinary, (intact v member).healthy,
        (intact v member).lossless, fun sweeps => ?_⟩
      have early := cutoff sweeps
      exact cutoff_le_countedFrom (by omega) _
    · exact .inr ⟨restart, (intact v member).healthy⟩
  refine ⟨reckoning.width, ?_, ?_, ?_⟩
  · rw [reckoning.width]
    exact reckoning.follows
  · rw [reckoning.width]
    exact reckoning.bounded
  · rw [reckoning.width]
    exact reckoning.complete

-- A critical request is refused with a new ban exactly if the lowest threshold is reached by what was reported, to this gate or
-- to those before it, since the end of the latest ban that this gate knows of.
theorem escalation_after_restarts {sink : Sink} (made : World.build b start .memory sink = .ok w) (moves : List Move)
    {u : World ν} (reached : w.run moves = u) (lasting : ∀ v ∈ w.visits moves, v.Lasting b u.gate.policy.window)
    (intact : ∀ v ∈ w.visits moves, v.Intact) (healthy : u.backend.Healthy)
    (patient : (u.backend.patience (some u.gate.config.criticalReadTimeout)).2 = false) (drained : u.pending = [])
    (fits : u.gate.now + windowWidth b.config.windowGranularity ≤ wordMax) (sound : u.gate.policy.Usable)
    {client : String} (valid : Client.Valid client) (free : u.gate.activeBan client = none)
    (token : (u.gate.acquire client).1.isAllowed = true) (endpoint : String) {count : Nat}
    (counted : count = reportedSince (w.visits moves) client endpoint
      (countedFrom u.gate.now u.gate.policy.window b.config.windowGranularity (knownEnd client (w.visits moves))))
    {meanwhile : List Nat} {reply : Reply} {after : World ν}
    (entered : u.step (.command (.enter client endpoint true) meanwhile) = (reply, after)) :
    (∃ least, u.gate.policy.lowest? = some least ∧
      (least ≤ count ↔ ∃ ban, after.gate.activeBan client = some ban ∧
        reply = .admission (.ok (.banned (ban.timeLeft u.gate.now) ban.reason))) ∧
      (count < least → reply = .admission (.ok .admitted) ∧ after.gate.activeBan client = none)) ∧
    ∀ x, knownEnd client (w.visits moves) = some x → count ≤ reportedSince (w.visits moves) client endpoint x := by
  subst reached
  obtain ⟨width, reckoned⟩ :=
    reckoned_lasting made moves lasting intact (Nat.le_trans (Nat.le_add_right ..) fits) client endpoint
  rw [← width] at fits counted
  refine ⟨reckoned.judged healthy patient drained sound valid free token counted entered, fun x ends => ?_⟩
  have past := reckoned.follows.tracks.finished free x ends
  rw [counted, ends]
  exact reportedSince_anti (end_le_countedFrom (Nat.le_trans (Nat.add_le_add_right past _) fits) _) _ client endpoint

def strictPlan : Blueprint := ⟨.standard, some .strict, none⟩

def spent : List Move :=
  [.command (.outcome "c" "login" false) [], .command (.outcome "c" "login" false) [], .flush,
    .command (.enter "c" "login" true) [], .flush]

def takeover : List Move := [.restart strictPlan, .command .restore []]

theorem lasting_takeover {window : Duration} (v : Visit Rat) (first : List Move) (rest : List Move)
    (regular : ∀ v ∈ strict.visits first, v.Regular window strictPlan.config.windowGranularity)
    (later : ∀ v ∈ (((strict.run first).step (.restart strictPlan)).2).visits rest,
      v.Regular window strictPlan.config.windowGranularity)
    (member : v ∈ strict.visits (first ++ .restart strictPlan :: rest)) : v.Lasting strictPlan window := by
  rw [visits_append] at member
  rcases List.mem_append.1 member with before | after
  · exact .inl (regular v before)
  · rcases List.mem_cons.1 after with here | next
    · exact .inr (congrArg Visit.move here)
    · exact .inl (later v next)

-- The ban is over before the takeover: the failures that led to it lead to another one.
def releasedBefore : List Move := spent ++ [.command (.clock 60000) [], .command (.unban "c" "admin" none) [], .flush]

theorem spent_failures_ban_again : ∃ made ended,
    (∀ v ∈ strict.visits (releasedBefore ++ takeover), v.Lasting strictPlan Policy.strict.window ∧ v.Intact) ∧
      (strict.run (releasedBefore ++ takeover)).gate.policy = .strict ∧
      (strict.run (releasedBefore ++ takeover)).gate.activeBan "c" = none ∧
      ((strict.run (releasedBefore ++ takeover)).step (.command (.enter "c" "login" true) [])).2.gate.activeBan "c" =
        some made ∧
      latestEnd "c" (strict.visits (releasedBefore ++ takeover)) = some ended ∧
      Policy.strict.lowest? = some 2 ∧
      reportedSince (strict.visits (releasedBefore ++ takeover)) "c" "login" ended = 0 := by
  have found : (((strict.run (releasedBefore ++ takeover)).step
    (.command (.enter "c" "login" true) [])).2.gate.activeBan "c").isSome := by decide +kernel
  obtain ⟨made, banned⟩ := Option.isSome_iff_exists.1 found
  have intact : ∀ v ∈ strict.visits (releasedBefore ++ takeover), v.Intact := by decide +kernel
  refine ⟨made, 60000, fun v member => ⟨?_, intact v member⟩, by decide +kernel, by decide +kernel, banned,
    by decide +kernel, by decide +kernel, by decide +kernel⟩
  exact lasting_takeover v releasedBefore [.command .restore []] (by decide +kernel) (by decide +kernel) member

-- The ban outlasts the takeover: once it is over, the failures that led to it count no more.
def expiredAfter : List Move := spent ++ takeover ++ [.command (.clock 300000) []]

theorem spent_failures_forgotten :
    ((strict.run expiredAfter).step (.command (.enter "c" "login" true) [])).1 = .admission (.ok .admitted) := by
  have made : World.build strictPlan 0 .memory (.ofMedium .log) = .ok strict := build_strict
  have policy : (strict.run expiredAfter).gate.policy = .strict := by decide +kernel
  have lasting : ∀ v ∈ strict.visits expiredAfter, v.Lasting strictPlan (strict.run expiredAfter).gate.policy.window := by
    rw [policy]
    exact fun v => lasting_takeover v spent [.command .restore [], .command (.clock 300000) []] (by decide +kernel)
      (by decide +kernel)
  have sound : (strict.run expiredAfter).gate.policy.Usable := ⟨by decide +kernel, by decide +kernel, by decide +kernel⟩
  have none : 0 = reportedSince (strict.visits expiredAfter) "c" "login"
      (countedFrom (strict.run expiredAfter).gate.now (strict.run expiredAfter).gate.policy.window
        strictPlan.config.windowGranularity (knownEnd "c" (strict.visits expiredAfter))) := by decide +kernel
  have told := Prod.eta ((strict.run expiredAfter).step (.command (.enter "c" "login" true) []))
  obtain ⟨⟨least, lowest, _, few⟩, _⟩ := escalation_after_restarts made expiredAfter rfl lasting (by decide +kernel)
    (by decide +kernel) (by decide +kernel) (by decide +kernel) (by decide +kernel) sound (by decide +kernel)
    (by decide +kernel) (by decide +kernel) "login" none told.symm
  rw [policy] at lowest
  have two : Policy.strict.lowest? = some 2 := by decide +kernel
  cases two.symm.trans lowest
  exact (few (by decide)).1

end World

end Turnstile
