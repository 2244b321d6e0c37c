import Mathlib.Data.List.Infix
import Turnstile.Proofs.World.BanCalls
import Turnstile.Proofs.World.History
-- The next ban of a client takes the mark's place, and keeps away only rows that end no later than it does.
namespace Turnstile

variable {ν : Type} [Quantity ν] {client : String}

namespace Visit

def calls (client : String) (v : Visit ν) : List BanCall := World.banCalls client v.world v.move v.after

structure Unprompted (client : String) (v : Visit ν) : Prop where
  onward : v.Onward
  uncalled : v.calls client = []

end Visit

def calls (client : String) (past : List (Visit ν)) : List BanCall := past.flatMap (Visit.calls client)

theorem calls_snoc (client : String) (past : List (Visit ν)) (v : Visit ν) :
    calls client (past ++ [v]) = calls client past ++ v.calls client := by
  simp only [calls, List.flatMap_append, List.flatMap_cons, List.flatMap_nil, List.append_nil]

namespace World

variable {w u v : World ν} {begins ends : Nat}

def ComesTo (client : String) (w u : World ν) : Prop :=
  ∃ moves, (∀ v ∈ w.visits moves, v.Unprompted client) ∧ w.run moves = u

theorem ComesTo.refl (client : String) (w : World ν) : ComesTo client w w :=
  ⟨[], fun _ member => absurd member List.not_mem_nil, rfl⟩

theorem ComesTo.trans (first : ComesTo client w u) (rest : ComesTo client u v) : ComesTo client w v := by
  obtain ⟨moves, calm, rfl⟩ := first
  obtain ⟨more, later, rfl⟩ := rest
  refine ⟨moves ++ more, fun x member => ?_, run_append w moves more⟩
  rw [visits_append] at member
  exact (List.mem_append.1 member).elim (calm x) (later x)

theorem ComesTo.step {m : Move} (own : m.isOwn) (forward : w.gate.now ≤ (w.step m).2.gate.now)
    (uncalled : banCalls client w m (w.step m).2 = []) : ComesTo client w (w.step m).2 := by
  refine ⟨[m], fun v member => ?_, rfl⟩
  cases List.mem_singleton.1 member
  exact ⟨⟨own, forward⟩, uncalled⟩

theorem ComesTo.inherits (calmly : ComesTo client w u) (orderly : w.Orderly client) : Inherits client w u := by
  obtain ⟨moves, calm, rfl⟩ := calmly
  refine run_keeps (I := fun _ u => Inherits client w u) (.refl orderly) ?_ moves calm
  intro past u m before calm
  have told := stepped calm.onward.own calm.onward.forward before.orderly
  rw [show banCalls client u m (u.step m).2 = [] from calm.uncalled] at told
  cases told with
  | inherited inherits => exact before.trans inherits

theorem orderly_run (orderly : w.Orderly client) (moves : List Move) (onward : ∀ x ∈ w.visits moves, x.Onward) :
    (w.run moves).Orderly client ∧ (w.run moves).backend.store.keeps = w.backend.store.keeps := by
  refine run_keeps (I := fun _ u => u.Orderly client ∧ u.backend.store.keeps = w.backend.store.keeps)
    ⟨orderly, rfl⟩ ?_ moves onward
  rintro past u m ⟨before, same⟩ onward
  have after := (stepped onward.own onward.forward before).orderly
  exact ⟨after.1, after.2.trans same⟩

-- Every row that nothing will stand in the way of is a row of one of these calls.
def Covered (client : String) (keeps : Nat → Nat) (calls : List BanCall) (w : World ν) : Prop :=
  ∀ begins ends, w.Lingers client begins ends → (w.standingOf client).Outlasted w.gate.now ends →
    Backed keeps calls begins ends

omit [Quantity ν] in
instance (client : String) (keeps : Nat → Nat) (calls : List BanCall) (w : World ν) :
    Decidable (Covered client keeps calls w) :=
  decidable_of_iff _ forall_lingers.symm

theorem secured_run (orderly : w.Orderly client) (free : w.gate.activeBan client = none) (moves : List Move)
    (onward : ∀ x ∈ w.visits moves, x.Onward) (covered : ∀ done, done <+: moves →
      Covered client w.backend.store.keeps (calls client (w.visits done)) (w.run done)) :
    ((w.run moves).standingOf client).Secured w.backend.store.keeps (calls client (w.visits moves))
      ((w.run moves).Lingers client) (w.run moves).gate.now := by
  induction moves using List.reverseRecOn with
  | nil =>
    refine ⟨fun b active => ?_, covered [] List.prefix_rfl⟩
    rw [show ((w.run []).standingOf client).activeBan (w.run []).gate.now = none from free] at active
    cases active
  | append_singleton moves m ih =>
    have last := covered (moves ++ [m]) List.prefix_rfl
    rw [visits_snoc] at onward last ⊢
    rw [run_snoc] at last ⊢
    rw [calls_snoc] at last ⊢
    have earlier x (member : x ∈ w.visits moves) := onward x (List.mem_append_left _ member)
    have now := onward _ (List.mem_append_right _ List.mem_cons_self)
    obtain ⟨ordered, same⟩ := orderly_run orderly moves earlier
    have before := ih earlier fun done short => covered done (short.trans (List.prefix_append moves [m]))
    have told := stepped now.own now.forward ordered
    change Stepped client (w.run moves) ((w.run moves).step m).2 ((⟨w.run moves, m⟩ : Visit ν).calls client) at told
    generalize (⟨w.run moves, m⟩ : Visit ν).calls client = new at told last
    refine ⟨?_, last⟩
    cases told with
    | inherited inherits =>
      rw [← same] at before ⊢
      have after := inherits.secured _ before
      rw [List.append_nil, ← inherits.keeps]
      exact after.active
    | banned _ _ backed => exact backed _ _ before.active

-- A store that is out of order can be put in order, by switching it on and asking it until its faults are used up.
theorem mended (client : String) (w : World ν) :
    ∃ backend, ComesTo client w { w with backend } ∧ backend.Healthy ∧ backend.store = w.backend.store := by
  have emptied (n : Nat) (b : Backend) (short : b.script.length ≤ n) (reachable : b.reachable = true) :
      ∃ backend, ComesTo client { w with backend := b } { w with backend } ∧ backend.Healthy ∧
        backend.store = b.store := by
    induction n generalizing b with
    | zero =>
      have empty := List.length_eq_zero_iff.1 (Nat.le_zero.1 short)
      refine ⟨b, .refl client _, ⟨reachable, ?_⟩, rfl⟩
      rw [empty]
      exact nofun
    | succ n ih =>
      have asked : (({ w with backend := b } : World ν).step (.command (.counts "" "" 0) [])).2 =
          { w with backend := b.arrive.2.arrive.2.arrive.2 } := by
        have reads := Store.answer_count "" "" (windowStart 0 w.gate.tally.granularity)
        have ran : ((Command.counts "" "" 0).routine.run w.gate b).2 = (w.gate, b.arrive.2.arrive.2.arrive.2) := by
          show (Prod.snd (Routine.run (Routine.state >>= fun g : Gate ν => g.tally.readings "" "" 0 >>= fun answers =>
            pure (Reply.counted answers)) w.gate b)) = _
          simp only [Routine.run_bind, Routine.run_state, Tally.readings, Tally.since, Routine.run_call,
            Routine.run_pure, Backend.call_reading reads]
        rw [World.step, perform_nil]
        show ({ w with gate := _, backend := _ } : World ν) = _
        rw [ran]
      have shorter : b.arrive.2.arrive.2.arrive.2.script.length ≤ n := by
        simp only [Backend.script_arrive, List.length_tail]
        omega
      have stays : b.arrive.2.arrive.2.arrive.2.reachable = true := by
        simp only [Backend.script_arrive, reachable]
      obtain ⟨backend, calmly, healthy, store⟩ := ih _ shorter stays
      refine ⟨backend, ?_, healthy, store.trans (by simp only [Backend.store_arrive])⟩
      rw [← asked] at calmly
      refine (ComesTo.step (m := .command (.counts "" "" 0) []) rfl ?_ (banCalls_of_waits rfl rfl)).trans calmly
      exact Nat.le_of_eq (congrArg (fun u : World ν => u.gate.now) asked).symm
  obtain ⟨backend, calmly, healthy, store⟩ := emptied _ (w.backend.setReachable true) (Nat.le_refl _) rfl
  exact ⟨backend, (ComesTo.step (m := .reach true) rfl (Nat.le_refl _) (banCalls_of_waits rfl rfl)).trans calmly,
    healthy, store⟩

theorem drained (client : String) (front : List Write) {rest : List Write} {w : World ν} (queued : w.pending = front ++ rest)
    (healthy : w.backend.Healthy) : ∃ u, ComesTo client w u ∧ u.backend.Healthy ∧ u.pending = rest ∧
      u.gate.bans = w.gate.bans ∧ u.gate.now = w.gate.now := by
  induction front generalizing w with
  | nil => exact ⟨w, .refl client w, healthy, queued, rfl, rfl⟩
  | cons first front ih =>
    have now := (frame_deliver w).now
    obtain ⟨u, calmly, well, pending, bans, same⟩ := ih (pending_deliver queued) (healthy_deliver healthy)
    have step : ComesTo client w w.deliver :=
      ComesTo.step (m := .deliver) rfl (Nat.le_of_eq now.symm) (banCalls_of_waits rfl rfl)
    exact ⟨u, step.trans calmly, well, pending, bans.trans (bans_deliver w), same.trans now⟩

open Memory (openRows) in
-- A row that lingers can come to stand in the store.
theorem arrived (orderly : w.Orderly client) (healthy : w.backend.Healthy) (lingers : w.Lingers client begins ends)
    (live : w.gate.now < ends) : ∃ u row, ComesTo client w u ∧ u.backend.Healthy ∧ u.gate.bans = w.gate.bans ∧
      u.gate.now = w.gate.now ∧ openRows client u.backend.store.bans = [row] ∧ row.bannedAt = begins ∧
      row.bannedUntil = ends := by
  have past := orderly.guarded.past begins ends lingers
  cases lingers with
  | @stored row there =>
    exact ⟨w, row, .refl client w, healthy, rfl, rfl, Memory.single orderly.once there, rfl, rfl⟩
  | @queued b waits own =>
    subst own
    obtain ⟨front, rest, queued⟩ := List.append_of_mem waits
    obtain ⟨u, calmly, well, pending, bans, now⟩ := drained b.address front queued healthy
    have inherits := calmly.inherits orderly
    rw [← inherits.keeps] at past live ⊢
    obtain ⟨row, store, answered, only, began, ended⟩ := Store.answer_upsert inherits.orderly.once
      (orderly.unreleased b waits) (Nat.lt_of_le_of_lt past live)
    obtain ⟨backend, delivered, fine, stored⟩ := deliver_healthy well pending answered
    have step : ComesTo b.address u u.deliver :=
      ComesTo.step (m := .deliver) rfl (Nat.le_of_eq (frame_deliver u).now.symm) (banCalls_of_waits rfl rfl)
    refine ⟨u.deliver, row, calmly.trans step, healthy_deliver well, (bans_deliver u).trans bans,
      (frame_deliver u).now.trans now, ?_, began, ended⟩
    rw [delivered, ← only, ← stored]

open Memory (openRows) in
-- A row that outlasts what stands in its way can come back.
theorem revived (orderly : w.Orderly client) (lingers : w.Lingers client begins ends)
    (outlasted : (w.standingOf client).Outlasted w.gate.now ends) :
    ∃ u b, ComesTo client w u ∧ u.gate.activeBan client = some b ∧ b.bannedAt = begins ∧ b.bannedUntil = ends := by
  obtain ⟨backend, mends, healthy, store⟩ := mended client w
  have mended := mends.inherits orderly
  have still := (mended.orderly.kept (u := w) store.symm rfl).fewer begins ends lingers
  obtain ⟨u, row, calmly, well, bans, now, only, began, ended⟩ := arrived mended.orderly healthy still outlasted.live
  subst began ended
  have live := outlasted.live
  -- The last instant at which the row is active.
  have waits : ComesTo client u { u with gate := { u.gate with now := row.bannedUntil - 1 } } := by
    refine ComesTo.step (m := .command (.clock (row.bannedUntil - 1)) []) rfl ?_ (banCalls_of_plain rfl fun _ _ _ _ _ => nofun)
    show u.gate.now ≤ row.bannedUntil - 1
    rw [now]
    exact Nat.le_sub_one_of_lt live
  obtain ⟨rows, answered⟩ := Store.answer_active_ok (row.bannedUntil - 1) u.backend.store
  have listed : rows.filter (·.address == client) = [row] := by
    obtain ⟨reading, early, same⟩ := Store.listed answered client
    rw [only, List.filter_cons, if_pos (decide_eq_true (by omega))] at same
    exact List.perm_singleton.1 same
  obtain ⟨after, _, _, restored⟩ := restore_healthy (w := { u with gate := { u.gate with now := row.bannedUntil - 1 } }) []
    well (.inr rfl) answered
  have reloads : ComesTo client _ _ := ComesTo.step (w := { u with gate := { u.gate with now := row.bannedUntil - 1 } })
    (m := .command .restore []) rfl (by rw [restored]; exact Nat.le_refl _) (banCalls_of_waits rfl rfl)
  refine ⟨_, row, mends.trans (calmly.trans (waits.trans reloads)), ?_, rfl, rfl⟩
  rw [restored]
  show ((u.gate.bans.merge (row.bannedUntil - 1) rows).2.standing client).activeBan (row.bannedUntil - 1) = some row
  rw [Registry.standing_merge, listed, bans]
  have open' : row ∈ openRows client u.backend.store.bans := only ▸ List.mem_cons_self
  exact outlasted.take (Memory.mem_openRows.1 open').2.2

omit [Quantity ν] in
theorem Built.orderly {b : Blueprint} {start : Nat} {backend : Backend} (fresh : Built b start backend w)
    (empty : backend.store.bans = []) (client : String) : w.Orderly client := by
  have rows : w.backend.store.bans = [] := by rw [fresh.backend, empty]
  have nothing : ∀ begins ends, ¬ w.Lingers client begins ends := by
    intro begins ends lingers
    cases lingers with
    | stored there => rw [rows] at there; cases there
    | queued waits own => rw [fresh.pending] at waits; cases waits
  refine ⟨by rw [rows]; exact Nat.zero_le _, fun b waits => ?_, fresh.bans ▸ Registry.addressed_empty, ?_⟩
  · rw [fresh.pending] at waits
    cases waits
  · unfold standingOf
    rw [fresh.bans]
    exact ⟨nofun, nofun, fun begins ends lingers => absurd lingers (nothing begins ends), nofun⟩

theorem visits_shorter {moves done : List Move} (short : done <+: moves) :
    ∀ v ∈ w.visits done, v ∈ w.visits moves := by
  obtain ⟨rest, rfl⟩ := short
  rw [visits_append]
  exact fun v member => List.mem_append_left _ member

theorem released_free {actor : String} {note : Option String} {meanwhile : List Nat} {ended : Ban}
    (released : w.step (.command (.unban client actor note) meanwhile) = (.unbanned (.ok (some ended)), v))
    (orderly : w.Orderly client) : v.Orderly client ∧ v.gate.activeBan client = none := by
  have told : (Reply.unbanned (w.gate.unban client actor note).1,
      ({ w with gate := (w.gate.unban client actor note).2 } : World ν)) = (.unbanned (.ok (some ended)), v) := released
  obtain ⟨replied, rfl⟩ := Prod.mk.inj told
  have answered := Reply.unbanned.inj replied
  refine ⟨(inherits_unban orderly client actor note).orderly, ?_⟩
  have unbanned := w.gate.unban_cases client actor note
  generalize w.gate.unban client actor note = result at unbanned answered
  cases unbanned with
  | refused => cases answered
  | idle => cases answered
  | ended active event =>
    show ((w.gate.bans.unban w.gate.now client).2.standing client).activeBan w.gate.now = none
    rw [Registry.standing_unban, if_pos rfl, show (w.gate.bans.standing client).activeBan w.gate.now = _ from active]
    rfl

-- After a release by hand, the ban of the client comes from calls made since, whatever happens until the next such
-- call, exactly if each row of an earlier ban that the store lists or may come to list ends in time: now, or with the
-- ban that blocks, or with the one that was released.
theorem release_stands_iff {b : Blueprint} {start : Nat} {backend : Backend} {sink : Sink}
    (built : World.build b start backend sink = .ok w) (empty : backend.store.bans = []) (before : List Move)
    (onward : ∀ x ∈ w.visits before, x.Onward) {actor : String} {note : Option String} {meanwhile : List Nat}
    {ended : Ban} (released : (w.run before).step (.command (.unban client actor note) meanwhile) =
      (.unbanned (.ok (some ended)), v)) (later : List Move) (after : ∀ x ∈ v.visits later, x.Onward) :
    (∀ done, done <+: later → ∀ u, ComesTo client (v.run done) u → ∀ b, u.gate.activeBan client = some b →
        Backed v.backend.store.keeps (calls client (v.visits done)) b.bannedAt b.bannedUntil) ↔
      ∀ done, done <+: later →
        Covered client v.backend.store.keeps (calls client (v.visits done)) (v.run done) := by
  have fresh := (World.built built).orderly empty client
  obtain ⟨orderly, free⟩ := released_free released (orderly_run fresh before onward).1
  have earlier {done : List Move} (short : done <+: later) : ∀ x ∈ v.visits done, x.Onward := fun x member =>
    after x (visits_shorter short x member)
  constructor
  · intro stands done short begins ends lingers outlasted
    obtain ⟨u, back, calmly, blocks, began, ended⟩ := revived (orderly_run orderly done (earlier short)).1 lingers outlasted
    have backed := stands done short u calmly back blocks
    rwa [began, ended] at backed
  · intro covered done short u calmly b blocks
    obtain ⟨ordered, same⟩ := orderly_run orderly done (earlier short)
    have secured := secured_run orderly free done (earlier short) fun sooner shorter =>
      covered sooner (shorter.trans short)
    have inherits := calmly.inherits ordered
    rw [← same] at secured ⊢
    rw [← inherits.keeps]
    exact (inherits.secured _ secured).active b blocks

def longBan : List Move :=
  [.command (.ban "c" "manual" (.ofSecs 100) 0 "admin") [], .flush, .command (.clock 1000) []]

def banAgain (secs : Nat) : List Move :=
  [.command (.clock 2000) [], .command (.ban "c" "manual" (.ofSecs secs) 0 "admin") [], .command (.clock 22000) [],
    .command .restore []]

def unbanned : World Rat := ((strict.run longBan).step (.command (.unban "c" "admin" none) [])).2

theorem step_unbanned : ∃ ended,
    (strict.run longBan).step (.command (.unban "c" "admin" none) []) = (.unbanned (.ok (some ended)), unbanned) := by
  have valid : Client.Valid "c" := by decide +kernel
  have active : (strict.run longBan).gate.activeBan "c" = some (Registry.fresh "c" 0 100000 "manual" 0 "admin") := by
    decide +kernel
  exact ⟨_, Prod.ext (congrArg Reply.unbanned (Gate.unban_active valid active "admin" none)) rfl⟩

theorem shorter_ban_brings_back : ∃ ended v b,
    (strict.run longBan).step (.command (.unban "c" "admin" none) []) = (.unbanned (.ok (some ended)), v) ∧
      (∀ x ∈ v.visits (banAgain 10), x.Onward) ∧ (v.run (banAgain 10)).gate.activeBan "c" = some b ∧
      ¬ Backed v.backend.store.keeps (calls "c" (v.visits (banAgain 10))) b.bannedAt b.bannedUntil := by
  obtain ⟨ended, released⟩ := step_unbanned
  exact ⟨ended, unbanned, Registry.fresh "c" 0 100000 "manual" 0 "admin", released, by decide +kernel,
    by decide +kernel, by decide +kernel⟩

-- A ban that outlasts the released one keeps it away.
theorem longer_ban_protects : ∃ b, (unbanned.run (banAgain 200)).gate.activeBan "c" = some b ∧
    b.bannedAt = 2000 ∧ b.bannedUntil = 202000 := by
  obtain ⟨ended, released⟩ := step_unbanned
  have covered : ∀ done ∈ (banAgain 200).inits,
      Covered "c" unbanned.backend.store.keeps (calls "c" (unbanned.visits done)) (unbanned.run done) := by decide +kernel
  have banned : ((unbanned.run (banAgain 200)).gate.activeBan "c").isSome := by decide +kernel
  obtain ⟨b, blocks⟩ := Option.isSome_iff_exists.1 banned
  obtain ⟨begun, ended⟩ := (release_stands_iff build_strict rfl longBan (by decide +kernel) released (banAgain 200)
    (by decide +kernel)).2 (fun done short => covered done ((List.mem_inits ..).2 short)) _ List.prefix_rfl _
    (.refl "c" _) b blocks
  have asked : calls "c" (unbanned.visits (banAgain 200)) = [⟨2000, 202000⟩] := by decide +kernel
  have kept : unbanned.backend.store.keeps = id := by rfl
  rw [asked, kept] at begun ended
  obtain ⟨_, member, begun⟩ := begun
  obtain ⟨_, same, ended⟩ := ended
  cases List.mem_singleton.1 member
  cases List.mem_singleton.1 same
  exact ⟨b, blocks, begun.elim id id, ended.elim id id⟩

end World

end Turnstile
