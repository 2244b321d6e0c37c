import Turnstile.Proofs.Gate.FailOpen
-- The tiers of a policy are checked when it is made, and its reason is not.
namespace Turnstile

open Admission (Reserved)

namespace Policy

variable {tiers : List Tier} {window : Duration} {reason client : String} {p : Policy} {tier : Tier}

theorem banFault_of_make (made : make tiers window reason = .ok p) (member : tier ∈ p.tiers) (valid : Client.Valid client) :
    Gate.banFault? client p.reason tier.duration = if Reserved reason then some (.banReason reason) else none := by
  obtain ⟨faultless, rfl⟩ := of_make made
  exact Gate.banFault?_of_long valid (Nat.ne_of_gt (((fault?_eq_none_iff _).1 faultless).2.lasting tier member))

theorem reason_ofConfig {c : Config} (made : ofConfig c = .ok p) : ¬Reserved p.reason := by
  obtain ⟨_, rfl⟩ := of_make made
  show ¬Reserved loginReason
  decide

inductive Chosen (plans : List Blueprint) (p : Policy) : Prop where
  | given {b : Blueprint} (member : b ∈ plans) (given : b.policy = some p)
  | configured {c : Config} (made : ofConfig c = .ok p)

theorem Chosen.append {plans : List Blueprint} (chosen : p.Chosen plans) (later : List Blueprint) : p.Chosen (plans ++ later) := by
  cases chosen with
  | given member given => exact .given (List.mem_append_left _ member) given
  | configured made => exact .configured made

theorem chosen_of_blueprint {b : Blueprint} {plans : List Blueprint} (member : b ∈ plans) (chosen : b.choosePolicy = .ok p) :
    p.Chosen plans := by
  unfold Blueprint.choosePolicy at chosen
  split at chosen
  · rename_i given
    cases chosen
    exact .given member given
  · exact .configured chosen

end Policy

namespace Gate

variable {ν : Type}

def penalty (g : Gate ν) (client : String) (tier : Tier) (counts : Counts) : Ban :=
  Registry.fresh client g.now (Registry.deadline g.now tier.duration) g.policy.reason (toHalf counts.failures) systemActor

-- A verdict bans its client unless the ban is refused, and then nothing comes of it.
theorem judge_reached {g : Gate ν} {client : String} {counts : Counts} {tier : Tier} (free : g.activeBan client = none)
    (reached : g.policy.verdict counts.failures g.policy.window = some tier)
    (sound : banFault? client g.policy.reason tier.duration = none) (endpoint : String) :
    (g.judge client endpoint (.ok counts)).1 =
        .banned ((g.penalty client tier counts).timeLeft g.now) (g.penalty client tier counts).reason ∧
      (g.judge client endpoint (.ok counts)).2.activeBan client = some (g.penalty client tier counts) := by
  rw [judge_of_verdict reached]
  cases ban : g.ban client g.policy.reason tier.duration (toHalf counts.failures) systemActor with
  | mk answer after =>
    have told := g.ban_cases client g.policy.reason tier.duration (toHalf counts.failures) systemActor
    rw [ban] at told
    cases told with
    | refused faulty => cases sound.symm.trans faulty
    | made _ event =>
      obtain ⟨blocks, now⟩ := World.ban_blocks ban
      have made := (World.fresh_ban ban free blocks).2.2
      refine ⟨?_, ?_⟩
      · show Admission.banned _ _ = _
        rw [made]
        rfl
      · rw [made] at blocks
        exact blocks

theorem judge_refused {g : Gate ν} {client : String} {counts : Counts} {tier : Tier} {fault : GateError}
    (reached : g.policy.verdict counts.failures g.policy.window = some tier)
    (faulty : banFault? client g.policy.reason tier.duration = some fault) (endpoint : String) :
    g.judge client endpoint (.ok counts) = (.admitted, g) := by
  rw [judge_of_verdict reached, ban_of_fault _ _ _ _ faulty]

theorem policy_build [Quantity ν] {b : Blueprint} {now : Nat} {g : Gate ν} (made : build b now = .ok g) :
    b.choosePolicy = .ok g.policy := by
  unfold build at made
  dsimp only at made
  split at made
  · cases made
  · split at made
    · cases made
    · rename_i chosen
      cases made
      exact chosen

theorem policy_reconfigure [Quantity ν] (g : Gate ν) (c : Config) :
    (g.reconfigure c).2.policy = g.policy ∨ Policy.ofConfig c = .ok (g.reconfigure c).2.policy := by
  rw [reconfigure_eq]
  cases c.fault? with
  | some fault => exact .inl rfl
  | none =>
    cases made : Policy.ofConfig c with
    | error e => exact .inl rfl
    | ok policy => exact .inr rfl

end Gate

def Move.blueprint? : Move → Option Blueprint
  | .restart b => some b
  | _ => none

variable {ν : Type} [Quantity ν]

namespace World

variable {w : World ν} {m : Move} {client endpoint reason : String} {meanwhile : List Nat} {counts : Counts} {tier : Tier}

-- The client is banned for as long as the tier says, and told so.
structure Enforced (w : World ν) (client : String) (tier : Tier) (counts : Counts) (done : Reply × World ν) : Prop where
  denied : done.1 = .admission (.ok (.banned ((w.gate.penalty client tier counts).timeLeft w.gate.now) w.gate.policy.reason))
  banned : done.2.gate.activeBan client = some (w.gate.penalty client tier counts)
  ahead : w.gate.now < (w.gate.penalty client tier counts).bannedUntil
  word : (w.gate.penalty client tier counts).bannedUntil ≤ wordMax

structure Waived (w : World ν) (client : String) (meanwhile : List Nat) (done : Reply × World ν) : Prop where
  admitted : done.1 = .admission (.ok .admitted)
  free : done.2.gate.activeBan client = none
  passed : ∃ n ≤ meanwhile.headD 0, done.2 = w.passed client n

omit [Quantity ν] in
theorem deadline_word {now : Nat} (early : now < wordMax) (d : Duration) : Registry.deadline now d ≤ wordMax :=
  Nat.max_le.2 ⟨satAdd_le .., early⟩

-- What the store says is judged as the policy has it, whatever is delivered meanwhile.
theorem judged_verdict (early : w.gate.now < wordMax) (free : w.gate.activeBan client = none)
    (heard : Visit.heard ⟨w, .command (.enter client endpoint true) meanwhile⟩ =
      [⟨.count client endpoint (w.gate.horizon client), .ok counts⟩])
    (reached : w.gate.policy.verdict counts.failures w.gate.policy.window = some tier) :
    (Gate.banFault? client w.gate.policy.reason tier.duration = none →
        w.Enforced client tier counts (w.step (.command (.enter client endpoint true) meanwhile))) ∧
      ∀ fault, Gate.banFault? client w.gate.policy.reason tier.duration = some fault →
        w.Waived client meanwhile (w.step (.command (.enter client endpoint true) meanwhile)) := by
  obtain ⟨n, reading, few, same, judged⟩ := (answered w client endpoint true meanwhile).asked (heard ▸ List.mem_cons_self)
  cases same
  have kept := gate_passed w client n
  have still : (w.passed client n).gate.activeBan client = none := kept ▸ free
  have verdict : (w.passed client n).gate.policy.verdict counts.failures (w.passed client n).gate.policy.window = some tier :=
    kept ▸ reached
  have penalty : (w.passed client n).gate.penalty client tier counts = w.gate.penalty client tier counts := by
    rw [kept]
    rfl
  have now : (w.passed client n).gate.now = w.gate.now := by
    rw [kept]
    rfl
  have policy : (w.passed client n).gate.policy = w.gate.policy := by
    rw [kept]
    rfl
  constructor
  · intro sound
    obtain ⟨denied, banned⟩ := Gate.judge_reached still verdict (policy ▸ sound) endpoint
    simp only [penalty, now] at denied banned
    refine ⟨?_, ?_, Registry.lt_deadline .., deadline_word early _⟩
    · rw [judged]
      exact congrArg (fun a => Reply.admission (.ok a)) denied
    · rw [judged]
      exact banned
  · intro fault faulty
    have refused := Gate.judge_refused verdict (policy ▸ faulty) endpoint
    have done : w.step (.command (.enter client endpoint true) meanwhile) = (.admission (.ok .admitted), w.passed client n) :=
      judged.trans (congrArg (fun told : Admission × Gate ν =>
        (Reply.admission (.ok told.1), ({ w.passed client n with gate := told.2 } : World ν))) refused)
    rw [done]
    exact ⟨rfl, still, n, few, rfl⟩

theorem policy_rebuild (b : Blueprint) (w : World ν) :
    (w.rebuild b).gate.policy = w.gate.policy ∨ b.choosePolicy = .ok (w.rebuild b).gate.policy := by
  unfold rebuild
  cases made : (Gate.build b w.gate.now : Except GateError (Gate ν)) with
  | error e => exact .inl rfl
  | ok gate => exact .inr (Gate.policy_build made)

theorem policy_build {b : Blueprint} {start : Nat} {backend : Backend} {sink : Sink}
    (made : World.build b start backend sink = .ok w) : b.choosePolicy = .ok w.gate.policy := by
  unfold build at made
  cases built : (Gate.build b start : Except GateError (Gate ν)) with
  | error e =>
    rw [built] at made
    cases made
  | ok gate =>
    rw [built] at made
    cases made
    exact Gate.policy_build built

theorem policy_step (w : World ν) (m : Move) :
    (w.step m).2.gate.policy = w.gate.policy ∨ (∃ b, m = .restart b ∧ b.choosePolicy = .ok (w.step m).2.gate.policy) ∨
      ∃ c, Policy.ofConfig c = .ok (w.step m).2.gate.policy := by
  cases m with
  | command c meanwhile =>
    cases c with
    | reconfigure config =>
      rcases w.gate.policy_reconfigure config with same | made
      · exact .inl same
      · exact .inr (.inr ⟨config, made⟩)
    | _ => exact .inl (settings_step rfl rfl w).2
  | call c => exact .inl rfl
  | restart b =>
    have flushed : w.flush.gate.policy = w.gate.policy := (frame_deliverMany _ w).policy
    rcases policy_rebuild b w.flush with same | chosen
    · exact .inl (same.trans flushed)
    · exact .inr (.inl ⟨b, rfl, chosen⟩)
  | _ => exact .inl (settings_step rfl rfl w).2

theorem chosen_step {plans : List Blueprint} (chosen : w.gate.policy.Chosen plans) (m : Move) :
    (w.step m).2.gate.policy.Chosen (plans ++ m.blueprint?.toList) := by
  rcases w.policy_step m with same | ⟨b, rfl, built⟩ | ⟨c, configured⟩
  · rw [same]
    exact chosen.append _
  · exact Policy.chosen_of_blueprint (List.mem_append_right _ List.mem_cons_self) built
  · exact .configured configured

theorem chosen_run {plans : List Blueprint} (chosen : w.gate.policy.Chosen plans) (moves : List Move) :
    (w.run moves).gate.policy.Chosen (plans ++ moves.filterMap Move.blueprint?) := by
  induction moves generalizing w plans with
  | nil => simpa [World.run] using chosen
  | cons m rest ih =>
    have later := ih (chosen_step chosen m)
    cases named : m.blueprint? with
    | none => simpa [named, World.run] using later
    | some b => simpa [named, World.run] using later

theorem verdict_enforced_iff {tiers : List Tier} {window : Duration} {p : Policy}
    (made : Policy.make tiers window reason = .ok p) :
    -- Whom the store was asked about has a token. A verdict on such a client is enforced if the reason is free, and waived if not.
    (∀ (w : World ν) (client endpoint : String) (meanwhile : List Nat) (counts : Counts) (tier : Tier), w.gate.policy = p →
      w.gate.now < wordMax → Client.Valid client → w.gate.activeBan client = none →
      Visit.heard ⟨w, .command (.enter client endpoint true) meanwhile⟩ =
        [⟨.count client endpoint (w.gate.horizon client), .ok counts⟩] →
      p.verdict counts.failures p.window = some tier →
      Gate.banFault? client p.reason tier.duration = (if Reserved reason then some (.banReason reason) else none) ∧
        (w.Enforced client tier counts (w.step (.command (.enter client endpoint true) meanwhile)) ↔ ¬Reserved reason) ∧
        (w.Waived client meanwhile (w.step (.command (.enter client endpoint true) meanwhile)) ↔ Reserved reason)) ∧
    -- Only a policy that a gate was given can have such a reason.
    (∀ (b : Blueprint) (start : Nat) (backend : Backend) (sink : Sink) (w : World ν) (moves : List Move),
      World.build b start backend sink = .ok w → (w.run moves).gate.policy = p → Reserved reason →
      ∃ plan ∈ b :: moves.filterMap Move.blueprint?, plan.policy = some p) := by
  obtain ⟨_, same⟩ := Policy.of_make made
  constructor
  · intro w client endpoint meanwhile counts tier inForce early valid free heard reached
    have member := (Policy.tierFor_eq_some ((Policy.verdict_window ..).symm.trans reached)).1
    have fault := Policy.banFault_of_make made member valid
    subst inForce
    obtain ⟨enforced, waived⟩ := judged_verdict early free heard reached
    rw [fault] at enforced waived
    generalize w.step (.command (.enter client endpoint true) meanwhile) = done at enforced waived
    have apart : w.Enforced client tier counts done → ¬w.Waived client meanwhile done := by
      intro banned passed
      cases banned.banned.symm.trans passed.free
    by_cases reserved : Reserved reason
    · have passed := waived _ (if_pos reserved)
      exact ⟨fault, ⟨fun banned => absurd passed (apart banned), fun own => absurd reserved own⟩, fun _ => reserved, fun _ => passed⟩
    · have banned := enforced (if_neg reserved)
      exact ⟨fault, ⟨fun _ => reserved, fun _ => banned⟩, fun passed => absurd passed (apart banned), fun own => absurd own reserved⟩
  · intro b start backend sink w moves built inForce reserved
    have first : w.gate.policy.Chosen [b] := Policy.chosen_of_blueprint List.mem_cons_self (policy_build built)
    have chosen := chosen_run first moves
    rw [inForce] at chosen
    cases chosen with
    | given member given => exact ⟨_, member, given⟩
    | configured configured =>
      have own := Policy.reason_ofConfig configured
      rw [same] at own
      exact absurd reserved own

-- A gate that bans for the first failure, and a client that has failed once.
def impatient (length : Duration) (reason : String) : Policy := ⟨[⟨1, length⟩], .ofSecs 300, reason⟩

def failedOnce (length : Duration) (reason : String) : World Rat :=
  (fresh ⟨.standard, some (impatient length reason), none⟩ (impatient length reason) 0 .memory (.ofMedium .log)).run
    [.command (.outcome "c" "login" false) [], .flush]

theorem failedOnce_enforced : (failedOnce ⟨1⟩ "abuse").Enforced "c" ⟨1, ⟨1⟩⟩ ⟨1, 1, 0⟩
    ((failedOnce ⟨1⟩ "abuse").step (.command (.enter "c" "login" true) [])) := by
  have made : Policy.make [⟨1, ⟨1⟩⟩] (.ofSecs 300) "abuse" = .ok (impatient ⟨1⟩ "abuse") := rfl
  have enforced := (verdict_enforced_iff made).1 (failedOnce ⟨1⟩ "abuse") "c" "login" [] ⟨1, 1, 0⟩ ⟨1, ⟨1⟩⟩ rfl (by decide +kernel)
    (by decide +kernel) (by decide +kernel) (by decide +kernel) (by decide +kernel)
  exact enforced.2.1.2 (by decide)

theorem reserved_verdict_waived :
    Policy.make [⟨1, .ofSecs 300⟩] (.ofSecs 300) Admission.okReason = .ok (impatient (.ofSecs 300) Admission.okReason) ∧
      ∃ w : World Rat, w = failedOnce (.ofSecs 300) Admission.okReason ∧
        w.gate.policy = impatient (.ofSecs 300) Admission.okReason ∧ w.gate.now < wordMax ∧ Client.Valid "c" ∧
        w.gate.activeBan "c" = none ∧ (w.gate.acquire "c").1.isAllowed = true ∧
        Visit.heard ⟨w, .command (.enter "c" "login" true) []⟩ = [⟨.count "c" "login" (w.gate.horizon "c"), .ok ⟨1, 1, 0⟩⟩] ∧
        w.gate.policy.verdict 1 w.gate.policy.window = some ⟨1, .ofSecs 300⟩ ∧
        w.Waived "c" [] (w.step (.command (.enter "c" "login" true) [])) := by
  generalize same : failedOnce (.ofSecs 300) Admission.okReason = w
  have early : w.gate.now < wordMax := by subst same; decide +kernel
  have free : w.gate.activeBan "c" = none := by subst same; decide +kernel
  have token : (w.gate.acquire "c").1.isAllowed = true := by subst same; decide +kernel
  have heard : Visit.heard ⟨w, .command (.enter "c" "login" true) []⟩ =
      [⟨.count "c" "login" (w.gate.horizon "c"), .ok ⟨1, 1, 0⟩⟩] := by subst same; decide +kernel
  have policy : w.gate.policy = impatient (.ofSecs 300) Admission.okReason := by subst same; decide +kernel
  have reached : w.gate.policy.verdict 1 w.gate.policy.window = some ⟨1, .ofSecs 300⟩ := by subst same; decide +kernel
  have fault : Gate.banFault? "c" w.gate.policy.reason (.ofSecs 300) = some (.banReason Admission.okReason) := by
    rw [policy]
    exact Gate.banFault?_of_long (by decide +kernel) (by decide)
  exact ⟨rfl, w, rfl, policy, early, by decide +kernel, free, token, heard, reached,
    (judged_verdict early free heard reached).2 _ fault⟩

end World

end Turnstile
