import Turnstile.Proofs.Gate.Escalation
import Turnstile.Proofs.World.Unnoticed
namespace Turnstile

namespace Config

-- Windows are kept for as long as the policy of the configuration may look back, and the whole window in which it begins to.
def Retains (c : Config) : Prop := satAdd c.loginWindow.millis (windowWidth c.windowGranularity) ≤ c.archiveAfter.millis

instance (c : Config) : Decidable c.Retains := inferInstanceAs (Decidable (_ ≤ _))

-- Ages are whole seconds, so that what is archived too early is so by a millisecond more.
theorem early_of_not_retains {c : Config} (valid : c.Valid) (early : ¬c.Retains) :
    c.archiveAfter.millis + 1 ≤ wordMax ∧
      c.archiveAfter.millis + 1 - c.loginWindow.millis < windowWidth c.windowGranularity := by
  obtain ⟨_, _, window, _, width⟩ := valid.positive
  unfold Retains satAdd windowWidth archiveAfter days loginWindow windowGranularity at early
  unfold windowWidth archiveAfter days loginWindow windowGranularity
  rw [Duration.millis_ofSecs, Duration.millis_ofSecs, Duration.millis_ofSecs] at early ⊢
  generalize wordMax = most at early ⊢
  omega

end Config

namespace World

variable {b : Blueprint} {policy : Policy} {sink : Sink} {start now n : Nat}

-- A gate of which nothing is left but windows in the store, and when it was maintained.
def quiet (b : Blueprint) (policy : Policy) (sink : Sink) (now : Nat) (windows archived : List WindowRow) (upkeep : Upkeep)
    (applied calls : Nat) : World Rat :=
  let w : World Rat := fresh b policy now .memory sink
  { w with
    gate := { w.gate.setOutbox { w.gate.tally.outbox with applied } with upkeep }
    backend := { w.backend with store := .memory { Memory.empty with windows, archived }, calls } }

def failedRows (first : Nat) : Nat → List WindowRow
  | 0 => []
  | n + 1 => [⟨"a", "login", first, n + 1, n + 1, 0⟩]

theorem tally_failedRows (fits : n < wordMax) (first : Nat) :
    Memory.tally "a" "login" first .failed (failedRows first n) = failedRows first (n + 1) := by
  cases n with
  | zero => rfl
  | succ n =>
    have added : satAdd (n + 1) 1 = n + 2 := satAdd_eq fits
    simp only [failedRows, Memory.tally, WindowRow.isAt, WindowRow.count, added, beq_self_eq_true, Bool.and_self, if_true]

theorem failures_failedRows {first since : Nat} (early : since ≤ first) (n : Nat) :
    Memory.failures (failedRows first n) "a" "login" since = n := by
  cases n with
  | zero => rfl
  | succ n =>
    simp only [failedRows, Memory.failures, WindowRow.isSince, beq_self_eq_true, Bool.and_self, early, decide_true, List.filter_cons,
      if_true, List.filter_nil, List.foldr_cons, List.foldr_nil, Nat.add_zero]

theorem failedRows_late {first cutoff : Nat} (late : first < cutoff) (n : Nat) : (failedRows first n).filter (cutoff ≤ ·.start) = [] := by
  cases n with
  | zero => rfl
  | succ n => simp only [failedRows, List.filter_cons, Nat.not_le_of_lt late, decide_false, Bool.false_eq_true, if_false, List.filter_nil]

def tired (b : Blueprint) (policy : Policy) (sink : Sink) (now n : Nat) : World Rat :=
  quiet b policy sink now (failedRows (windowStart now b.config.windowGranularity) n) [] .start n n

def waiting (b : Blueprint) (policy : Policy) (sink : Sink) (now n : Nat) : World Rat :=
  let w := tired b policy sink now n
  { w with gate := w.gate.setOutbox { w.gate.tally.outbox with
      pending := [.window "a" "login" (windowStart now b.config.windowGranularity) .failed] } }

theorem room_quiet (windows archived : List WindowRow) (upkeep : Upkeep) (applied calls : Nat) :
    (quiet b policy sink now windows archived upkeep applied calls).gate.tally.outbox.pending.length <
      (quiet b policy sink now windows archived upkeep applied calls).gate.tally.outbox.capacity := Nat.le_max_right ..

theorem step_outcome :
    ((tired b policy sink now n).step (.command (.outcome "a" "login" false) [])).2 = waiting b policy sink now n := by
  have sound : Client.fault? "a" = none := by decide +kernel
  have room : (tired b policy sink now n).gate.tally.outbox.pending.length < (tired b policy sink now n).gate.tally.outbox.capacity :=
    room_quiet ..
  obtain ⟨reply, ran⟩ := Command.run_reports (ν := Rat) (c := .outcome "a" "login" false) rfl
  rw [step_command, ran, Command.update_reports rfl]
  simp only [Command.writes, Command.sound, sound, Outbox.sendAll, List.foldl_cons, List.foldl_nil]
  rw [Outbox.send_room room]
  rfl

theorem healthy_waiting : (waiting b policy sink now n).backend.Healthy := ⟨rfl, nofun⟩

theorem step_flush (fits : n < wordMax) :
    ((waiting b policy sink now n).step .flush).2 = tired b policy sink now (n + 1) := by
  have counted : (waiting b policy sink now n).backend.call
      (Write.window "a" "login" (windowStart now b.config.windowGranularity) .failed).call none =
        (.ok (), (tired b policy sink now (n + 1)).backend) := by
    unfold tired
    rw [← tally_failedRows fits]
    rfl
  have queued : (waiting b policy sink now n).pending =
      [.window "a" "login" (windowStart now b.config.windowGranularity) .failed] := rfl
  show (waiting b policy sink now n).deliver.handOver = _
  rw [deliver_once healthy_waiting queued, counted]
  rfl

def failing : Nat → List Move
  | 0 => []
  | n + 1 => failing n ++ [.command (.outcome "a" "login" false) [], .flush]

theorem constant_failing (word : now ≤ wordMax) (fits : n < wordMax) :
    ∀ v ∈ (tired b policy sink now n).visits [.command (.outcome "a" "login" false) [], .flush], v.Constant := by
  intro v member
  simp only [visits, step_outcome, List.mem_cons, List.not_mem_nil, or_false] at member
  rcases member with rfl | rfl
  · refine ⟨⟨⟨rfl, ?_⟩, ⟨⟨rfl, nofun⟩, ?_⟩, fun _ => rfl⟩, rfl, word⟩
    · show _ ≤ ((tired b policy sink now n).step _).2.gate.now
      rw [step_outcome]
      exact Nat.le_refl now
    · show ((tired b policy sink now n).step _).2.gate.tally.outbox.dropped = _
      rw [step_outcome]
      rfl
  · refine ⟨⟨⟨rfl, ?_⟩, ⟨healthy_waiting, ?_⟩, nofun⟩, rfl, word⟩
    · show _ ≤ ((waiting b policy sink now n).step .flush).2.gate.now
      rw [step_flush fits]
      exact Nat.le_refl now
    · show ((waiting b policy sink now n).step .flush).2.gate.tally.outbox.dropped = _
      rw [step_flush fits]
      rfl

theorem run_failing (b : Blueprint) (policy : Policy) (sink : Sink) (word : now ≤ wordMax) (fits : n ≤ wordMax) :
    (fresh b policy now .memory sink).run (failing n) = tired b policy sink now n ∧
      ∀ v ∈ (fresh b policy now .memory sink : World Rat).visits (failing n), v.Constant := by
  induction n with
  | zero => exact ⟨rfl, fun v member => absurd member List.not_mem_nil⟩
  | succ n ih =>
    obtain ⟨reached, constant⟩ := ih (Nat.le_of_succ_le fits)
    rw [failing, run_append, visits_append, reached]
    refine ⟨?_, fun v member => ?_⟩
    · show (((tired b policy sink now n).step (.command (.outcome "a" "login" false) [])).2.step .flush).2 = _
      rw [step_outcome, step_flush fits]
    · rcases List.mem_append.1 member with earlier | here
      · exact constant v earlier
      · exact constant_failing word fits v here

section
variable {windows archived : List WindowRow} {upkeep : Upkeep} {applied calls : Nat}

theorem step_clock (reading : Nat) :
    ((quiet b policy sink now windows archived upkeep applied calls).step (.command (.clock reading) [])).2 =
      quiet b policy sink reading windows archived upkeep applied calls := rfl

-- Of what is left, maintenance can only archive windows.
theorem step_forced : ((quiet b policy sink now windows archived .start applied calls).step (.command (.maintain true) [])).2 =
    quiet b policy sink now (windows.filter (now - b.config.archiveAfter.millis ≤ ·.start))
      (archived ++ windows.filter (·.start < now - b.config.archiveAfter.millis))
      ⟨some now, some now, some now, some now, 1, false⟩ applied (calls + 5) := by
  rw [step_command, Command.run_maintain]
  rfl

-- A request is then judged by the failures that are left from the window on in which the policy begins to look back.
theorem quiet_enter (rate : 0 < Quantity.ratOfDouble b.config.rate) (burst : 1 ≤ b.config.burst) (sound : policy.Usable)
    {least seen : Nat} (lowest : policy.lowest? = some least)
    (read : Memory.failures windows "a" "login"
      (windowStart (now - policy.window.millis) b.config.windowGranularity) = seen) :
    let reply := ((quiet b policy sink now windows archived upkeep applied calls).step (.command (.enter "a" "login" true) [])).1
    (least ≤ seen → ∃ left reason, reply = .admission (.ok (.banned left reason))) ∧
      (seen < least → reply = .admission (.ok .admitted)) := by
  have valid : Client.Valid "a" := by decide +kernel
  have token : ((quiet b policy sink now windows archived upkeep applied calls).gate.acquire "a").1.isAllowed = true := by
    show (Limiter.acquire (.start (Quantity.ratOfDouble b.config.rate) b.config.burst) now "a").1.isAllowed = true
    rw [Limiter.acquire_eq (Limiter.sound_start rate burst now), Limiter.answer_isAllowed, Limiter.level_none rfl]
    have whole := (Limiter.sound_start rate burst now).burst
    linarith
  have patient (d : Duration) : ((quiet b policy sink now windows archived upkeep applied calls).backend.patience (some d)).2 = false := by
    simp only [quiet, Backend.patience, fresh, Backend.memory, Backend.ofStore, Nat.not_lt_zero, if_false]
  obtain ⟨v, counts, same, clock, free, heard, told⟩ := enter_judged valid
    (w := quiet b policy sink now windows archived upkeep applied calls) rfl token rfl ⟨rfl, nofun⟩ rfl (patient _) "login" []
  change v.gate.policy = policy at same
  obtain ⟨bans, admits⟩ := judge_sound (same ▸ sound) (same ▸ lowest) valid "login" counts
  have enough : counts.failures = seen := heard.trans read
  rw [enough] at bans admits
  rw [told]
  refine ⟨fun reached => ?_, fun few => ?_⟩
  · obtain ⟨made, blocks, denied⟩ := bans reached
    exact ⟨_, _, by rw [denied]⟩
  · rw [admits few]

theorem constant_quiet {c : Command} (word : now ≤ wordMax) (constant : c.isConstant now = true) {u : World Rat}
    (stepped : ((quiet b policy sink now windows archived upkeep applied calls).step (.command c [])).2 = u)
    (forward : now ≤ u.gate.now) (lossless : u.gate.tally.outbox.dropped = 0) :
    (⟨quiet b policy sink now windows archived upkeep applied calls, .command c []⟩ : Visit Rat).Constant := by
  refine ⟨⟨⟨rfl, ?_⟩, ⟨⟨rfl, nofun⟩, ?_⟩, fun _ => rfl⟩, constant, word⟩
  · show _ ≤ (World.step _ _).2.gate.now
    rw [stepped]
    exact forward
  · show (World.step _ _).2.gate.tally.outbox.dropped = _
    rw [stepped]
    exact lossless

theorem constant_enter (word : now ≤ wordMax) : (⟨quiet b policy sink now windows archived upkeep applied calls,
    .command (.enter "a" "login" true) []⟩ : Visit Rat).Constant := by
  refine constant_quiet word rfl rfl ?_ ?_
  · obtain ⟨answer, _, entered⟩ := step_enter "a" "login" true [] (quiet b policy sink now windows archived upkeep applied calls)
    exact Nat.le_of_eq entered.frame.now.symm
  · rw [step_command, Command.run_enter]
    exact Gate.enter_room (room_quiet windows archived upkeep applied calls) "a" "login" true _

end

theorem looks_back {window age : Nat} {granularity : Duration} (early : age + 1 - window < windowWidth granularity) (start : Nat) :
    windowStart (max start (windowStart start granularity + age + 1) - window) granularity ≤ windowStart start granularity := by
  have next := lt_windowStart_add start granularity
  have positive := windowWidth_pos granularity
  rw [windowStart_eq] at next
  rw [windowStart_eq, windowStart_eq start]
  refine Nat.mul_le_mul_right _ (Nat.le_of_lt_succ ((Nat.div_lt_iff_lt_mul positive).2 ?_))
  rw [Nat.succ_mul]
  omega

def comeback (reading : Nat) (upkeep : List Move) : List Move :=
  [.command (.clock reading) []] ++ upkeep ++ [.command (.enter "a" "login" true) []]

section
variable {reading : Nat} (fits : reading ≤ wordMax) (forward : now ≤ reading)
include fits forward

theorem constant_comeback : ∀ v ∈ (tired b policy sink now n).visits (comeback reading []), v.Constant := by
  intro v member
  rcases List.mem_cons.1 member with rfl | member
  · exact constant_quiet (Nat.le_trans forward fits) rfl (step_clock reading) forward rfl
  · rcases List.mem_cons.1 member with rfl | member
    · exact constant_enter fits
    · cases member

theorem constant_maintained :
    ∀ v ∈ (tired b policy sink now n).visits (comeback reading [.command (.maintain true) []]), v.Constant := by
  intro v member
  rcases List.mem_cons.1 member with rfl | member
  · exact constant_quiet (Nat.le_trans forward fits) rfl (step_clock reading) forward rfl
  · rcases List.mem_cons.1 member with rfl | member
    · exact constant_quiet fits rfl step_forced (Nat.le_refl _) rfl
    · rcases List.mem_cons.1 member with rfl | member
      · rw [tired, step_clock, step_forced]
        exact constant_enter fits
      · cases member

end

theorem noticed_early (valid : b.config.Valid) (half : b.config.loginMaxAttempts ≤ halfMax)
    (made : Policy.ofConfig b.config = .ok policy) (early : ¬b.config.Retains)
    (fits : start + b.config.archiveAfter.millis < wordMax) :
    ¬(fresh b policy start .memory sink : World Rat).Unnoticed := by
  intro unnoticed
  obtain ⟨word, late⟩ := Config.early_of_not_retains valid early
  obtain ⟨burst, positive, _⟩ := valid.positive
  have rate := Quantity.ratOfDouble_pos valid.1
  have sound := Policy.usable_ofConfig made half
  obtain ⟨attempts, window⟩ := Policy.lowest_ofConfig made
  have small : b.config.loginMaxAttempts ≤ wordMax := Nat.le_trans half (by decide)
  have back := looks_back late start
  have begun := windowStart_le start b.config.windowGranularity
  generalize reached : max start (windowStart start b.config.windowGranularity + b.config.archiveAfter.millis + 1) = reading at back
  have forward : start ≤ reading := by omega
  have fits : reading ≤ wordMax := by omega
  have gone : windowStart start b.config.windowGranularity < reading - b.config.archiveAfter.millis := by omega
  obtain ⟨failed, constant⟩ := run_failing b policy sink (Nat.le_trans forward fits) small
  -- Told alike up to the last answer, the two runs are not told the same.
  have told (upkeep : List Move) : (fresh b policy start .memory sink : World Rat).visible
      (failing b.config.loginMaxAttempts ++ comeback reading upkeep) =
        (fresh b policy start .memory sink : World Rat).visible (failing b.config.loginMaxAttempts) ++
          (tired b policy sink start b.config.loginMaxAttempts).visible (comeback reading upkeep) := by
    rw [visible_append, failed]
  have same := (unnoticed (failing b.config.loginMaxAttempts ++ comeback reading [])
    (failing b.config.loginMaxAttempts ++ comeback reading [.command (.maintain true) []]) ?_ ?_ ?_).1
  · rw [told, told] at same
    have last := List.append_cancel_left same
    change [Reply.nothing, _] = [Reply.nothing, _] at last
    have answers := (List.cons.inj (List.cons.inj last).2).1
    rw [tired, step_clock, step_forced, failedRows_late gone] at answers
    obtain ⟨left, reason, denied⟩ := (quiet_enter rate burst sound attempts
      (failures_failedRows (window ▸ back) b.config.loginMaxAttempts)).1 (Nat.le_refl _)
    rw [denied, (quiet_enter rate burst sound attempts (show Memory.failures [] "a" "login" _ = 0 from rfl)).2 positive] at answers
    cases answers
  · rw [List.filter_append, List.filter_append]
    rfl
  · intro v member
    rw [visits_append, failed] at member
    exact (List.mem_append.1 member).elim (constant v) (constant_comeback fits forward v)
  · intro v member
    rw [visits_append, failed] at member
    exact (List.mem_append.1 member).elim (constant v) (constant_maintained fits forward v)

end World

end Turnstile
