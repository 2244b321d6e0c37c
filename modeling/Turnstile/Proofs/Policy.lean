import Turnstile.Proofs.Gate.Effects
import Turnstile.Proofs.Tiers
namespace Turnstile

namespace Config

theorem Valid.positive {c : Config} (valid : c.Valid) :
    0 < c.burst ∧ 0 < c.loginMaxAttempts ∧ 0 < c.loginWindowSecs ∧ 0 < c.banDurationSecs ∧ 0 < c.windowGranularitySecs := by
  refine ⟨valid.2 ("globalBurst", _) ?_, valid.2 ("loginMaxAttempts", _) ?_, valid.2 ("loginWindowSecs", _) ?_,
    valid.2 ("banDurationSecs", _) ?_, valid.2 ("windowGranularitySecs", _) ?_⟩ <;>
    simp only [positiveFields, List.mem_cons, true_or, or_true]

end Config

namespace Admission

-- What no ban may state: nothing at all, or a reason of the gate's own.
def Reserved (reason : String) : Prop := reason = "" ∨ reason = limitedReason ∨ reason = okReason

instance : DecidablePred Reserved := fun _ => inferInstanceAs (Decidable (_ ∨ _ ∨ _))

end Admission

namespace Gate

variable {client reason : String} {d : Duration}

theorem banFault?_of_long (valid : Client.Valid client) (long : d.nanos ≠ 0) :
    banFault? client reason d = if Admission.Reserved reason then some (.banReason reason) else none := by
  unfold banFault? Duration.isZero
  rw [show Client.fault? client = none from valid]
  simp only [beq_iff_eq, long, if_false]
  rfl

theorem banFault?_eq_none :
    banFault? client reason d = none ↔ Client.Valid client ∧ d.nanos ≠ 0 ∧ ¬Admission.Reserved reason := by
  by_cases valid : Client.Valid client
  · by_cases long : d.nanos = 0
    · unfold banFault? Duration.isZero
      rw [show Client.fault? client = none from valid]
      simp [long]
    · simp [banFault?_of_long valid long, valid, long]
  · unfold banFault?
    cases faulty : Client.fault? client with
    | none => exact absurd faulty valid
    | some fault => simp [valid]

end Gate

namespace Policy

variable {p : Policy} {count : Nat} {tier : Tier}

def lowest? (p : Policy) : Option Nat := (p.tiers.map (·.threshold)).min?

theorem lowest_le {least : Nat} (lowest : p.lowest? = some least) (count : Nat) :
    (p.tierFor count).isSome ↔ least ≤ count := by
  obtain ⟨member, below⟩ := List.min?_eq_some_iff.1 lowest
  obtain ⟨tier, there, same⟩ := List.mem_map.1 member
  rw [tierFor_isSome]
  constructor
  · rintro ⟨other, member, reached⟩
    exact Nat.le_trans (below _ (List.mem_map_of_mem member)) reached
  · intro le
    exact ⟨tier, there, by rw [same]; exact le⟩

theorem lowest_of_reached (reached : p.tierFor count = some tier) : ∃ least, p.lowest? = some least ∧ least ≤ count := by
  cases lowest : p.lowest? with
  | none =>
    rw [lowest?, List.min?_eq_none_iff, List.map_eq_nil_iff] at lowest
    have member := (tierFor_eq_some reached).1
    rw [lowest] at member
    cases member
  | some least => exact ⟨least, rfl, (lowest_le lowest count).1 (by rw [reached]; rfl)⟩

-- A policy judges counts over its own window, so that they are taken as they are.
theorem verdict_window (p : Policy) (count : Nat) : p.verdict count p.window = p.tierFor count := by
  unfold verdict
  rw [effective_of_le (Nat.le_refl _)]

-- As a table is made, with thresholds as they are stored and a reason that is no reserved one.
structure Usable (p : Policy) : Prop where
  tiers : fault? p.tiers = none
  small : ∀ tier ∈ p.tiers, tier.threshold ≤ halfMax
  reason : p.reason ≠ "" ∧ p.reason ≠ Admission.limitedReason ∧ p.reason ≠ Admission.okReason

theorem Usable.lowest (sound : p.Usable) : ∃ least, p.lowest? = some least ∧ least ≤ halfMax := by
  have filled := ((fault?_eq_none_iff _).1 sound.tiers).1
  cases lowest : p.lowest? with
  | none =>
    rw [lowest?, List.min?_eq_none_iff, List.map_eq_nil_iff] at lowest
    exact absurd lowest filled
  | some least =>
    obtain ⟨tier, member, same⟩ := List.mem_map.1 (List.min?_eq_some_iff.1 lowest).1
    exact ⟨least, rfl, same ▸ sound.small tier member⟩

theorem Usable.accepted (sound : p.Usable) (member : tier ∈ p.tiers) {client : String} (valid : Client.Valid client) :
    Gate.banFault? client p.reason tier.duration = none := by
  obtain ⟨filled, limited, ok⟩ := sound.reason
  refine Gate.banFault?_eq_none.2 ⟨valid, Nat.ne_of_gt (((fault?_eq_none_iff _).1 sound.tiers).2.lasting tier member), ?_⟩
  rintro (same | same | same)
  · exact filled same
  · exact limited same
  · exact ok same

theorem loginReason_free :
    loginReason ≠ "" ∧ loginReason ≠ Admission.limitedReason ∧ loginReason ≠ Admission.okReason := by decide

theorem usable_ofConfig {c : Config} (made : ofConfig c = .ok p) (fits : c.loginMaxAttempts ≤ halfMax) : p.Usable := by
  unfold ofConfig make at made
  split at made
  · cases made
  · rename_i faultless
    cases made
    refine ⟨faultless, fun tier member => ?_, loginReason_free⟩
    rw [List.mem_singleton.1 member]
    exact fits

theorem ofConfig_valid {c : Config} (valid : c.Valid) :
    ofConfig c = .ok ⟨[⟨c.loginMaxAttempts, c.banDuration⟩], c.loginWindow, loginReason⟩ := by
  obtain ⟨_, attempts, _, length, _⟩ := valid.positive
  have long : c.banDuration.nanos ≠ 0 := by
    unfold Config.banDuration Duration.ofSecs
    dsimp only
    omega
  have faultless : fault? [⟨c.loginMaxAttempts, c.banDuration⟩] = none := by
    simp only [fault?, tierFault?, List.isEmpty_cons, Bool.false_eq_true, if_false, Nat.ne_of_gt attempts, long]
  unfold ofConfig make
  rw [faultless]

theorem lowest_ofConfig {c : Config} (made : ofConfig c = .ok p) :
    p.lowest? = some c.loginMaxAttempts ∧ p.window = c.loginWindow := by
  unfold ofConfig make at made
  split at made
  · cases made
  · cases made
    exact ⟨rfl, rfl⟩

theorem tierFor_zero (faultless : fault? p.tiers = none) : p.tierFor 0 = none := by
  refine Option.eq_none_iff_forall_ne_some.2 fun tier found => ?_
  obtain ⟨member, reached⟩ := tierFor_eq_some found
  exact Nat.ne_of_gt (((fault?_eq_none_iff _).1 faultless).2.reachable tier member) (Nat.le_zero.1 reached)

end Policy

end Turnstile
