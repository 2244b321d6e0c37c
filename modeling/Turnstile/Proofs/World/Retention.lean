import Turnstile.Proofs.World.EarlyArchive
namespace Turnstile

def Reply.admission? : Reply → Option Admission
  | .admission (.ok a) => some a
  | _ => none

namespace World

variable {b : Blueprint} {policy : Policy} {start : Nat} {sink : Sink} {w : World Rat}

theorem indistinct_fresh (valid : b.config.Valid) (policy : Policy) (start : Nat) (sink : Sink) :
    (fresh b policy start .memory sink : World Rat).Indistinct (fresh b policy start .memory sink) := by
  have limiter := Limiter.SameLevels.refl (Limiter.sound_start (Quantity.ratOfDouble_pos valid.1) valid.positive.1 start)
  exact ⟨⟨rfl, rfl, rfl, rfl, limiter, fun _ => .refl _ _ _⟩, Iff.rfl, rfl, .empty, .empty, rfl, rfl, rfl⟩

-- A gate whose policy is the one of its configuration is maintained unnoticed if windows are kept for long enough, and only then.
-- For the converse there has to be time for the archive to take a window, and thresholds are stored within 32 bits.
theorem unnoticed_iff_retains (built : World.build b start .memory sink = .ok w) (derived : b.policy = none) :
    (b.config.Retains → w.Unnoticed) ∧
      (start + b.config.archiveAfter.millis < wordMax → b.config.loginMaxAttempts ≤ halfMax → w.Unnoticed → b.config.Retains) := by
  have valid := (Config.fault?_eq_none_iff _).1 (World.built built).config
  have described := Policy.ofConfig_valid valid
  have chosen : b.choosePolicy = Policy.ofConfig b.config := by
    unfold Blueprint.choosePolicy
    rw [derived]
  have sane := Sane.built (World.built built)
  rw [build_fresh valid (chosen.trans described)] at built
  cases built
  refine ⟨fun retains => (indistinct_fresh valid _ start sink).unnoticed sane retains, fun fits half unnoticed => ?_⟩
  by_contra early
  exact noticed_early valid half described early fits unnoticed

def keeping (days : Nat) : Config :=
  { Config.standard with loginWindowSecs := 172800, loginMaxAttempts := 2, archiveAfterDays := days, archiveSweepSecs := 864000 }

def keeper (days : Nat) : World Rat :=
  fresh ⟨keeping days, none, none⟩ ⟨[⟨2, .ofSecs 300⟩], .ofSecs 172800, Policy.loginReason⟩ 0 .memory (.ofMedium .log)

def oneDayLater (upkeep : List Move) : List Move :=
  [.command (.maintain false) [], .command (.login "c" "login" "root" false none) [], .flush,
    .command (.login "c" "login" "root" false none) [], .flush, .command (.enter "c" "login" true) [], .flush,
    .command (.clock 87000000) [], .command (.enter "c" "login" true) []] ++ upkeep ++
    [.command (.enter "c" "login" true) []]

theorem three_days_suffice :
    (keeper 3).visible (oneDayLater [.command (.maintain false) []]) = (keeper 3).visible (oneDayLater []) ∧
      ((keeper 3).run (oneDayLater [.command (.maintain false) []])).gate.bannedClients =
        ((keeper 3).run (oneDayLater [])).gate.bannedClients := by
  have built : World.build ⟨keeping 3, none, none⟩ 0 .memory (.ofMedium .log) = .ok (keeper 3) :=
    build_fresh ⟨by decide +kernel, by decide +kernel⟩ rfl 0 .memory (.ofMedium .log)
  exact (unnoticed_iff_retains built rfl).1 (by decide) (oneDayLater []) (oneDayLater [.command (.maintain false) []]) rfl
    (by decide +kernel) (by decide +kernel)

-- After one day the floor of the ban is forgotten while its failures still count: the client is banned for them again.
theorem one_day_bans_again :
    World.build ⟨keeping 1, none, none⟩ 0 .memory (.ofMedium .log) = .ok (keeper 1) ∧
      (∀ v ∈ (keeper 1).visits (oneDayLater []), v.Constant) ∧
      (∀ v ∈ (keeper 1).visits (oneDayLater [.command (.maintain false) []]), v.Constant) ∧
      ((keeper 1).visible (oneDayLater [])).filterMap Reply.admission? =
        [.banned (.ofSecs 300) Policy.loginReason, .admitted, .admitted] ∧
      ((keeper 1).visible (oneDayLater [.command (.maintain false) []])).filterMap Reply.admission? =
        [.banned (.ofSecs 300) Policy.loginReason, .admitted, .banned (.ofSecs 300) Policy.loginReason] := by
  have built : World.build ⟨keeping 1, none, none⟩ 0 .memory (.ofMedium .log) = .ok (keeper 1) :=
    build_fresh ⟨by decide +kernel, by decide +kernel⟩ rfl 0 .memory (.ofMedium .log)
  exact ⟨built, by decide +kernel, by decide +kernel, by decide +kernel, by decide +kernel⟩

end World

end Turnstile
