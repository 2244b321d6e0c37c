import Turnstile.Proofs.Registry.Floor
namespace Turnstile.Standing

variable {now cutoff : Nat} {s t : Standing}

structure SameSince (now cutoff : Nat) (s t : Standing) : Prop where
  ban : s.activeBan now = t.activeBan now
  floor : s.floor.filter (cutoff ≤ ·) = t.floor.filter (cutoff ≤ ·)

theorem SameSince.refl (now cutoff : Nat) (s : Standing) : SameSince now cutoff s s := ⟨rfl, rfl⟩

theorem SameSince.symm (agree : SameSince now cutoff s t) : SameSince now cutoff t s := ⟨agree.ban.symm, agree.floor.symm⟩

-- Neither a ban that is over nor a mark makes a difference.
theorem SameSince.of_same {s' t' : Standing} (agree : SameSince now cutoff s t) (ban : s'.activeBan now = s.activeBan now)
    (floor : s'.floor = s.floor) (ban' : t'.activeBan now = t.activeBan now) (floor' : t'.floor = t.floor) :
    SameSince now cutoff s' t' :=
  ⟨by rw [ban, ban', agree.ban], by rw [floor, floor', agree.floor]⟩

theorem SameSince.floors (agree : SameSince now cutoff s t) :
    s.floor = t.floor ∨ (∀ f, s.floor = some f → f < cutoff) ∧ ∀ f, t.floor = some f → f < cutoff := by
  have same := agree.floor
  cases kept : s.floor.filter (cutoff ≤ ·) with
  | some f =>
    rw [kept] at same
    rw [Option.filter_eq_some_iff] at kept
    exact .inl (kept.1.trans (Option.filter_eq_some_iff.1 same.symm).1.symm)
  | none =>
    have below {floor : Option Nat} (dropped : floor.filter (cutoff ≤ ·) = none) : ∀ f, floor = some f → f < cutoff := by
      intro f found
      have low := Option.filter_eq_none_iff.1 dropped f found
      rw [decide_eq_true_eq] at low
      exact Nat.lt_of_not_le low
    rw [kept] at same
    exact .inr ⟨below kept, below same.symm⟩

theorem SameSince.later (agree : SameSince now cutoff s t) {next late : Nat} (forward : now ≤ next) (rising : cutoff ≤ late) :
    SameSince next late s t := by
  refine ⟨by rw [s.activeBan_later forward, t.activeBan_later forward, agree.ban], ?_⟩
  rcases agree.floors with same | ⟨low, low'⟩
  · rw [same]
  · have none {floor : Option Nat} (low : ∀ f, floor = some f → f < cutoff) : floor.filter (late ≤ ·) = none := by
      rw [Option.filter_eq_none_iff]
      intro f found
      have := low f found
      rw [decide_eq_true_eq]
      omega
    rw [none low, none low']

-- From the cutoff on, a floor that is moved up is moved to the same place.
theorem SameSince.raised (agree : SameSince now cutoff s t) {instant : Nat} (late : cutoff ≤ instant) :
    Standing.raised s.floor instant = Standing.raised t.floor instant := by
  rcases agree.floors with same | ⟨low, low'⟩
  · rw [same]
  · rw [raised_eq_of_le fun f found => Nat.le_trans (Nat.le_of_lt (low f found)) late,
      raised_eq_of_le fun f found => Nat.le_trans (Nat.le_of_lt (low' f found)) late]

theorem SameSince.prune (agree : SameSince now cutoff s t) (before : Nat) :
    SameSince now cutoff { s with floor := s.floor.filter (before ≤ ·) } { t with floor := t.floor.filter (before ≤ ·) } := by
  refine ⟨agree.ban, ?_⟩
  have swap (floor : Option Nat) : (floor.filter (before ≤ ·)).filter (cutoff ≤ ·) =
      (floor.filter (cutoff ≤ ·)).filter (before ≤ ·) := by
    rw [Option.filter_filter, Option.filter_filter]
    simp only [Bool.and_comm]
  show (s.floor.filter _).filter _ = (t.floor.filter _).filter _
  rw [swap, swap, agree.floor]

theorem SameSince.forget (agree : SameSince now cutoff s t) : SameSince now cutoff { s with floor := s.floor.filter (cutoff ≤ ·) } t := by
  refine ⟨agree.ban, ?_⟩
  show (s.floor.filter _).filter _ = _
  rw [Option.filter_filter]
  simp only [Bool.and_self]
  exact agree.floor

theorem SameSince.expire (agree : SameSince now cutoff s t) :
    SameSince now cutoff { s.dropMark now with ban := s.activeBan now } t :=
  agree.of_same (activeBan_activeBan s now) rfl rfl rfl

-- To reload what is known moves no floor: a ban that blocks has it at its deadline.
theorem floor_takes_known (grounded : ∀ b, s.activeBan now = some b → s.floor = some b.bannedUntil) :
    ((s.activeBan now).toList.foldl (take now) (s.dropMark now)).floor = s.floor := by
  cases known : s.activeBan now with
  | none => rfl
  | some b =>
    have floor := grounded b known
    have taken := take_cases now (s.dropMark now) b
    show ((s.dropMark now).take now b).floor = s.floor
    generalize (s.dropMark now).take now b = after at taken
    have raised : Standing.raised (s.dropMark now).floor b.bannedUntil = b.bannedUntil :=
      raised_eq_of_le fun f found => by
        cases floor.symm.trans found
        exact Nat.le_refl _
    cases taken with
    | shadowed => rfl
    | prolonged => exact (congrArg some raised).trans floor.symm
    | added => exact (congrArg some raised).trans floor.symm

theorem SameSince.reload (agree : SameSince now cutoff s t) (grounded : ∀ b, s.activeBan now = some b → s.floor = some b.bannedUntil) :
    SameSince now cutoff ((s.activeBan now).toList.foldl (take now) (s.dropMark now)) t :=
  agree.of_same (takes_known s now) (floor_takes_known grounded) rfl rfl

end Turnstile.Standing
