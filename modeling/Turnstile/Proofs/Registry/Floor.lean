import Turnstile.Proofs.Registry.Standing
namespace Turnstile

namespace Standing

-- `ended` is where the latest ban ended, and `reach` the time after which an end is too old to matter.
structure Tracks (reach now : Nat) (ended : Option Nat) (s : Standing) : Prop where
  active : ∀ b, s.activeBan now = some b → s.floor = some b.bannedUntil
  finished : s.activeBan now = none → ∀ x, ended = some x → x ≤ now
  floor : s.activeBan now = none → ∀ f, s.floor = some f → ended = some f
  forgotten : s.activeBan now = none → s.floor = none → ∀ x, ended = some x → x < now - reach

def endAfter (now : Nat) (ended : Option Nat) (s : Standing) : Option Nat :=
  match s.activeBan now with
  | some b => some b.bannedUntil
  | none => ended.map (min now)

variable {reach now cutoff : Nat} {ended : Option Nat} {s : Standing} {b row : Ban}

theorem tracks_empty (reach now : Nat) : Tracks reach now none ⟨none, none, none⟩ where
  active _ found := nomatch found
  finished _ _ found := nomatch found
  floor _ _ found := nomatch found
  forgotten _ _ _ found := nomatch found

theorem tracks_of_active (active : s.activeBan now = some b) (floor : s.floor = some b.bannedUntil) :
    Tracks reach now ended s where
  active other found := by
    rw [active] at found
    cases found
    exact floor
  finished free := by rw [active] at free; cases free
  floor free := by rw [active] at free; cases free
  forgotten free := by rw [active] at free; cases free

-- No floor lies above the deadline of a ban that begins, or goes on, now.
theorem Tracks.raised (tracks : Tracks reach now ended s) {instant : Nat} (later : now ≤ instant)
    (longer : ∀ b, s.activeBan now = some b → b.bannedUntil ≤ instant) :
    Standing.raised s.floor instant = instant := by
  refine raised_eq_of_le fun f found => ?_
  cases active : s.activeBan now with
  | some b =>
    rw [tracks.active b active] at found
    cases found
    exact longer b active
  | none => exact Nat.le_trans (tracks.finished active f (tracks.floor active f found)) later

theorem Tracks.take (tracks : Tracks reach now ended s) (live : row.isActive now = true) :
    Tracks reach now ended (s.take now row) := by
  rw [Ban.isActive_iff] at live
  have taken := take_cases now s row
  generalize s.take now row = after at taken
  cases taken with
  | shadowed => exact tracks
  | @prolonged b plain active =>
    have kept := activeBan_eq_some.1 active
    refine tracks_of_active (b := prolong b row) (activeBan_eq_some.2 ⟨rfl, ?_, ?_⟩) ?_
    · rw [releasedAt_prolong]; exact kept.2.1
    · rw [bannedUntil_prolong]; omega
    · rw [bannedUntil_prolong, tracks.active b active]
      rfl
  | added plain free =>
    refine tracks_of_active (activeBan_eq_some.2 ⟨rfl, live⟩) ?_
    rw [tracks.raised (Nat.le_of_lt live.2) fun b active => by rw [free] at active; cases active]

theorem Tracks.takes (tracks : Tracks reach now ended s) (rows : List Ban)
    (live : ∀ row ∈ rows, row.isActive now = true) :
    Tracks reach now ended (rows.foldl (Standing.take now) s) := by
  induction rows generalizing s with
  | nil => exact tracks
  | cons row rest ih =>
    exact ih (tracks.take (live row List.mem_cons_self)) fun later member =>
      live later (List.mem_cons_of_mem _ member)

-- What is neither ban nor floor makes no difference, and neither does a ban that is over.
theorem Tracks.same {t : Standing} (tracks : Tracks reach now ended s) (ban : t.activeBan now = s.activeBan now)
    (floor : t.floor = s.floor) : Tracks reach now ended t where
  active b found := by rw [floor]; exact tracks.active b (ban ▸ found)
  finished free := tracks.finished (ban ▸ free)
  floor free f found := tracks.floor (ban ▸ free) f (floor ▸ found)
  forgotten free gone := tracks.forgotten (ban ▸ free) (floor ▸ gone)

theorem Tracks.prune (tracks : Tracks reach now ended s) (early : cutoff ≤ now - reach) :
    Tracks reach now ended { s with floor := s.floor.filter (cutoff ≤ ·) } where
  active b found := by
    have live := (activeBan_eq_some.1 found).2.2
    have floor := tracks.active b found
    show s.floor.filter _ = _
    rw [floor, Option.filter_some, if_pos (decide_eq_true (by omega))]
  finished := tracks.finished
  floor free f found := by
    rw [Option.filter_eq_some_iff] at found
    exact tracks.floor free f found.1
  forgotten free gone x ends := by
    cases found : s.floor with
    | none => exact tracks.forgotten free found x ends
    | some f =>
      have same := tracks.floor free f found
      rw [ends] at same
      cases same
      change s.floor.filter _ = none at gone
      rw [found, Option.filter_eq_none_iff] at gone
      have below := gone x rfl
      rw [decide_eq_true_eq] at below
      omega

theorem Tracks.settle (tracks : Tracks reach now ended s) :
    Tracks reach now (endAfter now ended s) s ∧
      ∀ b, s.activeBan now = some b → endAfter now ended s = some b.bannedUntil := by
  unfold endAfter
  cases active : s.activeBan now with
  | some b => exact ⟨tracks_of_active active (tracks.active b active), fun other same => by cases same; rfl⟩
  | none =>
    have same : ended.map (min now) = ended := by
      cases found : ended with
      | none => rfl
      | some x => exact congrArg some (Nat.min_eq_right (tracks.finished active x found))
    rw [same]
    exact ⟨tracks, nofun⟩

theorem Tracks.later (tracks : Tracks reach now ended s)
    (current : ∀ b, s.activeBan now = some b → ended = some b.bannedUntil) {next : Nat} (forward : now ≤ next) :
    Tracks reach next ended s := by
  cases still : s.activeBan next with
  | some b =>
    have kept := activeBan_eq_some.1 still
    have before : s.activeBan now = some b := activeBan_eq_some.2 ⟨kept.1, kept.2.1, by omega⟩
    exact tracks_of_active still (tracks.active b before)
  | none =>
    cases active : s.activeBan now with
    | none =>
      exact ⟨fun b found => absurd found (by rw [still]; exact nofun),
        fun _ x found => Nat.le_trans (tracks.finished active x found) forward,
        fun _ => tracks.floor active, fun _ gone x found => by
          have old := tracks.forgotten active gone x found
          omega⟩
    | some b =>
      have kept := activeBan_eq_some.1 active
      have finished : ¬ next < b.bannedUntil := fun live =>
        absurd (activeBan_eq_some.2 ⟨kept.1, kept.2.1, live⟩) (by rw [still]; exact nofun)
      have floor := tracks.active b active
      have ends := current b active
      refine ⟨fun b found => absurd found (by rw [still]; exact nofun), fun _ x found => ?_, fun _ f found => ?_,
        fun _ gone => absurd gone (by rw [floor]; exact nofun)⟩
      · rw [ends] at found
        cases found
        omega
      · rw [ends, ← floor, found]

structure Follows (reach now : Nat) (ended : Option Nat) (s : Standing) : Prop where
  tracks : Tracks reach now ended s
  current : ∀ b, s.activeBan now = some b → ended = some b.bannedUntil

theorem Tracks.follows (tracks : Tracks reach now ended s) : Follows reach now (endAfter now ended s) s :=
  ⟨tracks.settle.1, tracks.settle.2⟩

-- A release by hand moves the end to the present.
theorem follows_released {x : Nat} (ends : ended = some x) (live : now ≤ x) (mark : Option ReleaseMark) :
    Follows reach now (endAfter now ended ⟨none, some now, mark⟩) ⟨none, some now, mark⟩ := by
  have moved : endAfter now ended ⟨none, some now, mark⟩ = some now := by
    rw [ends]
    exact congrArg some (Nat.min_eq_left live)
  rw [moved]
  refine ⟨⟨nofun, fun _ x same => ?_, fun _ f same => same, nofun⟩, nofun⟩
  cases same
  exact Nat.le_refl _

end Standing

namespace Registry

variable {now : Nat} {client : String}

theorem tracks_ban {reach : Nat} {ended : Option Nat} {r : Registry}
    (tracks : (r.standing client).Tracks reach now ended) (address reason : String) (d : Duration) (failures : Nat)
    (actor : String) :
    ((r.ban now address reason d failures actor).2.2.standing client).Tracks reach now ended := by
  rw [standing_ban]
  split
  · rename_i same
    subst same
    obtain ⟨unreleased, live, longer⟩ := banned_live (r.standing client) now client reason d failures actor
    refine Standing.tracks_of_active (Standing.activeBan_eq_some.2 ⟨rfl, unreleased, live⟩) ?_
    rw [tracks.raised (Nat.le_of_lt live) longer]
  · exact tracks

end Registry

end Turnstile
