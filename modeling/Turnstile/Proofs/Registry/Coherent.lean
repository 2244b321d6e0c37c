import Turnstile.Proofs.Registry.Floor
import Turnstile.Proofs.Registry.Listing
namespace Turnstile

namespace Standing

variable {reach now next cutoff : Nat} {ended : Option Nat} {s : Standing} {row : Ban}

structure Coherent (now : Nat) (s : Standing) : Prop where
  unreleased : ∀ b, s.ban = some b → b.releasedAt = none
  active : ∀ b, s.activeBan now = some b → s.floor = some b.bannedUntil
  past : s.activeBan now = none → ∀ f, s.floor = some f → f ≤ now

theorem coherent_empty (now : Nat) : Coherent now ⟨none, none, none⟩ := ⟨nofun, nofun, nofun⟩

-- A coherent floor is one that follows an end, namely itself.
theorem Coherent.tracks (coherent : Coherent now s) : Tracks 0 now s.floor s where
  active := coherent.active
  finished := coherent.past
  floor _ _ found := found
  forgotten _ gone x found := by
    rw [gone] at found
    cases found

theorem Tracks.coherent (tracks : Tracks reach now ended s) (unreleased : ∀ b, s.ban = some b → b.releasedAt = none) :
    Coherent now s where
  unreleased := unreleased
  active := tracks.active
  past free f found := tracks.finished free f (tracks.floor free f found)

theorem Coherent.later (coherent : Coherent now s) (forward : now ≤ next) : Coherent next s :=
  (coherent.tracks.later coherent.active forward).coherent coherent.unreleased

theorem Coherent.take (coherent : Coherent now s) (live : row.isActive now = true) : Coherent now (s.take now row) := by
  refine (coherent.tracks.take live).coherent fun b found => ?_
  have taken := take_cases now s row
  generalize s.take now row = after at taken found
  cases taken with
  | shadowed => exact coherent.unreleased b found
  | @prolonged old plain active =>
    cases found
    rw [releasedAt_prolong]
    exact (activeBan_eq_some.1 active).2.1
  | added plain free =>
    cases found
    exact ((Ban.isActive_iff _ _).1 live).1

theorem Coherent.takes (coherent : Coherent now s) (rows : List Ban) (live : ∀ row ∈ rows, row.isActive now = true) :
    Coherent now (rows.foldl (Standing.take now) s) := by
  induction rows generalizing s with
  | nil => exact coherent
  | cons row rest ih =>
    exact ih (coherent.take (live row List.mem_cons_self)) fun later member =>
      live later (List.mem_cons_of_mem _ member)

theorem Coherent.dropMark (coherent : Coherent now s) : Coherent now (s.dropMark now) :=
  ⟨coherent.unreleased, coherent.active, coherent.past⟩

theorem Coherent.expire (coherent : Coherent now s) : Coherent now { s.dropMark now with ban := s.activeBan now } := by
  have tracks := coherent.tracks.same (t := { s.dropMark now with ban := s.activeBan now })
    (activeBan_activeBan s now) rfl
  exact tracks.coherent fun b found => (activeBan_eq_some.1 found).2.1

-- No floor is forgotten that lies ahead, and none of a ban that blocks.
theorem Coherent.prune (coherent : Coherent now s) (early : cutoff ≤ now) :
    Coherent now { s with floor := s.floor.filter (cutoff ≤ ·) } :=
  (coherent.tracks.prune early).coherent coherent.unreleased

theorem Coherent.released (coherent : Coherent now s) :
    Coherent now (match s.activeBan now with
      | none => { s with ban := none }
      | some b => ⟨none, some now, some ⟨now, b.bannedUntil⟩⟩) := by
  cases active : s.activeBan now with
  | none => exact ⟨nofun, nofun, fun _ => coherent.past active⟩
  | some b =>
    refine ⟨nofun, nofun, fun _ f found => ?_⟩
    cases found
    exact Nat.le_refl _

end Standing

namespace Registry

variable {r : Registry} {now next cutoff : Nat}

structure Coherent (now : Nat) (r : Registry) : Prop where
  addressed : r.Addressed
  each : ∀ address, (r.standing address).Coherent now

theorem coherent_empty (now : Nat) : Registry.empty.Coherent now :=
  ⟨addressed_empty, fun _ => Standing.coherent_empty now⟩

theorem Coherent.later (coherent : r.Coherent now) (forward : now ≤ next) : r.Coherent next :=
  ⟨coherent.addressed, fun address => (coherent.each address).later forward⟩

theorem Coherent.ban (coherent : r.Coherent now) (address reason : String) (d : Duration) (failures : Nat)
    (actor : String) : (r.ban now address reason d failures actor).2.2.Coherent now := by
  refine ⟨coherent.addressed.ban _ _ _ _ _ _, fun client => ?_⟩
  refine (tracks_ban (coherent.each client).tracks address reason d failures actor).coherent fun b found => ?_
  rw [standing_ban] at found
  split at found
  · cases found
    exact (banned_live _ now address reason d failures actor).1
  · exact (coherent.each client).unreleased b found

theorem Coherent.unban (coherent : r.Coherent now) (address : String) : (r.unban now address).2.Coherent now := by
  refine ⟨coherent.addressed.unban _ _, fun client => ?_⟩
  rw [standing_unban]
  split
  · exact (coherent.each address).released
  · exact coherent.each client

theorem Coherent.merge (coherent : r.Coherent now) {rows : List Ban} (live : ∀ row ∈ rows, row.isActive now = true) :
    (r.merge now rows).2.Coherent now := by
  refine ⟨coherent.addressed.merge _ _, fun client => ?_⟩
  rw [standing_merge]
  exact (coherent.each client).dropMark.takes _ fun row member => live row (List.mem_filter.1 member).1

theorem Coherent.expire (coherent : r.Coherent now) : (r.expire now).2.Coherent now := by
  refine ⟨coherent.addressed.expire _, fun client => ?_⟩
  rw [standing_expire]
  exact (coherent.each client).expire

theorem Coherent.pruneFloors (coherent : r.Coherent now) (early : cutoff ≤ now) :
    (r.pruneFloors cutoff).2.Coherent now := by
  refine ⟨coherent.addressed.pruneFloors _, fun client => ?_⟩
  rw [standing_pruneFloors]
  exact (coherent.each client).prune early

end Registry

end Turnstile
