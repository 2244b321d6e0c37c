import Turnstile.Proofs.Registry.Standing
-- While the registry holds a mark, it takes in no row that began before the release; while it holds a ban, it takes nothing from
-- a row that ends sooner. A row that outlasts both comes back.
namespace Turnstile

structure BanCall where
  reading : Nat
  deadline : Nat
deriving DecidableEq

structure Backed (keeps : Nat → Nat) (calls : List BanCall) (begins ends : Nat) : Prop where
  begun : ∃ call ∈ calls, begins = call.reading ∨ begins = keeps call.reading
  ended : ∃ call ∈ calls, ends = call.deadline ∨ ends = keeps call.deadline

instance (keeps : Nat → Nat) (calls : List BanCall) (begins ends : Nat) : Decidable (Backed keeps calls begins ends) :=
  decidable_of_iff ((∃ call ∈ calls, begins = call.reading ∨ begins = keeps call.reading) ∧
      ∃ call ∈ calls, ends = call.deadline ∨ ends = keeps call.deadline)
    ⟨fun ⟨begun, ended⟩ => ⟨begun, ended⟩, fun ⟨begun, ended⟩ => ⟨begun, ended⟩⟩

theorem Backed.append {keeps : Nat → Nat} {calls : List BanCall} {begins ends : Nat}
    (backed : Backed keeps calls begins ends) (more : List BanCall) :
    Backed keeps (calls ++ more) begins ends := by
  obtain ⟨⟨first, there, begun⟩, ⟨last, here, ended⟩⟩ := backed
  exact ⟨⟨first, List.mem_append_left _ there, begun⟩, ⟨last, List.mem_append_left _ here, ended⟩⟩

namespace Standing

-- Nothing stands in the way of a row with this deadline, or will not do so any more when the time comes.
structure Outlasted (now ends : Nat) (s : Standing) : Prop where
  live : now < ends
  ban : ∀ b, s.activeBan now = some b → b.bannedUntil < ends
  mark : ∀ mark, s.mark = some mark → mark.bannedUntil < ends

instance (now ends : Nat) (s : Standing) : Decidable (s.Outlasted now ends) :=
  decidable_of_iff (now < ends ∧ (∀ b ∈ s.activeBan now, b.bannedUntil < ends) ∧
      ∀ mark ∈ s.mark, mark.bannedUntil < ends)
    ⟨fun ⟨live, ban, mark⟩ => ⟨live, ban, mark⟩, fun ⟨live, ban, mark⟩ => ⟨live, ban, mark⟩⟩

-- `rows` tells beginning and deadline of the rows that the store lists or may come to list.
structure Guarded (rows : Nat → Nat → Prop) (now : Nat) (s : Standing) : Prop where
  marked : ∀ mark, s.mark = some mark → s.ban = none
  older : ∀ mark, s.mark = some mark → ∀ begins ends, rows begins ends → begins ≤ mark.releasedAt
  past : ∀ begins ends, rows begins ends → begins ≤ now
  begun : ∀ b, s.ban = some b → b.bannedAt ≤ now

-- The ban that blocks is known to come from certain calls, and no other row can come back.
structure Secured (keeps : Nat → Nat) (calls : List BanCall) (rows : Nat → Nat → Prop) (now : Nat) (s : Standing) :
    Prop where
  active : ∀ b, s.activeBan now = some b → Backed keeps calls b.bannedAt b.bannedUntil
  covered : ∀ begins ends, rows begins ends → s.Outlasted now ends → Backed keeps calls begins ends

variable {rows fewer : Nat → Nat → Prop} {now next : Nat} {s t : Standing} {keeps : Nat → Nat} {calls : List BanCall}
variable {b row : Ban} {mark : ReleaseMark}

theorem Guarded.unmarked (guarded : Guarded rows now s) (active : s.activeBan now = some b) : s.mark = none := by
  cases found : s.mark with
  | none => rfl
  | some mark =>
    have gone := guarded.marked mark found
    rw [(activeBan_eq_some.1 active).1] at gone
    cases gone

theorem Guarded.plain (guarded : Guarded rows now s) (lists : rows row.bannedAt row.bannedUntil)
    (plain : ¬ s.shadows row) : s.mark = none := by
  cases found : s.mark with
  | none => rfl
  | some mark => exact absurd ⟨mark, found, guarded.older mark found _ _ lists⟩ plain

theorem Guarded.later (guarded : Guarded rows now s) (shrinks : ∀ begins ends, fewer begins ends → rows begins ends)
    (forward : now ≤ next) : Guarded fewer next s where
  marked := guarded.marked
  older mark found begins ends lists := guarded.older mark found begins ends (shrinks begins ends lists)
  past begins ends lists := Nat.le_trans (guarded.past begins ends (shrinks begins ends lists)) forward
  begun b found := Nat.le_trans (guarded.begun b found) forward

theorem Outlasted.earlier {ends : Nat} (outlasted : s.Outlasted next ends) (forward : now ≤ next) :
    s.Outlasted now ends where
  live := Nat.lt_of_le_of_lt forward outlasted.live
  ban b active := by
    have kept := activeBan_eq_some.1 active
    by_cases still : next < b.bannedUntil
    · exact outlasted.ban b (activeBan_eq_some.2 ⟨kept.1, kept.2.1, still⟩)
    · exact Nat.lt_of_le_of_lt (Nat.le_of_not_lt still) outlasted.live
  mark := outlasted.mark

theorem activeBan_earlier (active : s.activeBan next = some b) (forward : now ≤ next) : s.activeBan now = some b := by
  have kept := activeBan_eq_some.1 active
  exact activeBan_eq_some.2 ⟨kept.1, kept.2.1, Nat.lt_of_le_of_lt forward kept.2.2⟩

theorem Secured.later (secured : Secured keeps calls rows now s)
    (shrinks : ∀ begins ends, fewer begins ends → rows begins ends) (forward : now ≤ next) :
    Secured keeps calls fewer next s where
  active b found := secured.active b (activeBan_earlier found forward)
  covered begins ends lists outlasted := secured.covered begins ends (shrinks begins ends lists) (outlasted.earlier forward)

-- Nothing that stood in the way of a row is gone.
theorem Secured.same (secured : Secured keeps calls rows now s) (ban : t.activeBan now = s.activeBan now)
    (mark : ∀ ends, now < ends → (∀ mark, t.mark = some mark → mark.bannedUntil < ends) →
      ∀ mark, s.mark = some mark → mark.bannedUntil < ends) : Secured keeps calls rows now t where
  active b found := secured.active b (ban ▸ found)
  covered begins ends lists outlasted := secured.covered begins ends lists
    ⟨outlasted.live, fun b found => outlasted.ban b (ban ▸ found), mark ends outlasted.live outlasted.mark⟩

-- A row that outlasts what stands in its way is taken in at last.
theorem Outlasted.take (outlasted : s.Outlasted now row.bannedUntil) (unreleased : row.releasedAt = none) :
    ((s.dropMark (row.bannedUntil - 1)).take (row.bannedUntil - 1) row).activeBan (row.bannedUntil - 1) = some row := by
  have live := outlasted.live
  have forward : now ≤ row.bannedUntil - 1 := by omega
  have taken := take_cases (row.bannedUntil - 1) (s.dropMark (row.bannedUntil - 1)) row
  generalize (s.dropMark (row.bannedUntil - 1)).take (row.bannedUntil - 1) row = after at taken
  cases taken with
  | shadowed hidden =>
    obtain ⟨mark, found, _⟩ := hidden
    obtain ⟨there, kept⟩ := Option.filter_eq_some_iff.1 found
    have before := outlasted.mark mark there
    have later := of_decide_eq_true kept
    omega
  | prolonged plain active =>
    have before := outlasted.ban _ (activeBan_earlier (s := s) active forward)
    have later := (activeBan_eq_some.1 active).2.2
    omega
  | added plain free => exact activeBan_eq_some.2 ⟨rfl, unreleased, by omega⟩

theorem Guarded.dropMark (guarded : Guarded rows now s) : Guarded rows now (s.dropMark now) where
  marked mark found := guarded.marked mark (Option.filter_eq_some_iff.1 found).1
  older mark found := guarded.older mark (Option.filter_eq_some_iff.1 found).1
  past := guarded.past
  begun := guarded.begun

-- A mark that is dropped stood in the way of nothing that is still to come.
theorem Secured.dropMark (secured : Secured keeps calls rows now s) : Secured keeps calls rows now (s.dropMark now) := by
  refine secured.same rfl fun ends live rest mark found => ?_
  by_cases kept : now < mark.bannedUntil
  · exact rest mark (Option.filter_eq_some_iff.2 ⟨found, decide_eq_true kept⟩)
  · exact Nat.lt_of_le_of_lt (Nat.le_of_not_lt kept) live

theorem Guarded.expire (guarded : Guarded rows now s) :
    Guarded rows now { s.dropMark now with ban := s.activeBan now } where
  marked mark found := by
    have gone := guarded.dropMark.marked mark found
    show s.ban.filter _ = none
    rw [show s.ban = none from gone]
    rfl
  older := guarded.dropMark.older
  past := guarded.past
  begun b found := guarded.begun b (activeBan_eq_some.1 found).1

theorem Secured.expire (secured : Secured keeps calls rows now s) :
    Secured keeps calls rows now { s.dropMark now with ban := s.activeBan now } :=
  secured.dropMark.same (activeBan_activeBan s now) fun _ _ rest => rest

theorem Guarded.of_unmarked (unmarked : s.mark = none) (past : ∀ begins ends, rows begins ends → begins ≤ now)
    (begun : ∀ b, s.ban = some b → b.bannedAt ≤ now) : Guarded rows now s where
  marked mark found := by
    rw [unmarked] at found
    cases found
  older mark found := by
    rw [unmarked] at found
    cases found
  past := past
  begun := begun

theorem Outlasted.of_unmarked {ends : Nat} (unmarked : s.mark = none) (live : now < ends)
    (ban : ∀ b, s.activeBan now = some b → b.bannedUntil < ends) : s.Outlasted now ends where
  live := live
  ban := ban
  mark mark found := by
    rw [unmarked] at found
    cases found

theorem Guarded.take (guarded : Guarded rows now s) (lists : rows row.bannedAt row.bannedUntil) :
    Guarded rows now (s.take now row) := by
  have taken := take_cases now s row
  generalize s.take now row = after at taken
  cases taken with
  | shadowed => exact guarded
  | @prolonged b plain active =>
    refine .of_unmarked (guarded.plain lists plain) guarded.past fun b' found => ?_
    cases found
    have same : (prolong b row).bannedAt = b.bannedAt := by
      unfold prolong
      split <;> rfl
    rw [same]
    exact guarded.begun b (activeBan_eq_some.1 active).1
  | added plain free =>
    refine .of_unmarked (guarded.plain lists plain) guarded.past fun b' found => ?_
    cases found
    exact guarded.past _ _ lists

theorem Secured.take (secured : Secured keeps calls rows now s) (guarded : Guarded rows now s)
    (lists : rows row.bannedAt row.bannedUntil) : Secured keeps calls rows now (s.take now row) := by
  have taken := take_cases now s row
  generalize s.take now row = after at taken
  cases taken with
  | shadowed => exact secured
  | @prolonged b plain active =>
    have unmarked := guarded.plain lists plain
    have known := secured.active b active
    have kept := activeBan_eq_some.1 active
    have longer := bannedUntil_prolong b row
    have again : ({ s with ban := some (prolong b row), floor := some (raised s.floor row.bannedUntil) } :
        Standing).activeBan now = some (prolong b row) := by
      refine activeBan_eq_some.2 ⟨rfl, ?_, ?_⟩
      · rw [releasedAt_prolong]
        exact kept.2.1
      · omega
    refine ⟨fun b' found => ?_, fun begins ends other outlasted => ?_⟩
    · rw [again] at found
      cases found
      unfold prolong
      split
      · rename_i later
        -- The row outlasts the ban that it prolongs, so that it is one of those that may.
        have outlasted : s.Outlasted now row.bannedUntil := by
          refine .of_unmarked unmarked (Nat.lt_trans kept.2.2 later) fun other same => ?_
          rw [active] at same
          cases same
          exact later
        exact ⟨known.begun, (secured.covered _ _ lists outlasted).ended⟩
      · exact known
    · refine secured.covered begins ends other ⟨outlasted.live, fun b' found => ?_, outlasted.mark⟩
      have shorter := outlasted.ban _ again
      rw [active] at found
      cases found
      omega
  | added plain free =>
    have unmarked := guarded.plain lists plain
    refine ⟨fun b' found => ?_, fun begins ends other outlasted => ?_⟩
    · obtain ⟨same, _, live⟩ := activeBan_eq_some.1 found
      cases same
      refine secured.covered _ _ lists (.of_unmarked unmarked live fun b found => ?_)
      rw [free] at found
      cases found
    · refine secured.covered begins ends other ⟨outlasted.live, fun b found => ?_, outlasted.mark⟩
      rw [free] at found
      cases found

theorem secured_takes (list : List Ban) (guarded : Guarded rows now s) (secured : Secured keeps calls rows now s)
    (lists : ∀ row ∈ list, rows row.bannedAt row.bannedUntil) :
    Secured keeps calls rows now (list.foldl (Standing.take now) s) := by
  induction list generalizing s with
  | nil => exact secured
  | cons row rest ih =>
    have first := lists row List.mem_cons_self
    exact ih (guarded.take first) (secured.take guarded first) fun later member =>
      lists later (List.mem_cons_of_mem _ member)

theorem guarded_takes (list : List Ban) (guarded : Guarded rows now s)
    (lists : ∀ row ∈ list, rows row.bannedAt row.bannedUntil) :
    Guarded rows now (list.foldl (Standing.take now) s) := by
  induction list generalizing s with
  | nil => exact guarded
  | cons row rest ih =>
    exact ih (guarded.take (lists row List.mem_cons_self)) fun later member =>
      lists later (List.mem_cons_of_mem _ member)

theorem Guarded.release (guarded : Guarded rows now s) (floor : Option Nat) (ends : Nat) :
    Guarded rows now ⟨none, floor, some ⟨now, ends⟩⟩ where
  marked _ _ := rfl
  older mark found begins ends lists := by
    cases found
    exact guarded.past begins ends lists
  past := guarded.past
  begun := nofun

theorem Secured.release (secured : Secured keeps calls rows now s) (guarded : Guarded rows now s)
    (active : s.activeBan now = some b) (floor : Option Nat) :
    Secured keeps calls rows now ⟨none, floor, some ⟨now, b.bannedUntil⟩⟩ where
  active := nofun
  covered begins ends lists outlasted := by
    refine secured.covered begins ends lists ⟨outlasted.live, fun other found => ?_, fun mark found => ?_⟩
    · rw [active] at found
      cases found
      exact outlasted.mark _ rfl
    · rw [guarded.unmarked active] at found
      cases found

theorem Guarded.gone (guarded : Guarded rows now s) : Guarded rows now { s with ban := none } where
  marked _ _ := rfl
  older := guarded.older
  past := guarded.past
  begun := nofun

theorem Guarded.banned (guarded : Guarded rows now s) (begun : b.bannedAt ≤ now)
    (grown : ∀ begins ends, fewer begins ends → rows begins ends ∨ begins ≤ now) (floor : Option Nat) :
    Guarded fewer now ⟨some b, floor, none⟩ where
  marked := nofun
  older := nofun
  past begins ends lists := (grown begins ends lists).elim (guarded.past begins ends) id
  begun other found := by
    cases found
    exact begun

end Standing

end Turnstile
