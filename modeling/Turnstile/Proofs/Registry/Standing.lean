import Turnstile.Registry
-- What the registry knows of one address. Laws about an address are proved on this view.
namespace Turnstile

structure Standing where
  ban : Option Ban
  floor : Option Nat
  mark : Option ReleaseMark
deriving DecidableEq

namespace Standing

def activeBan (s : Standing) (now : Nat) : Option Ban := s.ban.filter (·.isActive now)

-- A mark stands for a release that is not older than the row.
def shadows (s : Standing) (row : Ban) : Prop := ∃ mark, s.mark = some mark ∧ row.bannedAt ≤ mark.releasedAt

instance (s : Standing) (row : Ban) : Decidable (s.shadows row) :=
  match h : s.mark with
  | none => isFalse fun ⟨mark, found, _⟩ => by rw [h] at found; cases found
  | some mark =>
    if earlier : row.bannedAt ≤ mark.releasedAt then isTrue ⟨mark, h, earlier⟩
    else isFalse fun ⟨other, found, before⟩ => earlier (by rw [h] at found; cases found; exact before)

def raised (floor : Option Nat) (instant : Nat) : Nat := max (floor.getD instant) instant

def take (now : Nat) (s : Standing) (row : Ban) : Standing :=
  if s.shadows row then s
  else
    { s with
      ban := match s.activeBan now with
        | some b => some (if b.bannedUntil < row.bannedUntil then { b with bannedUntil := row.bannedUntil } else b)
        | none => some row
      floor := some (raised s.floor row.bannedUntil) }

def dropMark (now : Nat) (s : Standing) : Standing :=
  { s with mark := s.mark.filter fun mark => now < mark.bannedUntil }

theorem activeBan_eq_some {s : Standing} {now : Nat} {b : Ban} :
    s.activeBan now = some b ↔ s.ban = some b ∧ b.releasedAt = none ∧ now < b.bannedUntil := by
  unfold activeBan
  rw [Option.filter_eq_some_iff, Ban.isActive_iff]

theorem activeBan_activeBan (s : Standing) (now : Nat) :
    ({ s with ban := s.activeBan now } : Standing).activeBan now = s.activeBan now := by
  show (s.activeBan now).filter (·.isActive now) = _
  unfold activeBan
  rw [Option.filter_filter]
  simp only [Bool.and_self]

-- Of the bans that block, time only ends some.
theorem activeBan_later (s : Standing) {now next : Nat} (forward : now ≤ next) :
    s.activeBan next = (s.activeBan now).filter (next < ·.bannedUntil) := by
  unfold activeBan
  rw [Option.filter_filter]
  refine congrArg (Option.filter · s.ban) (funext fun b => ?_)
  rw [Bool.eq_iff_iff]
  simp only [Bool.and_eq_true, Ban.isActive_iff, decide_eq_true_eq]
  exact ⟨fun ⟨unreleased, live⟩ => ⟨⟨unreleased, by omega⟩, live⟩, fun ⟨⟨unreleased, _⟩, live⟩ => ⟨unreleased, live⟩⟩

theorem raised_eq_of_le {floor : Option Nat} {instant : Nat} (low : ∀ f, floor = some f → f ≤ instant) :
    raised floor instant = instant := by
  unfold raised
  cases floor with
  | none => exact Nat.max_self _
  | some f => exact Nat.max_eq_right (low f rfl)

-- A ban to which a row of the store gives a later deadline, and nothing else.
def prolong (b row : Ban) : Ban :=
  if b.bannedUntil < row.bannedUntil then { b with bannedUntil := row.bannedUntil } else b

theorem bannedUntil_prolong (b row : Ban) : (prolong b row).bannedUntil = max b.bannedUntil row.bannedUntil := by
  unfold prolong
  split
  · rename_i later
    exact (Nat.max_eq_right (Nat.le_of_lt later)).symm
  · rename_i early
    exact (Nat.max_eq_left (Nat.le_of_not_lt early)).symm

theorem releasedAt_prolong (b row : Ban) : (prolong b row).releasedAt = b.releasedAt := by
  unfold prolong
  split <;> rfl

inductive Taken (now : Nat) (s : Standing) (row : Ban) : Standing → Prop where
  | shadowed (hidden : s.shadows row) : Taken now s row s
  | prolonged {b : Ban} (plain : ¬ s.shadows row) (active : s.activeBan now = some b) :
      Taken now s row { s with ban := some (prolong b row), floor := some (raised s.floor row.bannedUntil) }
  | added (plain : ¬ s.shadows row) (free : s.activeBan now = none) :
      Taken now s row { s with ban := some row, floor := some (raised s.floor row.bannedUntil) }

theorem take_cases (now : Nat) (s : Standing) (row : Ban) : Taken now s row (s.take now row) := by
  unfold take
  by_cases hidden : s.shadows row
  · rw [if_pos hidden]
    exact .shadowed hidden
  · rw [if_neg hidden]
    cases active : s.activeBan now with
    | some b => exact .prolonged hidden active
    | none => exact .added hidden active

theorem take_known {s : Standing} {now : Nat} {b : Ban} (known : s.activeBan now = some b) :
    (s.take now b).activeBan now = some b := by
  have taken := take_cases now s b
  generalize s.take now b = after at taken
  cases taken with
  | shadowed => exact known
  | @prolonged other plain active =>
    cases known.symm.trans active
    have kept : prolong b b = b := if_neg (Nat.lt_irrefl _)
    rw [kept]
    exact activeBan_eq_some.2 ⟨rfl, (activeBan_eq_some.1 known).2⟩
  | added plain free => cases known.symm.trans free

-- What holds of the known ban and of all rows, and does not depend on deadlines, holds of the ban in the end.
theorem takes_all {P : Ban → Prop} (prolonged : ∀ b row, P b → P (prolong b row)) {rows : List Ban}
    (listed : ∀ row ∈ rows, P row) {s : Standing} {now : Nat} (known : ∀ b, s.ban = some b → P b) :
    ∀ b, (rows.foldl (take now) s).ban = some b → P b := by
  induction rows generalizing s with
  | nil => exact known
  | cons row rest ih =>
    refine ih (fun later member => listed later (List.mem_cons_of_mem _ member)) fun b found => ?_
    have taken := take_cases now s row
    generalize s.take now row = after at taken found
    cases taken with
    | shadowed => exact known b found
    | @prolonged old plain active =>
      cases found
      exact prolonged old row (known old (activeBan_eq_some.1 active).1)
    | added plain free =>
      cases found
      exact listed _ List.mem_cons_self

-- Where no mark stands in the way, the ban that is known afterwards ends no sooner than any of the rows.
theorem take_reaches {s : Standing} {now : Nat} {row : Ban} (unmarked : s.mark = none) (live : row.isActive now = true) :
    (s.take now row).mark = none ∧ ∃ b, (s.take now row).activeBan now = some b ∧ row.bannedUntil ≤ b.bannedUntil ∧
      ∀ old, s.activeBan now = some old → old.bannedUntil ≤ b.bannedUntil := by
  have taken := take_cases now s row
  generalize s.take now row = after at taken
  cases taken with
  | shadowed hidden =>
    obtain ⟨mark, found, _⟩ := hidden
    cases unmarked.symm.trans found
  | @prolonged b plain active =>
    obtain ⟨_, unreleased, ahead⟩ := activeBan_eq_some.1 active
    have reaches := bannedUntil_prolong b row
    refine ⟨unmarked, prolong b row, activeBan_eq_some.2 ⟨rfl, ?_, ?_⟩, ?_, ?_⟩
    · rw [releasedAt_prolong]
      exact unreleased
    · omega
    · omega
    · intro old same
      cases active.symm.trans same
      omega
  | added plain free =>
    refine ⟨unmarked, row, activeBan_eq_some.2 ⟨rfl, (Ban.isActive_iff _ _).1 live⟩, Nat.le_refl _, ?_⟩
    intro old same
    cases free.symm.trans same

theorem takes_reach {rows : List Ban} {s : Standing} {now : Nat} (unmarked : s.mark = none)
    (live : ∀ row ∈ rows, row.isActive now = true) :
    (∀ old, s.activeBan now = some old →
      ∃ b, (rows.foldl (take now) s).activeBan now = some b ∧ old.bannedUntil ≤ b.bannedUntil) ∧
      ∀ row ∈ rows, ∃ b, (rows.foldl (take now) s).activeBan now = some b ∧ row.bannedUntil ≤ b.bannedUntil := by
  induction rows generalizing s with
  | nil => exact ⟨fun old known => ⟨old, known, Nat.le_refl _⟩, fun row member => absurd member List.not_mem_nil⟩
  | cons first rest ih =>
    obtain ⟨still, b, known, reaches, longer⟩ := take_reaches unmarked (live first List.mem_cons_self)
    obtain ⟨kept, later⟩ := ih still fun row member => live row (List.mem_cons_of_mem _ member)
    obtain ⟨last, found, ends⟩ := kept b known
    refine ⟨fun old active => ⟨last, found, Nat.le_trans (longer old active) ends⟩, fun row member => ?_⟩
    rcases List.mem_cons.1 member with rfl | there
    · exact ⟨last, found, Nat.le_trans reaches ends⟩
    · exact later row there

theorem takes_known (s : Standing) (now : Nat) :
    ((s.activeBan now).toList.foldl (take now) (s.dropMark now)).activeBan now = s.activeBan now := by
  cases known : s.activeBan now with
  | none => exact known
  | some b => exact take_known (s := s.dropMark now) known

theorem takes_new (s : Standing) (now : Nat) :
    ((s.activeBan now).toList.foldl (take now) ⟨none, none, none⟩).activeBan now = s.activeBan now := by
  cases known : s.activeBan now with
  | none => rfl
  | some b => exact activeBan_eq_some.2 ⟨rfl, (activeBan_eq_some.1 known).2⟩

end Standing

namespace Registry

variable {r : Registry} {now : Nat} {address client : String}

def standing (r : Registry) (address : String) : Standing :=
  ⟨r.active.get? address, r.floors.get? address, r.released.get? address⟩

theorem activeBan_standing (r : Registry) (now : Nat) (address : String) :
    r.activeBan now address = (r.standing address).activeBan now := rfl

-- What a ban of an address becomes: a fresh one, or the one there is, extended.
def banned (previous : Option Ban) (now : Nat) (address reason : String) (d : Duration) (failures : Nat)
    (actor : String) : Ban :=
  match previous with
  | some b => extend b (deadline now d) reason failures
  | none => fresh address now (deadline now d) reason failures actor

theorem ban_made (r : Registry) (now : Nat) (address reason : String) (d : Duration) (failures : Nat)
    (actor : String) : (r.ban now address reason d failures actor).2.1 =
      banned ((r.standing address).activeBan now) now address reason d failures actor := rfl

theorem lt_deadline (now : Nat) (d : Duration) : now < deadline now d :=
  Nat.lt_of_lt_of_le (Nat.lt_succ_self now) (Nat.le_max_right ..)

theorem bannedUntil_extend (b : Ban) (deadline : Nat) (reason : String) (failures : Nat) :
    (extend b deadline reason failures).bannedUntil = max b.bannedUntil deadline := by
  unfold extend
  by_cases later : b.bannedUntil < deadline
  · rw [if_pos later]
    exact (Nat.max_eq_right (Nat.le_of_lt later)).symm
  · rw [if_neg later]
    exact (Nat.max_eq_left (Nat.le_of_not_lt later)).symm

theorem releasedAt_extend (b : Ban) (deadline : Nat) (reason : String) (failures : Nat) :
    (extend b deadline reason failures).releasedAt = b.releasedAt := by
  unfold extend
  by_cases later : b.bannedUntil < deadline
  · rw [if_pos later]
  · rw [if_neg later]

-- A ban that was just made blocks, and for no shorter time than the one before.
theorem banned_live (s : Standing) (now : Nat) (address reason : String) (d : Duration) (failures : Nat)
    (actor : String) : (banned (s.activeBan now) now address reason d failures actor).releasedAt = none ∧
      now < (banned (s.activeBan now) now address reason d failures actor).bannedUntil ∧
      ∀ b, s.activeBan now = some b →
        b.bannedUntil ≤ (banned (s.activeBan now) now address reason d failures actor).bannedUntil := by
  have later := lt_deadline now d
  cases active : s.activeBan now with
  | none => exact ⟨rfl, later, nofun⟩
  | some b =>
    simp only [banned]
    rw [releasedAt_extend, bannedUntil_extend]
    refine ⟨(Standing.activeBan_eq_some.1 active).2.1, Nat.lt_of_lt_of_le later (Nat.le_max_right ..), ?_⟩
    intro other same
    cases same
    exact Nat.le_max_left ..

theorem bannedAt_banned (previous : Option Ban) (now : Nat) (address reason : String) (d : Duration) (failures : Nat)
    (actor : String) : (banned previous now address reason d failures actor).bannedAt =
      (previous.map Ban.bannedAt).getD now := by
  cases previous with
  | none => rfl
  | some b =>
    show (extend b (deadline now d) reason failures).bannedAt = b.bannedAt
    unfold extend
    dsimp only
    split <;> rfl

theorem standing_ban (r : Registry) (now : Nat) (address reason : String) (d : Duration) (failures : Nat)
    (actor client : String) : (r.ban now address reason d failures actor).2.2.standing client =
      if client = address then
        ⟨some (banned ((r.standing address).activeBan now) now address reason d failures actor),
          some (Standing.raised (r.standing address).floor
            (banned ((r.standing address).activeBan now) now address reason d failures actor).bannedUntil),
          none⟩
      else r.standing client := by
  rw [← ban_made]
  simp only [ban, standing, raise, Table.get?_insert, Table.get?_erase]
  split
  · rfl
  · rfl

theorem standing_unban (r : Registry) (now : Nat) (address client : String) :
    (r.unban now address).2.standing client =
      if client = address then
        match (r.standing address).activeBan now with
        | none => { r.standing address with ban := none }
        | some b => ⟨none, some now, some ⟨now, b.bannedUntil⟩⟩
      else r.standing client := by
  unfold unban
  rw [← activeBan_standing]
  cases r.activeBan now address with
  | none =>
    simp only [standing, Table.get?_erase]
    split
    · rename_i same
      rw [same]
    · rfl
  | some b =>
    simp only [standing, Table.get?_erase, Table.get?_insert]
    split
    · rfl
    · rfl

theorem unban_found (r : Registry) (now : Nat) (address : String) :
    (r.unban now address).1 = (r.standing address).activeBan now := by
  unfold unban
  rw [← activeBan_standing]
  cases r.activeBan now address <;> rfl

theorem standing_dropMarks (r : Registry) (now : Nat) (address : String) :
    (r.dropMarks now).standing address = (r.standing address).dropMark now := by
  simp only [dropMarks, standing, Standing.dropMark, Table.get?_filter]

theorem isShadowed_iff (r : Registry) (row : Ban) :
    r.isShadowed row = true ↔ (r.standing row.address).shadows row := by
  unfold isShadowed Standing.shadows standing
  cases r.released.get? row.address with
  | none => simp
  | some mark => simp

theorem standing_mergeRow (now : Nat) (r : Registry) (row : Ban) (address : String) :
    (mergeRow now r row).2.standing address =
      if row.address = address then (r.standing address).take now row else r.standing address := by
  unfold mergeRow
  by_cases shadowed : (r.standing row.address).shadows row
  · rw [if_pos ((isShadowed_iff r row).2 shadowed)]
    split
    · rename_i same
      subst same
      rw [Standing.take, if_pos shadowed]
    · rfl
  · rw [if_neg (mt (isShadowed_iff r row).1 shadowed)]
    by_cases same : row.address = address
    · subst same
      rw [if_pos rfl, Standing.take, if_neg shadowed, ← activeBan_standing]
      cases active : r.activeBan now row.address with
      | none => simp only [standing, raise, Table.get?_insert_self, Standing.raised]
      | some b =>
        have found := active
        rw [activeBan_standing] at found
        have kept : r.active.get? row.address = some b := (Standing.activeBan_eq_some.1 found).1
        by_cases later : b.bannedUntil < row.bannedUntil
        · simp only [later, if_true, standing, raise, Table.get?_insert_self, Standing.raised]
        · simp only [later, if_false, standing, raise, Table.get?_insert_self, Standing.raised, kept]
    · rw [if_neg same]
      have other : ¬ address = row.address := fun equal => same equal.symm
      cases r.activeBan now row.address with
      | none => simp only [standing, raise, Table.get?_insert, other, if_false]
      | some b =>
        by_cases later : b.bannedUntil < row.bannedUntil
        · simp only [later, if_true, standing, raise, Table.get?_insert, other, if_false]
        · simp only [later, if_false, standing, raise, Table.get?_insert, other]

theorem standing_mergeRows (now : Nat) (rows : List Ban) (r : Registry) (address : String) :
    (mergeRows now rows r).2.standing address =
      (rows.filter (·.address == address)).foldl (Standing.take now) (r.standing address) := by
  induction rows generalizing r with
  | nil => rfl
  | cons row rest ih =>
    show (mergeRows now rest (mergeRow now r row).2).2.standing address = _
    rw [ih, standing_mergeRow, List.filter_cons]
    by_cases same : row.address = address
    · rw [if_pos same, if_pos (beq_iff_eq.2 same), List.foldl_cons]
    · rw [if_neg same, if_neg (mt beq_iff_eq.1 same)]

theorem standing_merge (r : Registry) (now : Nat) (rows : List Ban) (address : String) :
    (r.merge now rows).2.standing address =
      (rows.filter (·.address == address)).foldl (Standing.take now)
        ((r.standing address).dropMark now) := by
  unfold merge
  rw [standing_mergeRows, standing_dropMarks]

theorem standing_expire (r : Registry) (now : Nat) (address : String) :
    (r.expire now).2.standing address =
      { (r.standing address).dropMark now with ban := (r.standing address).activeBan now } := by
  simp only [expire, dropMarks, standing, Standing.dropMark, Standing.activeBan, Table.get?_filter]

theorem standing_pruneFloors (r : Registry) (before : Nat) (address : String) :
    (r.pruneFloors before).2.standing address =
      { r.standing address with floor := (r.standing address).floor.filter (before ≤ ·) } := by
  simp only [pruneFloors, standing, Table.get?_filter]

-- Rows that show what is known already count as nothing.
theorem mergeRows_known {rows : List Ban} (r : Registry) (known : ∀ row ∈ rows, r.activeBan now row.address = some row) :
    (mergeRows now rows r).1 = 0 := by
  induction rows generalizing r with
  | nil => rfl
  | cons row rest ih =>
    have here := known row List.mem_cons_self
    have kept (address : String) : (mergeRow now r row).2.activeBan now address = r.activeBan now address := by
      rw [activeBan_standing, standing_mergeRow]
      split
      · rename_i same
        subst same
        exact (Standing.take_known (s := r.standing row.address) here).trans here.symm
      · rfl
    have nothing : (mergeRow now r row).1 = 0 := by
      unfold mergeRow
      split
      · rfl
      · rw [here]
        dsimp only
        rw [if_neg (Nat.lt_irrefl _)]
    have later := ih (mergeRow now r row).2 fun other member => by
      rw [kept]
      exact known other (List.mem_cons_of_mem _ member)
    show (mergeRow now r row).1 + (mergeRows now rest (mergeRow now r row).2).1 = 0
    rw [nothing, later]

theorem activeBan_expire (r : Registry) (now : Nat) (address : String) :
    (r.expire now).2.activeBan now address = r.activeBan now address := by
  rw [activeBan_standing, standing_expire]
  exact Standing.activeBan_activeBan _ _

theorem activeBan_pruneFloors (r : Registry) (before now : Nat) (address : String) :
    (r.pruneFloors before).2.activeBan now address = r.activeBan now address := by
  rw [activeBan_standing, standing_pruneFloors]
  rfl

-- Bans are filed under their own addresses.
def Addressed (r : Registry) : Prop := ∀ key b, (r.standing key).ban = some b → b.address = key

theorem addressed_empty : Registry.empty.Addressed := nofun

theorem address_banned {previous : Option Ban} (own : ∀ b, previous = some b → b.address = address) (now : Nat)
    (reason : String) (d : Duration) (failures : Nat) (actor : String) :
    (banned previous now address reason d failures actor).address = address := by
  cases previous with
  | none => rfl
  | some b =>
    have same := own b rfl
    unfold banned extend
    dsimp only
    split <;> exact same

theorem Addressed.ban (addressed : r.Addressed) (now : Nat) (address reason : String) (d : Duration) (failures : Nat)
    (actor : String) : (r.ban now address reason d failures actor).2.2.Addressed := by
  intro key b found
  rw [standing_ban] at found
  split at found
  · rename_i same
    cases found
    rw [same]
    exact address_banned (fun b active => addressed _ b (Standing.activeBan_eq_some.1 active).1) ..
  · exact addressed key b found

theorem Addressed.unban (addressed : r.Addressed) (now : Nat) (address : String) :
    (r.unban now address).2.Addressed := by
  intro key b found
  rw [standing_unban] at found
  split at found
  · split at found <;> cases found
  · exact addressed key b found

theorem Addressed.merge (addressed : r.Addressed) (now : Nat) (rows : List Ban) : (r.merge now rows).2.Addressed := by
  intro key
  rw [standing_merge]
  refine Standing.takes_all (fun b row own => ?_) (fun row member => beq_iff_eq.1 (List.mem_filter.1 member).2) (addressed key)
  unfold Standing.prolong
  split <;> exact own

theorem Addressed.expire (addressed : r.Addressed) (now : Nat) : (r.expire now).2.Addressed := by
  intro key b found
  rw [standing_expire] at found
  exact addressed key b (Standing.activeBan_eq_some.1 found).1

theorem Addressed.pruneFloors (addressed : r.Addressed) (before : Nat) : (r.pruneFloors before).2.Addressed := by
  intro key b found
  rw [standing_pruneFloors] at found
  exact addressed key b found

end Registry

end Turnstile
