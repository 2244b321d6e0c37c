import Mathlib.Algebra.GroupWithZero.Nat
import Mathlib.Data.List.Count
import Turnstile.Proofs.Store.Calls
namespace Turnstile

inductive Kind where
  | overdue
  | windows
  | attempts
  | released
deriving DecidableEq

def Sweep.kinds : Sweep → List Kind
  | .banExpiry => [.overdue]
  | .bucketEvict => []
  | .windowArchive => [.windows]
  | .historyPurge => [.attempts, .released]

-- The reading before which rows have been kept for so many days, as far as one word can tell.
def cutoff (now days : Nat) : Nat := now - min (days * 86400000) wordMax

theorem cutoff_le_now (now days : Nat) : cutoff now days ≤ now := Nat.sub_le ..

theorem Config.millis_days (n : Nat) : (Config.days n).millis = min (n * 86400000) wordMax := by
  unfold Config.days
  rw [Duration.millis_ofSecs]
  unfold satMul
  generalize wordMax = most
  omega

theorem cutoff_days (now days : Nat) : now - (Config.days days).millis = cutoff now days := by
  rw [Config.millis_days]
  rfl

def WindowRow.Stale (c : Config) (now : Nat) (row : WindowRow) : Prop := row.start < cutoff now c.archiveAfterDays

def LoginAttempt.Stale (c : Config) (now : Nat) (a : LoginAttempt) : Prop :=
  a.timestamp < cutoff now c.loginAttemptRetentionDays

def Ban.Overdue (now : Nat) (b : Ban) : Prop := b.releasedAt = none ∧ b.bannedUntil ≤ now

def Ban.Stale (c : Config) (now : Nat) (b : Ban) : Prop :=
  ∃ reading, b.releasedAt = some reading ∧ reading < cutoff now c.retentionWindowDays

theorem Ban.stale_iff (c : Config) (now : Nat) (b : Ban) :
    Memory.releasedBefore (cutoff now c.retentionWindowDays) b = true ↔ b.Stale c now := by
  unfold Memory.releasedBefore Ban.Stale
  cases b.releasedAt with
  | none => exact ⟨nofun, nofun⟩
  | some reading =>
    constructor
    · exact fun before => ⟨reading, rfl, of_decide_eq_true before⟩
    · rintro ⟨_, ⟨⟩, before⟩
      exact decide_eq_true before

-- What was taken. Bans that ended were released by that, and those that were forgotten had been released before.
structure Removal where
  ended : List Ban
  moved : List WindowRow
  attempts : List LoginAttempt
  forgotten : List Ban
deriving DecidableEq

namespace Removal

variable {c : Config} {now : Nat} {r s : Removal} {m m' : Memory}

def nothing : Removal := ⟨[], [], [], []⟩

def append (r s : Removal) : Removal :=
  ⟨r.ended ++ s.ended, r.moved ++ s.moved, r.attempts ++ s.attempts, r.forgotten ++ s.forgotten⟩

def total (rs : List Removal) : Removal := rs.foldr append nothing

def size (r : Removal) : Kind → Nat
  | .overdue => r.ended.length
  | .windows => r.moved.length
  | .attempts => r.attempts.length
  | .released => r.forgotten.length

theorem size_append (r s : Removal) (k : Kind) : (r.append s).size k = r.size k + s.size k := by
  cases k <;> exact List.length_append

theorem size_total (rs : List Removal) (k : Kind) : (total rs).size k = (rs.map (·.size k)).sum := by
  induction rs with
  | nil => cases k <;> rfl
  | cons r rest ih =>
    rw [List.map_cons, List.sum_cons, ← ih]
    exact size_append ..

theorem size_total_append (rs ss : List Removal) (k : Kind) :
    (total (rs ++ ss)).size k = (total rs).size k + (total ss).size k := by
  rw [size_total, size_total, size_total, List.map_append, List.sum_append]

theorem size_nothing (k : Kind) : nothing.size k = 0 := by
  cases k <;> rfl

theorem size_total_one (r : Removal) (k : Kind) : (total [r]).size k = r.size k := size_total [r] k

theorem size_total_two (r s : Removal) (k : Kind) : (total [r, s]).size k = r.size k + s.size k := size_total [r, s] k

structure Due (c : Config) (now : Nat) (r : Removal) : Prop where
  ended : ∀ b ∈ r.ended, b.Overdue now
  moved : ∀ row ∈ r.moved, row.Stale c now
  attempts : ∀ a ∈ r.attempts, a.Stale c now
  forgotten : ∀ b ∈ r.forgotten, b.Stale c now

theorem Due.nothing : nothing.Due c now :=
  ⟨fun _ none => absurd none List.not_mem_nil, fun _ none => absurd none List.not_mem_nil,
    fun _ none => absurd none List.not_mem_nil, fun _ none => absurd none List.not_mem_nil⟩

theorem Due.append (first : r.Due c now) (second : s.Due c now) : (r.append s).Due c now where
  ended b member := (List.mem_append.1 member).elim (first.ended b) (second.ended b)
  moved row member := (List.mem_append.1 member).elim (first.moved row) (second.moved row)
  attempts a member := (List.mem_append.1 member).elim (first.attempts a) (second.attempts a)
  forgotten b member := (List.mem_append.1 member).elim (first.forgotten b) (second.forgotten b)

theorem Due.total {rs : List Removal} (due : ∀ r ∈ rs, r.Due c now) : (total rs).Due c now := by
  induction rs with
  | nil => exact .nothing
  | cons r rest ih => exact (due r List.mem_cons_self).append (ih fun s member => due s (List.mem_cons_of_mem _ member))

-- The tables before, and the tables after: no row has come, none has changed but by being released, and none is missing but those
-- that were taken.
structure Takes (now : Nat) (r : Removal) (m m' : Memory) : Prop where
  windows : m.windows.Perm (m'.windows ++ r.moved)
  archived : m'.archived = m.archived ++ r.moved
  attempts : m.attempts.Perm (m'.attempts ++ r.attempts)
  bans : ∃ kept, m.bans.Perm (kept ++ r.ended ++ r.forgotten) ∧
    m'.bans.Perm (kept ++ r.ended.map (·.release now systemActor true))

theorem Takes.nothing (now : Nat) (m : Memory) : nothing.Takes now m m where
  windows := .of_eq (List.append_nil _).symm
  archived := (List.append_nil _).symm
  attempts := .of_eq (List.append_nil _).symm
  bans := ⟨m.bans, .of_eq (by rw [Removal.nothing, List.append_nil, List.append_nil]), .of_eq (List.append_nil _).symm⟩

-- Rows on the one side that are told apart from those on the other belong to what is left there.
theorem split_perm {left right own other : List Ban} (p : Ban → Bool) (here : ∀ b ∈ own, p b = true)
    (there : ∀ b ∈ other, p b = false) (same : (left ++ own).Perm (right ++ other)) :
    ∃ both, left.Perm (both ++ other) ∧ right.Perm (both ++ own) := by
  have none : other.filter p = [] :=
    List.filter_eq_nil_iff.2 fun b member => by rw [there b member]; exact Bool.false_ne_true
  have gone : own.filter (fun b => !p b) = [] :=
    List.filter_eq_nil_iff.2 fun b member => by rw [here b member]; exact Bool.false_ne_true
  have whole : other.filter (fun b => !p b) = other := List.filter_eq_self.2 fun b member => by rw [there b member]; rfl
  have yes := same.filter p
  have no := same.filter (fun b => !p b)
  rw [List.filter_append, List.filter_append, List.filter_eq_self.2 here, none, List.append_nil] at yes
  rw [List.filter_append, List.filter_append, whole, gone, List.append_nil] at no
  refine ⟨left.filter p ++ right.filter (fun b => !p b), ?_, ?_⟩
  · refine (List.filter_append_perm p left).symm.trans ?_
    rw [List.append_assoc]
    exact no.append_left _
  · refine (List.filter_append_perm p right).symm.trans ((yes.symm.append_right _).trans ?_)
    rw [List.append_assoc, List.append_assoc]
    exact List.perm_append_comm.append_left _

theorem perm_gather {α : Type} {first between last one two : List α} (before : first.Perm (between ++ one))
    (after : between.Perm (last ++ two)) : first.Perm (last ++ (one ++ two)) := by
  refine before.trans ((after.append_right one).trans ?_)
  rw [List.append_assoc]
  exact List.perm_append_comm.append_left last

-- A ban that was just released is none of those that are released next, nor of those that are forgotten.
theorem Due.apart (due : r.Due c now) (due' : s.Due c now) :
    (∀ b ∈ r.ended.map (·.release now systemActor true), decide (b.releasedAt = some now) = true) ∧
      ∀ b ∈ s.ended ++ s.forgotten, decide (b.releasedAt = some now) = false := by
  refine ⟨fun b member => ?_, fun b member => decide_eq_false fun released => ?_⟩
  · obtain ⟨one, there, rfl⟩ := List.mem_map.1 member
    exact decide_eq_true (Ban.releasedAt_release (due.ended one there).1 ..)
  · rcases List.mem_append.1 member with ended | forgotten
    · rw [(due'.ended b ended).1] at released
      cases released
    · obtain ⟨reading, at_reading, early⟩ := due'.forgotten b forgotten
      rw [released] at at_reading
      cases at_reading
      exact absurd early (Nat.not_lt.2 (cutoff_le_now ..))

theorem Takes.append {m₁ m₂ : Memory} (first : r.Takes now m m₁) (second : s.Takes now m₁ m₂) (due : r.Due c now)
    (due' : s.Due c now) : (r.append s).Takes now m m₂ := by
  obtain ⟨kept, before, between⟩ := first.bans
  obtain ⟨kept', between', after⟩ := second.bans
  have same : (kept ++ r.ended.map (·.release now systemActor true)).Perm (kept' ++ (s.ended ++ s.forgotten)) :=
    between.symm.trans (by rwa [List.append_assoc] at between')
  obtain ⟨released, others⟩ := due.apart due'
  obtain ⟨both, left, right⟩ := split_perm (fun b => decide (b.releasedAt = some now)) released others same
  refine ⟨perm_gather first.windows second.windows, ?_, perm_gather first.attempts second.attempts, both, ?_, ?_⟩
  · rw [second.archived, first.archived, List.append_assoc]
    rfl
  · show m.bans.Perm (both ++ (r.ended ++ s.ended) ++ (r.forgotten ++ s.forgotten))
    rw [List.perm_iff_count]
    intro b
    have one := List.perm_iff_count.1 before b
    have two := List.perm_iff_count.1 left b
    simp only [List.count_append] at one two ⊢
    omega
  · show m₂.bans.Perm (both ++ (r.ended ++ s.ended).map (·.release now systemActor true))
    rw [List.map_append, ← List.append_assoc]
    exact after.trans (right.append_right _)

end Removal

def Kind.call (c : Config) (now : Nat) : Kind → Call
  | .overdue => .releaseExpired now
  | .windows => .archive (now - c.archiveAfter.millis)
  | .attempts => .purgeAttempts (now - c.loginAttemptRetention.millis)
  | .released => .purgeBans (now - c.releasedBanRetention.millis)

def Kind.count (c : Config) (now : Nat) : (k : Kind) → (k.call c now).Answer → Nat
  | .overdue, bans => List.length bans
  | .windows, n | .attempts, n | .released, n => n

namespace Memory

variable {c : Config} {now : Nat} {m : Memory} {k : Kind}

def Rid (c : Config) (now : Nat) (m : Memory) : Kind → Prop
  | .overdue => ∀ b ∈ m.bans, ¬b.Overdue now
  | .windows => ∀ row ∈ m.windows, ¬row.Stale c now
  | .attempts => ∀ a ∈ m.attempts, ¬a.Stale c now
  | .released => ∀ b ∈ m.bans, ¬b.Stale c now

def taken (c : Config) (now : Nat) (m : Memory) : Kind → Removal
  | .overdue => { Removal.nothing with ended := m.bans.filter (·.isOverdue now) }
  | .windows => { Removal.nothing with moved := m.windows.filter (·.start < now - c.archiveAfter.millis) }
  | .attempts => { Removal.nothing with attempts := m.attempts.filter (·.timestamp < now - c.loginAttemptRetention.millis) }
  | .released => { Removal.nothing with forgotten := m.bans.filter (releasedBefore (now - c.releasedBanRetention.millis)) }

theorem released_iff (b : Ban) : releasedBefore (now - c.releasedBanRetention.millis) b = true ↔ b.Stale c now := by
  rw [Config.releasedBanRetention, cutoff_days, Ban.stale_iff]

theorem taken_due (k : Kind) : (m.taken c now k).Due c now := by
  have none : Removal.nothing.Due c now := .nothing
  cases k with
  | overdue => exact { none with ended := fun b member => (b.isOverdue_iff now).1 (List.mem_filter.1 member).2 }
  | windows =>
    refine { none with moved := fun row member => ?_ }
    have early := of_decide_eq_true (List.mem_filter.1 member).2
    rwa [Config.archiveAfter, cutoff_days] at early
  | attempts =>
    refine { none with attempts := fun a member => ?_ }
    have early := of_decide_eq_true (List.mem_filter.1 member).2
    rwa [Config.loginAttemptRetention, cutoff_days] at early
  | released => exact { none with forgotten := fun b member => (released_iff b).1 (List.mem_filter.1 member).2 }

theorem size_taken (k other : Kind) : (m.taken c now k).size other =
    if other = k then k.count c now (m.answer (k.call c now)).1 else 0 := by
  cases k with
  | overdue =>
    cases other with
    | overdue => exact (List.length_map (expire now)).symm
    | _ => rfl
  | _ => cases other <;> rfl

theorem expire_overdue (now : Nat) (rows : List Ban) : (rows.map (expire now)).Perm
    (rows.filter (fun b => !b.isOverdue now) ++ (rows.filter (·.isOverdue now)).map (·.release now systemActor true)) := by
  have parted := ((List.filter_append_perm (·.isOverdue now) rows).symm.trans List.perm_append_comm).map (expire now)
  rw [List.map_append] at parted
  have stay : (rows.filter (fun b => !b.isOverdue now)).map (expire now) = rows.filter (fun b => !b.isOverdue now) := by
    refine (List.map_congr_left fun b member => ?_).trans (List.map_id _)
    have kept : ¬b.isOverdue now = true := by
      have outside := (List.mem_filter.1 member).2
      rw [Bool.not_eq_true'] at outside
      rw [outside]
      exact Bool.false_ne_true
    rw [expire, if_neg kept, id]
  have ended : (rows.filter (·.isOverdue now)).map (expire now) =
      (rows.filter (·.isOverdue now)).map (·.release now systemActor true) :=
    List.map_congr_left fun b member => by rw [expire, if_pos (List.mem_filter.1 member).2]
  rwa [stay, ended] at parted

theorem parted {α : Type} {p q : α → Bool} (rows : List α) (opposite : ∀ row, q row = !p row) :
    rows.Perm (rows.filter q ++ rows.filter p) := by
  rw [show q = fun row => !p row from funext opposite]
  exact (List.filter_append_perm p rows).symm.trans List.perm_append_comm

theorem taken_takes (k : Kind) : (m.taken c now k).Takes now m (m.answer (k.call c now)).2 := by
  have same := Removal.Takes.nothing now m
  have before {bound : Nat} (n : Nat) : decide (bound ≤ n) = !decide (n < bound) := by
    rw [← decide_not, decide_eq_decide]
    exact Nat.not_lt.symm
  cases k with
  | overdue =>
    refine { same with bans := ⟨m.bans.filter (fun b => !b.isOverdue now), ?_, expire_overdue now m.bans⟩ }
    show m.bans.Perm (_ ++ [])
    rw [List.append_nil]
    exact parted m.bans fun _ => rfl
  | windows => exact { same with windows := parted m.windows fun row => before row.start, archived := rfl }
  | attempts => exact { same with attempts := parted m.attempts fun a => before a.timestamp }
  | released =>
    refine { same with bans := ⟨(m.answer (Kind.released.call c now)).2.bans, ?_, .of_eq (List.append_nil _).symm⟩ }
    show m.bans.Perm (_ ++ [] ++ _)
    rw [List.append_nil]
    exact parted m.bans fun _ => rfl

theorem rid_answer (k : Kind) : (m.answer (k.call c now)).2.Rid c now k := by
  cases k with
  | overdue =>
    intro b member overdue
    obtain ⟨row, _, rfl⟩ := List.mem_map.1 member
    unfold expire at overdue
    split at overdue
    · rename_i was
      have ended := overdue.1
      rw [Ban.releasedAt_release ((row.isOverdue_iff now).1 was).1] at ended
      cases ended
    · rename_i wasNot
      exact wasNot ((row.isOverdue_iff now).2 overdue)
  | windows =>
    intro row member stale
    have late := of_decide_eq_true (List.mem_filter.1 member).2
    rw [Config.archiveAfter, cutoff_days] at late
    exact absurd stale (Nat.not_lt.2 late)
  | attempts =>
    intro a member stale
    have late := of_decide_eq_true (List.mem_filter.1 member).2
    rw [Config.loginAttemptRetention, cutoff_days] at late
    exact absurd stale (Nat.not_lt.2 late)
  | released =>
    intro b member stale
    have kept := (List.mem_filter.1 member).2
    rw [(released_iff b).2 stale] at kept
    cases kept

-- What was taken does not come back while maintenance asks for the rest.
theorem Rid.answer (rid : m.Rid c now k) (other : Kind) : (m.answer (other.call c now)).2.Rid c now k := by
  cases other with
  | overdue =>
    cases k with
    | overdue => exact rid_answer .overdue
    | released =>
      intro b member stale
      obtain ⟨row, there, rfl⟩ := List.mem_map.1 member
      unfold expire at stale
      split at stale
      · rename_i was
        obtain ⟨reading, released, early⟩ := stale
        rw [Ban.releasedAt_release ((row.isOverdue_iff now).1 was).1] at released
        cases released
        exact absurd early (Nat.not_lt.2 (cutoff_le_now ..))
      · exact rid row there stale
    | windows | attempts => exact rid
  | windows =>
    cases k with
    | windows => exact rid_answer .windows
    | _ => exact rid
  | attempts =>
    cases k with
    | attempts => exact rid_answer .attempts
    | _ => exact rid
  | released =>
    cases k with
    | overdue => exact fun b member => rid b (List.mem_filter.1 member).1
    | released => exact rid_answer .released
    | windows | attempts => exact rid

end Memory

end Turnstile
