import Turnstile.Proofs.Store.OpenRows
import Turnstile.Proofs.Store.Rows
-- What a database updates wherever a row matches, memory updates at the first match: no two rows match.
namespace Turnstile

-- What the counter of windows and the manager of bans ask for, in numbers that a signed column holds.
def Call.Fits : Call → Prop
  | .increment _ _ start _ => start ≤ signedMax
  | .count _ _ since => since ≤ signedMax
  | .append attempt => attempt.timestamp ≤ signedMax
  | .upsert ban => ban.bannedAt < ban.bannedUntil ∧ ban.bannedUntil ≤ signedMax ∧
      ban.releasedAt = none ∧ ban.releasedBy = none ∧ ban.autoReleased = false
  | .release _ reading _ _ => reading ≤ signedMax
  | .active now | .releaseExpired now => now ≤ signedMax
  | .archive cutoff | .purgeAttempts cutoff | .purgeBans cutoff => cutoff ≤ signedMax

instance (c : Call) : Decidable c.Fits := by
  cases c <;> unfold Call.Fits <;> infer_instance

-- Lists of bans are compared without regard to their order.
def Call.Same : (c : Call) → c.Answer → c.Answer → Prop
  | .active _, (a : List Ban), (b : List Ban) => a.Perm b
  | .releaseExpired _, (a : List Ban), (b : List Ban) => a.Perm b
  | .increment .., a, b | .count .., a, b | .append _, a, b | .upsert _, a, b | .release .., a, b | .archive _, a, b
  | .purgeAttempts _, a, b | .purgeBans _, a, b => a = b

theorem Call.Same.of_eq {c : Call} {a b : c.Answer} (equal : a = b) : c.Same a b := by
  subst equal
  cases c with
  | active | releaseExpired => exact List.Perm.refl _
  | _ => rfl

theorem Relational.column_of_le {n : Nat} (fits : n ≤ signedMax) : Relational.column n = n := Nat.min_eq_left fits

namespace Memory

-- One row for a window, one open ban for an address, and nothing about a release in an open ban.
structure Keyed (m : Memory) : Prop where
  windows : ∀ client endpoint start, (m.windows.filter (·.isAt client endpoint start)).length ≤ 1
  single : ∀ client, (openRows client m.bans).length ≤ 1
  plain : ∀ row ∈ m.bans, row.releasedAt = none → row.releasedBy = none ∧ row.autoReleased = false

theorem keyed_empty : Keyed empty := ⟨fun _ _ _ => Nat.zero_le _, fun _ => Nat.zero_le _, nofun⟩

theorem isAt_count (row : WindowRow) (outcome : Outcome) (client endpoint : String) (start : Nat) :
    (row.count outcome).isAt client endpoint start = row.isAt client endpoint start := by
  cases outcome <;> rfl

theorem isAt_iff {row : WindowRow} {client endpoint : String} {start : Nat} :
    row.isAt client endpoint start = true ↔ row.client = client ∧ row.endpoint = endpoint ∧ row.start = start := by
  simp only [WindowRow.isAt, Bool.and_eq_true, beq_iff_eq, and_assoc]

theorem once_answer {m : Memory} (once : ∀ client endpoint start, (m.windows.filter (·.isAt client endpoint start)).length ≤ 1)
    (c : Call) (client endpoint : String) (start : Nat) :
    ((m.answer c).2.windows.filter (·.isAt client endpoint start)).length ≤ 1 := by
  have before := once client endpoint start
  cases c with
  | increment asking named counted outcome =>
    change ((tally asking named counted outcome m.windows).filter _).length ≤ 1
    rw [tally_eq, Rows.updateFirst_eq_updateAll (once asking named counted)]
    refine Rows.once_updateAll before ?_ ?_
    · intro row _
      exact isAt_count row outcome client endpoint start
    · intro row added found
      rw [isAt_count, isAt_iff] at added
      rw [isAt_iff] at found ⊢
      exact ⟨found.1.trans added.1.symm, found.2.1.trans added.2.1.symm, found.2.2.trans added.2.2.symm⟩
  | archive cutoff =>
    have fewer : ((m.windows.filter (cutoff ≤ ·.start)).filter (·.isAt client endpoint start)).Sublist
        (m.windows.filter (·.isAt client endpoint start)) := List.filter_sublist.filter _
    exact Nat.le_trans fewer.length_le before
  | _ => exact before

theorem mem_releaseFirst {address actor : String} {reading : Nat} {automatic : Bool} {row : Ban} {rows : List Ban}
    (member : row ∈ (releaseFirst address reading actor automatic rows).2) (unreleased : row.releasedAt = none) :
    row ∈ rows := by
  induction rows with
  | nil => cases member
  | cons first rest ih =>
    unfold releaseFirst at member
    split at member
    · rename_i held
      rcases List.mem_cons.1 member with released | later
      · rw [released] at unreleased
        cases (Ban.releasedAt_release (holds_iff.1 held).2 ..).symm.trans unreleased
      · exact List.mem_cons_of_mem _ later
    · rcases List.mem_cons.1 member with same | later
      · exact same ▸ List.mem_cons_self
      · exact List.mem_cons_of_mem _ (ih later)

theorem mem_putBan {ban row : Ban} {rows : List Ban} (member : row ∈ putBan ban rows) : row ∈ rows ∨ row = ban := by
  induction rows with
  | nil => exact .inr (List.mem_singleton.1 member)
  | cons first rest ih =>
    unfold putBan at member
    split at member
    · rcases List.mem_cons.1 member with same | later
      · exact .inr same
      · exact .inl (List.mem_cons_of_mem _ later)
    · rcases List.mem_cons.1 member with same | later
      · exact .inl (same ▸ List.mem_cons_self)
      · exact (ih later).imp_left (List.mem_cons_of_mem _)

theorem mem_answer {m : Memory} {c : Call} {row : Ban} (member : row ∈ (m.answer c).2.bans)
    (unreleased : row.releasedAt = none) : row ∈ m.bans ∨ c = .upsert row := by
  cases c with
  | upsert ban =>
    rcases mem_putBan member with before | rfl
    · exact .inl before
    · exact .inr rfl
  | release address reading actor automatic => exact .inl (mem_releaseFirst member unreleased)
  | releaseExpired now =>
    obtain ⟨before, member, expired⟩ := List.mem_map.1 member
    unfold expire at expired
    split at expired
    · rename_i overdue
      rw [← expired] at unreleased
      cases (Ban.releasedAt_release ((Ban.isOverdue_iff ..).1 overdue).1 ..).symm.trans unreleased
    · exact .inl (expired ▸ member)
  | purgeBans cutoff => exact .inl (List.mem_filter.1 member).1
  | _ => exact .inl member

theorem Keyed.answer {m : Memory} (keyed : m.Keyed) {c : Call} (fits : c.Fits) : (m.answer c).2.Keyed where
  windows := once_answer keyed.windows c
  single client := (Store.shifted_memory (keyed.single client) c).once (keyed.single client)
  plain row member unreleased := by
    rcases mem_answer member unreleased with before | rfl
    · exact keyed.plain row before unreleased
    · obtain ⟨_, _, _, released, automatic⟩ := fits
      exact ⟨released, automatic⟩

end Memory

namespace Relational

open Memory (holds holds_iff openRows)

def tables (r : Relational) : Memory := ⟨r.windows, r.archived, r.attempts, r.bans⟩

section
variable {r : Relational} (keyed : r.tables.Keyed)
include keyed

theorem countRow_eq {start : Nat} (fits : start ≤ signedMax) (client endpoint : String) (outcome : Outcome) :
    countRow client endpoint start outcome r.windows = Memory.tally client endpoint start outcome r.windows := by
  rw [countRow_def, column_of_le fits, Memory.tally_eq]
  exact (Rows.updateFirst_eq_updateAll (keyed.windows client endpoint start)).symm

theorem putRow_eq {ban : Ban} (fits : (Call.upsert ban).Fits) : putRow ban r.bans = Memory.putBan ban r.bans := by
  obtain ⟨ordered, small, unreleased, nobody, manual⟩ := fits
  have begins : column ban.bannedAt = ban.bannedAt := column_of_le (by omega)
  have ends : column ban.bannedUntil = ban.bannedUntil := column_of_le small
  have added : newRow ban = ban := by
    simp only [newRow, begins, ends, ← unreleased, ← nobody, ← manual]
  have replaced : ∀ row ∈ r.bans, (if holds ban.address row then overwrite row ban else row) =
      if holds ban.address row then ban else row := by
    intro row member
    split
    · rename_i held
      obtain ⟨own, unreleased'⟩ := holds_iff.1 held
      obtain ⟨nobody', manual'⟩ := keyed.plain row member unreleased'
      simp only [overwrite, begins, ends, own, unreleased', nobody', manual', ← unreleased, ← nobody, ← manual]
    · rfl
  rw [putRow, added, List.map_congr_left replaced, Memory.putBan_eq]
  exact (Rows.updateFirst_eq_updateAll (keyed.single ban.address)).symm

omit keyed in
theorem releaseRow_eq {row : Ban} {reading : Nat} (fits : reading ≤ signedMax) (unreleased : row.isUnreleased = true)
    (actor : String) (automatic : Bool) : releaseRow reading actor automatic row = row.release reading actor automatic := by
  rw [releaseRow, Ban.release, if_pos unreleased, column_of_le fits]

omit keyed in
-- Where at most one row is open for the address, to release the first is to release all.
theorem updateRows_release {address : String} {reading : Nat} {rows : List Ban} (actor : String) (automatic : Bool)
    (fits : reading ≤ signedMax) (single : (openRows address rows).length ≤ 1) :
    (updateRows (holds address) (releaseRow reading actor automatic) rows).1.head? =
        (Memory.releaseFirst address reading actor automatic rows).1 ∧
      (updateRows (holds address) (releaseRow reading actor automatic) rows).2 =
        (Memory.releaseFirst address reading actor automatic rows).2 := by
  induction rows with
  | nil => exact ⟨rfl, rfl⟩
  | cons row rest ih =>
    rw [Memory.openRows_cons] at single
    unfold updateRows Memory.releaseFirst
    cases held : holds address row with
    | true =>
      rw [if_pos held, List.length_cons] at single
      have empty : openRows address rest = [] := List.length_eq_zero_iff.1 (by omega)
      have none : ∀ other ∈ rest, ¬holds address other = true := List.filter_eq_nil_iff.1 empty
      have kept : (rest.map fun row => if holds address row then releaseRow reading actor automatic row else row) =
          rest := by
        refine (List.map_congr_left ?_).trans (List.map_id _)
        intro other member
        exact if_neg (none other member)
      have released := releaseRow_eq fits (Bool.and_eq_true_iff.1 held).2 actor automatic
      simp [held, kept, released]
    | false =>
      rw [if_neg (by simp [held])] at single
      obtain ⟨found, changed⟩ := ih single
      simpa [held, updateRows] using And.intro found changed

omit keyed in
theorem updateRows_expire {now : Nat} (fits : now ≤ signedMax) (rows : List Ban) :
    updateRows (·.isOverdue (column now)) (releaseRow now systemActor true) rows =
      ((rows.filter (·.isOverdue now)).map (Memory.expire now), rows.map (Memory.expire now)) := by
  have released : ∀ row, row.isOverdue now = true → releaseRow now systemActor true row = Memory.expire now row := by
    intro row overdue
    rw [Memory.expire, if_pos overdue]
    exact releaseRow_eq fits (Bool.and_eq_true_iff.1 overdue).1 systemActor true
  rw [updateRows, column_of_le fits]
  refine Prod.ext (List.map_congr_left ?_) (List.map_congr_left ?_)
  · intro row member
    exact released row (List.mem_filter.1 member).2
  · intro row _
    split
    · rename_i overdue
      exact released row overdue
    · rename_i early
      rw [Memory.expire, if_neg early]

theorem answer_refines {c : Call} (fits : c.Fits) : (r.answer c).2.tables = (r.tables.answer c).2 ∧
    ∃ a, (r.answer c).1 = .ok a ∧ c.Same a (r.tables.answer c).1 := by
  cases c with
  | increment client endpoint start outcome =>
    refine ⟨?_, (), rfl, rfl⟩
    exact congrArg (fun windows => ({ r.tables with windows } : Memory)) (countRow_eq keyed fits client endpoint outcome)
  | count client endpoint since =>
    refine ⟨rfl, _, rfl, ?_⟩
    change Memory.total r.windows client endpoint (column since) = _
    rw [column_of_le fits]
    rfl
  | append attempt =>
    refine ⟨?_, (), rfl, rfl⟩
    change Memory.mk _ _ (r.attempts ++ [{ attempt with timestamp := column attempt.timestamp }]) _ = _
    rw [column_of_le fits]
    rfl
  | upsert ban =>
    have passes : passesCheck ban = true := by
      obtain ⟨ordered, small, _⟩ := fits
      rw [passesCheck, column_of_le small, column_of_le (by omega)]
      exact decide_eq_true ordered
    simp only [answer, if_pos passes]
    refine ⟨?_, (), rfl, rfl⟩
    exact congrArg (fun bans => ({ r.tables with bans } : Memory)) (putRow_eq keyed fits)
  | release address reading actor automatic =>
    obtain ⟨found, changed⟩ := updateRows_release actor automatic fits (keyed.single address)
    refine ⟨?_, _, rfl, found⟩
    exact congrArg (fun bans => ({ r.tables with bans } : Memory)) changed
  | active now =>
    refine ⟨rfl, _, rfl, ?_⟩
    change List.Perm ((r.bans.filter (·.isActive (column now))).mergeSort Ban.byAddress) _
    rw [column_of_le fits]
    exact List.mergeSort_perm ..
  | releaseExpired now =>
    have same := updateRows_expire fits r.bans
    refine ⟨?_, _, rfl, ?_⟩
    · exact congrArg (fun bans => ({ r.tables with bans } : Memory)) (congrArg Prod.snd same)
    · exact .of_eq (congrArg Prod.fst same)
  | archive cutoff | purgeAttempts cutoff | purgeBans cutoff =>
    simp only [answer, column_of_le fits]
    exact ⟨rfl, _, rfl, rfl⟩

end

end Relational

namespace Memory

def requests (rows : List WindowRow) : Nat := rows.foldr (fun row sum => row.requests + sum) 0

structure Balanced (row : WindowRow) : Prop where
  failures : row.failures ≤ row.requests
  throttled : row.throttled ≤ row.requests
  word : row.requests ≤ wordMax

-- No number in the windows has outgrown the number of calls.
structure Counted (m : Memory) (calls : Nat) : Prop where
  sum : requests m.windows ≤ calls
  balanced : ∀ row ∈ m.windows, Balanced row

theorem requests_filter_le (test : WindowRow → Bool) (rows : List WindowRow) :
    requests (rows.filter test) ≤ requests rows := by
  induction rows with
  | nil => exact Nat.le_refl _
  | cons row rest ih =>
    rw [List.filter_cons]
    split
    · exact Nat.add_le_add_left ih _
    · exact Nat.le_trans ih (Nat.le_add_left _ _)

theorem requests_count (row : WindowRow) (outcome : Outcome) : (row.count outcome).requests ≤ row.requests + 1 := by
  cases outcome <;> exact Nat.min_le_left ..

theorem Balanced.count {row : WindowRow} (balanced : Balanced row) (outcome : Outcome) :
    Balanced (row.count outcome) := by
  obtain ⟨failures, throttled, word⟩ := balanced
  cases outcome <;> constructor <;> simp only [WindowRow.count, satAdd] <;> omega

theorem requests_tally_le (client endpoint : String) (start : Nat) (outcome : Outcome) (rows : List WindowRow) :
    requests (tally client endpoint start outcome rows) ≤ requests rows + 1 := by
  induction rows with
  | nil => exact requests_count (.fresh client endpoint start) outcome
  | cons row rest ih =>
    have here := requests_count row outcome
    unfold tally
    split
    · simp only [requests, List.foldr_cons]
      omega
    · simp only [requests, List.foldr_cons] at ih ⊢
      omega

theorem balanced_tally {client endpoint : String} {start : Nat} {outcome : Outcome} {rows : List WindowRow}
    (balanced : ∀ row ∈ rows, Balanced row) : ∀ row ∈ tally client endpoint start outcome rows, Balanced row := by
  induction rows with
  | nil =>
    intro row member
    rw [List.mem_singleton.1 member]
    exact Balanced.count ⟨Nat.le_refl _, Nat.le_refl _, Nat.zero_le _⟩ outcome
  | cons first rest ih =>
    have later := fun row member => balanced row (List.mem_cons_of_mem first member)
    intro row member
    unfold tally at member
    split at member
    · rcases List.mem_cons.1 member with rfl | old
      · exact (balanced first List.mem_cons_self).count outcome
      · exact later row old
    · rcases List.mem_cons.1 member with rfl | new
      · exact balanced row List.mem_cons_self
      · exact ih later row new

theorem Counted.answer {m : Memory} {calls : Nat} (counted : m.Counted calls) (c : Call) :
    (m.answer c).2.Counted (calls + 1) := by
  have slack := Nat.le_succ_of_le counted.sum
  cases c with
  | increment client endpoint start outcome =>
    exact ⟨Nat.le_trans (requests_tally_le ..) (Nat.succ_le_succ counted.sum), balanced_tally counted.balanced⟩
  | archive cutoff =>
    refine ⟨Nat.le_trans (requests_filter_le _ m.windows) slack, ?_⟩
    intro row member
    exact counted.balanced row (List.mem_filter.1 member).1
  | _ => exact ⟨slack, counted.balanced⟩

theorem foldl_add_le {rows : List WindowRow} (balanced : ∀ row ∈ rows, Balanced row) (sum : Counts) :
    let all := rows.foldl (fun sum row => sum.add row.counts) sum
    all.requests ≤ sum.requests + requests rows ∧ all.failures ≤ sum.failures + requests rows ∧
      all.throttled ≤ sum.throttled + requests rows := by
  induction rows generalizing sum with
  | nil => exact ⟨Nat.le_refl _, Nat.le_refl _, Nat.le_refl _⟩
  | cons row rest ih =>
    obtain ⟨failures, throttled, _⟩ := balanced row List.mem_cons_self
    have later := ih (fun other member => balanced other (List.mem_cons_of_mem _ member)) (sum.add row.counts)
    simp only [Counts.add, WindowRow.counts, requests, List.foldr_cons, List.foldl_cons] at later ⊢
    omega

theorem Counted.total {m : Memory} {calls : Nat} (counted : m.Counted calls) (client endpoint : String) (since : Nat) :
    (total m.windows client endpoint since).requests ≤ calls ∧ (total m.windows client endpoint since).failures ≤ calls ∧
      (total m.windows client endpoint since).throttled ≤ calls := by
  have balanced : ∀ row ∈ m.windows.filter (·.isSince client endpoint since), Balanced row :=
    fun row member => counted.balanced row (List.mem_filter.1 member).1
  obtain ⟨requests, failures, throttled⟩ := foldl_add_le balanced .zero
  have fewer := Nat.le_trans (requests_filter_le (·.isSince client endpoint since) m.windows) counted.sum
  simp only [Counts.zero, Nat.zero_add] at requests failures throttled
  exact ⟨Nat.le_trans requests fewer, Nat.le_trans failures fewer, Nat.le_trans throttled fewer⟩

end Memory

variable {calls : List Call}

def Memory.after (m : Memory) (calls : List Call) : Memory := calls.foldl (fun m c => (m.answer c).2) m

def Relational.after (r : Relational) (calls : List Call) : Relational := calls.foldl (fun r c => (r.answer c).2) r

theorem tables_after {r : Relational} (keyed : r.tables.Keyed) (fits : ∀ c ∈ calls, c.Fits) :
    (r.after calls).tables = r.tables.after calls ∧ (r.tables.after calls).Keyed := by
  induction calls generalizing r with
  | nil => exact ⟨rfl, keyed⟩
  | cons c rest ih =>
    have first := (Relational.answer_refines keyed (fits c List.mem_cons_self)).1
    have next := keyed.answer (fits c List.mem_cons_self)
    rw [← first] at next
    have later := ih next fun c member => fits c (List.mem_cons_of_mem _ member)
    rw [first] at later
    exact later

theorem counted_after {m : Memory} {n : Nat} (counted : m.Counted n) (calls : List Call) :
    (m.after calls).Counted (n + calls.length) := by
  induction calls generalizing m n with
  | nil => exact counted
  | cons c rest ih =>
    have later := ih (counted.answer c)
    rw [List.length_cons, Nat.add_comm rest.length 1, ← Nat.add_assoc]
    exact later

-- Whatever is called on a fresh database and on fresh tables in memory, both answer alike and hold the same rows. No count
-- exceeds the number of calls: columns of 64 bits do not overflow before 2^63 of them.
theorem relational_refines_memory (fits : ∀ c ∈ calls, c.Fits) :
    (Relational.empty.after calls).bans = (Memory.empty.after calls).bans ∧
    (Relational.empty.after calls).archived.length = (Memory.empty.after calls).archived.length ∧
    (Relational.empty.after calls).attempts.length = (Memory.empty.after calls).attempts.length ∧
    (∀ c : Call, c.Fits → ∃ a, ((Relational.empty.after calls).answer c).1 = .ok a ∧
      c.Same a ((Memory.empty.after calls).answer c).1) ∧
    ∀ client endpoint since, since ≤ signedMax → ∃ counts : Counts,
      ((Relational.empty.after calls).answer (.count client endpoint since)).1 = .ok counts ∧
      ((Memory.empty.after calls).answer (.count client endpoint since)).1 = counts ∧
      counts.requests ≤ calls.length ∧ counts.failures ≤ calls.length ∧ counts.throttled ≤ calls.length := by
  obtain ⟨same, keyed⟩ := tables_after (r := .empty) Memory.keyed_empty fits
  have counted := counted_after (m := .empty) (n := 0) ⟨Nat.le_refl _, nofun⟩ calls
  rw [Nat.zero_add] at counted
  change _ = Memory.empty.after calls at same
  change (Memory.empty.after calls).Keyed at keyed
  rw [← same] at keyed counted ⊢
  refine ⟨rfl, rfl, rfl, fun c fits => (Relational.answer_refines keyed fits).2, ?_⟩
  intro client endpoint since small
  obtain ⟨counts, answered, equal⟩ := (Relational.answer_refines (c := .count client endpoint since) keyed small).2
  refine ⟨counts, answered, equal.symm, ?_⟩
  rw [show counts = _ from equal]
  exact counted.total client endpoint since

-- A ban that is replaced while it is open and stored anew once it was released, and of two windows the earlier one archived.
def rebanCalls : List Call :=
  let ban (address : String) (begins ends : Nat) : Call :=
    .upsert ⟨address, begins, ends, "login failures", 3, "system", none, none, false⟩
  [.increment "a" "login" 0 .failed, ban "b" 0 90, ban "a" 5 60, ban "b" 10 200, .increment "a" "login" 60 .failed,
    .increment "a" "login" 60 .throttled, .releaseExpired 100, .release "b" 120 "admin" false, ban "b" 130 140, .archive 1]

theorem banCalls_alike : (∀ c ∈ rebanCalls, c.Fits) ∧
    ((Relational.empty.after rebanCalls).bans = (Memory.empty.after rebanCalls).bans ∧
      (Memory.empty.after rebanCalls).bans.map (fun row => (row.address, row.bannedUntil, row.releasedAt)) =
        [("b", 200, some 120), ("a", 60, some 100), ("b", 140, none)]) ∧
    ∃ counts : Counts, ((Relational.empty.after rebanCalls).answer (.count "a" "login" 0)).1 = .ok counts ∧
      ((Memory.empty.after rebanCalls).answer (.count "a" "login" 0)).1 = counts ∧ counts = ⟨2, 1, 1⟩ := by
  have fits : ∀ c ∈ rebanCalls, c.Fits := by decide
  obtain ⟨bans, _, _, _, count⟩ := relational_refines_memory fits
  obtain ⟨counts, database, memory, _⟩ := count "a" "login" 0 (by decide)
  exact ⟨fits, ⟨bans, by decide⟩, counts, database, memory, memory.symm⟩

end Turnstile
