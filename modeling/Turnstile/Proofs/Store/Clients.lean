import Turnstile.Proofs.Registry.Listing
import Turnstile.Proofs.Store.Calls
import Turnstile.Proofs.Store.Rows
namespace Turnstile

def Call.client? : Call → Option String
  | .increment client .. | .count client .. | .release client .. => some client
  | .append attempt => some attempt.address
  | .upsert ban => some ban.address
  | .active _ | .releaseExpired _ | .archive _ | .purgeAttempts _ | .purgeBans _ => none

def WindowRow.isOf (client : String) (row : WindowRow) : Bool := row.client == client

def Ban.isOf (client : String) (b : Ban) : Bool := b.address == client

-- The tables as if nobody else had been there. Neither archived windows nor login attempts are ever looked at.
def Memory.of (client : String) (m : Memory) : Memory :=
  ⟨m.windows.filter (·.isOf client), [], [], m.bans.filter (·.isOf client)⟩

def Relational.of (client : String) (r : Relational) : Relational :=
  ⟨r.windows.filter (·.isOf client), [], [], r.bans.filter (·.isOf client)⟩

def Store.of (client : String) : Store → Store
  | .memory m => .memory (m.of client)
  | .relational r => .relational (r.of client)

section
variable {client other : String}

theorem WindowRow.isOf_count (row : WindowRow) (outcome : Outcome) : (row.count outcome).isOf client = row.isOf client := by
  cases outcome <;> rfl

theorem WindowRow.isOf_of_isAt {row : WindowRow} {endpoint : String} {start : Nat}
    (found : row.isAt other endpoint start = true) : row.isOf client = (other == client) := by
  simp only [isAt, Bool.and_eq_true, beq_iff_eq] at found
  rw [isOf, found.1.1]

theorem Ban.isOf_of_holds {b : Ban} (held : Memory.holds other b = true) : b.isOf client = (other == client) := by
  simp only [Memory.holds, Bool.and_eq_true, beq_iff_eq] at held
  rw [isOf, held.1]

theorem Ban.isOf_release (b : Ban) (reading : Nat) (actor : String) (automatic : Bool) :
    (b.release reading actor automatic).isOf client = b.isOf client := by
  simp only [isOf, address_release]

end

namespace Memory

variable {client other actor : String} {reading : Nat} {automatic : Bool}

theorem local_tally (client endpoint : String) (start : Nat) (outcome : Outcome) :
    Rows.Local (WindowRow.isOf client) (tally client endpoint start outcome) := by
  rw [tally_eq]
  apply Rows.local_updateFirst
  intro row found
  rw [WindowRow.isOf_of_isAt found]
  exact beq_self_eq_true client

theorem foreign_tally (away : other ≠ client) (endpoint : String) (start : Nat) (outcome : Outcome) :
    Rows.Foreign (WindowRow.isOf client) (tally other endpoint start outcome) := by
  have differs : (other == client) = false := beq_eq_false_iff_ne.2 away
  rw [tally_eq]
  apply Rows.foreign_updateFirst
  · intro row found
    rw [WindowRow.isOf_count, WindowRow.isOf_of_isAt found]
    exact ⟨differs, differs⟩
  · rw [WindowRow.isOf_count]
    exact differs

theorem local_putBan {ban : Ban} (own : ban.address = client) : Rows.Local (Ban.isOf client) (putBan ban) := by
  rw [putBan_eq]
  apply Rows.local_updateFirst
  intro row held
  rw [Ban.isOf_of_holds held, own]
  exact beq_self_eq_true client

theorem foreign_putBan {ban : Ban} (away : ban.address ≠ client) : Rows.Foreign (Ban.isOf client) (putBan ban) := by
  have differs : (ban.address == client) = false := beq_eq_false_iff_ne.2 away
  rw [putBan_eq]
  apply Rows.foreign_updateFirst
  · intro row held
    rw [Ban.isOf_of_holds held]
    exact ⟨differs, differs⟩
  · exact differs

theorem local_releaseFirst (client : String) (reading : Nat) (actor : String) (automatic : Bool) :
    Rows.Local (Ban.isOf client) fun rows => (releaseFirst client reading actor automatic rows).2 := by
  intro rows
  induction rows with
  | nil => rfl
  | cons row rest ih =>
    cases held : holds client row with
    | true =>
      have mine : row.isOf client = true := (Ban.isOf_of_holds held).trans (beq_self_eq_true client)
      rw [List.filter_cons_of_pos mine]
      simp only [releaseFirst, held, if_true, List.filter_cons, Rows.filter_idem]
    | false =>
      cases mine : row.isOf client with
      | true =>
        rw [List.filter_cons_of_pos mine]
        simp only [releaseFirst, held, Bool.false_eq_true, if_false, List.filter_cons, mine, if_true]
        exact congrArg _ ih
      | false =>
        rw [List.filter_cons_of_neg (by simp [mine])]
        simp only [releaseFirst, held, Bool.false_eq_true, if_false]
        rw [List.filter_cons_of_neg (by simp [mine])]
        exact ih

theorem foreign_releaseFirst (away : other ≠ client) : Rows.Foreign (Ban.isOf client) fun rows =>
    (releaseFirst other reading actor automatic rows).2 := by
  intro rows
  induction rows with
  | nil => rfl
  | cons row rest ih =>
    cases held : holds other row with
    | true =>
      have before : row.isOf client = false := (Ban.isOf_of_holds held).trans (beq_eq_false_iff_ne.2 away)
      have after := (Ban.isOf_release row reading actor automatic).trans before
      simp [releaseFirst, held, before, after]
    | false =>
      simp only [releaseFirst, held, Bool.false_eq_true, if_false, List.filter_cons]
      rw [← ih]

theorem isOf_expire (now : Nat) (row : Ban) : (expire now row).isOf client = row.isOf client := by
  unfold expire
  split
  · exact Ban.isOf_release ..
  · rfl

end Memory

namespace Relational

variable {client other actor : String} {reading : Nat} {automatic : Bool}

theorem local_countRow (client endpoint : String) (start : Nat) (outcome : Outcome) :
    Rows.Local (WindowRow.isOf client) (countRow client endpoint start outcome) := by
  have own {row : WindowRow} (found : row.isAt client endpoint (column start) = true) : row.isOf client = true :=
    (WindowRow.isOf_of_isAt found).trans (beq_self_eq_true client)
  rw [countRow_def]
  apply Rows.local_updateAll
  · exact fun row found => own found
  · intro row found
    rw [WindowRow.isOf_count]
    exact own found

theorem foreign_countRow (away : other ≠ client) (endpoint : String) (start : Nat) (outcome : Outcome) :
    Rows.Foreign (WindowRow.isOf client) (countRow other endpoint start outcome) := by
  have differs : (other == client) = false := beq_eq_false_iff_ne.2 away
  rw [countRow_def]
  apply Rows.foreign_updateAll
  · intro row found
    rw [WindowRow.isOf_count, WindowRow.isOf_of_isAt found]
    exact ⟨differs, differs⟩
  · rw [WindowRow.isOf_count]
    exact differs

theorem local_putRow {ban : Ban} (own : ban.address = client) : Rows.Local (Ban.isOf client) (putRow ban) := by
  have mine {row : Ban} (held : Memory.holds ban.address row = true) : row.isOf client = true := by
    rw [Ban.isOf_of_holds held, own]
    exact beq_self_eq_true client
  rw [putRow_def]
  exact Rows.local_updateAll (fun _ held => mine held) fun _ held => mine held

theorem foreign_putRow {ban : Ban} (away : ban.address ≠ client) : Rows.Foreign (Ban.isOf client) (putRow ban) := by
  have differs : (ban.address == client) = false := beq_eq_false_iff_ne.2 away
  rw [putRow_def]
  apply Rows.foreign_updateAll
  · intro row held
    have before : row.isOf client = false := (Ban.isOf_of_holds held).trans differs
    exact ⟨before, before⟩
  · exact differs

theorem local_release (test : Ban → Bool) (reading : Nat) (actor : String) (automatic : Bool) :
    Rows.Local (Ban.isOf client) fun rows => (updateRows test (releaseRow reading actor automatic) rows).2 := by
  refine Rows.local_map fun row => ?_
  split <;> rfl

theorem foreign_release (away : other ≠ client) : Rows.Foreign (Ban.isOf client) fun rows =>
    (updateRows (Memory.holds other) (releaseRow reading actor automatic) rows).2 := by
  refine Rows.foreign_map (fun row => ?_) fun row mine => ?_
  · split <;> rfl
  · refine if_neg fun held => ?_
    rw [Ban.isOf_of_holds held, beq_eq_false_iff_ne.2 away] at mine
    cases mine

-- Of rows that are sorted by address, those of one address keep their order.
theorem filter_byAddress (client : String) (rows : List Ban) :
    (rows.mergeSort Ban.byAddress).filter (·.isOf client) = rows.filter (·.isOf client) := by
  have sorted : (rows.filter (·.isOf client)).Pairwise (fun a b => a.byAddress b = true) := by
    rw [List.pairwise_filter]
    refine List.pairwise_of_forall fun a b first second => ?_
    rw [Ban.isOf, beq_iff_eq] at first second
    rw [Ban.byAddress, first, second]
    exact decide_eq_true (String.le_refl client)
  have within := (List.sublist_mergeSort Ban.byAddress_trans Ban.byAddress_total sorted List.filter_sublist).filter
    (Ban.isOf client)
  rw [Rows.filter_idem] at within
  exact (within.eq_of_length ((List.mergeSort_perm ..).filter _).length_eq.symm).symm

end Relational

variable {client other : String} {c : Call}

namespace Memory

theorem of_congr {m n : Memory} (windows : m.windows.filter (·.isOf client) = n.windows.filter (·.isOf client))
    (bans : m.bans.filter (·.isOf client) = n.bans.filter (·.isOf client)) : m.of client = n.of client := by
  unfold of
  rw [windows, bans]

-- Calls of the client, and those of nobody, work on what the client sees.
theorem of_answer_own (own : ∀ named, c.client? = some named → named = client) (m : Memory) :
    (m.answer c).2.of client = ((m.of client).answer c).2.of client := by
  have windows := (Rows.filter_idem (WindowRow.isOf client) m.windows).symm
  have bans := (Rows.filter_idem (Ban.isOf client) m.bans).symm
  cases c with
  | increment named endpoint start outcome =>
    cases own named rfl
    exact of_congr (local_tally client endpoint start outcome m.windows) bans
  | upsert ban => exact of_congr windows (local_putBan (own _ rfl) m.bans)
  | release named reading actor automatic =>
    cases own named rfl
    exact of_congr windows (local_releaseFirst client reading actor automatic m.bans)
  | releaseExpired now => exact of_congr windows (Rows.local_map (isOf_expire now) m.bans)
  | archive cutoff => exact of_congr (Rows.local_filter _ m.windows) bans
  | purgeBans cutoff => exact of_congr windows (Rows.local_filter _ m.bans)
  | count | append | active | purgeAttempts => exact of_congr windows bans

theorem of_answer_other (named : c.client? = some other) (away : other ≠ client) (m : Memory) :
    (m.answer c).2.of client = m.of client := by
  cases c with
  | increment asking endpoint start outcome =>
    cases named
    exact of_congr (foreign_tally away endpoint start outcome m.windows) rfl
  | upsert ban =>
    cases named
    exact of_congr rfl (foreign_putBan away m.bans)
  | release asking reading actor automatic =>
    cases named
    exact of_congr rfl (foreign_releaseFirst away m.bans)
  | count | append => rfl
  | active | releaseExpired | archive | purgeAttempts | purgeBans => cases named

end Memory

namespace Relational

theorem of_congr {r s : Relational} (windows : r.windows.filter (·.isOf client) = s.windows.filter (·.isOf client))
    (bans : r.bans.filter (·.isOf client) = s.bans.filter (·.isOf client)) : r.of client = s.of client := by
  unfold of
  rw [windows, bans]

theorem of_answer_own (own : ∀ named, c.client? = some named → named = client) (r : Relational) :
    (r.answer c).2.of client = ((r.of client).answer c).2.of client := by
  have windows := (Rows.filter_idem (WindowRow.isOf client) r.windows).symm
  have bans := (Rows.filter_idem (Ban.isOf client) r.bans).symm
  cases c with
  | increment named endpoint start outcome =>
    cases own named rfl
    exact of_congr (local_countRow client endpoint start outcome r.windows) bans
  | upsert ban =>
    simp only [answer]
    split
    · exact of_congr windows (local_putRow (own _ rfl) r.bans)
    · exact of_congr windows bans
  | release named reading actor automatic =>
    exact of_congr windows (local_release (Memory.holds named) reading actor automatic r.bans)
  | releaseExpired now => exact of_congr windows (local_release (·.isOverdue (column now)) now systemActor true r.bans)
  | archive cutoff => exact of_congr (Rows.local_filter _ r.windows) bans
  | purgeBans cutoff => exact of_congr windows (Rows.local_filter _ r.bans)
  | count | append | active | purgeAttempts => exact of_congr windows bans

theorem of_answer_other (named : c.client? = some other) (away : other ≠ client) (r : Relational) :
    (r.answer c).2.of client = r.of client := by
  cases c with
  | increment asking endpoint start outcome =>
    cases named
    exact of_congr (foreign_countRow away endpoint start outcome r.windows) rfl
  | upsert ban =>
    cases named
    simp only [answer]
    split
    · exact of_congr rfl (foreign_putRow away r.bans)
    · rfl
  | release asking reading actor automatic =>
    cases named
    exact of_congr rfl (foreign_release away r.bans)
  | count | append => rfl
  | active | releaseExpired | archive | purgeAttempts | purgeBans => cases named

end Relational

namespace Store

theorem of_answer_own (own : ∀ named, c.client? = some named → named = client) (s : Store) :
    (s.answer c).2.of client = ((s.of client).answer c).2.of client := by
  cases s with
  | memory m => exact congrArg Store.memory (Memory.of_answer_own own m)
  | relational r => exact congrArg Store.relational (Relational.of_answer_own own r)

theorem of_answer_other (named : c.client? = some other) (away : other ≠ client) (s : Store) :
    (s.answer c).2.of client = s.of client := by
  cases s with
  | memory m => exact congrArg Store.memory (Memory.of_answer_other named away m)
  | relational r => exact congrArg Store.relational (Relational.of_answer_other named away r)

-- What the client is told of its windows, and which of its bans block.
theorem count_of (s : Store) (client endpoint : String) (since : Nat) :
    ((s.of client).answer (.count client endpoint since)).1 = (s.answer (.count client endpoint since)).1 := by
  have total (rows : List WindowRow) (since : Nat) : Memory.total (rows.filter (·.isOf client)) client endpoint since =
      Memory.total rows client endpoint since := by
    unfold Memory.total
    rw [List.filter_filter]
    congr 1
    apply List.filter_congr
    intro row _
    cases mine : row.isOf client with
    | true => simp
    | false => simp [WindowRow.isSince, show (row.client == client) = false from mine]
  cases s with
  | memory m => exact congrArg Except.ok (total m.windows since)
  | relational r => exact congrArg Except.ok (total r.windows _)

theorem active_of (s : Store) (client : String) (now : Nat) : ∃ all own : List Ban,
    (s.answer (.active now)).1 = .ok all ∧ ((s.of client).answer (.active now)).1 = .ok own ∧
      all.filter (·.isOf client) = own.filter (·.isOf client) := by
  cases s with
  | memory m => exact ⟨_, _, rfl, rfl, Rows.local_filter _ m.bans⟩
  | relational r =>
    refine ⟨_, _, rfl, rfl, ?_⟩
    rw [Relational.filter_byAddress, Relational.filter_byAddress]
    exact Rows.local_filter _ r.bans

end Store

namespace Backend

variable {b d : Backend} {limit : Option Duration}

structure SameFor (client : String) (b d : Backend) : Prop where
  reachable : d.reachable = b.reachable
  latency : d.latency = b.latency
  clear : (∀ fault ∈ b.script, fault = none) → ∀ fault ∈ d.script, fault = none
  store : d.store.of client = b.store.of client

theorem SameFor.healthy (same : SameFor client b d) (healthy : b.Healthy) : d.Healthy :=
  ⟨same.reachable.trans healthy.reachable, same.clear healthy.clear⟩

theorem SameFor.patience (same : SameFor client b d) (limit : Option Duration) : d.patience limit = b.patience limit := by
  unfold Backend.patience
  rw [same.latency]

section
variable (same : SameFor client b d) (healthy : b.Healthy)
include same healthy

theorem SameFor.call (own : ∀ named, c.client? = some named → named = client) (limit : Option Duration) :
    SameFor client (b.call c limit).2 (d.call c limit).2 := by
  have after := healthy.after_call c limit
  have after' := (same.healthy healthy).after_call c limit
  obtain ⟨_, store, latency⟩ := healthy.call_eq c limit
  obtain ⟨_, store', latency'⟩ := (same.healthy healthy).call_eq c limit
  refine ⟨after'.reachable.trans after.reachable.symm, latency'.trans (same.latency.trans latency.symm),
    fun _ => after'.clear, ?_⟩
  rw [store, store', same.patience]
  split
  · exact same.store
  · rw [Store.of_answer_own own, Store.of_answer_own own b.store, same.store]

theorem SameFor.call_other (named : c.client? = some other) (away : other ≠ client) (limit : Option Duration) :
    SameFor client (b.call c limit).2 d := by
  have after := healthy.after_call c limit
  obtain ⟨_, store, latency⟩ := healthy.call_eq c limit
  refine ⟨same.reachable.trans (healthy.reachable.trans after.reachable.symm), same.latency.trans latency.symm,
    fun _ => (same.healthy healthy).clear, ?_⟩
  rw [store]
  split
  · exact same.store
  · rw [Store.of_answer_other named away, same.store]

theorem SameFor.count_eq (endpoint : String) (since : Nat) (limit : Option Duration) :
    (d.call (.count client endpoint since) limit).1 = (b.call (.count client endpoint since) limit).1 := by
  rw [(healthy.call_eq _ limit).1, ((same.healthy healthy).call_eq _ limit).1, same.patience]
  rw [← Store.count_of d.store, ← Store.count_of b.store, same.store]

theorem SameFor.active_eq (now : Nat) : ∃ all own : List Ban, (b.call (.active now) none).1 = .ok all ∧
    (d.call (.active now) none).1 = .ok own ∧ all.filter (·.isOf client) = own.filter (·.isOf client) := by
  obtain ⟨all, few, answered, seen, own⟩ := b.store.active_of client now
  obtain ⟨all', few', answered', seen', own'⟩ := d.store.active_of client now
  rw [same.store, seen] at seen'
  cases seen'
  have heard := (healthy.call_eq (.active now) none).1
  have heard' := ((same.healthy healthy).call_eq (.active now) none).1
  exact ⟨all, all', heard.trans answered, heard'.trans answered', own.trans own'.symm⟩

end

end Backend

end Turnstile
