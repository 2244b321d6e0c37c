import Turnstile.Proofs.Store.Calls
namespace Turnstile

namespace Memory

variable {client address actor : String} {b : Ban} {now cutoff reading : Nat} {automatic : Bool}

theorem holds_iff : holds client b = true ↔ b.address = client ∧ b.releasedAt = none := by
  simp only [holds, Ban.isUnreleased, Bool.and_eq_true, beq_iff_eq, Option.isNone_iff_eq_none]

def openRows (client : String) (bans : List Ban) : List Ban := bans.filter (holds client)

theorem mem_openRows {bans : List Ban} :
    b ∈ openRows client bans ↔ b ∈ bans ∧ b.address = client ∧ b.releasedAt = none := by
  rw [openRows, List.mem_filter, holds_iff]

theorem single {bans : List Ban} (once : bans.length ≤ 1) (member : b ∈ bans) : bans = [b] := by
  obtain ⟨a, rfl⟩ := List.length_eq_one_iff.1 (Nat.le_antisymm once (List.length_pos_of_mem member))
  rw [List.mem_singleton.1 member]

theorem openRows_cons (b : Ban) (rest : List Ban) :
    openRows client (b :: rest) = if holds client b then b :: openRows client rest else openRows client rest :=
  List.filter_cons

theorem not_holds_of_holds (other : address ≠ client) (held : holds address b = true) : holds client b = false := by
  rw [Bool.eq_false_iff]
  intro both
  exact other ((holds_iff.1 held).1.symm.trans (holds_iff.1 both).1)

theorem openRows_putBan_other (other : b.address ≠ client) (bans : List Ban) :
    openRows client (putBan b bans) = openRows client bans := by
  have away : holds client b = false := by
    rw [Bool.eq_false_iff]
    exact fun held => other (holds_iff.1 held).1
  induction bans with
  | nil => rw [putBan, openRows_cons, away]; rfl
  | cons first rest ih =>
    unfold putBan
    split
    · rename_i held
      rw [openRows_cons, openRows_cons, away, not_holds_of_holds other held]
      rfl
    · rw [openRows_cons, openRows_cons, ih]

theorem openRows_putBan_self (bans : List Ban) (once : (openRows b.address bans).length ≤ 1) :
    openRows b.address (putBan b bans) = if b.releasedAt = none then [b] else [] := by
  have own : holds b.address b = true ↔ b.releasedAt = none := by
    rw [holds_iff]
    exact and_iff_right rfl
  induction bans with
  | nil =>
    rw [putBan, openRows_cons]
    simp only [own]
    rfl
  | cons first rest ih =>
    rw [openRows_cons] at once
    unfold putBan
    split
    · rename_i held
      rw [if_pos held, List.length_cons] at once
      have none : openRows b.address rest = [] := List.length_eq_zero_iff.1 (by omega)
      rw [openRows_cons, none]
      simp only [own]
    · rename_i free
      rw [if_neg free] at once
      rw [openRows_cons, if_neg free]
      exact ih once

theorem openRows_releaseFirst_other (other : address ≠ client) (bans : List Ban) :
    openRows client (releaseFirst address reading actor automatic bans).2 = openRows client bans := by
  induction bans with
  | nil => rfl
  | cons first rest ih =>
    unfold releaseFirst
    split
    · rename_i held
      have closed : holds client (first.release reading actor automatic) = false := by
        rw [Bool.eq_false_iff]
        intro both
        have own := (holds_iff.1 both).1
        rw [Ban.address_release] at own
        exact other ((holds_iff.1 held).1.symm.trans own)
      rw [openRows_cons, openRows_cons, closed, not_holds_of_holds other held]
      rfl
    · rw [openRows_cons, openRows_cons, ih]

theorem not_holds_release (b : Ban) (client : String) (reading : Nat) (actor : String) (automatic : Bool)
    (unreleased : b.releasedAt = none) : holds client (b.release reading actor automatic) = false := by
  rw [Bool.eq_false_iff]
  intro both
  cases (Ban.releasedAt_release unreleased ..).symm.trans (holds_iff.1 both).2

theorem openRows_releaseFirst_self (bans : List Ban) :
    openRows client (releaseFirst client reading actor automatic bans).2 = (openRows client bans).tail := by
  induction bans with
  | nil => rfl
  | cons first rest ih =>
    unfold releaseFirst
    split
    · rename_i held
      have closed := not_holds_release first client reading actor automatic (holds_iff.1 held).2
      rw [openRows_cons, openRows_cons, closed, if_pos held]
      rfl
    · rename_i free
      rw [openRows_cons, openRows_cons, if_neg free, if_neg free, ih]

-- Rows that are closed are no longer open, and the others stay as they are.
theorem openRows_close {test : Ban → Bool} {close : Ban → Ban}
    (closes : ∀ row, test row = true → holds client (close row) = false) (rows : List Ban) :
    openRows client (rows.map fun row => if test row then close row else row) =
      (openRows client rows).filter fun row => !test row := by
  induction rows with
  | nil => rfl
  | cons first rest ih =>
    rw [List.map_cons, openRows_cons, openRows_cons, ih]
    cases tested : test first with
    | true =>
      simp only [if_true, closes first tested, Bool.false_eq_true, if_false]
      split
      · rw [List.filter_cons, tested]
        rfl
      · rfl
    | false =>
      simp only [Bool.false_eq_true, if_false]
      split
      · rw [List.filter_cons, tested]
        rfl
      · rfl

-- The rows of an address that block are the open ones whose deadline lies ahead.
theorem filter_active (now : Nat) (client : String) (bans : List Ban) :
    (bans.filter (·.isActive now)).filter (·.address == client) =
      (openRows client bans).filter (now < ·.bannedUntil) := by
  unfold openRows
  rw [List.filter_filter, List.filter_filter]
  refine List.filter_congr fun row _ => ?_
  rw [Bool.eq_iff_iff]
  simp only [Bool.and_eq_true, Ban.isActive_iff, holds_iff, beq_iff_eq, decide_eq_true_eq]
  exact ⟨fun ⟨own, unreleased, live⟩ => ⟨live, own, unreleased⟩, fun ⟨live, own, unreleased⟩ => ⟨own, unreleased, live⟩⟩

theorem filter_overdue (now : Nat) (bans : List Ban) :
    ((openRows client bans).filter fun row => !row.isOverdue now) =
      (openRows client bans).filter (now < ·.bannedUntil) := by
  refine List.filter_congr fun row member => ?_
  rw [Bool.eq_iff_iff, Bool.not_eq_true', Bool.eq_false_iff, ne_eq, Ban.isOverdue_iff, decide_eq_true_eq]
  have unreleased := (mem_openRows.1 member).2.2
  constructor
  · exact fun due => Nat.lt_of_not_le fun late => due ⟨unreleased, late⟩
  · exact fun live late => Nat.not_lt_of_le late.2 live

theorem openRows_expire (now : Nat) (bans : List Ban) :
    openRows client (bans.map (expire now)) = (openRows client bans).filter (now < ·.bannedUntil) := by
  rw [← filter_overdue]
  exact openRows_close (fun row overdue =>
    not_holds_release row client now systemActor true ((Ban.isOverdue_iff _ _).1 overdue).1) bans

theorem openRows_purge (cutoff : Nat) (bans : List Ban) :
    openRows client (bans.filter fun b => !releasedBefore cutoff b) = openRows client bans := by
  unfold openRows
  rw [List.filter_filter]
  refine List.filter_congr fun b _ => ?_
  cases held : holds client b with
  | false => rfl
  | true =>
    unfold releasedBefore
    rw [(holds_iff.1 held).2]
    rfl

end Memory

namespace Relational

open Memory (holds holds_iff openRows)

variable {client address actor : String} {b row : Ban} {reading : Nat} {automatic : Bool}

theorem holds_overwrite (client : String) (row b : Ban) : holds client (overwrite row b) = holds client row := rfl

theorem holds_newRow : holds client (newRow b) = (b.address == client) := by
  unfold holds newRow Ban.isUnreleased
  exact Bool.and_true _

-- A row afterwards is an old one, one that was overwritten, or the new one.
theorem mem_putRow {rows : List Ban} (member : row ∈ putRow b rows) :
    row ∈ rows ∨ (∃ old ∈ rows, row = overwrite old b) ∨ row = newRow b := by
  unfold putRow at member
  split at member
  · obtain ⟨old, there, rfl⟩ := List.mem_map.1 member
    split
    · exact .inr (.inl ⟨old, there, rfl⟩)
    · exact .inl there
  · rcases List.mem_append.1 member with old | new
    · exact .inl old
    · exact .inr (.inr (List.mem_singleton.1 new))

-- To update a row neither opens nor closes it.
theorem openRows_update (b : Ban) (rows : List Ban) :
    openRows client (rows.map fun row => if holds b.address row then overwrite row b else row) =
      (openRows client rows).map fun row => if holds b.address row then overwrite row b else row := by
  have stable : ∀ row, holds client (if holds b.address row then overwrite row b else row) = holds client row := by
    intro row
    split
    · exact holds_overwrite client row b
    · rfl
  unfold openRows
  rw [List.filter_map]
  simp only [Function.comp_def, stable]

theorem openRows_putRow_other (other : b.address ≠ client) (rows : List Ban) :
    openRows client (putRow b rows) = openRows client rows := by
  unfold putRow
  split
  · rw [openRows_update]
    refine (List.map_congr_left fun row member => ?_).trans (List.map_id _)
    have away := Memory.not_holds_of_holds (Ne.symm other) (List.mem_filter.1 member).2
    rw [away]
    rfl
  · unfold openRows
    rw [List.filter_append, List.filter_cons, holds_newRow, beq_eq_false_iff_ne.2 other]
    exact List.append_nil _

-- A stored row takes the place of the open row of its own address.
theorem openRows_putRow_self (rows : List Ban) (once : (openRows b.address rows).length ≤ 1) :
    ∃ row, openRows b.address (putRow b rows) = [row] ∧ row.bannedAt = column b.bannedAt ∧
      row.bannedUntil = column b.bannedUntil := by
  unfold putRow
  split
  · rename_i found
    obtain ⟨row, member, held⟩ := List.any_eq_true.1 found
    have single := Memory.single once (List.mem_filter.2 ⟨member, held⟩)
    refine ⟨overwrite row b, ?_, rfl, rfl⟩
    rw [openRows_update, single, List.map_singleton, if_pos held]
  · rename_i missing
    have none : openRows b.address rows = [] := by
      rw [openRows, List.filter_eq_nil_iff]
      intro row member held
      exact missing (List.any_eq_true.2 ⟨row, member, held⟩)
    refine ⟨newRow b, ?_, rfl, rfl⟩
    show (rows ++ [newRow b]).filter (holds b.address) = _
    rw [List.filter_append, show rows.filter (holds b.address) = [] from none, List.filter_cons, holds_newRow,
      beq_self_eq_true]
    rfl

theorem openRows_release (address : String) (rows : List Ban) :
    openRows client (updateRows (holds address) (releaseRow reading actor automatic) rows).2 =
      if address = client then [] else openRows client rows := by
  have closed : ∀ row, holds address row = true → holds client (releaseRow reading actor automatic row) = false :=
    fun row _ => by
      rw [Bool.eq_false_iff]
      exact fun both => absurd (holds_iff.1 both).2 nofun
  refine (Memory.openRows_close closed rows).trans ?_
  split
  · rename_i same
    subst same
    rw [List.filter_eq_nil_iff]
    intro row member
    rw [(List.mem_filter.1 member).2]
    exact Bool.false_ne_true
  · rename_i other
    refine List.filter_eq_self.2 fun row member => ?_
    rw [Memory.not_holds_of_holds (Ne.symm other) (List.mem_filter.1 member).2]
    rfl

theorem openRows_releaseExpired (now : Nat) (rows : List Ban) :
    openRows client (updateRows (·.isOverdue now) (releaseRow reading actor automatic) rows).2 =
      (openRows client rows).filter (now < ·.bannedUntil) := by
  rw [← Memory.filter_overdue]
  refine Memory.openRows_close (fun row _ => ?_) rows
  rw [Bool.eq_false_iff]
  exact fun both => absurd (holds_iff.1 both).2 nofun

end Relational

namespace Store

open Memory (openRows)

variable {s s' : Store} {c : Call} {client : String}

def bans : Store → List Ban
  | .memory m => m.bans
  | .relational r => r.bans

def keeps : Store → Nat → Nat
  | .memory _ => id
  | .relational _ => Relational.column

theorem keeps_le (s : Store) (n : Nat) : s.keeps n ≤ n := by
  cases s with
  | memory m => exact Nat.le_refl n
  | relational r => exact Nat.min_le_left ..

theorem keeps_answer {a : c.Answer} (answered : s.answer c = (.ok a, s')) : s'.keeps = s.keeps := by
  cases s with
  | memory m =>
    cases answered
    rfl
  | relational r =>
    simp only [answer] at answered
    obtain ⟨_, rfl⟩ := Prod.mk.inj answered
    rfl

-- What a call does to the open rows of an address that has at most one.
inductive Shifted (s : Store) (client : String) : Call → Store → Prop where
  | fewer {c : Call} {s' : Store} (closed : (openRows client s'.bans).Sublist (openRows client s.bans)) :
      Shifted s client c s'
  | stored {b row : Ban} {s' : Store} (own : b.address = client) (only : openRows client s'.bans = [row])
      (begins : row.bannedAt = s.keeps b.bannedAt) (ends : row.bannedUntil = s.keeps b.bannedUntil) :
      Shifted s client (.upsert b) s'

theorem shifted_memory {m : Memory} (once : (openRows client m.bans).length ≤ 1) (c : Call) :
    Shifted (.memory m) client c (.memory (m.answer c).2) := by
  cases c with
  | upsert b =>
    by_cases own : b.address = client
    · subst own
      have put := Memory.openRows_putBan_self m.bans once
      by_cases unreleased : b.releasedAt = none
      · rw [if_pos unreleased] at put
        exact .stored rfl put rfl rfl
      · rw [if_neg unreleased] at put
        refine .fewer ?_
        show (openRows b.address (Memory.putBan b m.bans)).Sublist _
        rw [put]
        exact List.nil_sublist _
    · refine .fewer ?_
      show (openRows client (Memory.putBan b m.bans)).Sublist _
      rw [Memory.openRows_putBan_other own]
      exact .refl _
  | release address reading actor automatic =>
    refine .fewer ?_
    show (openRows client (Memory.releaseFirst address reading actor automatic m.bans).2).Sublist _
    by_cases own : address = client
    · subst own
      rw [Memory.openRows_releaseFirst_self]
      exact List.tail_sublist _
    · rw [Memory.openRows_releaseFirst_other own]
      exact .refl _
  | releaseExpired now =>
    refine .fewer ?_
    show (openRows client (m.bans.map (Memory.expire now))).Sublist _
    rw [Memory.openRows_expire]
    exact List.filter_sublist
  | purgeBans cutoff =>
    refine .fewer ?_
    show (openRows client (m.bans.filter fun b => !Memory.releasedBefore cutoff b)).Sublist _
    rw [Memory.openRows_purge]
    exact .refl _
  | _ => exact .fewer (.refl _)

theorem shifted_relational {r : Relational} (once : (openRows client r.bans).length ≤ 1) (c : Call) :
    Shifted (.relational r) client c (.relational (r.answer c).2) := by
  cases c with
  | upsert b =>
    simp only [Relational.answer]
    split
    · by_cases own : b.address = client
      · subst own
        obtain ⟨row, only, begins, ends⟩ := Relational.openRows_putRow_self r.bans once
        exact .stored rfl only begins ends
      · refine .fewer ?_
        show (openRows client (Relational.putRow b r.bans)).Sublist _
        rw [Relational.openRows_putRow_other own]
        exact .refl _
    · exact .fewer (.refl _)
  | release address reading actor automatic =>
    refine .fewer ?_
    show (openRows client (Relational.updateRows _ (Relational.releaseRow reading actor automatic) r.bans).2).Sublist _
    rw [Relational.openRows_release]
    split
    · exact List.nil_sublist _
    · exact .refl _
  | releaseExpired now =>
    refine .fewer ?_
    show (openRows client (Relational.updateRows _ (Relational.releaseRow now systemActor true) r.bans).2).Sublist _
    rw [Relational.openRows_releaseExpired]
    exact List.filter_sublist
  | purgeBans cutoff =>
    refine .fewer ?_
    show (openRows client (r.bans.filter fun b => !Memory.releasedBefore _ b)).Sublist _
    rw [Memory.openRows_purge]
    exact .refl _
  | _ => exact .fewer (.refl _)

theorem shifted {a : c.Answer} (once : (openRows client s.bans).length ≤ 1) (answered : s.answer c = (.ok a, s')) :
    Shifted s client c s' := by
  cases s with
  | memory m =>
    cases answered
    exact shifted_memory once c
  | relational r =>
    simp only [answer] at answered
    obtain ⟨_, rfl⟩ := Prod.mk.inj answered
    exact shifted_relational once c

theorem answer_upsert {b : Ban} (once : (openRows b.address s.bans).length ≤ 1) (unreleased : b.releasedAt = none)
    (longer : s.keeps b.bannedAt < s.keeps b.bannedUntil) :
    ∃ row s', s.answer (.upsert b) = (.ok (), s') ∧ openRows b.address s'.bans = [row] ∧
      row.bannedAt = s.keeps b.bannedAt ∧ row.bannedUntil = s.keeps b.bannedUntil := by
  cases s with
  | memory m =>
    have put := Memory.openRows_putBan_self m.bans once
    rw [if_pos unreleased] at put
    exact ⟨b, _, rfl, put, rfl, rfl⟩
  | relational r =>
    obtain ⟨row, only, begins, ends⟩ := Relational.openRows_putRow_self r.bans once
    have passes : Relational.passesCheck b = true := decide_eq_true longer
    refine ⟨row, .relational { r with bans := Relational.putRow b r.bans }, ?_, only, begins, ends⟩
    simp only [answer, Relational.answer, passes, if_true]

theorem upsert_stored {b : Ban} {a : (Call.upsert b).Answer} (once : (openRows b.address s.bans).length ≤ 1)
    (unreleased : b.releasedAt = none) (answered : s.answer (.upsert b) = (.ok a, s')) :
    ∃ row, openRows b.address s'.bans = [row] ∧ row.bannedUntil = s.keeps b.bannedUntil := by
  cases s with
  | memory m =>
    have put := Memory.openRows_putBan_self m.bans once
    rw [if_pos unreleased] at put
    cases answered
    exact ⟨b, put, rfl⟩
  | relational r =>
    obtain ⟨row, only, _, ends⟩ := Relational.openRows_putRow_self r.bans once
    simp only [answer, Relational.answer] at answered
    split at answered
    · cases answered
      exact ⟨row, only, ends⟩
    · cases answered

theorem answer_active_ok (now : Nat) (s : Store) : ∃ rows : List Ban, s.answer (.active now) = (.ok rows, s) := by
  cases s with
  | memory m => exact ⟨_, rfl⟩
  | relational r => exact ⟨_, rfl⟩

-- The rows of an address that the store lists, whether or not its columns hold the reading.
theorem listed {now : Nat} {rows : List Ban} (answered : s.answer (.active now) = (.ok rows, s')) (client : String) :
    ∃ reading, reading ≤ now ∧ (rows.filter (·.address == client)).Perm
      ((openRows client s.bans).filter (reading < ·.bannedUntil)) := by
  cases s with
  | memory m =>
    have same : m.bans.filter (·.isActive now) = rows := Except.ok.inj (Prod.mk.inj answered).1
    refine ⟨now, Nat.le_refl _, ?_⟩
    rw [← same, Memory.filter_active]
    exact .refl _
  | relational r =>
    have same : (r.bans.filter (·.isActive (Relational.column now))).mergeSort Ban.byAddress = rows :=
      Except.ok.inj (Prod.mk.inj answered).1
    refine ⟨Relational.column now, Nat.min_le_left .., ?_⟩
    rw [← same]
    show List.Perm _ ((openRows client r.bans).filter _)
    rw [← Memory.filter_active]
    exact (List.mergeSort_perm ..).filter _

theorem Shifted.once (shifted : Shifted s client c s') (once : (openRows client s.bans).length ≤ 1) :
    (openRows client s'.bans).length ≤ 1 := by
  cases shifted with
  | fewer closed => exact Nat.le_trans closed.length_le once
  | stored own only begins ends => rw [only]; exact Nat.le_refl _

end Store

end Turnstile
