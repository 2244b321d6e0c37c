import Turnstile.Proofs.Store.OpenRows
namespace Turnstile

def Call.cutoff? : Call → Option Nat
  | .purgeBans cutoff => some cutoff
  | _ => none

-- How the rows of an earlier table stand in a later one, with some deletions in between.
inductive Carried (cutoffs : List Nat) : List Ban → List Ban → Prop where
  | added (rows : List Ban) : Carried cutoffs [] rows
  | kept {old new : Ban} {before after : List Ban} (same : new.address = old.address) (unchanged : old.isUnreleased = false → new = old)
      (rest : Carried cutoffs before after) : Carried cutoffs (old :: before) (new :: after)
  | purged {old : Ban} {before after : List Ban} {cutoff : Nat} (asked : cutoff ∈ cutoffs)
      (due : ∀ reading, old.releasedAt = some reading → reading < cutoff) (rest : Carried cutoffs before after) :
      Carried cutoffs (old :: before) after

namespace Carried

variable {cutoffs later : List Nat} {before between after : List Ban}

theorem refl (cutoffs : List Nat) (rows : List Ban) : Carried cutoffs rows rows := by
  induction rows with
  | nil => exact .added []
  | cons row rest ih => exact .kept rfl (fun _ => rfl) ih

theorem trans (first : Carried cutoffs before between) (rest : Carried later between after) :
    Carried (cutoffs ++ later) before after := by
  induction first generalizing after with
  | added => exact .added after
  | purged asked due _ ih => exact .purged (List.mem_append_left _ asked) due (ih rest)
  | kept same unchanged _ ih =>
    cases rest with
    | kept same' unchanged' rest =>
      refine .kept (same'.trans same) (fun released => ?_) (ih rest)
      have still := unchanged released
      rw [unchanged' (still ▸ released), still]
    | purged asked due rest =>
      refine .purged (List.mem_append_right _ asked) (fun reading released => ?_) (ih rest)
      have still := unchanged (by simp [Ban.isUnreleased, released])
      exact due reading (still ▸ released)

-- A row that was released is there unchanged, unless one of the deletions came after its release.
theorem mem {b : Ban} {reading : Nat} (carried : Carried cutoffs before after) (member : b ∈ before)
    (released : b.releasedAt = some reading) (young : ∀ cutoff ∈ cutoffs, cutoff ≤ reading) : b ∈ after := by
  induction carried with
  | added => cases member
  | kept same unchanged rest ih =>
    rcases List.mem_cons.1 member with rfl | there
    · rw [unchanged (by simp [Ban.isUnreleased, released])]
      exact List.mem_cons_self
    · exact List.mem_cons_of_mem _ (ih there)
  | purged asked due rest ih =>
    rcases List.mem_cons.1 member with rfl | there
    · exact absurd (due reading released) (Nat.not_lt.2 (young _ asked))
    · exact ih there

end Carried

namespace Memory

variable {address actor : String} {reading : Nat} {automatic : Bool} {rows : List Ban}

theorem carried_putBan (made : Ban) (rows : List Ban) : Carried [] rows (putBan made rows) := by
  induction rows with
  | nil => exact .added _
  | cons first rest ih =>
    unfold putBan
    split
    · rename_i held
      obtain ⟨own, unreleased⟩ := holds_iff.1 held
      exact .kept own.symm (fun released => by simp [Ban.isUnreleased, unreleased] at released) (.refl [] rest)
    · exact .kept rfl (fun _ => rfl) ih

theorem carried_release (b : Ban) (reading : Nat) (actor : String) (automatic : Bool) {before after : List Ban}
    (rest : Carried [] before after) : Carried [] (b :: before) (b.release reading actor automatic :: after) :=
  .kept (b.address_release ..) (fun released => Ban.release_of_released released ..) rest

theorem carried_releaseFirst (address : String) (reading : Nat) (actor : String) (automatic : Bool) (rows : List Ban) :
    Carried [] rows (releaseFirst address reading actor automatic rows).2 := by
  induction rows with
  | nil => exact .added _
  | cons first rest ih =>
    unfold releaseFirst
    split
    · exact carried_release first reading actor automatic (.refl [] rest)
    · exact .kept rfl (fun _ => rfl) ih

theorem carried_expire (now : Nat) (rows : List Ban) : Carried [] rows (rows.map (expire now)) := by
  induction rows with
  | nil => exact .added _
  | cons first rest ih =>
    rw [List.map_cons]
    unfold expire at ih ⊢
    split
    · exact carried_release first now systemActor true ih
    · exact .kept rfl (fun _ => rfl) ih

theorem carried_purge (cutoff : Nat) (rows : List Ban) :
    Carried [cutoff] rows (rows.filter fun b => !releasedBefore cutoff b) := by
  induction rows with
  | nil => exact .added _
  | cons first rest ih =>
    rw [List.filter_cons]
    split
    · exact .kept rfl (fun _ => rfl) ih
    · rename_i old
      refine .purged (List.mem_singleton_self cutoff) (fun reading released => ?_) ih
      simpa [releasedBefore, released] using old

theorem carried_answer (c : Call) (m : Memory) : Carried c.cutoff?.toList m.bans (m.answer c).2.bans := by
  cases c with
  | upsert made => exact carried_putBan made m.bans
  | release address reading actor automatic => exact carried_releaseFirst address reading actor automatic m.bans
  | releaseExpired now => exact carried_expire now m.bans
  | purgeBans cutoff => exact carried_purge cutoff m.bans
  | increment | count | append | active | archive | purgeAttempts => exact .refl _ _

theorem releaseFirst_isSome : (releaseFirst address reading actor automatic rows).1.isSome ↔
    ∃ row ∈ rows, row.address = address ∧ row.releasedAt = none := by
  induction rows with
  | nil => simp [releaseFirst]
  | cons first rest ih =>
    unfold releaseFirst
    split
    · rename_i held
      exact iff_of_true rfl ⟨first, List.mem_cons_self, holds_iff.1 held⟩
    · rename_i free
      rw [holds_iff] at free
      refine ih.trans ⟨fun ⟨row, member, own⟩ => ⟨row, List.mem_cons_of_mem _ member, own⟩, ?_⟩
      rintro ⟨row, member, own⟩
      rcases List.mem_cons.1 member with rfl | there
      · exact absurd own free
      · exact ⟨row, there, own⟩

theorem mem_of_releaseFirst {row : Ban} (found : (releaseFirst address reading actor automatic rows).1 = some row) :
    row ∈ (releaseFirst address reading actor automatic rows).2 ∧ row.address = address ∧ row.releasedAt = some reading := by
  induction rows with
  | nil => cases found
  | cons first rest ih =>
    unfold releaseFirst at found ⊢
    split at found
    · rename_i held
      obtain ⟨own, unreleased⟩ := holds_iff.1 held
      cases found
      rw [if_pos held]
      exact ⟨List.mem_cons_self, (first.address_release ..).trans own, Ban.releasedAt_release unreleased ..⟩
    · rename_i free
      obtain ⟨there, released⟩ := ih found
      rw [if_neg free]
      exact ⟨List.mem_cons_of_mem _ there, released⟩

theorem releaseFirst_of_none (none : openRows address rows = []) (reading : Nat) (actor : String)
    (automatic : Bool) : releaseFirst address reading actor automatic rows = (.none, rows) := by
  induction rows with
  | nil => rfl
  | cons first rest ih =>
    rw [openRows_cons] at none
    unfold releaseFirst
    split
    · rename_i held
      rw [if_pos held] at none
      cases none
    · rename_i free
      rw [if_neg free] at none
      rw [ih none]

theorem active_of_expire (now : Nat) (rows : List Ban) :
    (rows.map (expire now)).filter (·.isActive now) = (rows.map (expire now)).filter (·.isUnreleased) := by
  apply List.filter_congr
  intro row member
  obtain ⟨old, -, rfl⟩ := List.mem_map.1 member
  unfold expire
  split
  · rename_i overdue
    have unreleased := ((Ban.isOverdue_iff _ _).1 overdue).1
    simp [Ban.isActive, Ban.release, Ban.isUnreleased, unreleased]
  · rename_i due
    unfold Ban.isActive
    cases unreleased : old.isUnreleased with
    | false => rfl
    | true => simpa [Ban.isOverdue, unreleased] using due

end Memory

namespace Backend

open Memory (openRows)

inductive Incident where
  | call (c : Call) (limit : Option Duration)
  | faults (script : List Fault)
  | reach (on : Bool)
  | slow (latency : Duration)

def meet (b : Backend) : Incident → Backend
  | .call c limit => (b.call c limit).2
  | .faults script => b.addFaults script
  | .reach on => b.setReachable on
  | .slow latency => b.setLatency latency

def through (b : Backend) (incidents : List Incident) : Backend := incidents.foldl meet b

def cutoff? (b : Backend) : Incident → Option Nat
  | .call c limit =>
    match (b.call c limit).1 with
    | .ok _ => c.cutoff?
    | .error _ => none
  | _ => none

def cutoffs (b : Backend) : List Incident → List Nat
  | [] => []
  | first :: rest => (b.cutoff? first).toList ++ (b.meet first).cutoffs rest

variable {b u : Backend} {i : Incident} {limit : Option Duration}

theorem through_append (b : Backend) (first rest : List Incident) : b.through (first ++ rest) = (b.through first).through rest :=
  List.foldl_append

-- A call that is not answered does nothing to the tables, and one that is answered does what it does to them.
theorem meet_cases (b : Backend) (i : Incident) : ((b.meet i).store = b.store ∧ b.cutoff? i = none) ∨
    ∃ c a, b.store.answer c = (.ok a, (b.meet i).store) ∧ b.cutoff? i = c.cutoff? := by
  cases i with
  | call c limit =>
    cases called : b.call c limit with
    | mk result after =>
      cases result with
      | error e =>
        refine .inl ⟨?_, ?_⟩
        · rw [meet, called]
          exact call_error called
        · rw [cutoff?, called]
      | ok a =>
        refine .inr ⟨c, a, ?_, ?_⟩
        · rw [meet, called]
          exact call_ok called
        · rw [cutoff?, called]
  | faults | reach | slow => exact .inl ⟨rfl, rfl⟩

structure Listed (b : Backend) : Prop where
  memory : ∃ m, b.store = .memory m
  once : ∀ client, (openRows client b.store.bans).length ≤ 1

theorem Listed.of_store (listed : b.Listed) (same : u.store = b.store) : u.Listed where
  memory := same ▸ listed.memory
  once := same ▸ listed.once

theorem listed_memory : Backend.memory.Listed := ⟨⟨_, rfl⟩, fun _ => Nat.zero_le 1⟩

theorem Listed.meet (listed : b.Listed) (i : Incident) :
    (b.meet i).Listed ∧ Carried (b.cutoff? i).toList b.store.bans (b.meet i).store.bans := by
  obtain ⟨⟨m, tables⟩, once⟩ := listed
  rcases b.meet_cases i with ⟨same, none⟩ | ⟨c, a, answered, cutoff⟩
  · rw [none]
    refine ⟨⟨⟨m, same.trans tables⟩, ?_⟩, ?_⟩
    · rw [same]
      exact once
    · rw [same]
      exact .refl _ _
  · have kept (client : String) := (Store.shifted (once client) answered).once (once client)
    rw [tables] at answered
    have after : (b.meet i).store = .memory (m.answer c).2 := (Prod.mk.inj answered).2.symm
    refine ⟨⟨⟨_, after⟩, kept⟩, ?_⟩
    rw [cutoff, tables, after]
    exact Memory.carried_answer c m

theorem Listed.through (listed : b.Listed) (incidents : List Incident) :
    (b.through incidents).Listed ∧ Carried (b.cutoffs incidents) b.store.bans (b.through incidents).store.bans := by
  induction incidents generalizing b with
  | nil => exact ⟨listed, .refl _ _⟩
  | cons first rest ih =>
    obtain ⟨next, step⟩ := listed.meet first
    obtain ⟨last, later⟩ := ih next
    exact ⟨last, step.trans later⟩

theorem Listed.call (listed : b.Listed) {c : Call} {answer : Except StoreError c.Answer} (called : b.call c limit = (answer, u)) :
    u.Listed := by
  have after := (listed.meet (.call c limit)).1
  rwa [Backend.meet, called] at after

theorem call_memory {m : Memory} {c : Call} {a : c.Answer} (tables : b.store = .memory m)
    (called : b.call c limit = (.ok a, u)) : (m.answer c).1 = a ∧ u.store = .memory (m.answer c).2 := by
  have answered := call_ok called
  rw [tables, Store.answer_memory] at answered
  obtain ⟨told, after⟩ := Prod.mk.inj answered
  exact ⟨Except.ok.inj told, after.symm⟩

-- A release leaves no open row of its address for the next one.
theorem Listed.release (listed : b.Listed) {address actor : String} {reading : Nat} {automatic : Bool} {found : Option Ban}
    (released : b.call (.release address reading actor automatic) limit = (.ok found, u)) :
    (found.isSome ↔ ∃ row ∈ b.store.bans, row.address = address ∧ row.releasedAt = none) ∧
      (∀ row, found = some row → row ∈ u.store.bans ∧ row.address = address ∧ row.releasedAt = some reading) ∧
      openRows address u.store.bans = [] := by
  obtain ⟨⟨m, tables⟩, once⟩ := listed
  obtain ⟨told, after⟩ := call_memory tables released
  have few := once address
  rw [tables] at few ⊢
  rw [after, ← told]
  refine ⟨Memory.releaseFirst_isSome, fun row => Memory.mem_of_releaseFirst, ?_⟩
  change openRows address (Memory.releaseFirst address reading actor automatic m.bans).2 = []
  rw [Memory.openRows_releaseFirst_self]
  apply List.eq_nil_of_length_eq_zero
  rw [List.length_tail]
  exact Nat.sub_eq_zero_of_le few

theorem Listed.release_again (listed : b.Listed) {address actor : String} {reading : Nat} {automatic : Bool} {found : Option Ban}
    (none : openRows address b.store.bans = [])
    (released : b.call (.release address reading actor automatic) limit = (.ok found, u)) : found = .none ∧ u.store = b.store := by
  obtain ⟨⟨m, tables⟩, -⟩ := listed
  obtain ⟨told, after⟩ := call_memory tables released
  rw [tables] at none ⊢
  have idle : Memory.releaseFirst address reading actor automatic m.bans = (.none, m.bans) :=
    Memory.releaseFirst_of_none none reading actor automatic
  rw [after, ← told]
  simp only [Memory.answer]
  rw [idle]
  exact ⟨rfl, rfl⟩

theorem Listed.active (listed : b.Listed) {now : Nat} {rows : List Ban} (listing : b.call (.active now) limit = (.ok rows, u)) :
    rows = b.store.bans.filter (·.isActive now) := by
  obtain ⟨⟨m, tables⟩, -⟩ := listed
  rw [tables]
  exact (call_memory tables listing).1.symm

theorem Listed.sweep (listed : b.Listed) {now : Nat} {ended : List Ban}
    (swept : b.call (.releaseExpired now) limit = (.ok ended, u)) :
    u.store.bans.filter (·.isActive now) = u.store.bans.filter (·.isUnreleased) := by
  obtain ⟨⟨m, tables⟩, -⟩ := listed
  rw [(call_memory tables swept).2]
  exact Memory.active_of_expire now m.bans

-- At any time an address has at most one open row. From then on every row keeps its place, is left alone once it is released, and
-- goes by a later deletion for its age or not at all; a call that fails changes nothing. A release finds the open row exactly if
-- there is one and leaves nothing to the next, and a sweep leaves open what is active at its reading, whatever outages come between.
theorem ban_rows_history (first rest : List Incident) :
    let before := Backend.memory.through first
    (∀ client, (openRows client before.store.bans).length ≤ 1) ∧
    Carried (before.cutoffs rest) before.store.bans (Backend.memory.through (first ++ rest)).store.bans ∧
    (∀ b ∈ before.store.bans, ∀ reading, b.releasedAt = some reading → (∀ cutoff ∈ before.cutoffs rest, cutoff ≤ reading) →
      b ∈ (Backend.memory.through (first ++ rest)).store.bans) ∧
    (∀ c limit e after, before.call c limit = (.error e, after) → after.store = before.store) ∧
    (∀ address reading actor automatic limit found after,
      before.call (.release address reading actor automatic) limit = (.ok found, after) →
      (found.isSome ↔ ∃ row ∈ before.store.bans, row.address = address ∧ row.releasedAt = none) ∧
      (∀ row, found = some row → row ∈ after.store.bans ∧ row.address = address ∧ row.releasedAt = some reading) ∧
      ∀ (u : Backend) reading' actor' automatic' limit' again after', u.store = after.store →
        u.call (.release address reading' actor' automatic') limit' = (.ok again, after') → again = none ∧ after'.store = u.store) ∧
    ∀ now limit ended after, before.call (.releaseExpired now) limit = (.ok ended, after) →
      ∀ (u : Backend) limit' rows after', u.store = after.store → u.call (.active now) limit' = (.ok rows, after') →
        rows = u.store.bans.filter (·.isUnreleased) := by
  intro before
  obtain ⟨listed, -⟩ := listed_memory.through first
  change before.Listed at listed
  have carried := (listed.through rest).2
  rw [through_append]
  refine ⟨listed.once, carried, fun b member reading => carried.mem member, fun c limit e after => call_error, ?_, ?_⟩
  · intro address reading actor automatic limit found after released
    obtain ⟨told, row, none⟩ := listed.release released
    refine ⟨told, row, ?_⟩
    intro u reading' actor' automatic' limit' again after' same called
    exact ((listed.call released).of_store same).release_again (same ▸ none) called
  · intro now limit ended after swept u limit' rows after' same called
    rw [((listed.call swept).of_store same).active called, same]
    exact listed.sweep swept

def pardon : List Incident :=
  [.call (.upsert (Registry.fresh "c" 0 100 "abuse" 0 "admin")) none, .reach false,
    .call (.upsert (Registry.fresh "c" 0 300 "abuse" 0 "admin")) none, .reach true, .call (.release "c" 50 "admin" false) none,
    .call (.upsert (Registry.fresh "c" 60 900 "spam" 0 "admin")) none]

-- The released row outlives every deletion of rows that were released before it.
theorem pardon_history : (Backend.memory.through pardon).store.bans =
      [⟨"c", 0, 100, "abuse", 0, "admin", some 50, some "admin", false⟩, Registry.fresh "c" 60 900 "spam" 0 "admin"] ∧
    (openRows "c" (Backend.memory.through pardon).store.bans).length ≤ 1 ∧
    ⟨"c", 0, 100, "abuse", 0, "admin", some 50, some "admin", false⟩ ∈
      (Backend.memory.through (pardon ++ [.call (.purgeBans 50) none, .call (.releaseExpired 1000) none])).store.bans := by
  have rows : (Backend.memory.through pardon).store.bans =
      [⟨"c", 0, 100, "abuse", 0, "admin", some 50, some "admin", false⟩, Registry.fresh "c" 60 900 "spam" 0 "admin"] := by
    decide +kernel
  obtain ⟨once, -, stays, -⟩ := ban_rows_history pardon [.call (.purgeBans 50) none, .call (.releaseExpired 1000) none]
  refine ⟨rows, once "c", stays _ ?_ 50 rfl (by decide +kernel)⟩
  rw [rows]
  exact List.mem_cons_self

end Backend

end Turnstile
