import Turnstile.Proofs.Gate.Merge
import Turnstile.Proofs.World.Coherence
import Turnstile.Proofs.World.Deadlines
namespace Turnstile

open Memory (openRows)
open World (queuedBans Extends)

variable {ν : Type} [Quantity ν] {client : String}

namespace Visit

-- No ban ends sooner than one that lies ahead and comes to stand in the store before it.
structure Informed (client : String) (v : Visit ν) : Prop where
  made : ∀ made ∈ v.made? client, ∀ a ∈ v.after.deadlines client, Yields v.after.gate.now a made.bannedUntil
  foreign : ∀ b ∈ v.move.stores?, b.address = client →
    (∀ row ∈ openRows client v.world.backend.store.bans, Yields v.world.gate.now row.bannedUntil b.bannedUntil) ∧
      ∀ later ∈ v.world.queuedFor client, Yields v.world.gate.now b.bannedUntil later.bannedUntil

instance (client : String) (v : Visit ν) : Decidable (v.Informed client) :=
  decidable_of_iff ((∀ made ∈ v.made? client, ∀ a ∈ v.after.deadlines client, Yields v.after.gate.now a made.bannedUntil) ∧
    ∀ b ∈ v.move.stores?, b.address = client →
      (∀ row ∈ openRows client v.world.backend.store.bans, Yields v.world.gate.now row.bannedUntil b.bannedUntil) ∧
        ∀ later ∈ v.world.queuedFor client, Yields v.world.gate.now b.bannedUntil later.bannedUntil)
    ⟨fun ⟨made, foreign⟩ => ⟨made, foreign⟩, fun ⟨made, foreign⟩ => ⟨made, foreign⟩⟩

structure Extending (client : String) (v : Visit ν) : Prop where
  delivered : ∀ u ∈ v.deliveries, ∀ b rest, u.pending = .ban b :: rest → b.address = client → Extends client u u.deliver
  foreign : ∀ b ∈ v.move.stores?, b.address = client → b.releasedAt = none → Extends client v.world v.after

theorem active_of_made {v : Visit ν} {made : Ban} (found : v.made? client = some made) : v.after.gate.activeBan client = some made := by
  unfold made? at found
  split at found
  · exact found
  · cases found

theorem alone_of_made {v : Visit ν} {made : Ban} (found : v.made? client = some made) : v.move.stores? = none := by
  unfold made? at found
  split at found
  · rename_i asks
    obtain ⟨w, m⟩ := v
    cases m with
    | call c => exact asks.elim nofun fun entering => absurd entering.1 Bool.false_ne_true
    | _ => rfl
  · cases found

end Visit

namespace World

variable {w : World ν} {v : Visit ν}

theorem after_stores {b : Ban} (stores : v.move.stores? = some b) : ∃ backend, v.after = { v.world with backend } ∧
    (backend.store = v.world.backend.store ∨ ∃ a, v.world.backend.store.answer (.upsert b) = (.ok a, backend.store)) := by
  obtain ⟨w, m⟩ := v
  cases m with
  | call c =>
    cases c with
    | upsert stored =>
      cases stores
      refine ⟨(w.backend.call (.upsert b) none).2, rfl, ?_⟩
      cases called : w.backend.call (.upsert b) none with
      | mk result backend =>
        cases result with
        | error e => exact .inl (Backend.call_error called)
        | ok a => exact .inr ⟨a, Backend.call_ok called⟩
    | _ => cases stores
  | _ => cases stores

theorem Tidy.step (forward : v.world.gate.now ≤ v.after.gate.now) (tidy : v.world.Tidy client) : v.after.Tidy client := by
  cases stores : v.move.stores? with
  | none =>
    have turned := (tidy_durable client).step forward stores tidy
    cases turned with
    | kept after => exact after
    | banned before known ban told only store queued now => exact (before.banned ban store queued).1
  | some b =>
    obtain ⟨backend, after, same | ⟨a, answered⟩⟩ := after_stores stores
    · rw [after]
      exact (tidy.refl.drain (v := { v.world with backend }) same (.refl _) rfl).tidy
    · have fits := tidy.fits.answer (.upsert b)
      rw [answered] at fits
      rw [after]
      exact ⟨(Store.shifted tidy.once answered).once tidy.once, fits, tidy.unreleased⟩

theorem Rising.stores {b : Ban} {backend : Backend} {a : (Call.upsert b).Answer} (rising : v.world.Rising client)
    (informed : v.Informed client) (stores : v.move.stores? = some b)
    (answered : v.world.backend.store.answer (.upsert b) = (.ok a, backend.store)) (tidy : World.Tidy client { v.world with backend }) :
    World.Rising client { v.world with backend } := by
  refine ⟨tidy, ?_⟩
  have keeps := Store.keeps_answer answered
  have shifted := Store.shifted rising.tidy.once answered
  have before := List.pairwise_append.1 rising.rising
  show ((openRows client backend.store.bans).map (·.bannedUntil) ++
    (v.world.queuedFor client).map fun b => backend.store.keeps b.bannedUntil).Pairwise _
  rw [keeps]
  apply List.pairwise_append.2
  generalize backend.store = after at shifted
  cases shifted with
  | fewer closed =>
    refine ⟨before.1.sublist (closed.map _), before.2.1, ?_⟩
    intro a there
    exact before.2.2 a ((closed.map _).subset there)
  | @stored _ row _ own only begins ends =>
    rw [only]
    refine ⟨List.pairwise_singleton _ _, before.2.1, ?_⟩
    intro a there z waits
    obtain ⟨later, queued, rfl⟩ := List.mem_map.1 waits
    have yields := (informed.foreign b stores own).2 later queued
    cases List.mem_singleton.1 there
    show Yields v.world.gate.now row.bannedUntil _
    rw [ends]
    exact yields.imp (fun sooner => Store.keeps_mono _ sooner) fun past => Nat.le_trans (Store.keeps_le _ _) past

theorem Rising.step (forward : v.world.gate.now ≤ v.after.gate.now) (addressed : v.world.gate.bans.Addressed)
    (informed : v.Informed client) (rising : v.world.Rising client) : v.after.Rising client := by
  cases stores : v.move.stores? with
  | none =>
    have turned := (ebbs_durable client v.world).step forward stores rising.tidy.refl
    cases turned with
    | kept ebbs => exact rising.ebb ebbs
    | @banned x g' made c reason actor d failures ebbs known ban told only store queued now =>
      apply (rising.ebb ebbs).banned ban store queued now
      intro own
      have same := address_ban ban fun b active => addressed _ b (Standing.activeBan_eq_some.1 (known ▸ active)).1
      rw [← own, same] at informed ⊢
      exact informed.made made told
  | some b =>
    have tidy := rising.tidy.step forward
    obtain ⟨backend, after, same | ⟨a, answered⟩⟩ := after_stores stores
    · rw [after]
      exact rising.ebb (rising.tidy.refl.drain (v := { v.world with backend }) same (.refl _) rfl)
    · rw [after] at tidy ⊢
      exact rising.stores informed stores answered tidy

theorem Rising.extending (rising : v.world.Rising client) (informed : v.Informed client) : v.Extending client where
  delivered u member b rest queued own := by
    have ebbs := (ebbs_durable client v.world).deliveries rising.tidy.refl u member
    exact (rising.ebb ebbs).extends queued own
  foreign b stores own unreleased := by
    obtain ⟨backend, after, same | ⟨a, answered⟩⟩ := after_stores stores
    · rw [after]
      exact .same same
    · rw [after]
      exact (extends_upsert (u := { v.world with backend }) rising.tidy unreleased own answered).2 (informed.foreign b stores own).1

-- The gate knows a ban of the client that lasts as long as whatever the store has or is about to get.
def Holds (client : String) (w : World ν) : Prop :=
  ∀ a ∈ w.deadlines client, w.gate.now < a → ∃ b ∈ w.gate.activeBan client, a ≤ b.bannedUntil

theorem Holds.informed (holds : v.world.Holds client) (tidy : v.world.Tidy client) (forward : v.world.gate.now ≤ v.after.gate.now)
    (alone : v.move.stores? = none) : v.Informed client := by
  refine ⟨fun made found a there => ?_, fun b stores => ?_⟩
  · have turned := (ebbs_durable client v.world).step forward alone tidy.refl
    cases turned with
    | kept _ unmade => cases (unmade client).symm.trans found
    | @banned x g' last c reason actor d failures ebbs known ban told only store queued now =>
      obtain ⟨rfl, rfl⟩ := only client made found
      obtain ⟨_, new, split, alone, _⟩ := ebbs.tidy.banned ban store queued
      rw [split] at there
      rcases List.mem_append.1 there with before | after
      · by_cases ahead : v.world.gate.now < a
        · obtain ⟨b, active, sooner⟩ := holds a (ebbs.fewer.subset before) ahead
          rw [← known] at active
          exact .inl (Nat.le_trans sooner (ban_outlasts ban b active))
        · exact .inr (Nat.le_trans (Nat.le_of_not_lt ahead) forward)
      · rw [List.mem_singleton.1 (alone.subset after)]
        exact .inl (Store.keeps_le _ _)
  · cases alone.symm.trans stores

structure Reloaded (origin : Gate ν) (u : World ν) : Prop where
  now : u.gate.now = origin.now
  merged : ∃ rows : List Ban, u.backend.store.answer (.active origin.now) = (.ok rows, u.backend.store) ∧
    u.gate.bans = (origin.bans.merge origin.now rows).2

omit [Quantity ν] in
theorem leads_restore (origin : Gate ν) :
    Leads (fun u : World ν => u.gate.bans = origin.bans ∧ u.gate.now = origin.now) Gate.restore
      fun answer u => ∀ n, answer = .ok n → Reloaded origin u := by
  rintro meanwhile w ⟨bans, now⟩ n answered
  obtain ⟨still, -, ends⟩ := leads_restored (I := fun _ => True) origin (fun _ _ _ => trivial) meanwhile w ⟨bans, now, trivial⟩
  rw [answered] at ends
  cases ends with
  | merged listed merged => exact ⟨still, _, listed, (congrArg Prod.snd merged).symm⟩

-- A gate whose reload was answered holds what the store has, unless it released the client itself.
theorem Tidy.holds_restored {u : World ν} {meanwhile : List Nat} {n : Nat} (tidy : u.Tidy client)
    (restored : w.step (.command .restore meanwhile) = (.restored (.ok n), u)) (unmarked : w.gate.bans.released.get? client = none)
    (empty : u.queuedFor client = []) : u.Holds client := by
  have mapped : (Reply.restored (perform meanwhile Gate.restore w).1, (perform meanwhile Gate.restore w).2) = (.restored (.ok n), u) :=
    (perform_map Reply.restored (Gate.restore : Routine (Gate ν) _) meanwhile w).symm.trans restored
  obtain ⟨replied, rfl⟩ := Prod.mk.inj mapped
  obtain ⟨now, rows, answered, bans⟩ := leads_restore w.gate meanwhile w ⟨rfl, rfl⟩ n (Reply.restored.inj replied)
  generalize (perform meanwhile Gate.restore w).2 = u at tidy empty now answered bans
  intro a there ahead
  unfold deadlines at there
  rw [empty, List.map_nil, List.append_nil] at there
  obtain ⟨row, stands, rfl⟩ := List.mem_map.1 there
  rw [now] at ahead
  obtain ⟨reading, early, same⟩ := Store.listed answered client
  have listed : row ∈ rows.filter (·.address == client) := by
    apply same.symm.subset
    exact List.mem_filter.2 ⟨stands, decide_eq_true (Nat.lt_of_le_of_lt early ahead)⟩
  have live := tidy.fits.live answered
  have free : ((w.gate.bans.standing client).dropMark w.gate.now).mark = none := by
    show (w.gate.bans.released.get? client).filter _ = none
    rw [unmarked]
    rfl
  obtain ⟨b, known, reaches⟩ := (Standing.takes_reach free fun row member => live row (List.mem_filter.1 member).1).2 row listed
  refine ⟨b, ?_, reaches⟩
  show (u.gate.bans.standing client).activeBan u.gate.now = some b
  rw [now, bans, Registry.standing_merge]
  exact known

theorem Tidy.extends_iff {made : Ban} (tidy : v.after.Tidy client) (addressed : v.after.gate.bans.Addressed)
    (found : v.made? client = some made) (next : v.after.pending = [.ban made])
    (applied : v.after.deliver.gate.tally.outbox.applied = v.after.gate.tally.outbox.applied + 1) :
    Extends client v.after v.after.deliver ↔ v.Informed client := by
  have waits : queuedBans v.after.pending = [made] := by
    rw [next]
    rfl
  have active := v.active_of_made found
  have own : made.address = client := addressed client made
    (Standing.activeBan_eq_some (s := v.after.gate.bans.standing client) |>.1 active).1
  have told := deliver_cases v.after
  generalize v.after.deliver = u at told applied
  cases told with
  | idle empty => cases empty.symm.trans next
  | lost queued untouched => exact absurd applied (Nat.succ_ne_self _).symm
  | @applied first rest a backend queued answered =>
    cases next.symm.trans queued
    have unreleased : made.releasedAt = none := tidy.unreleased made (waits ▸ List.mem_singleton_self made)
    refine (extends_upsert (u := { v.after with backend, gate := _ }) tidy unreleased own answered).trans ?_
    constructor
    · intro yields
      refine ⟨fun other same a there => ?_, fun b stores => ?_⟩
      · cases found.symm.trans same
        rcases List.mem_append.1 there with stored | queued
        · obtain ⟨row, stands, rfl⟩ := List.mem_map.1 stored
          exact yields row stands
        · obtain ⟨b, member, rfl⟩ := List.mem_map.1 queued
          have same := (List.mem_filter.1 member).1
          rw [waits] at same
          cases List.mem_singleton.1 same
          exact .inl (Store.keeps_le _ _)
      · cases (v.alone_of_made found).symm.trans stores
    · intro informed row stands
      exact informed.made made found _ (List.mem_append_left _ (List.mem_map_of_mem stands))

omit [Quantity ν] in
theorem Built.rising {b : Blueprint} {start : Nat} {backend : Backend} (fresh : Built b start backend w)
    (once : (openRows client backend.store.bans).length ≤ 1) (fits : backend.store.Fits) : w.Rising client := by
  have none : queuedBans w.pending = [] := by
    rw [fresh.pending]
    rfl
  rw [← fresh.backend] at once fits
  refine ⟨⟨once, fits, ?_⟩, ?_⟩
  · rw [none]
    exact fun b waits => absurd waits List.not_mem_nil
  · have only : w.deadlines client = (openRows client w.backend.store.bans).map (·.bannedUntil) := by
      unfold deadlines queuedFor
      rw [none]
      exact List.append_nil _
    rw [only]
    generalize openRows client w.backend.store.bans = rows at once
    rcases rows with _ | ⟨row, _ | ⟨other, rest⟩⟩
    · exact .nil
    · exact List.pairwise_singleton _ _
    · exact absurd once (by simp)

-- As long as every ban is informed, none shortens what the store has, however late it is delivered and whatever is lost. A gate
-- that holds the client's bans is informed, and a reload makes it hold them; and a ban that is stored at once extends what is there
-- exactly if it is informed.
theorem informed_bans_extend {b : Blueprint} {start : Nat} {backend : Backend} {sink : Sink}
    (built : World.build b start backend sink = .ok w) (client : String) (once : (openRows client backend.store.bans).length ≤ 1)
    (fits : backend.store.Fits) (moves : List Move) (forward : ∀ v ∈ w.visits moves, v.world.gate.now ≤ v.after.gate.now) :
    ((∀ v ∈ w.visits moves, v.Informed client) → ∀ v ∈ w.visits moves, v.Extending client) ∧
      (∀ v ∈ w.visits moves, v.world.Holds client → v.move.stores? = none → v.Informed client) ∧
      (∀ v ∈ w.visits moves, ∀ meanwhile n, v.move = .command .restore meanwhile →
        (v.world.step v.move).1 = .restored (.ok n) → v.world.gate.bans.released.get? client = none →
          v.after.queuedFor client = [] → v.after.Holds client) ∧
      ∀ v ∈ w.visits moves, ∀ made, v.made? client = some made → v.after.pending = [.ban made] →
        v.after.deliver.gate.tally.outbox.applied = v.after.gate.tally.outbox.applied + 1 →
          (Extends client v.after v.after.deliver ↔ v.Informed client) := by
  have fresh := World.built built
  have rising := Built.rising fresh once fits
  have addressed : w.gate.bans.Addressed := fresh.bans ▸ Registry.addressed_empty
  have sound : ∀ v ∈ w.visits moves,
      (v.world.Tidy client ∧ v.world.gate.bans.Addressed) ∧ v.after.Tidy client ∧ v.after.gate.bans.Addressed := by
    refine visits_keep (I := fun u => u.Tidy client ∧ u.gate.bans.Addressed) ⟨rising.tidy, addressed⟩ ?_ moves forward
    exact fun v before forward => ⟨before.1.step forward, addressed_step before.2 v.move⟩
  refine ⟨fun informed v member => ?_, fun v member holds alone => ?_, ?_, ?_⟩
  · have both : ∀ v ∈ w.visits moves, v.world.gate.now ≤ v.after.gate.now ∧ v.Informed client :=
      fun v there => ⟨forward v there, informed v there⟩
    have ordered := visits_keep (I := fun u => u.Rising client ∧ u.gate.bans.Addressed) ⟨rising, addressed⟩ ?_ moves both
    · exact (ordered v member).1.1.extending (informed v member)
    · exact fun v before told => ⟨before.1.step told.1 before.2 told.2, addressed_step before.2 v.move⟩
  · exact holds.informed (sound v member).1.1 (forward v member) alone
  · rintro ⟨u, m⟩ member meanwhile n rfl answered unmarked empty
    exact (sound _ member).2.1.holds_restored (Prod.ext answered rfl) unmarked empty
  · intro v member made found next applied
    obtain ⟨tidy, filed⟩ := (sound v member).2
    exact tidy.extends_iff filed found next applied

-- The store keeps a ban of a hundred seconds, and another gate begins over that store.
def inherited : List Move :=
  [.command (.ban "c" "abuse" (.ofSecs 100) 0 "admin") [], .flush, .restart ⟨.standard, some .strict, none⟩]

def banShortly : Move := .command (.ban "c" "abuse" (.ofSecs 10) 0 "admin") []

-- If it reloads before it bans the client for ten seconds, the client stays banned for as long as it was.
theorem reloaded_ban_extends :
    (∀ v ∈ strict.visits (inherited ++ [.command .restore []] ++ [banShortly] ++ [.deliver]), v.Extending "c") ∧
      (strict.run (inherited ++ [.command .restore []])).Holds "c" ∧
      ∃ row ∈ openRows "c" (strict.run (inherited ++ [.command .restore []] ++ [banShortly] ++ [.deliver])).backend.store.bans,
        100000 ≤ row.bannedUntil := by
  obtain ⟨extending, informed, holds, prompt⟩ := informed_bans_extend build_strict "c" (by decide +kernel) (by decide +kernel)
    (inherited ++ [.command .restore []] ++ [banShortly] ++ [.deliver]) (by decide +kernel)
  simp only [visits_snoc, List.forall_mem_append, List.forall_mem_singleton] at informed holds prompt
  have knows : (strict.run (inherited ++ [.command .restore []])).Holds "c" := by
    rw [run_snoc]
    exact holds.1.1.2 [] 1 rfl (by rfl) (by decide +kernel) (by decide +kernel)
  have told := informed.1.2 knows rfl
  refine ⟨extending (by decide +kernel), knows, ?_⟩
  have extended := (prompt.1.2 (Registry.fresh "c" 0 100000 "abuse" 0 "admin") (by decide +kernel) (by decide +kernel)
    (by decide +kernel)).2 told
  rw [run_snoc, run_snoc]
  exact extended (Registry.fresh "c" 0 100000 "abuse" 0 "admin") (by decide +kernel) (by decide +kernel)

-- If it does not, the ban in the store is shortened.
theorem unloaded_ban_shortens :
    (∀ v ∈ strict.visits (inherited ++ [banShortly] ++ [.deliver]), v.world.gate.now ≤ v.after.gate.now) ∧
      ∃ v ∈ strict.visits (inherited ++ [banShortly] ++ [.deliver]), ∃ u ∈ v.deliveries, ∃ b rest, u.pending = .ban b :: rest ∧
        b.address = "c" ∧ ¬ Extends "c" u u.deliver := by
  refine ⟨by decide +kernel, ⟨strict.run (inherited ++ [banShortly]), .deliver⟩, ?_, _, List.mem_singleton_self _,
    Registry.fresh "c" 0 10000 "abuse" 0 "admin", [], by decide +kernel, rfl, by decide +kernel⟩
  rw [visits_snoc]
  exact List.mem_append_right _ List.mem_cons_self

end World

end Turnstile
