import Turnstile.Proofs.Policy
import Turnstile.Proofs.Store.Refinement
import Turnstile.Proofs.World.History
import Turnstile.Proofs.World.Lingering
namespace Turnstile

def Ban.Telling (b : Ban) : Prop := ¬Admission.Reserved b.reason

instance : DecidablePred Ban.Telling := fun b => inferInstanceAs (Decidable (¬Admission.Reserved b.reason))

namespace Registry

variable {r : Registry} {now : Nat}

def Telling (r : Registry) : Prop := ∀ address b, (r.standing address).ban = some b → b.Telling

theorem telling_empty : Registry.empty.Telling := nofun

theorem Telling.active (telling : r.Telling) {address : String} : ∀ b, r.activeBan now address = some b → b.Telling :=
  fun b active => telling address b (Standing.activeBan_eq_some (s := r.standing address).1 active).1

theorem telling_banned {previous : Option Ban} (before : ∀ b, previous = some b → b.Telling) {reason : String}
    (own : ¬Admission.Reserved reason) (now : Nat) (address : String) (d : Duration) (failures : Nat) (actor : String) :
    (banned previous now address reason d failures actor).Telling := by
  cases previous with
  | none => exact own
  | some b =>
    unfold banned extend Ban.Telling
    dsimp only
    split
    · exact own
    · exact before b rfl

theorem Telling.ban (telling : r.Telling) {reason : String} (own : ¬Admission.Reserved reason) (now : Nat) (address : String)
    (d : Duration) (failures : Nat) (actor : String) : (r.ban now address reason d failures actor).2.2.Telling := by
  intro key b found
  rw [standing_ban] at found
  split at found
  · cases found
    exact telling_banned telling.active own now address d failures actor
  · exact telling key b found

theorem Telling.unban (telling : r.Telling) (now : Nat) (address : String) : (r.unban now address).2.Telling := by
  intro key b found
  rw [standing_unban] at found
  split at found
  · split at found <;> cases found
  · exact telling key b found

theorem Telling.merge (telling : r.Telling) {rows : List Ban} (listed : ∀ row ∈ rows, row.Telling) (now : Nat) :
    (r.merge now rows).2.Telling := by
  intro key
  rw [standing_merge]
  refine Standing.takes_all (fun b row own => ?_) (fun row member => listed row (List.mem_filter.1 member).1) (telling key)
  unfold Standing.prolong
  split <;> exact own

theorem Telling.expire (telling : r.Telling) (now : Nat) : (r.expire now).2.Telling := by
  intro key b found
  rw [standing_expire] at found
  exact telling.active b found

theorem Telling.pruneFloors (telling : r.Telling) (before : Nat) : (r.pruneFloors before).2.Telling := by
  intro key b found
  rw [standing_pruneFloors] at found
  exact telling key b found

end Registry

namespace Memory

theorem reason_releaseFirst (address : String) (reading : Nat) (actor : String) (automatic : Bool) (rows : List Ban) :
    (releaseFirst address reading actor automatic rows).2.map Ban.reason = rows.map Ban.reason := by
  induction rows with
  | nil => rfl
  | cons first rest ih =>
    unfold releaseFirst
    split
    · simp only [List.map_cons, Ban.reason_release]
    · simp only [List.map_cons, ih]

theorem reason_expire (now : Nat) (row : Ban) : (expire now row).reason = row.reason := by
  unfold expire
  split
  · exact Ban.reason_release ..
  · rfl

end Memory

namespace Store

variable {s s' : Store} {c : Call}

def Telling (s : Store) : Prop := ∀ row ∈ s.bans, row.Telling

instance (s : Store) : Decidable s.Telling := inferInstanceAs (Decidable (∀ row ∈ s.bans, row.Telling))

theorem telling_map {rows : List Ban} (before : ∀ row ∈ rows, row.Telling) {f : Ban → Ban}
    (kept : ∀ row, (f row).reason = row.reason) : ∀ row ∈ rows.map f, row.Telling := by
  intro row member
  obtain ⟨old, there, rfl⟩ := List.mem_map.1 member
  unfold Ban.Telling
  rw [kept]
  exact before old there

theorem Telling.putRow {r : Relational} (telling : (Store.relational r).Telling) {b : Ban} (own : b.Telling) :
    ∀ row ∈ Relational.putRow b r.bans, row.Telling := by
  intro row member
  rcases Relational.mem_putRow member with old | ⟨old, there, rfl⟩ | rfl
  · exact telling row old
  · exact own
  · exact own

theorem Telling.answer (telling : s.Telling) (own : ∀ b, c = .upsert b → b.Telling) : (s.answer c).2.Telling := by
  cases s with
  | memory m =>
    cases c with
    | upsert b =>
      intro row member
      rcases Memory.mem_putBan member with old | rfl
      · exact telling row old
      · exact own _ rfl
    | release address reading actor automatic =>
      intro row member
      have among : row.reason ∈ m.bans.map Ban.reason := by
        rw [← Memory.reason_releaseFirst address reading actor automatic m.bans]
        exact List.mem_map_of_mem member
      obtain ⟨old, there, same⟩ := List.mem_map.1 among
      have before := telling old there
      unfold Ban.Telling at before ⊢
      rwa [← same]
    | releaseExpired now => exact telling_map telling (Memory.reason_expire now)
    | purgeBans cutoff => exact fun row member => telling row (List.mem_filter.1 member).1
    | _ => exact telling
  | relational r =>
    cases c with
    | upsert b =>
      simp only [Store.answer, Relational.answer]
      split
      · exact telling.putRow (own b rfl)
      · exact telling
    | release | releaseExpired =>
      refine telling_map telling fun row => ?_
      split <;> rfl
    | purgeBans cutoff => exact fun row member => telling row (List.mem_filter.1 member).1
    | _ => exact telling

theorem Telling.listed (telling : s.Telling) {now : Nat} {rows : List Ban} (answered : s.answer (.active now) = (.ok rows, s')) :
    ∀ row ∈ rows, row.Telling := by
  cases s with
  | memory m =>
    cases answered
    exact fun row member => telling row (List.mem_filter.1 member).1
  | relational r =>
    cases answered
    exact fun row member => telling row (List.mem_filter.1 (List.mem_mergeSort.1 member)).1

end Store

namespace World

variable {ν : Type} {w u : World ν}

structure Telling (w : World ν) : Prop where
  known : w.gate.bans.Telling
  queued : ∀ b, .ban b ∈ w.pending → b.Telling
  stored : w.backend.store.Telling

theorem Telling.deliver (before : w.Telling) : w.deliver.Telling := by
  have told := deliver_cases w
  generalize w.deliver = after at told
  cases told with
  | idle => exact before
  | @applied first rest a backend queued answered =>
    have later : ∀ write ∈ rest, write ∈ w.pending := fun write member => queued ▸ List.mem_cons_of_mem _ member
    have kept : (w.backend.store.answer first.call).2.Telling := by
      refine before.stored.answer fun b same => before.queued b ?_
      rw [queued]
      cases first with
      | ban made =>
        cases same
        exact List.mem_cons_self
      | _ => cases same
    rw [answered] at kept
    exact ⟨before.known, fun b waits => before.queued b (later _ waits), kept⟩
  | @lost first rest backend queued untouched =>
    have later : ∀ write ∈ rest, write ∈ w.pending := fun write member => queued ▸ List.mem_cons_of_mem _ member
    exact ⟨before.known, fun b waits => before.queued b (later _ waits), untouched ▸ before.stored⟩

theorem Telling.deliverMany (before : w.Telling) (n : Nat) : (deliverMany n w).Telling :=
  deliverMany_keeps (fun _ so => so.deliver) n before

theorem Telling.flush (before : w.Telling) : w.flush.Telling :=
  ⟨(before.deliverMany _).known, (before.deliverMany _).queued, (before.deliverMany _).stored⟩

-- A ban that is asked for is made only with a reason that it may state.
theorem Telling.banned (before : w.Telling) (c reason : String) (d : Duration) (failures : Nat) (actor : String) :
    Telling { w with gate := (w.gate.ban c reason d failures actor).2 } := by
  have banned := w.gate.ban_cases c reason d failures actor
  generalize w.gate.ban c reason d failures actor = result at banned
  cases banned with
  | refused => exact before
  | made sound event =>
    have own := (Gate.banFault?_eq_none.1 sound).2.2
    refine ⟨before.known.ban own _ c d failures actor, fun b waits => ?_, before.stored⟩
    rcases queued_send waits with old | new
    · exact before.queued b old
    · cases new
      exact Registry.telling_banned before.known.active own _ c d failures actor

theorem Telling.unbanned (before : w.Telling) (c actor : String) (note : Option String) :
    Telling { w with gate := (w.gate.unban c actor note).2 } := by
  have unbanned := w.gate.unban_cases c actor note
  generalize w.gate.unban c actor note = result at unbanned
  cases unbanned with
  | refused => exact before
  | idle => exact ⟨before.known.unban _ c, before.queued, before.stored⟩
  | ended =>
    refine ⟨before.known.unban _ c, fun b waits => ?_, before.stored⟩
    rcases queued_send waits with old | new
    · exact before.queued b old
    · cases new

theorem Telling.finish (before : w.Telling) {c : Call} (plain : ∀ b, c ≠ .upsert b) :
    Telling { w with backend := (w.backend.finish c none).2 } :=
  ⟨before.known, before.queued, Backend.finish_keeps (fun _ so => so.answer fun b same => absurd same (plain b)) before.stored none⟩

variable [Quantity ν]

theorem Act.telling {sweeping : Prop} (act : Act sweeping w u) (before : w.Telling) : u.Telling := by
  cases act with
  | arrive => exact ⟨before.known, before.queued, Backend.store_arrive w.backend ▸ before.stored⟩
  | deliver => exact before.deliver
  | reload answered =>
    exact ⟨before.known.merge (before.stored.listed (Backend.finish_ok answered)) _, before.queued, before.stored⟩
  | expire => exact ⟨before.known.expire _, before.queued, before.stored⟩
  | @releaseExpired released backend _ answered =>
    have kept := before.finish (c := .releaseExpired w.gate.now) nofun
    rw [answered] at kept
    exact ⟨kept.known, kept.queued, kept.stored⟩
  | prune => exact ⟨before.known.pruneFloors _, before.queued, before.stored⟩
  | count =>
    refine ⟨before.known, fun b waits => ?_, before.stored⟩
    rcases queued_send waits with old | new
    · exact before.queued b old
    · cases new
  | limit | upkeep => exact ⟨before.known, before.queued, before.stored⟩
  | archive => exact before.finish nofun
  | purgeAttempts => exact before.finish nofun
  | purgeBans => exact before.finish nofun

theorem Telling.entered {c e : String} {critical : Bool} {answer : Except GateError Admission}
    (entered : Entered w c e critical (answer, u)) (before : w.Telling) : u.Telling :=
  entered.keeps (fun _ _ act => act.telling) (fun _ c reason d failures actor so => so.banned c reason d failures actor)
    (fun _ _ so => ⟨so.known, so.queued, so.stored⟩) before

theorem Telling.update {c : Command} (plain : c.asks = false) (before : w.Telling) : Telling { w with gate := c.update w.gate } := by
  cases quiet : c.isQuiet with
  | true =>
    refine ⟨?_, fun b waits => ?_, before.stored⟩
    · show (c.update w.gate).bans.Telling
      rw [(Command.quiet_update quiet w.gate).1]
      exact before.known
    · change .ban b ∈ (c.update w.gate).tally.outbox.pending at waits
      rw [Command.tally_update plain] at waits
      rcases queued_sendAll waits with old | new
      · exact before.queued b old
      · cases Command.plain_writes quiet w.gate _ new
  | false =>
    cases c with
    | ban c reason length failures actor => exact before.banned c reason length failures actor
    | unban c actor note => exact before.unbanned c actor note
    | release c actor reason => exact before.unbanned c actor (some reason)
    | expire => exact ⟨before.known.expire _, before.queued, before.stored⟩
    | prune cutoff => exact ⟨before.known.pruneFloors _, before.queued, before.stored⟩
    | clock reading => exact ⟨before.known, before.queued, before.stored⟩
    | _ => cases quiet

omit [Quantity ν] in
-- A new gate knows nothing, and nothing waits in its queue.
theorem Built.telling {b : Blueprint} {start : Nat} {backend : Backend} (fresh : Built b start backend w)
    (stored : backend.store.Telling) : w.Telling := by
  refine ⟨?_, fun b waits => ?_, fresh.backend ▸ stored⟩
  · rw [fresh.bans]
    exact Registry.telling_empty
  · rw [fresh.pending] at waits
    cases waits

theorem Telling.restart (before : w.Telling) (b : Blueprint) : (w.flush.rebuild b).Telling := by
  rcases rebuild_cases b w.flush with same | fresh
  · rw [same]
    exact before.flush
  · exact fresh.telling before.flush.stored

end World

namespace Move

def stores? : Move → Option Ban
  | .call (.upsert b) => some b
  | _ => none

end Move

theorem World.Telling.step {ν : Type} [Quantity ν] {w : World ν} {m : Move} (before : w.Telling)
    (foreign : ∀ b ∈ m.stores?, b.Telling) : (w.step m).2.Telling := by
  cases own : m.isOwn with
  | false =>
    cases m with
    | call c =>
      refine ⟨before.known, before.queued, Backend.call_keeps (fun _ so => so.answer fun b same => ?_) before.stored none⟩
      subst same
      exact foreign b rfl
    | restart b => exact before.restart b
    | _ => cases own
  | true =>
    have told := moved w own
    generalize (w.step m).2 = u at told
    cases told with
    | plain same => exact before.update (Move.plain_asks same).1
    | idle => exact before
    | entered other enters entered => exact before.entered entered
    | acted other enters acts => exact acts.keeps (fun _ _ act => act.telling) before
    | flushed other n =>
      exact ⟨(before.deliverMany n).known, (before.deliverMany n).queued, (before.deliverMany n).stored⟩
    | weather other kept => exact ⟨before.known, before.queued, kept ▸ before.stored⟩

end Turnstile
