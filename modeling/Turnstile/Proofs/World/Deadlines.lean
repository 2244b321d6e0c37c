import Turnstile.Proofs.Store.Columns
import Turnstile.Proofs.World.Deliveries
-- Nothing is shortened as long as no deadline that lies ahead is followed by a sooner one. Deliveries, losses and releases only
-- take deadlines away; a ban adds one at the end.
namespace Turnstile

open Memory (openRows)
open World (queuedBans Durable)

-- The first deadline may be replaced by the second one: it is no later, or it is over.
def Yields (now first second : Nat) : Prop := first ≤ second ∨ first ≤ now

instance (now first second : Nat) : Decidable (Yields now first second) := inferInstanceAs (Decidable (_ ∨ _))

theorem Yields.later {now next first second : Nat} (yields : Yields now first second) (forward : now ≤ next) :
    Yields next first second := yields.imp_right fun past => Nat.le_trans past forward

-- A deadline that the columns hold compares with any other one as they keep it.
theorem Store.yields_keeps {s : Store} {now first second : Nat} (held : s.keeps first = first) :
    Yields now first (s.keeps second) ↔ Yields now first second := by
  cases s with
  | memory m => exact .rfl
  | relational r =>
    change min first signedMax = first at held
    show first ≤ min second signedMax ∨ first ≤ now ↔ first ≤ second ∨ first ≤ now
    omega

theorem Store.keeps_mono (s : Store) {m n : Nat} (le : m ≤ n) : s.keeps m ≤ s.keeps n := by
  cases s with
  | memory t => exact le
  | relational r =>
    show min m signedMax ≤ min n signedMax
    omega

variable {ν : Type} {client : String} {w u v : World ν}

namespace World

def queuedFor (client : String) (w : World ν) : List Ban := (queuedBans w.pending).filter (·.address = client)

def deadlines (client : String) (w : World ν) : List Nat :=
  (openRows client w.backend.store.bans).map (·.bannedUntil) ++
    (w.queuedFor client).map fun b => w.backend.store.keeps b.bannedUntil

structure Tidy (client : String) (w : World ν) : Prop where
  once : (openRows client w.backend.store.bans).length ≤ 1
  fits : w.backend.store.Fits
  unreleased : ∀ b ∈ queuedBans w.pending, b.releasedAt = none

-- No deadline is added, and none changes places with another one.
structure Ebbs (client : String) (w u : World ν) : Prop where
  tidy : u.Tidy client
  keeps : u.backend.store.keeps = w.backend.store.keeps
  forward : w.gate.now ≤ u.gate.now
  fewer : (u.deadlines client).Sublist (w.deadlines client)

-- No delivery shortens a ban, whatever is lost.
structure Rising (client : String) (w : World ν) : Prop where
  tidy : w.Tidy client
  rising : (w.deadlines client).Pairwise (Yields w.gate.now)

theorem Tidy.refl (tidy : w.Tidy client) : Ebbs client w w := ⟨tidy, rfl, Nat.le_refl _, .refl _⟩

theorem Rising.ebb (rising : w.Rising client) (ebbs : Ebbs client w u) : u.Rising client :=
  ⟨ebbs.tidy, (rising.rising.sublist ebbs.fewer).imp fun yields => yields.later ebbs.forward⟩

theorem Tidy.held (tidy : w.Tidy client) {a : Nat} (there : a ∈ w.deadlines client) : w.backend.store.keeps a = a := by
  rcases List.mem_append.1 there with stored | queued
  · obtain ⟨row, stands, rfl⟩ := List.mem_map.1 stored
    exact tidy.fits row (Memory.mem_openRows.1 stands).1
  · obtain ⟨b, _, rfl⟩ := List.mem_map.1 queued
    cases w.backend.store with
    | memory m => rfl
    | relational r => exact Store.column_column b.bannedUntil

theorem Ebbs.drain (ebbs : Ebbs client w u) (store : v.backend.store = u.backend.store)
    (queued : (queuedBans v.pending).Sublist (queuedBans u.pending)) (now : v.gate.now = u.gate.now) : Ebbs client w v := by
  obtain ⟨⟨once, fits, unreleased⟩, keeps, forward, fewer⟩ := ebbs
  refine ⟨⟨store ▸ once, store ▸ fits, fun b waits => unreleased b (queued.subset waits)⟩, store ▸ keeps, now ▸ forward,
    List.Sublist.trans ?_ fewer⟩
  unfold World.deadlines queuedFor
  rw [store]
  exact (List.Sublist.refl _).append ((queued.filter _).map _)

theorem Ebbs.shift (ebbs : Ebbs client w u) {c : Call} {a : c.Answer} (answered : u.backend.store.answer c = (.ok a, v.backend.store))
    (queued : (queuedBans v.pending).Sublist (queuedBans u.pending)) (now : v.gate.now = u.gate.now)
    (stored : ∀ b, c = .upsert b → b.address = client → queuedBans u.pending = b :: queuedBans v.pending) :
    Ebbs client w v := by
  have keeps := Store.keeps_answer answered
  have fits := ebbs.tidy.fits.answer c
  rw [answered] at fits
  have shifted := Store.shifted ebbs.tidy.once answered
  refine ⟨⟨shifted.once ebbs.tidy.once, fits, fun b waits => ebbs.tidy.unreleased b (queued.subset waits)⟩,
    keeps.trans ebbs.keeps, now ▸ ebbs.forward, List.Sublist.trans ?_ ebbs.fewer⟩
  unfold World.deadlines queuedFor
  rw [keeps]
  generalize v.backend.store = after at shifted
  cases shifted with
  | fewer closed => exact (closed.map _).append ((queued.filter _).map _)
  | @stored b row _ own only begins ends =>
    -- The ban has moved from the front of the queue to the place of the open row.
    rw [stored b rfl own, only, List.filter_cons, if_pos (decide_eq_true own)]
    simp only [List.map_cons, List.map_nil, ends]
    exact List.sublist_append_right ..

theorem Ebbs.deliver (ebbs : Ebbs client w u) : Ebbs client w u.deliver := by
  have told := deliver_cases u
  generalize u.deliver = after at told
  cases told with
  | idle => exact ebbs
  | @applied first rest a backend queued answered =>
    have split : queuedBans u.pending = queuedBans [first] ++ queuedBans rest := by
      rw [queued]
      exact queuedBans_append [first] rest
    refine ebbs.shift answered ?_ rfl ?_
    · rw [split]
      exact List.sublist_append_right ..
    · intro b upsert _
      rw [split]
      cases first with
      | ban made =>
        cases upsert
        rfl
      | _ => cases upsert
  | @lost first rest backend queued untouched =>
    refine ebbs.drain untouched ?_ rfl
    rw [queued]
    exact (queuedBans_append [first] rest) ▸ List.sublist_append_right ..

theorem ebbs_durable (client : String) (w : World ν) : Durable (Ebbs client w) where
  same u v store queued now ebbs := ebbs.drain store (queued ▸ .refl _) now
  called u c limit plain ebbs := by
    cases finished : u.backend.finish c limit with
    | mk result after =>
      cases result with
      | error e =>
        rw [Backend.finish_error finished]
        exact ebbs
      | ok a =>
        refine ebbs.shift (v := { u with backend := after }) (Backend.finish_ok finished) (.refl _) rfl ?_
        exact fun b upsert _ => absurd upsert (plain b)
  deliver u ebbs := ebbs.deliver
  later u reading forward ebbs :=
    ⟨⟨ebbs.tidy.once, ebbs.tidy.fits, ebbs.tidy.unreleased⟩, ebbs.keeps, Nat.le_trans ebbs.forward forward, ebbs.fewer⟩

theorem tidy_durable (client : String) : Durable (Tidy client : World ν → Prop) where
  same _ _ store queued now tidy := (tidy.refl.drain store (queued ▸ .refl _) now).tidy
  called w c limit plain tidy := ((ebbs_durable client w).called w c limit plain tidy.refl).tidy
  deliver _ tidy := tidy.refl.deliver.tidy
  later w reading forward tidy := ((ebbs_durable client w).later w reading forward tidy.refl).tidy

section
variable {x : World ν} {g g' : Gate ν} {made : Ban} {c reason actor : String} {d : Duration} {failures : Nat}

theorem ban_made (ban : g.ban c reason d failures actor = (.ok made, g')) :
    made = Registry.banned (g.activeBan c) g.now c reason d failures actor := by
  have told := g.ban_cases c reason d failures actor
  rw [ban] at told
  cases told with
  | made sound event => exact Registry.ban_made g.bans g.now c reason d failures actor

theorem address_ban (ban : g.ban c reason d failures actor = (.ok made, g')) (own : ∀ b, g.activeBan c = some b → b.address = c) :
    made.address = c := by
  rw [ban_made ban]
  exact Registry.address_banned own g.now reason d failures actor

theorem ban_outlasts (ban : g.ban c reason d failures actor = (.ok made, g')) (b : Ban) (active : g.activeBan c = some b) :
    b.bannedUntil ≤ made.bannedUntil := by
  rw [ban_made ban]
  exact (Registry.banned_live (g.bans.standing c) g.now c reason d failures actor).2.2 b active

theorem queuedBans_ban (ban : g.ban c reason d failures actor = (.ok made, g')) : made.releasedAt = none ∧
    ∃ taken, taken.Sublist [made] ∧ queuedBans g'.tally.outbox.pending = queuedBans g.tally.outbox.pending ++ taken := by
  have told := g.ban_cases c reason d failures actor
  rw [ban] at told
  cases told with
  | made sound event =>
    have live := Registry.banned_live (g.bans.standing c) g.now c reason d failures actor
    obtain ⟨taken, short, pending⟩ := Outbox.pending_send g.tally.outbox (.ban (g.bans.ban g.now c reason d failures actor).2.1)
    refine ⟨live.1, queuedBans taken, short.filterMap _, ?_⟩
    exact (congrArg queuedBans pending).trans (queuedBans_append ..)

theorem Tidy.banned (tidy : x.Tidy client) (ban : x.gate.ban c reason d failures actor = (.ok made, g'))
    (store : u.backend.store = x.backend.store) (queued : queuedBans u.pending = queuedBans g'.tally.outbox.pending) :
    u.Tidy client ∧ ∃ last, u.deadlines client = x.deadlines client ++ last ∧
      last.Sublist [x.backend.store.keeps made.bannedUntil] ∧ (last ≠ [] → made.address = client) := by
  obtain ⟨unreleased, taken, short, more⟩ := queuedBans_ban ban
  have waiting : queuedBans u.pending = queuedBans x.pending ++ taken := queued.trans more
  refine ⟨⟨store ▸ tidy.once, store ▸ tidy.fits, fun b waits => ?_⟩,
    (taken.filter (·.address = client)).map fun b => x.backend.store.keeps b.bannedUntil, ?_, ?_, fun some => ?_⟩
  · rw [waiting] at waits
    rcases List.mem_append.1 waits with old | new
    · exact tidy.unreleased b old
    · exact List.mem_singleton.1 (short.subset new) ▸ unreleased
  · unfold World.deadlines queuedFor
    rw [store, waiting, List.filter_append, List.map_append, List.append_assoc]
  · exact (List.filter_sublist.trans short).map _
  · obtain ⟨_, member⟩ := List.exists_mem_of_ne_nil _ some
    obtain ⟨b, found, _⟩ := List.mem_map.1 member
    obtain ⟨new, own⟩ := List.mem_filter.1 found
    rw [← List.mem_singleton.1 (short.subset new)]
    exact of_decide_eq_true own

theorem Rising.banned (rising : x.Rising client) (ban : x.gate.ban c reason d failures actor = (.ok made, g'))
    (store : u.backend.store = x.backend.store) (queued : queuedBans u.pending = queuedBans g'.tally.outbox.pending)
    (now : u.gate.now = x.gate.now)
    (latest : made.address = client → ∀ a ∈ u.deadlines client, Yields u.gate.now a made.bannedUntil) : u.Rising client := by
  obtain ⟨tidy, last, split, alone, own⟩ := rising.tidy.banned ban store queued
  refine ⟨tidy, ?_⟩
  rw [split, now]
  apply List.pairwise_append.2
  refine ⟨rising.rising, (List.pairwise_singleton _ _).sublist alone, ?_⟩
  intro a before z after
  have yields := latest (own (List.ne_nil_of_mem after)) a (split ▸ List.mem_append_left _ before)
  rw [List.mem_singleton.1 (alone.subset after), ← now]
  exact (Store.yields_keeps (rising.tidy.held before)).2 yields

end

def Extends (client : String) (w u : World ν) : Prop :=
  ∀ row ∈ openRows client w.backend.store.bans, w.gate.now < row.bannedUntil →
    ∃ after ∈ openRows client u.backend.store.bans, row.bannedUntil ≤ after.bannedUntil

instance (client : String) (w u : World ν) : Decidable (Extends client w u) :=
  inferInstanceAs (Decidable (∀ row ∈ openRows client w.backend.store.bans, w.gate.now < row.bannedUntil →
    ∃ after ∈ openRows client u.backend.store.bans, row.bannedUntil ≤ after.bannedUntil))

theorem Extends.same (store : u.backend.store = w.backend.store) : Extends client w u :=
  fun row stands _ => ⟨row, store ▸ stands, Nat.le_refl _⟩

theorem extends_upsert {b : Ban} {a : (Call.upsert b).Answer} (tidy : w.Tidy client) (unreleased : b.releasedAt = none)
    (own : b.address = client) (answered : w.backend.store.answer (.upsert b) = (.ok a, u.backend.store)) :
    Extends client w u ↔ ∀ row ∈ openRows client w.backend.store.bans, Yields w.gate.now row.bannedUntil b.bannedUntil := by
  subst own
  obtain ⟨stored, only, ends⟩ := Store.upsert_stored tidy.once unreleased answered
  unfold Extends
  rw [only]
  refine forall₂_congr fun row stands => ?_
  simp only [List.mem_singleton, exists_eq_left, ends]
  refine Iff.trans ?_ (Store.yields_keeps (tidy.fits row (Memory.mem_openRows.1 stands).1))
  unfold Yields
  omega

-- A queued ban that comes to be delivered takes the place of what yields to it.
theorem Rising.extends (rising : w.Rising client) {b : Ban} {rest : List Write} (queued : w.pending = .ban b :: rest)
    (own : b.address = client) : Extends client w w.deliver := by
  have front : queuedBans w.pending = b :: queuedBans rest := by
    rw [queued]
    rfl
  have yield : ∀ row ∈ openRows client w.backend.store.bans, Yields w.gate.now row.bannedUntil b.bannedUntil := by
    have across := (List.pairwise_append.1 rising.rising).2.2
    intro row stands
    refine (Store.yields_keeps (rising.tidy.fits row (Memory.mem_openRows.1 stands).1)).1 ?_
    refine across _ (List.mem_map_of_mem stands) _ (List.mem_map.2 ⟨b, ?_, rfl⟩)
    rw [queuedFor, front]
    exact List.mem_filter.2 ⟨List.mem_cons_self, decide_eq_true own⟩
  have unreleased : b.releasedAt = none := rising.tidy.unreleased b (front ▸ List.mem_cons_self)
  have told := deliver_cases w
  generalize w.deliver = after at told
  cases told with
  | idle => exact .same rfl
  | @applied first rest a backend same answered =>
    cases queued.symm.trans same
    exact (extends_upsert (u := { w with backend, gate := _ }) rising.tidy unreleased own answered).2 yield
  | lost same untouched => exact .same untouched

end World

end Turnstile
