import Turnstile.Proofs.Gate.Effects
import Turnstile.Proofs.Registry.Guard
import Turnstile.Proofs.Store.OpenRows
import Turnstile.Proofs.World.Floors
namespace Turnstile.World

open Memory (openRows)

variable {ν : Type} {client : String} {w u v : World ν}

-- Beginning and deadline of an unreleased row, in the store or on its way there.
inductive Lingers (client : String) (w : World ν) : Nat → Nat → Prop where
  | stored {row : Ban} (open' : row ∈ openRows client w.backend.store.bans) :
      Lingers client w row.bannedAt row.bannedUntil
  | queued {b : Ban} (waits : .ban b ∈ w.pending) (own : b.address = client) :
      Lingers client w (w.backend.store.keeps b.bannedAt) (w.backend.store.keeps b.bannedUntil)

def queuedBans (writes : List Write) : List Ban :=
  writes.filterMap fun
    | .ban b => some b
    | _ => none

theorem mem_queuedBans {writes : List Write} {b : Ban} : b ∈ queuedBans writes ↔ .ban b ∈ writes := by
  unfold queuedBans
  rw [List.mem_filterMap]
  constructor
  · rintro ⟨write, member, found⟩
    cases write with
    | ban made => cases found; exact member
    | _ => cases found
  · exact fun member => ⟨_, member, rfl⟩

theorem forall_lingers {P : Nat → Nat → Prop} : (∀ begins ends, w.Lingers client begins ends → P begins ends) ↔
    (∀ row ∈ openRows client w.backend.store.bans, P row.bannedAt row.bannedUntil) ∧
      ∀ b ∈ queuedBans w.pending, b.address = client →
        P (w.backend.store.keeps b.bannedAt) (w.backend.store.keeps b.bannedUntil) := by
  constructor
  · exact fun all => ⟨fun row member => all _ _ (.stored member),
      fun b member own => all _ _ (.queued (mem_queuedBans.1 member) own)⟩
  · rintro ⟨rows, writes⟩ begins ends lingers
    cases lingers with
    | stored there => exact rows _ there
    | queued waits own => exact writes _ (mem_queuedBans.2 waits) own

-- What is true of rows and marks between any two acts.
structure Orderly (client : String) (w : World ν) : Prop where
  once : (openRows client w.backend.store.bans).length ≤ 1
  unreleased : ∀ b, .ban b ∈ w.pending → b.releasedAt = none
  addressed : w.gate.bans.Addressed
  guarded : (w.standingOf client).Guarded (w.Lingers client) w.gate.now

-- No row is added: what lingers has lingered before.
structure Fades (client : String) (w u : World ν) : Prop where
  keeps : u.backend.store.keeps = w.backend.store.keeps
  once : (openRows client u.backend.store.bans).length ≤ 1
  unreleased : ∀ b, .ban b ∈ u.pending → b.releasedAt = none
  fewer : ∀ begins ends, u.Lingers client begins ends → w.Lingers client begins ends

-- No ban comes from elsewhere than before.
structure Inherits (client : String) (w u : World ν) : Prop where
  orderly : u.Orderly client
  keeps : u.backend.store.keeps = w.backend.store.keeps
  secured : ∀ calls, (w.standingOf client).Secured w.backend.store.keeps calls (w.Lingers client) w.gate.now →
    (u.standingOf client).Secured u.backend.store.keeps calls (u.Lingers client) u.gate.now

theorem Inherits.refl (orderly : w.Orderly client) : Inherits client w w := ⟨orderly, rfl, fun _ secured => secured⟩

theorem Inherits.trans (first : Inherits client w u) (rest : Inherits client u v) : Inherits client w v :=
  ⟨rest.orderly, rest.keeps.trans first.keeps, fun calls secured => rest.secured calls (first.secured calls secured)⟩

theorem Orderly.fades (orderly : w.Orderly client) (store : u.backend.store = w.backend.store)
    (queued : ∀ b, .ban b ∈ u.pending → .ban b ∈ w.pending ∨ b.address ≠ client ∧ b.releasedAt = none) :
    Fades client w u where
  keeps := by rw [store]
  once := by rw [store]; exact orderly.once
  unreleased b waits := by
    rcases queued b waits with old | new
    · exact orderly.unreleased b old
    · exact new.2
  fewer begins ends lingers := by
    cases lingers with
    | stored there => exact .stored (store ▸ there)
    | queued waits own =>
      rw [store]
      rcases queued _ waits with old | new
      · exact .queued old own
      · exact absurd own new.1

theorem Orderly.kept (orderly : w.Orderly client) (store : u.backend.store = w.backend.store)
    (pending : u.pending = w.pending) : Fades client w u :=
  orderly.fades store fun b waits => .inl (by rwa [← pending])

theorem Orderly.called (orderly : w.Orderly client) {c : Call} (plain : ∀ b, c ≠ .upsert b)
    {limit : Option Duration} (backend : u.backend = (w.backend.finish c limit).2) (pending : u.pending = w.pending) :
    Fades client w u := by
  cases finished : w.backend.finish c limit with
  | mk answer after =>
    rw [finished] at backend
    cases answer with
    | error e =>
      rw [Backend.finish_error finished] at backend
      exact orderly.kept (congrArg Backend.store backend) pending
    | ok a =>
      have answered := Backend.finish_ok finished
      have store : u.backend.store = after.store := congrArg Backend.store backend
      have shifted := Store.shifted orderly.once answered
      rw [← store] at answered shifted
      have once := shifted.once orderly.once
      cases shifted with
      | fewer closed =>
        refine ⟨Store.keeps_answer answered, once, fun b waits => orderly.unreleased b (by rwa [← pending]), ?_⟩
        intro begins ends lingers
        cases lingers with
        | stored there => exact .stored (closed.subset there)
        | queued waits own =>
          rw [Store.keeps_answer answered]
          exact .queued (by rwa [← pending]) own
      | stored => exact absurd rfl (plain _)

-- A write that leaves the queue leaves it for the tables, or for good.
theorem Orderly.deliver (orderly : w.Orderly client) : Fades client w w.deliver := by
  have told := deliver_cases w
  generalize w.deliver = after at told
  cases told with
  | idle => exact orderly.kept rfl rfl
  | @applied first rest a backend queued answered =>
    have later {b : Ban} (waits : .ban b ∈ rest) : .ban b ∈ w.pending := by
      rw [queued]
      exact List.mem_cons_of_mem _ waits
    have shifted := Store.shifted orderly.once answered
    refine ⟨Store.keeps_answer answered, shifted.once orderly.once,
      fun b waits => orderly.unreleased b (later waits), fun begins ends lingers => ?_⟩
    cases lingers with
    | @stored row there =>
      change row ∈ openRows client backend.store.bans at there
      generalize next : first.call = c at shifted
      cases shifted with
      | fewer closed => exact .stored (closed.subset there)
      | @stored b last _ own only begins ends =>
        rw [only] at there
        cases List.mem_singleton.1 there
        rw [begins, ends]
        refine .queued ?_ own
        rw [queued]
        cases first with
        | ban made =>
          cases next
          exact List.mem_cons_self
        | _ => cases next
    | queued waits own =>
      show w.Lingers client (backend.store.keeps _) (backend.store.keeps _)
      rw [Store.keeps_answer answered]
      exact .queued (later waits) own
  | @lost first rest backend queued untouched =>
    refine orderly.fades untouched fun b waits => .inl ?_
    rw [queued]
    exact List.mem_cons_of_mem _ waits

-- What the registry knows is as it was, or older.
theorem Fades.inherits (fades : Fades client w u) (orderly : w.Orderly client) (same : u.gate.bans = w.gate.bans)
    (forward : w.gate.now ≤ u.gate.now) : Inherits client w u where
  orderly := ⟨fades.once, fades.unreleased, same ▸ orderly.addressed, by
    unfold standingOf
    rw [same]
    exact orderly.guarded.later fades.fewer forward⟩
  keeps := fades.keeps
  secured calls secured := by
    unfold standingOf
    rw [same, fades.keeps]
    exact secured.later fades.fewer forward

theorem Orderly.inherits (orderly : w.Orderly client) {g : Gate ν} (now : g.now = w.gate.now)
    (pending : g.tally.outbox.pending = w.pending) (addressed : g.bans.Addressed)
    (guarded : (g.bans.standing client).Guarded (w.Lingers client) w.gate.now)
    (secured : ∀ calls, (w.standingOf client).Secured w.backend.store.keeps calls (w.Lingers client) w.gate.now →
      (g.bans.standing client).Secured w.backend.store.keeps calls (w.Lingers client) w.gate.now) :
    Inherits client w { w with gate := g } := by
  have lingers : ({ w with gate := g } : World ν).Lingers client = w.Lingers client := by
    funext begins ends
    refine propext ⟨fun there => ?_, fun there => ?_⟩
    · exact (orderly.kept (u := { w with gate := g }) rfl pending).fewer begins ends there
    · cases there with
      | stored there => exact .stored (w := { w with gate := g }) there
      | @queued b waits own =>
        have still : .ban b ∈ g.tally.outbox.pending := by rwa [pending]
        exact .queued (w := { w with gate := g }) still own
  refine ⟨⟨orderly.once, fun b waits => orderly.unreleased b (by rwa [← pending]), addressed, ?_⟩, rfl,
    fun calls before => ?_⟩
  · rw [lingers]
    show (g.bans.standing client).Guarded _ g.now
    rw [now]
    exact guarded
  · rw [lingers]
    show (g.bans.standing client).Secured _ _ _ g.now
    rw [now]
    exact secured calls before

-- Only the queueing of a ban makes a row linger.
theorem queued_send {o : Outbox} {write : Write} {b : Ban} (waits : .ban b ∈ (o.send write).pending) :
    .ban b ∈ o.pending ∨ write = .ban b := by
  obtain ⟨taken, short, pending⟩ := Outbox.pending_send o write
  rw [pending] at waits
  rcases List.mem_append.1 waits with old | new
  · exact .inl old
  · exact .inr (List.mem_singleton.1 (short.subset new)).symm

theorem queued_sendAll {o : Outbox} {writes : List Write} {b : Ban} (waits : .ban b ∈ (o.sendAll writes).pending) :
    .ban b ∈ o.pending ∨ .ban b ∈ writes := by
  obtain ⟨taken, short, pending⟩ := Outbox.pending_sendAll o writes
  rw [pending] at waits
  exact (List.mem_append.1 waits).imp_right fun new => short.subset new

theorem listed_lingers {now : Nat} {rows : List Ban} {backend : Backend}
    (answered : w.backend.finish (.active now) none = (.ok rows, backend)) (client : String) :
    ∀ row ∈ rows.filter (·.address == client), w.Lingers client row.bannedAt row.bannedUntil := by
  obtain ⟨reading, _, same⟩ := Store.listed (Backend.finish_ok answered) client
  intro row member
  exact .stored (List.mem_filter.1 (same.subset member)).1

theorem inherits_prune (orderly : w.Orderly client) (before : Nat) :
    Inherits client w { w with gate := (w.gate.pruneFloors before).2 } := by
  refine orderly.inherits rfl rfl (orderly.addressed.pruneFloors _) ?_ fun calls secured => ?_
  · show ((w.gate.bans.pruneFloors before).2.standing client).Guarded _ _
    rw [Registry.standing_pruneFloors]
    exact ⟨orderly.guarded.marked, orderly.guarded.older, orderly.guarded.past, orderly.guarded.begun⟩
  · show ((w.gate.bans.pruneFloors before).2.standing client).Secured _ _ _ _
    rw [Registry.standing_pruneFloors]
    exact secured.same rfl fun _ _ rest => rest

variable [Quantity ν] {sweeping : Prop}

theorem Act.inherits (act : Act sweeping w u) (orderly : w.Orderly client) : Inherits client w u := by
  cases act with
  | arrive =>
    refine Fades.inherits ?_ orderly rfl (Nat.le_refl _)
    exact orderly.kept (Backend.store_arrive w.backend) rfl
  | deliver =>
    exact orderly.deliver.inherits orderly (bans_deliver w) (Nat.le_of_eq (frame_deliver w).now.symm)
  | @reload rows backend answered =>
    have lists := listed_lingers answered client
    have guarded := orderly.guarded.dropMark
    refine orderly.inherits rfl rfl (orderly.addressed.merge _ rows) ?_ fun calls secured => ?_
    · show ((w.gate.bans.merge w.gate.now rows).2.standing client).Guarded _ _
      rw [Registry.standing_merge]
      exact Standing.guarded_takes _ guarded lists
    · show ((w.gate.bans.merge w.gate.now rows).2.standing client).Secured _ _ _ _
      rw [Registry.standing_merge]
      exact Standing.secured_takes _ guarded secured.dropMark lists
  | expire =>
    refine orderly.inherits rfl rfl (orderly.addressed.expire _) ?_ fun calls secured => ?_
    · show ((w.gate.bans.expire w.gate.now).2.standing client).Guarded _ _
      rw [Registry.standing_expire]
      exact orderly.guarded.expire
    · show ((w.gate.bans.expire w.gate.now).2.standing client).Secured _ _ _ _
      rw [Registry.standing_expire]
      exact secured.expire
  | prune => exact inherits_prune orderly _
  | @count client' endpoint outcome quiet =>
    refine Fades.inherits (orderly.fades rfl fun b waits => .inl ?_) orderly rfl (Nat.le_refl _)
    rcases queued_send waits with old | new
    · exact old
    · cases new
  | @releaseExpired released backend under answered =>
    have after : backend = (w.backend.finish (.releaseExpired w.gate.now) none).2 := by rw [answered]
    refine Fades.inherits ?_ orderly rfl (Nat.le_refl _)
    exact orderly.called (c := .releaseExpired w.gate.now) (fun _ => nofun) after rfl
  | archive =>
    refine Fades.inherits ?_ orderly rfl (Nat.le_refl _)
    exact orderly.called (c := .archive _) (fun _ => nofun) rfl rfl
  | purgeAttempts cutoff =>
    refine Fades.inherits ?_ orderly rfl (Nat.le_refl _)
    exact orderly.called (c := .purgeAttempts cutoff) (fun _ => nofun) rfl rfl
  | purgeBans cutoff =>
    refine Fades.inherits ?_ orderly rfl (Nat.le_refl _)
    exact orderly.called (c := .purgeBans cutoff) (fun _ => nofun) rfl rfl
  | limit | upkeep =>
    refine Fades.inherits ?_ orderly rfl (Nat.le_refl _)
    exact orderly.kept rfl rfl

theorem Acts.inherits (acts : Acts sweeping w u) (orderly : w.Orderly client) : Inherits client w u :=
  acts.keeps (fun _ _ act before => before.trans (act.inherits before.orderly)) (.refl orderly)

omit [Quantity ν] in
theorem Orderly.sends (orderly : w.Orderly client) {g : Gate ν} (bans : g.bans = w.gate.bans)
    (forward : w.gate.now ≤ g.now) (queued : ∀ b, .ban b ∈ g.tally.outbox.pending →
      .ban b ∈ w.pending ∨ b.address ≠ client ∧ b.releasedAt = none) : Inherits client w { w with gate := g } :=
  Fades.inherits (orderly.fades rfl queued) orderly bans forward

omit [Quantity ν] in
theorem inherits_unban (orderly : w.Orderly client) (c actor : String) (note : Option String) :
    Inherits client w { w with gate := (w.gate.unban c actor note).2 } := by
  have changes : Inherits client w { w with gate := { w.gate with bans := (w.gate.bans.unban w.gate.now c).2 } } := by
    refine orderly.inherits rfl rfl (orderly.addressed.unban _ _) ?_ fun calls secured => ?_
    · show ((w.gate.bans.unban w.gate.now c).2.standing client).Guarded _ _
      rw [Registry.standing_unban]
      split
      · rename_i same
        subst same
        split
        · exact orderly.guarded.gone
        · exact orderly.guarded.release _ _
      · exact orderly.guarded
    · show ((w.gate.bans.unban w.gate.now c).2.standing client).Secured _ _ _ _
      rw [Registry.standing_unban]
      split
      · rename_i same
        subst same
        split
        · rename_i free
          exact secured.same free.symm fun _ _ rest => rest
        · rename_i b active
          exact secured.release orderly.guarded active _
      · exact secured
  have unbanned := w.gate.unban_cases c actor note
  generalize w.gate.unban c actor note = result at unbanned
  cases unbanned with
  | refused => exact .refl orderly
  | idle => exact changes
  | ended active event =>
    refine changes.trans (changes.orderly.sends rfl (Nat.le_refl _) fun b waits => ?_)
    rcases queued_send waits with old | new
    · exact .inl old
    · cases new

section

omit [Quantity ν]

variable (orderly : w.Orderly client) (c reason : String) (d : Duration) (failures : Nat) (actor : String)

include orderly

theorem inherits_ban (other : c ≠ client) :
    Inherits client w { w with gate := (w.gate.ban c reason d failures actor).2 } := by
  have banned := w.gate.ban_cases c reason d failures actor
  generalize w.gate.ban c reason d failures actor = result at banned
  cases banned with
  | refused => exact .refl orderly
  | made sound event =>
    have unreleased := (Registry.banned_live (w.gate.bans.standing c) w.gate.now c reason d failures actor).1
    have own : (w.gate.bans.ban w.gate.now c reason d failures actor).2.1.address = c :=
      Registry.address_banned (fun b active => orderly.addressed c b (Standing.activeBan_eq_some.1 active).1) ..
    have same := Registry.standing_ban w.gate.bans w.gate.now c reason d failures actor client
    rw [if_neg (Ne.symm other)] at same
    have changes : Inherits client w
        { w with gate := { w.gate with bans := (w.gate.bans.ban w.gate.now c reason d failures actor).2.2 } } :=
      orderly.inherits rfl rfl (orderly.addressed.ban _ _ _ _ _ _) (same ▸ orderly.guarded) fun calls secured => same ▸ secured
    refine changes.trans (changes.orderly.sends rfl (Nat.le_refl _) fun b waits => ?_)
    rcases queued_send waits with old | new
    · exact .inl old
    · cases new
      exact .inr ⟨fun equal => other (own.symm.trans equal), unreleased⟩

-- The ban of a client takes its mark away, and is queued as a row.
theorem orderly_ban : ({ w with gate := (w.gate.ban client reason d failures actor).2 } : World ν).Orderly client := by
  have banned := w.gate.ban_cases client reason d failures actor
  generalize w.gate.ban client reason d failures actor = result at banned
  cases banned with
  | refused => exact orderly
  | made sound event =>
    have unreleased := (Registry.banned_live (w.gate.bans.standing client) w.gate.now client reason d failures actor).1
    have begun := Registry.bannedAt_banned ((w.gate.bans.standing client).activeBan w.gate.now) w.gate.now client reason d
      failures actor
    have early : ((((w.gate.bans.standing client).activeBan w.gate.now).map Ban.bannedAt).getD w.gate.now) ≤
        w.gate.now := by
      cases active : (w.gate.bans.standing client).activeBan w.gate.now with
      | none => exact Nat.le_refl _
      | some b => exact orderly.guarded.begun b (Standing.activeBan_eq_some.1 active).1
    rw [← begun] at early
    refine ⟨orderly.once, fun b waits => ?_, orderly.addressed.ban _ _ _ _ _ _, ?_⟩
    · rcases queued_send waits with old | new
      · exact orderly.unreleased b old
      · cases new
        exact unreleased
    · show ((w.gate.bans.ban w.gate.now client reason d failures actor).2.2.standing client).Guarded _ w.gate.now
      rw [Registry.standing_ban, if_pos rfl]
      refine orderly.guarded.banned early (fun begins ends lingers => ?_) _
      cases lingers with
      | stored there => exact .inl (.stored there)
      | queued waits own =>
        rcases queued_send waits with old | new
        · exact .inl (.queued old own)
        · cases new
          exact .inr (Nat.le_trans (Store.keeps_le ..) early)

end

theorem inherits_update {c : Command} (plain : c.asks = false) (harmless : ∀ a b d n e, c ≠ .ban a b d n e)
    (forward : w.gate.now ≤ (c.update w.gate).now) (orderly : w.Orderly client) :
    Inherits client w { w with gate := c.update w.gate } := by
  cases quiet : c.isQuiet with
  | true =>
    obtain ⟨bans, now⟩ := Command.quiet_update quiet w.gate
    refine orderly.sends bans forward fun b waits => .inl ?_
    rw [Command.tally_update plain] at waits
    rcases queued_sendAll waits with old | new
    · exact old
    · cases Command.plain_writes quiet w.gate _ new
  | false =>
    cases c with
    | ban a b d n e => exact absurd rfl (harmless a b d n e)
    | unban c actor note => exact inherits_unban orderly c actor note
    | release c actor reason => exact inherits_unban orderly c actor (some reason)
    | expire =>
      have act : Act True w { w with gate := w.gate.expire.2 } := .expire w trivial
      exact act.inherits orderly
    | prune before => exact inherits_prune orderly before
    | clock reading => exact orderly.sends rfl forward fun b waits => .inl waits
    | _ => cases quiet

end Turnstile.World
