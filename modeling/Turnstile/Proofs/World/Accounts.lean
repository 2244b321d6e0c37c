import Turnstile.Proofs.Gate.Causes
import Turnstile.Proofs.Store.Booked
namespace Turnstile

variable {ν : Type}

-- What an answer counts as: a refusal by the bucket always, an admission only where no outcome will be reported.
def Admission.outcome? (critical : Bool) (a : Admission) : Option Outcome :=
  match a.denial with
  | none => if critical then none else some .succeeded
  | some (.rateLimited _) => some .throttled
  | some (.banned ..) => none

def Request.charge (r : Request) : Totals :=
  match r.answer.outcome? r.critical with
  | none => 0
  | some outcome => .entry r.client r.endpoint outcome.counts

structure Feedback where
  client : String
  endpoint : String
  success : Bool
deriving DecidableEq

def Feedback.charge (f : Feedback) : Totals := .entry f.client f.endpoint (Outcome.ofSuccess f.success).counts

def Command.feedback : Command → List Feedback
  | .login client endpoint _ success _ | .outcome client endpoint success =>
    if Client.Valid client then [⟨client, endpoint, success⟩] else []
  | _ => []

def Visit.feedback (v : Visit ν) : List Feedback :=
  match v.move with
  | .command c _ => c.feedback
  | _ => []

def feedback (past : List (Visit ν)) : List Feedback := past.flatMap Visit.feedback

def due [Quantity ν] (past : List (Visit ν)) : Totals :=
  ((requests past).map Request.charge).sum + ((feedback past).map Feedback.charge).sum

theorem due_snoc [Quantity ν] (past : List (Visit ν)) (v : Visit ν) : due (past ++ [v]) =
    due past + ((v.requests.map Request.charge).sum + (v.feedback.map Feedback.charge).sum) := by
  simp only [due, requests, feedback, List.flatMap_append, List.flatMap_singleton, List.map_append, List.sum_append]
  abel

def Totals.Fits (account : Totals) : Prop := ∀ client endpoint, (account client endpoint).requests ≤ wordMax

def Write.charge : Write → Totals
  | .window client endpoint _ outcome => .entry client endpoint outcome.counts
  | _ => 0

def owed (writes : List Write) : Totals := (writes.map Write.charge).sum

theorem owed_append (first second : List Write) : owed (first ++ second) = owed first + owed second := by simp [owed]

theorem owed_sound (client : String) (writes : List Write) :
    owed (Command.sound client writes) = if Client.Valid client then owed writes else 0 := by
  unfold Command.sound
  split
  · rename_i fault found
    simp [Client.Valid, found, owed]
  · rename_i found
    simp [Client.Valid, found]

-- A command queues what is due for the outcome that it reports, and counts nothing else.
theorem owed_writes {c : Command} (direct : ∀ a b o, c ≠ .record a b o) (g : Gate ν) :
    owed (c.writes g) = (c.feedback.map Feedback.charge).sum := by
  cases c with
  | login client endpoint username success why =>
    rw [Command.writes, owed_sound, Command.feedback]
    split <;> simp [owed, Write.charge, Feedback.charge]
  | outcome client endpoint success =>
    rw [Command.writes, owed_sound, Command.feedback]
    split <;> simp [owed, Write.charge, Feedback.charge]
  | refused client username admission =>
    rw [Command.writes, owed_sound]
    split <;> rfl
  | ban client reason length failures actor =>
    rw [Command.writes]
    split <;> rfl
  | unban client actor note | release client actor note =>
    rw [Command.writes]
    split <;> rfl
  | record a b o => exact absurd rfl (direct a b o)
  | _ => rfl

namespace World

variable {w u : World ν} {account : Totals}

def NoneLost (w : World ν) : Prop := w.gate.tally.outbox.dropped = 0 ∧ w.gate.tally.outbox.failed = 0

instance (w : World ν) : Decidable w.NoneLost := inferInstanceAs (Decidable (_ ∧ _))

-- The books are in order, and together with the queue they show an account; unless something was lost.
def Accounts (account : Totals) (w : World ν) : Prop :=
  w.NoneLost → ∃ m booked, w.backend.store = .memory m ∧ m.Books booked ∧ booked + owed w.pending = account

namespace Accounts

theorem kept (before : w.Accounts account) (store : u.backend.store = w.backend.store)
    (queue : u.gate.tally.outbox = w.gate.tally.outbox) : u.Accounts account := by
  unfold Accounts NoneLost World.pending at before ⊢
  rwa [queue, store]

theorem grow (before : w.Accounts account) {writes : List Write} (store : u.backend.store = w.backend.store)
    (queue : u.gate.tally.outbox = w.gate.tally.outbox.sendAll writes) : u.Accounts (account + owed writes) := by
  rintro ⟨dropped, failed⟩
  rw [queue] at dropped failed
  have least := Outbox.dropped_sendAll w.gate.tally.outbox writes
  have none : w.gate.tally.outbox.dropped = 0 := by omega
  have sent := Outbox.sendAll_kept (dropped.trans none.symm)
  rw [sent] at failed
  obtain ⟨m, booked, tables, books, sum⟩ := before ⟨none, failed⟩
  refine ⟨m, booked, store.trans tables, books, ?_⟩
  unfold World.pending at sum ⊢
  rw [queue, sent, owed_append, ← add_assoc, sum]

-- A write that is applied moves from the queue to the books.
theorem deliver (few : account.Fits) (before : w.Accounts account) : w.deliver.Accounts account := by
  have told := deliver_cases w
  generalize w.deliver = after at told
  cases told with
  | idle => exact before
  | @applied first rest a backend queued answered =>
    rintro ⟨dropped, failed⟩
    obtain ⟨m, booked, tables, books, sum⟩ := before ⟨dropped, failed⟩
    rw [tables, Store.answer_memory] at answered
    have store : backend.store = .memory (m.answer first.call).2 := (Prod.mk.inj answered).2.symm
    rw [queued] at sum
    cases first with
    | window client endpoint start outcome =>
      have room : (booked client endpoint).requests < wordMax := by
        have bound := few client endpoint
        rw [← sum] at bound
        cases outcome <;> simp [owed, Write.charge, Outcome.counts] at bound <;> omega
      refine ⟨_, _, store, books.increment room, ?_⟩
      rw [← sum]
      simp [owed, Write.charge, World.pending, Gate.setOutbox, add_assoc]
    | attempt | ban | release =>
      refine ⟨_, booked, store, books.answer ?_, ?_⟩
      · intro client endpoint start outcome same
        cases same
      · rw [← sum]
        simp [owed, Write.charge, World.pending, Gate.setOutbox]
  | lost => exact fun lossless => absurd lossless.2 (Nat.succ_ne_zero _)

theorem deliverMany (few : account.Fits) (before : w.Accounts account) (n : Nat) : (World.deliverMany n w).Accounts account :=
  deliverMany_keeps (fun _ so => so.deliver few) n before

theorem called (before : w.Accounts account) {c : Call} (counts : ∀ client endpoint start outcome, c ≠ .increment client endpoint start outcome) :
    Accounts account { w with backend := (w.backend.finish c none).2 } := by
  intro lossless
  obtain ⟨m, booked, tables, books, sum⟩ := before lossless
  rcases Backend.finish_memory tables c none with same | changed
  · exact ⟨m, booked, same, books, sum⟩
  · exact ⟨_, booked, changed, books.answer counts, sum⟩

theorem ban (before : w.Accounts account) (client reason : String) (d : Duration) (failures : Nat) (actor : String) :
    Accounts account { w with gate := (w.gate.ban client reason d failures actor).2 } := by
  have banned := w.gate.ban_cases client reason d failures actor
  generalize w.gate.ban client reason d failures actor = result at banned
  cases banned with
  | refused => exact before
  | made sound event =>
    have nothing (b : Ban) : account + owed [.ban b] = account := by simp [owed, Write.charge]
    rw [← nothing (w.gate.bans.ban w.gate.now client reason d failures actor).2.1]
    exact before.grow rfl rfl

variable [Quantity ν]

theorem withstands (few : account.Fits) : Withstands w.gate.config w.gate.now (fun v => SameFrame w v ∧ v.Accounts account) where
  clock v so := so.1.now
  config v so := so.1.config
  arrive v so := ⟨so.1.trans ⟨rfl, rfl, rfl, rfl⟩, so.2.kept (Backend.store_arrive v.backend) rfl⟩
  deliver v so := ⟨so.1.trans (frame_deliver v), so.2.deliver few⟩
  reload v rows backend answered so := ⟨so.1.trans ⟨rfl, rfl, rfl, rfl⟩, so.2.kept rfl rfl⟩
  expire v so := ⟨so.1.trans ⟨rfl, rfl, rfl, rfl⟩, so.2.kept rfl rfl⟩
  releaseExpired v released backend answered so := by
    have after := so.2.called (c := .releaseExpired w.gate.now) nofun
    rw [answered] at after
    exact ⟨so.1.trans ⟨rfl, rfl, rfl, rfl⟩, after.kept rfl rfl⟩
  prune v so := ⟨so.1.trans ⟨rfl, rfl, rfl, rfl⟩, so.2.kept rfl rfl⟩
  evict v so := ⟨so.1.trans ⟨rfl, rfl, rfl, rfl⟩, so.2.kept rfl rfl⟩
  archive v so := ⟨so.1.trans ⟨rfl, rfl, rfl, rfl⟩, so.2.called nofun⟩
  purgeAttempts v cutoff so := ⟨so.1.trans ⟨rfl, rfl, rfl, rfl⟩, so.2.called nofun⟩
  purgeBans v cutoff so := ⟨so.1.trans ⟨rfl, rfl, rfl, rfl⟩, so.2.called nofun⟩
  upkeep v u so := ⟨so.1.trans ⟨rfl, rfl, rfl, rfl⟩, so.2.kept rfl rfl⟩

end Accounts

end World

end Turnstile
