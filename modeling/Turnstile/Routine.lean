import Turnstile.Store.Backend
namespace Turnstile

-- Between a question and its answer others may change the state, so that a routine looks at it again.
inductive Routine (σ α : Type) where
  | done (a : α)
  | get (next : σ → Routine σ α)
  | put (s : σ) (next : Routine σ α)
  | ask (c : Call) (limit : Option Duration) (next : Except StoreError c.Answer → Routine σ α)

namespace Routine

variable {σ τ α β : Type}

def andThen : Routine σ α → (α → Routine σ β) → Routine σ β
  | done a, f => f a
  | get next, f => get fun s => (next s).andThen f
  | put s next, f => put s (next.andThen f)
  | ask c limit next, f => ask c limit fun a => (next a).andThen f

instance : Monad (Routine σ) where
  pure := done
  bind := andThen

def state : Routine σ σ := get done

def update (f : σ → α × σ) : Routine σ α := get fun s => put (f s).2 (done (f s).1)

def change (f : σ → σ) : Routine σ Unit := get fun s => put (f s) (done ())

def call (c : Call) : Routine σ (Except StoreError c.Answer) := ask c none done

def callWithin (limit : Duration) (c : Call) : Routine σ (Except StoreError c.Answer) :=
  ask c (some limit) done

def focus (view : τ → σ) (store : σ → τ → τ) : Routine σ α → Routine τ α
  | done a => done a
  | get next => get fun t => (next (view t)).focus view store
  | put s next => get fun t => put (store s t) (next.focus view store)
  | ask c limit next => ask c limit fun a => (next a).focus view store

def run : Routine σ α → σ → Backend → α × σ × Backend
  | done a, s, b => (a, s, b)
  | get next, s, b => (next s).run s b
  | put s next, _, b => next.run s b
  | ask c limit next, s, b =>
    let (answer, b) := b.call c limit
    (next answer).run s b

@[simp] theorem run_pure (a : α) (s : σ) (b : Backend) :
    (pure a : Routine σ α).run s b = (a, s, b) := rfl

@[simp] theorem run_state (s : σ) (b : Backend) : (state : Routine σ σ).run s b = (s, s, b) := rfl

@[simp] theorem run_update (f : σ → α × σ) (s : σ) (b : Backend) :
    (update f).run s b = ((f s).1, (f s).2, b) := rfl

@[simp] theorem run_change (f : σ → σ) (s : σ) (b : Backend) :
    (change f).run s b = ((), f s, b) := rfl

@[simp] theorem run_call (c : Call) (s : σ) (b : Backend) :
    (call c : Routine σ _).run s b = ((b.call c none).1, s, (b.call c none).2) := rfl

@[simp] theorem run_callWithin (limit : Duration) (c : Call) (s : σ) (b : Backend) :
    (callWithin limit c : Routine σ _).run s b =
      ((b.call c (some limit)).1, s, (b.call c (some limit)).2) := rfl

theorem run_andThen (r : Routine σ α) (f : α → Routine σ β) (s : σ) (b : Backend) :
    (r.andThen f).run s b = (f (r.run s b).1).run (r.run s b).2.1 (r.run s b).2.2 := by
  induction r generalizing s b with
  | done a => rfl
  | get next ih => exact ih s s b
  | put s' next ih => exact ih s' b
  | ask c limit next ih => exact ih _ s _

@[simp] theorem run_bind (r : Routine σ α) (f : α → Routine σ β) (s : σ) (b : Backend) :
    (r >>= f).run s b = (f (r.run s b).1).run (r.run s b).2.1 (r.run s b).2.2 :=
  run_andThen r f s b

theorem run_focus (view : τ → σ) (store : σ → τ → τ) (getPut : ∀ s t, view (store s t) = s)
    (putGet : ∀ t, store (view t) t = t) (putPut : ∀ s s' t, store s (store s' t) = store s t)
    (r : Routine σ α) (t : τ) (b : Backend) :
    (r.focus view store).run t b =
      ((r.run (view t) b).1, store (r.run (view t) b).2.1 t, (r.run (view t) b).2.2) := by
  induction r generalizing t b with
  | done a => simp [focus, run, putGet]
  | get next ih => exact ih (view t) t b
  | put s next ih =>
    show (next.focus view store).run (store s t) b = _
    rw [ih, getPut]
    simp [run, putPut]
  | ask c limit next ih => exact ih _ t _

end Routine

end Turnstile
