import Courier.Client
/-!
Acts of a client, run on a session.  `Act.on` is the whole meaning of an act: what it gives, and the
session after it.  The laws here open one step at a time, so the modules that reason about a dispatch
never look below them; `Act.Within` says of an act that it moves every session along a relation, breach
or not.
-/
namespace Courier
namespace Act

variable {σ α β : Type}

/-- What an act gives on a session, and the session that it leaves. -/
def on (a : Act σ α) (s : Session σ) : Except Breach α × Session σ := StateT.run a.run s

@[simp] theorem on_pure (a : α) (s : Session σ) : on (pure a : Act σ α) s = (.ok a, s) := rfl

@[simp] theorem on_throw (b : Breach) (s : Session σ) : on (throw b : Act σ α) s = (.error b, s) := rfl

theorem on_bind (a : Act σ α) (f : α → Act σ β) (s : Session σ) :
    on (a >>= f) s = match on a s with
      | (.ok x, s') => on (f x) s'
      | (.error b, s') => (.error b, s') := by
  change StateT.run (ExceptT.bindCont f (StateT.run a.run s).1) (StateT.run a.run s).2 = _
  unfold on
  cases h : StateT.run a.run s with
  | mk x s' => cases x <;> rfl

theorem on_bind_ok {a : Act σ α} {f : α → Act σ β} {s s' : Session σ} {x : α}
    (h : on a s = (.ok x, s')) : on (a >>= f) s = on (f x) s' := by
  rw [on_bind, h]

@[simp] theorem on_client (s : Session σ) : on client s = (.ok s.client, s) := rfl

@[simp] theorem on_modifyClient (f : Client → Client) (s : Session σ) :
    on (modifyClient f) s = (.ok (), { s with client := f s.client }) := rfl

@[simp] theorem on_modifyMetrics (f : Metrics → Metrics) (s : Session σ) :
    on (modifyMetrics f) s = (.ok (), { s with metrics := f s.metrics }) := rfl

@[simp] theorem on_outside (f : σ → α × σ) (s : Session σ) :
    on (outside f) s = (.ok (f s.world).1, { s with world := (f s.world).2 }) := rfl

@[simp] theorem on_ask (f : σ → α) (s : Session σ) : on (ask f) s = (.ok (f s.world), s) := rfl

/-- Wherever the act is run, it moves the session along `R`. -/
def Within (R : Session σ → Session σ → Prop) (a : Act σ α) : Prop := ∀ s, R s (on a s).2

theorem Within.bind {R : Session σ → Session σ → Prop} (trans : ∀ a b c, R a b → R b c → R a c)
    {a : Act σ α} {f : α → Act σ β} (ha : Within R a) (hf : ∀ x, Within R (f x)) :
    Within R (a >>= f) := by
  intro s
  have first := ha s
  rw [on_bind]
  cases h : on a s with
  | mk x s' =>
    rw [h] at first
    cases x with
    | ok x => exact trans _ _ _ first (hf x s')
    | error b => exact first

end Act
end Courier
