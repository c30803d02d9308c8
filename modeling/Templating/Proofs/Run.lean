import Templating.Run

/-!
# Running computations

What the parts of a computation on the store do, one equation for each. Later modules take a
computation apart with these and never unfold the monad.
-/

namespace Templating.Run

variable {σ α β : Type}

@[simp] theorem exec_pure (a : α) (s : Store σ) : (pure a : Run σ α).exec s = (.ok a, s) := rfl

/-- The second computation starts from the store that the first leaves; a failure ends both. -/
theorem exec_bind (x : Run σ α) (f : α → Run σ β) (s : Store σ) :
    (x >>= f).exec s =
      match x.exec s with
      | (.ok a, s) => (f a).exec s
      | (.error failure, s) => (.error failure, s) := by
  show (ExceptT.bindCont f (x.run.run s).1).run (x.run.run s).2 = _
  rw [exec]
  cases x.run.run s with
  | mk outcome s =>
    cases outcome with
    | ok a => rfl
    | error failure => rfl

theorem exec_bind_ok {x : Run σ α} {s s' : Store σ} {a : α} (h : x.exec s = (.ok a, s'))
    (f : α → Run σ β) : (x >>= f).exec s = (f a).exec s' := by
  rw [exec_bind, h]

theorem exec_bind_error {x : Run σ α} {s s' : Store σ} {failure : Failure}
    (h : x.exec s = (.error failure, s')) (f : α → Run σ β) :
    (x >>= f).exec s = (.error failure, s') := by
  rw [exec_bind, h]

/-- A function applied to the result changes nothing else. -/
theorem exec_map (x : Run σ α) (f : α → β) (s : Store σ) :
    (x >>= fun a => pure (f a)).exec s = ((x.exec s).1.map f, (x.exec s).2) := by
  rw [exec_bind]
  rcases x.exec s with ⟨outcome, s'⟩
  cases outcome with
  | ok a => rfl
  | error failure => rfl

@[simp] theorem exec_throw (failure : Failure) (s : Store σ) :
    (throw failure : Run σ α).exec s = (.error failure, s) := rfl

@[simp] theorem exec_fail (e : Error) (s : Store σ) :
    (fail e : Run σ α).exec s = (.error (.error e), s) := rfl

@[simp] theorem exec_get (s : Store σ) : (get : Run σ (Store σ)).exec s = (.ok s, s) := rfl

@[simp] theorem exec_set (s' s : Store σ) : (set s' : Run σ Unit).exec s = (.ok (), s') := rfl

@[simp] theorem exec_modify (f : Store σ → Store σ) (s : Store σ) :
    (modify f : Run σ Unit).exec s = (.ok (), f s) := rfl

@[simp] theorem exec_modifyGet (f : Store σ → α × Store σ) (s : Store σ) :
    (modifyGet f : Run σ α).exec s = (.ok (f s).1, (f s).2) := rfl

@[simp] theorem exec_emit (e : Event) (s : Store σ) : (emit e).exec s = (.ok (), s.emit e) := rfl

@[simp] theorem exec_act (action : Action σ α) (s : Store σ) :
    (act action).exec s = (.ok (action s.caller).1, { s with caller := (action s.caller).2 }) := rfl

@[simp] theorem exec_ofExcept_ok (a : α) (s : Store σ) :
    (ofExcept (.ok a) : Run σ α).exec s = (.ok a, s) := rfl

@[simp] theorem exec_ofExcept_error (e : Error) (s : Store σ) :
    (ofExcept (.error e) : Run σ α).exec s = (.error (.error e), s) := rfl

theorem exec_requireOpen {r : RegistryId} {s : Store σ} {registry : Registry σ}
    (h : s.open? r = some registry) : (requireOpen r).exec s = (.ok (), s) := by
  rw [requireOpen, exec_bind_ok (exec_get s), h]
  rfl

theorem exec_requireOpen_closed {r : RegistryId} {s : Store σ} (h : s.open? r = none) :
    (requireOpen r).exec s = (.error (.error .registryDropped), s) := by
  rw [requireOpen, exec_bind_ok (exec_get s), h]
  rfl

end Templating.Run
