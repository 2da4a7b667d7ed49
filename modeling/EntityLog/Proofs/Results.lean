import EntityLog.Fault

namespace EntityLog

variable {ε δ α β : Type}

theorem bind_eq_ok {x : Except ε α} {f : α → Except ε β} {b : β} :
    x >>= f = .ok b ↔ ∃ a, x = .ok a ∧ f a = .ok b := by
  cases x <;> simp [bind, Except.bind]

theorem map_eq_ok {x : Except ε α} {f : α → β} {b : β} :
    f <$> x = .ok b ↔ ∃ a, x = .ok a ∧ f a = b := by
  cases x <;> simp [Functor.map, Except.map]

@[simp] theorem pure_eq_ok {a b : α} : (pure a : Except ε α) = .ok b ↔ a = b := by
  simp [pure, Except.pure]

theorem check_eq_ok {p : Prop} [Decidable p] {e : ε} {f : α → Except ε β} {x : Except ε β} {b : β} :
    (if p then throw e >>= f else x) = .ok b ↔ ¬p ∧ x = .ok b := by
  by_cases h : p <;> simp [h, throw, throwThe, MonadExceptOf.throw, bind, Except.bind]

theorem ite_ok_error_eq_ok {p : Prop} [Decidable p] {e : ε} {a b : α} :
    (if p then .ok a else .error e : Except ε α) = .ok b ↔ p ∧ a = b := by
  by_cases h : p <;> simp [h]

theorem ite_error_ok_eq_ok {p : Prop} [Decidable p] {e : ε} {a b : α} :
    (if p then .error e else .ok a : Except ε α) = .ok b ↔ ¬p ∧ a = b := by
  by_cases h : p <;> simp [h]

@[simp] theorem mapError_eq_ok {x : Except ε α} {f : ε → δ} {a : α} :
    x.mapError f = .ok a ↔ x = .ok a := by
  cases x with
  | error e => constructor <;> intro h <;> cases h
  | ok b => constructor <;> intro h <;> cases h <;> rfl

@[simp] theorem reporting_eq_ok {x : Except ε α} {a : α} : reporting x = .ok a ↔ x = .ok a :=
  mapError_eq_ok

section

variable {σ : Type} {steps : ExceptT ε (StateM σ) α} {s after : σ}

theorem run_run_bind_ok {a : α} (ran : steps.run.run s = (.ok a, after))
    (next : α → ExceptT ε (StateM σ) β) :
    (steps >>= next).run.run s = (next a).run.run after := by
  rw [ExceptT.run_bind, StateT.run_bind, ran]
  rfl

theorem run_run_bind_error {e : ε} (ran : steps.run.run s = (.error e, after))
    (next : α → ExceptT ε (StateM σ) β) : (steps >>= next).run.run s = (.error e, after) := by
  rw [ExceptT.run_bind, StateT.run_bind, ran]
  rfl

theorem run_tryCatch (steps : ExceptT ε (StateM σ) α) (handler : ε → ExceptT ε (StateM σ) α) :
    (tryCatch steps handler).run =
      steps.run >>= fun
        | .ok a => pure (.ok a)
        | .error e => (handler e).run := rfl

theorem run_run_tryCatch_ok {a : α} (ran : steps.run.run s = (.ok a, after))
    (handler : ε → ExceptT ε (StateM σ) α) : (tryCatch steps handler).run.run s = (.ok a, after) := by
  rw [run_tryCatch, StateT.run_bind, ran]
  rfl

theorem run_run_tryCatch_error {e : ε} (ran : steps.run.run s = (.error e, after))
    (handler : ε → ExceptT ε (StateM σ) α) :
    (tryCatch steps handler).run.run s = (handler e).run.run after := by
  rw [run_tryCatch, StateT.run_bind, ran]
  rfl

end

end EntityLog
