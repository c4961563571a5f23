/-!
Computations that write records and may fail. What was written before a failure stays written.
-/

namespace MailFilter

structure Logged (ρ ε α : Type) where
  records : List ρ
  outcome : Except ε α

namespace Logged

variable {ρ ε α β : Type}

protected def pure (a : α) : Logged ρ ε α := ⟨[], .ok a⟩

protected def bind (x : Logged ρ ε α) (f : α → Logged ρ ε β) : Logged ρ ε β :=
  match x.outcome with
  | .ok a => ⟨x.records ++ (f a).records, (f a).outcome⟩
  | .error e => ⟨x.records, .error e⟩

instance : Monad (Logged ρ ε) where
  pure := Logged.pure
  bind := Logged.bind

def write (r : ρ) : Logged ρ ε Unit := ⟨[r], .ok ()⟩

def ofExcept (x : Except ε α) : Logged ρ ε α := ⟨[], x⟩

instance : MonadLift (Except ε) (Logged ρ ε) where
  monadLift := ofExcept

def fail (e : ε) : Logged ρ ε α := ⟨[], .error e⟩

def mapError {ε' : Type} (f : ε → ε') (x : Logged ρ ε α) : Logged ρ ε' α :=
  ⟨x.records, x.outcome.mapError f⟩

@[simp] theorem records_pure (a : α) : (pure a : Logged ρ ε α).records = [] := rfl

@[simp] theorem outcome_pure (a : α) : (pure a : Logged ρ ε α).outcome = .ok a := rfl

@[simp] theorem outcome_bind (x : Logged ρ ε α) (f : α → Logged ρ ε β) :
    (x >>= f).outcome = x.outcome >>= fun a => (f a).outcome := by
  change (Logged.bind x f).outcome = _
  unfold Logged.bind
  cases x.outcome <;> rfl

end Logged

end MailFilter
