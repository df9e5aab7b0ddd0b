import RelayClient.Journal

/-!
# What work comes to

Work that succeeds is taken apart into the steps that succeeded. A relaying step is described by
its outcome and by the journal behind it.
-/
namespace RelayClient

variable {α β ε : Type}

theorem bind_eq_ok_iff {x : Except ε α} {f : α → Except ε β} {b : β} :
    x >>= f = .ok b ↔ ∃ a, x = .ok a ∧ f a = .ok b := by
  cases x <;> simp [bind, Except.bind]

theorem bind_eq_error_iff {x : Except ε α} {f : α → Except ε β} {e : ε} :
    x >>= f = .error e ↔ x = .error e ∨ ∃ a, x = .ok a ∧ f a = .error e := by
  cases x <;> simp [bind, Except.bind]

theorem ok_bind (a : α) (f : α → Except ε β) : Except.ok a >>= f = f a := rfl

theorem pure_eq_ok_iff {a b : α} : (pure a : Except ε α) = .ok b ↔ a = b := by
  simp [pure, Except.pure]

theorem map_eq_ok_iff {x : Except ε α} {f : α → β} {b : β} :
    x.map f = .ok b ↔ ∃ a, x = .ok a ∧ f a = b := by
  cases x <;> simp [Except.map]

theorem map_eq_error_iff {x : Except ε α} {f : α → β} {e : ε} :
    x.map f = .error e ↔ x = .error e := by
  cases x <;> simp [Except.map]

theorem mapError_eq_error_iff {δ : Type} {x : Except ε α} {f : ε → δ} {d : δ} :
    x.mapError f = .error d ↔ ∃ e, x = .error e ∧ f e = d := by
  cases x with
  | ok a => exact ⟨nofun, nofun⟩
  | error e =>
    constructor
    · intro h
      exact ⟨e, rfl, Except.error.inj h⟩
    · rintro ⟨_, ⟨⟩, rfl⟩
      rfl

namespace Relaying

variable {x : Relaying α} {f : α → Relaying β} {j k : Journal}

theorem run_bind_of_ok {a : α} (h : x.run j = (.ok a, k)) : (x >>= f).run j = (f a).run k := by
  rw [ExceptT.run_bind]
  simp only [bind, StateT.bind, h]

theorem run_bind_of_error {e : Fault} (h : x.run j = (.error e, k)) :
    (x >>= f).run j = (.error e, k) := by
  rw [ExceptT.run_bind]
  simp only [bind, StateT.bind, h]
  rfl

/-- A last step that only changes the result. -/
theorem run_bind_pure {o : Except Fault α} (h : x.run j = (o, k)) (g : α → β) :
    (x >>= fun a => pure (g a)).run j = (o.map g, k) := by
  cases o with
  | ok a => exact run_bind_of_ok h
  | error e => exact run_bind_of_error h

theorem run_modify (g : Journal → Journal) :
    (modify g : Relaying PUnit).run j = (.ok ⟨⟩, g j) := rfl

theorem run_attempt {y : Except Fault α} {o : Except Fault α} (h : y = o) :
    (attempt y).run j = (o, j) := by
  subst h
  cases y <;> rfl

theorem run_draw {bound : Int} {o : Except Fault Int} (h : (j.draws.below bound).1 = o) :
    (draw bound).run j = (o, { j with draws := (j.draws.below bound).2 }) :=
  run_attempt h

theorem run_log (source : LogSource) (level : LogLevel) (text : Text) :
    (log source level text).run j =
      (.ok ⟨⟩, { j with logs := j.logs ++ [⟨source, level, text⟩] }) := rfl

end Relaying
end RelayClient
