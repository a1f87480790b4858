import Chip8.Call

/-!
# Calls in sequence

A sequence of calls goes on from the state that its first call has left, and ends with that state if
the call fails. A question that is refused leaves the state in which it was asked.
-/

namespace Chip8

namespace Call

variable {σ τ α β : Type} {call : Call σ α} {next : α → Call σ β} {state changed left : σ}
  {fault : Fault}

theorem eq_of_ok {a b : α} (hok : (.ok a changed : Ending σ α) = .ok b state) :
    changed = state := (EStateM.Result.ok.inj hok).2

theorem get_bind (next : σ → Call σ β) (state : σ) : (get >>= next) state = next state state := rfl

theorem modify_eq (change : σ → σ) (state : σ) :
    (modify change : Call σ PUnit) state = .ok () (change state) := rfl

theorem modify_bind (change : σ → σ) (next : PUnit → Call σ β) (state : σ) :
    (modify change >>= next) state = next () (change state) := rfl

theorem bind_of_ok {a : α} (hok : call state = .ok a changed) :
    (call >>= next) state = next a changed := by
  simp only [bind, EStateM.bind, hok]

theorem bind_of_error (herror : call state = .error fault left) :
    (call >>= next) state = .error fault left := by
  simp only [bind, EStateM.bind, herror]

theorem bind_eq_ok_iff {b : β} :
    (call >>= next) state = .ok b changed ↔
      ∃ a between, call state = .ok a between ∧ next a between = .ok b changed := by
  cases hcall : call state with
  | ok a between => simp [bind_of_ok hcall, and_assoc]
  | error fault left => simp [bind_of_error hcall]

theorem bind_eq_error_iff :
    (call >>= next) state = .error fault left ↔
      call state = .error fault left ∨
        ∃ a between, call state = .ok a between ∧ next a between = .error fault left := by
  cases hcall : call state with
  | ok a between => simp [bind_of_ok hcall, and_assoc]
  | error fault left => simp [bind_of_error hcall]

/-- What cannot fail adds no faults to what comes before it. -/
theorem bind_eq_error_iff_of_ok (hok : ∀ a between, ∃ b changed, next a between = .ok b changed) :
    (call >>= next) state = .error fault left ↔ call state = .error fault left := by
  rw [bind_eq_error_iff]
  refine or_iff_left ?_
  rintro ⟨a, between, -, herror⟩
  obtain ⟨b, changed, hb⟩ := hok a between
  rw [hb] at herror
  contradiction

section Lift

variable {question : Except Fault α}

theorem lift_ok (a : α) (state : σ) :
    (liftM (.ok a : Except Fault α) : Call σ α) state = .ok a state := rfl

theorem lift_error (fault : Fault) (state : σ) :
    (liftM (.error fault : Except Fault α) : Call σ α) state = .error fault state := rfl

theorem lift_eq_ok_iff {a : α} :
    (liftM question : Call σ α) state = .ok a changed ↔ question = .ok a ∧ state = changed := by
  cases question with
  | ok b => simp [lift_ok]
  | error fault => simp [lift_error]

theorem lift_eq_error_iff :
    (liftM question : Call σ α) state = .error fault left ↔
      question = .error fault ∧ state = left := by
  cases question with
  | ok b => simp [lift_ok]
  | error fault => simp [lift_error]

end Lift

section On

variable {part : σ → τ} {replace : σ → τ → σ} {inner : Call τ α}

theorem on_eq_ok_iff {a : α} :
    inner.on part replace state = .ok a changed ↔
      ∃ piece, inner (part state) = .ok a piece ∧ replace state piece = changed := by
  rw [on]
  cases inner (part state) <;> simp [and_assoc]

theorem on_eq_error_iff :
    inner.on part replace state = .error fault left ↔
      ∃ piece, inner (part state) = .error fault piece ∧ replace state piece = left := by
  rw [on]
  cases inner (part state) <;> simp [and_assoc]

/-- A part that a failed call leaves as it was is put back where it was. -/
theorem on_eq_error_iff_of_kept {Fails : Fault → Prop}
    (hinner : ∀ fault piece,
      inner (part state) = .error fault piece ↔ Fails fault ∧ piece = part state)
    (hown : replace state (part state) = state) :
    inner.on part replace state = .error fault left ↔ Fails fault ∧ left = state := by
  rw [on_eq_error_iff]
  constructor
  · rintro ⟨piece, herror, rfl⟩
    obtain ⟨hfails, rfl⟩ := (hinner _ _).mp herror
    exact ⟨hfails, hown⟩
  · rintro ⟨hfails, rfl⟩
    exact ⟨_, (hinner _ _).mpr ⟨hfails, rfl⟩, hown⟩

end On

end Call

end Chip8
