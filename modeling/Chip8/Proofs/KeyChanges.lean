import Chip8.Proofs.Guard.Keypad

/-!
# Key by key

The state of all keys may be taken over at once, or by an event for each key that changes, from the
lowest key up. An event in the middle may end a wait, and the machine runs while the later keys are
released; the latch is not armed then, so the later ones change nothing but the keypad. So both ways
lead to the same machine, and a waiting register gets the lowest of the released keys.
-/

namespace Chip8

namespace Keypad

/-- The event of a key that is held and should not be, or should be held and is not. -/
def change? (keypad : Keypad) (keys : Vector Bool 16) (key : Fin 16) : Option Command :=
  match keypad.pressed.get key, keys.get key with
  | true, false => some (.keyUp (UInt8.ofNat key))
  | false, true => some (.keyDown (UInt8.ofNat key))
  | _, _ => none

/-- The events that lead to a state of the keys, in the order of the keys. -/
def changes (keypad : Keypad) (keys : Vector Bool 16) : List Command :=
  (List.finRange 16).filterMap (keypad.change? keys)

variable {keypad : Keypad} {keys : Vector Bool 16}

theorem upTo_succ_of_same {key : Fin 16} (hsame : keypad.pressed.get key = keys.get key) :
    keypad.upTo keys (key + 1) = keypad.upTo keys key := by
  refine Vector.ext fun k hk => ?_
  rw [getElem_upTo hk, getElem_upTo hk]
  obtain hlt | heq | hgt := Nat.lt_trichotomy k key
  · rw [if_pos (by omega), if_pos hlt]
  · subst heq
    rw [if_pos (Nat.lt_succ_self _), if_neg (Nat.lt_irrefl _)]
    exact hsame.symm
  · rw [if_neg (by omega), if_neg (by omega)]

/-- A keypad whose latch has fired in an update is no longer armed. -/
theorem unarmed_of_update {next : Keypad} {fired : UInt8}
    (hupdate : keypad.update keys = (next, some fired)) : next.armed = false := by
  rw [update] at hupdate
  cases hfirst : keypad.firstReleased? keys with
  | none =>
    rw [hfirst] at hupdate
    cases hupdate
  | some key =>
    rw [hfirst, Prod.mk.injEq] at hupdate
    rw [← hupdate.1]

theorem press_key (keypad : Keypad) (key : Fin 16) :
    keypad.press (UInt8.ofNat key) =
      { keypad with pressed := keypad.pressed.setIfInBounds key true } := by
  have hkey : (UInt8.ofNat key).toNat = key := UInt8.toNat_ofNat_of_lt' (by rw [UInt8.size]; omega)
  rw [press, hkey]

end Keypad

namespace Machine

variable {machine : Machine} {keypad : Keypad} {keys : Vector Bool 16} {key : UInt8}

/-- A keypad whose latch is not armed takes no part in the end of a wait. -/
theorem giveKey_withKeypad (hunarmed : keypad.armed = false) :
    { machine with keypad }.giveKey key = { machine.giveKey key with keypad } := by
  have hdisarm : keypad.disarm = keypad := congrArg (Keypad.mk keypad.pressed) hunarmed.symm
  obtain ⟨memory, registers, screen, held, mode, config, random⟩ := machine
  cases mode with
  | waiting register => simp only [giveKey, hdisarm]
  | _ => rfl

/-- A release after an event fires the latch unless the event did. -/
theorem keyUp_withKeypad {fired : Option UInt8}
    (hunarmed : fired ≠ none → keypad.armed = false) :
    (machine.withKeypad (keypad, fired)).keyUp key =
      machine.withKeypad ((keypad.release key).1, fired <|> (keypad.release key).2) := by
  cases fired with
  | none => rfl
  | some first =>
    have hfired := hunarmed (Option.some_ne_none first)
    have hnone : (keypad.release key).2 = none := by
      refine Option.eq_none_iff_forall_ne_some.mpr fun second hsome => ?_
      exact Bool.false_ne_true (hfired.symm.trans (Keypad.armed_of_release_eq_some hsome))
    have hreleased : (keypad.release key).1.armed = false :=
      (Keypad.armed_release_of_none hnone).trans hfired
    calc (machine.withKeypad (keypad, some first)).keyUp key
        = { machine.giveKey first with keypad }.keyUp key := by
          rw [withKeypad, giveKey_withKeypad hfired]
      _ = { machine.giveKey first with keypad := (keypad.release key).1 } := by
          rw [keyUp, show keypad.release key = ((keypad.release key).1, none) from
            Prod.ext rfl hnone]
          rfl
      _ = machine.withKeypad ((keypad.release key).1, some first <|> (keypad.release key).2) :=
          (giveKey_withKeypad hreleased).symm

theorem keyDown_withKeypad (fired : Option UInt8) :
    (machine.withKeypad (keypad, fired)).keyDown key =
      machine.withKeypad (keypad.press key, fired) := by
  cases fired with
  | none => rfl
  | some first =>
    simp only [withKeypad, giveKey, keyDown]
    cases machine.mode <;> rfl

/-- The event of one more key leads on to the update with that key. -/
theorem after_change (machine : Machine) (keys : Vector Bool 16) (key : Fin 16) :
    (machine.setKeys (machine.keypad.upTo keys key)).after
        (machine.keypad.change? keys key).toList =
      machine.setKeys (machine.keypad.upTo keys (key + 1)) := by
  obtain ⟨⟨before, fired⟩, hbefore⟩ :
      ∃ event, machine.keypad.update (machine.keypad.upTo keys key) = event := ⟨_, rfl⟩
  have hfired : fired ≠ none → before.armed = false := fun hsome => by
    obtain ⟨first, rfl⟩ := Option.ne_none_iff_exists'.mp hsome
    exact Keypad.unarmed_of_update hbefore
  cases hold : machine.keypad.pressed.get key <;> cases hnew : keys.get key
  case true.false =>
    have hround := Keypad.update_upTo_succ_of_released key hbefore (by rw [hold, hnew]; rfl)
    have hevent : machine.keypad.change? keys key = some (.keyUp (UInt8.ofNat key)) := by
      rw [Keypad.change?, hold, hnew]
    rw [hevent, setKeys, setKeys, hbefore, hround]
    exact keyUp_withKeypad hfired
  case false.true =>
    have hround := Keypad.update_upTo_succ_of_kept key hbefore (by rw [hold, hnew]; rfl)
    have hevent : machine.keypad.change? keys key = some (.keyDown (UInt8.ofNat key)) := by
      rw [Keypad.change?, hold, hnew]
    rw [hevent, setKeys, setKeys, hbefore, hround, hnew, ← Keypad.press_key]
    exact keyDown_withKeypad fired
  case false.false | true.true =>
    have hevent : machine.keypad.change? keys key = none := by
      rw [Keypad.change?, hold, hnew]
    rw [hevent, Keypad.upTo_succ_of_same (hold.trans hnew.symm)]
    rfl

/-- The events of the first keys lead to the update with these keys. -/
theorem after_changes_take (machine : Machine) (keys : Vector Bool 16) {n : Nat} (hn : n ≤ 16) :
    machine.after (((List.finRange 16).take n).filterMap (machine.keypad.change? keys)) =
      machine.setKeys (machine.keypad.upTo keys n) := by
  induction n with
  | zero =>
    rw [setKeys, Keypad.update_upTo_zero]
    rfl
  | succ n ih =>
    have hplace : n < (List.finRange 16).length := by rwa [List.length_finRange]
    let key : Fin 16 := ⟨n, hn⟩
    have hkey : (List.finRange 16)[n]?.toList = [key] := by
      rw [List.getElem?_eq_getElem hplace, List.getElem_finRange]
      rfl
    have hevent : [key].filterMap (machine.keypad.change? keys) =
        (machine.keypad.change? keys key).toList := by
      rw [List.filterMap_cons]
      cases machine.keypad.change? keys key <;> rfl
    rw [List.take_add_one, hkey, List.filterMap_append, after_append, ih (by omega), hevent]
    exact machine.after_change keys key

theorem after_changes (machine : Machine) (keys : Vector Bool 16) :
    machine.after (machine.keypad.changes keys) = machine.setKeys keys := by
  have htake := machine.after_changes_take keys (Nat.le_refl 16)
  have hall : (List.finRange 16).length ≤ 16 := Nat.le_of_eq List.length_finRange
  rwa [List.take_of_length_le hall, Keypad.upTo_all] at htake

theorem pressed_withKeypad (machine : Machine) (event : Keypad × Option UInt8) :
    (machine.withKeypad event).keypad.pressed = event.1.pressed := by
  obtain ⟨next, fired⟩ := event
  cases fired with
  | none => rfl
  | some key =>
    simp only [withKeypad, giveKey]
    split <;> rfl

theorem pressed_setKeys (machine : Machine) (keys : Vector Bool 16) :
    (machine.setKeys keys).keypad.pressed = keys := by
  rw [setKeys, pressed_withKeypad, Keypad.pressed_update]

/-- **All keys at once.** A machine that takes over the state of all keys is the machine that the
single events lead to, from the lowest key up. The keys that are held then are the given ones, and a
register that waits while a key is released gets the lowest of these keys. -/
theorem setKeys_eq_after_changes {machine : Machine} (hreachable : machine.Reachable)
    (keys : Vector Bool 16) :
    let updated := (machine.apply (.setKeys keys)).1
    updated = machine.after (machine.keypad.changes keys) ∧ updated.keypad.pressed = keys ∧
      ∀ register, machine.mode = .waiting register → (∃ key, machine.keypad.Releases keys key) →
        ∃ lowest, machine.keypad.Releases keys lowest ∧
          (∀ lower < lowest, ¬machine.keypad.Releases keys lower) ∧
          machine.registers.Assigns register (UInt8.ofNat lowest) updated.registers ∧
          updated.mode = .running := by
  intro updated
  refine ⟨(machine.after_changes keys).symm, machine.pressed_setKeys keys, ?_⟩
  rintro register hwaiting ⟨key, hkey⟩
  have harmed : machine.keypad.armed = true :=
    hreachable.latched.trans (isWaiting_eq_true_iff.mpr ⟨register, hwaiting⟩)
  cases hfirst : machine.keypad.firstReleased? keys with
  | none => exact absurd hkey (Keypad.firstReleased?_eq_none_iff.mp hfirst key)
  | some lowest =>
    obtain ⟨hlowest, hbefore⟩ := Keypad.lowest_of_firstReleased? hfirst
    obtain ⟨pressed, hevent⟩ := apply_of_releasedBy hwaiting harmed (.setKeys hlowest hbefore)
    have hupdated : updated = { machine with
        registers := machine.registers.write register (UInt8.ofNat lowest)
        keypad := ⟨pressed, false⟩
        mode := .running } := congrArg Prod.fst hevent
    refine ⟨lowest, hlowest, hbefore, ?_, by rw [hupdated]⟩
    rw [hupdated]
    exact machine.registers.assigns_write register _

/-- A machine that waits for a key for V3 while the keys 2 and 5 are held. -/
def chordHolder : Machine := keyWaiter.after [.keyDown 5, .keyDown 2]

/-- The keys 0 and 1. -/
def lowPair : Vector Bool 16 := Vector.ofFn fun key => decide (key.val < 2)

theorem chordHolder_takes_lowest :
    chordHolder.Reachable ∧ chordHolder.mode = .waiting 3 ∧ chordHolder.registers.read 3 = 0 ∧
      (∃ key, chordHolder.keypad.Releases lowPair key) ∧
      let updated := chordHolder.after (chordHolder.keypad.changes lowPair)
      updated.registers.read 3 = 2 ∧
        ∀ y, y ≠ 3 → updated.registers.read y = chordHolder.registers.read y := by
  obtain ⟨waiter, hwaiter⟩ : ∃ waiter, keyWaiter = waiter := ⟨_, rfl⟩
  have hchord : chordHolder = (waiter.keyDown 5).keyDown 2 := by rw [chordHolder, hwaiter]; rfl
  obtain ⟨holder, hholder⟩ : ∃ holder, (waiter.keyDown 5).keyDown 2 = holder := ⟨_, rfl⟩
  have hreachable : chordHolder.Reachable := Reachable.after ⟨_, _, _, rfl⟩ _
  rw [hchord, hholder] at hreachable ⊢
  have hwaiting : holder.mode = .waiting 3 := by
    rw [← hholder, ← mode_keyWaiter, hwaiter]
    rfl
  have hregisters : holder.registers = keyWaiter.registers := by
    rw [← hholder, hwaiter]
    rfl
  have hheld : holder.keypad.Releases lowPair 2 := by
    refine ⟨?_, by decide⟩
    rw [← hholder]
    exact Vector.getElem_setIfInBounds_self _
  obtain ⟨hsame, -, hregister⟩ := setKeys_eq_after_changes hreachable lowPair
  obtain ⟨lowest, ⟨-, hup⟩, hbefore, hassigns, -⟩ := hregister 3 hwaiting ⟨2, hheld⟩
  have htwo : lowest = 2 := by
    have hpair : ∀ key : Fin 16, lowPair.get key = false → 2 ≤ key := by decide
    have hge : 2 ≤ lowest := hpair lowest hup
    have hle : lowest ≤ 2 := Nat.le_of_not_lt fun hlt => hbefore 2 hlt hheld
    exact Fin.le_antisymm hle hge
  rw [← hsame]
  refine ⟨hreachable, hwaiting, ?_, ⟨2, hheld⟩, ?_, hassigns.elsewhere⟩
  · rw [hregisters, registers_keyWaiter]
    rfl
  · rw [hassigns.here, htwo]
    rfl

end Machine

end Chip8
