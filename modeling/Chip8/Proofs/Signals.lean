import Chip8.Proofs.Cycle
import Chip8.Session.Basic

/-!
# What cycles and steps leave for the page

A cycle replaces the tone and a step leaves it. Both keep a fault and a picture that the page has
not taken notice of yet.
-/

namespace Chip8

namespace Session

theorem signals_cycle (session : Session) :
    session.cycle.1.signals =
      { screenDirty := session.signals.screenDirty || session.machine.ticked.screen.dirty
        tone := session.machine.ticked.sounds
        lastFault := session.machine.cycle.2.1.or session.signals.lastFault } := by
  have hsignals : session.cycle.1.signals =
      session.machine.cycle.2.2.foldl Signals.note session.signals := rfl
  rw [hsignals, Machine.notices_cycle]
  cases session.machine.cycle.2.1 <;> cases session.machine.ticked.screen.dirty <;>
    simp [Signals.note]

theorem signals_step (session : Session) :
    session.step.1.signals =
      { session.signals with
        screenDirty := session.signals.screenDirty || session.machine.singleStep.1.screen.dirty
        lastFault := session.machine.singleStep.2.or session.signals.lastFault } := by
  have hsignals : session.step.1.signals =
      let noted := (session.machine.singleStep.2.toList.map Notice.fatal).foldl Signals.note
        session.signals
      { noted with
        screenDirty := noted.screenDirty || session.machine.singleStep.1.screen.dirty } := rfl
  rw [hsignals]
  cases session.machine.singleStep.2 <;> rfl

end Session

end Chip8
