import Chip8.Proofs.SessionConfig
import Chip8.Proofs.Signals

/-!
# The picture that a page shows

A change of the picture is marked on the screen, the mark is handed to the signals at the end of a
cycle or a step, and the page takes it from there. On the way it is never lost: a page that shows
another picture than the screen's finds one of the two marks set.
-/

namespace Chip8

/-- The picture is as before, or it is marked as changed. -/
def Screen.KeptOrDirty (before after : Screen) : Prop := after = before ∨ after.dirty = true

theorem Screen.KeptOrDirty.trans {first second third : Screen} (hfirst : first.KeptOrDirty second)
    (hsecond : second.KeptOrDirty third) : first.KeptOrDirty third := by
  obtain rfl | hdirty := hsecond
  · exact hfirst
  · exact .inr hdirty

/-- The instructions that change the picture. -/
def Instruction.Draws : Instruction → Prop
  | .clearScreen | .draw _ _ _ => True
  | _ => False

namespace Machine

variable {machine next : Machine} {instruction : Instruction}

theorem dirty_of_draws (hnext : machine.execute instruction = .ok () next)
    (hdraws : instruction.Draws) : next.screen.dirty = true := by
  cases instruction with
  | clearScreen =>
    obtain rfl := Call.eq_of_ok hnext
    rfl
  | draw x y rows =>
    obtain ⟨sprite, -, rfl⟩ := eq_of_draw hnext
    rfl
  | _ => exact hdraws.elim

theorem screen_of_not_draws (hnext : machine.execute instruction = .ok () next)
    (hdraws : ¬instruction.Draws) : next.screen = machine.screen := by
  cases instruction with
  | clearScreen | draw => exact absurd trivial hdraws
  | ret =>
    obtain ⟨target, stack, -, rfl⟩ := eq_of_execute_ret hnext
    rfl
  | call target =>
    obtain ⟨stack, -, rfl⟩ := eq_of_execute_call hnext
    rfl
  | skip condition =>
    obtain rfl := eq_of_execute_skip hnext
    split <;> rfl
  | storeDecimal x =>
    obtain rfl := eq_of_execute_storeDecimal hnext
    rfl
  | storeRegisters x =>
    obtain rfl := eq_of_execute_storeRegisters hnext
    rfl
  | loadRegisters x =>
    obtain ⟨bytes, -, rfl⟩ := eq_of_execute_loadRegisters hnext
    rfl
  | _ =>
    obtain rfl := Call.eq_of_ok hnext
    rfl

theorem screen_step (machine : Machine) : machine.screen.KeptOrDirty machine.step.1.screen := by
  by_cases hrunning : machine.mode = .running
  · obtain hend | ⟨word, hword, hunknown⟩ | ⟨instruction, hperforms⟩ := machine.fetch_cases
    · rw [step_of_pc_past_end hrunning hend]
      exact .inl rfl
    · rw [step_of_unknown hrunning hword hunknown]
      exact .inl rfl
    · cases hnext : machine.advance.execute instruction with
      | error fault left =>
        rw [step_of_performs hrunning hperforms, hnext]
        exact .inl rfl
      | ok _ next =>
        rw [step_of_execute_eq_ok hrunning hperforms hnext]
        by_cases hdraws : instruction.Draws
        · exact .inr (dirty_of_draws hnext hdraws)
        · have hkept : next.screen = machine.advance.screen := screen_of_not_draws hnext hdraws
          exact .inl hkept
  · rw [step_of_not_running hrunning]
    exact .inl rfl

theorem screen_singleStep (machine : Machine) :
    machine.screen.KeptOrDirty machine.singleStep.1.screen := by
  unfold singleStep
  split
  · exact .inr rfl
  · exact machine.screen_step

theorem screen_run (machine : Machine) (n : Nat) :
    machine.screen.KeptOrDirty (machine.run n).1.screen :=
  run_induction (fun m => machine.screen.KeptOrDirty m.screen) (fun _ => True)
    (fun m _ _ hkept => hkept.trans m.screen_step) (fun _ _ => trivial) (.inl rfl)

theorem screen_tick (machine : Machine) : machine.tick.screen = machine.screen := by
  unfold tick
  split <;> rfl

theorem screen_ticked (machine : Machine) :
    machine.screen.KeptOrDirty machine.ticked.screen := by
  rw [ticked, screen_tick]
  exact machine.screen_run _

end Machine

namespace Session

/-- A picture that the page shows is the screen's, or one of the two marks is set. -/
def Covers (session : Session) (shown : Vector Bool 2048) : Prop :=
  shown = session.machine.screen.pixels ∨ session.signals.screenDirty = true ∨
    session.machine.screen.dirty = true

variable {session next : Session} {shown : Vector Bool 2048}

/-- Taking the screen's mark over into the signals. -/
theorem Covers.takeOver {screen : Screen} (hcovers : session.Covers shown)
    (hkept : session.machine.screen.KeptOrDirty screen)
    (hscreen : next.machine.screen = screen.markClean)
    (hsignal : next.signals.screenDirty = (session.signals.screenDirty || screen.dirty)) :
    next.Covers shown := by
  rw [Covers, hscreen, hsignal]
  cases hdirty : screen.dirty with
  | true => exact .inr (.inl (Bool.or_true _))
  | false =>
    obtain rfl | hchanged := hkept
    · rw [Covers, hdirty] at hcovers
      simpa [Screen.markClean] using hcovers
    · rw [hdirty] at hchanged
      contradiction

theorem Covers.cycle (hcovers : session.Covers shown) : session.cycle.1.Covers shown :=
  hcovers.takeOver session.machine.screen_ticked rfl (by rw [signals_cycle])

theorem Covers.step (hcovers : session.Covers shown) : session.step.1.Covers shown :=
  hcovers.takeOver session.machine.screen_singleStep rfl (by rw [signals_step])

theorem Covers.of_same (hcovers : session.Covers shown)
    (hscreen : next.machine.screen = session.machine.screen)
    (hsignals : next.signals = session.signals) : next.Covers shown := by
  rw [Covers, hscreen, hsignals]
  exact hcovers

theorem covers_of_load {program : List UInt8} (hnext : session.load program = .ok () next) :
    next.Covers shown := by
  obtain ⟨-, machine, hmachine, hload⟩ | ⟨-, hload⟩ := session.load_cases program
  · obtain rfl := Call.eq_of_ok (hload.symm.trans hnext)
    obtain rfl := Machine.load_eq_ok hmachine
    exact .inr (.inr rfl)
  · rw [hload] at hnext
    contradiction

theorem Covers.load (hcovers : session.Covers shown) (program : List UInt8) :
    (settle (session.load program)).1.Covers shown := by
  obtain ⟨-, machine, -, hload⟩ | ⟨-, hload⟩ := session.load_cases program
  · rw [hload]
    exact covers_of_load hload
  · rw [hload]
    exact hcovers

theorem Covers.setPreset (hcovers : session.Covers shown) (name : String) :
    (settle (session.setPreset name)).1.Covers shown := by
  obtain ⟨preset, -, hset⟩ | ⟨fault, -, hset⟩ := session.setPreset_cases name
  · rw [hset]
    exact hcovers.of_same rfl rfl
  · rw [hset]
    exact hcovers

theorem Covers.setIndex (hcovers : session.Covers shown) (name : String) :
    (settle (session.setIndex name)).1.Covers shown := by
  obtain ⟨step, -, hset⟩ | ⟨fault, -, hset⟩ := session.setIndex_cases name
  · rw [hset]
    exact hcovers.of_same rfl rfl
  · rw [hset]
    exact hcovers

end Session

/-- A page, and the picture that it shows. -/
structure Viewer where
  page : Page
  shown : Vector Bool 2048

namespace Viewer

/-- Opens a page on a store, with a blank picture. -/
def start (storage : Option Store) (random : RandomSource) : Viewer :=
  ⟨.start storage random, Screen.blank.pixels⟩

/-- A poll that finds a change takes over the picture, and a new session has a blank one. -/
def apply (viewer : Viewer) (action : Action) : Viewer :=
  let (page, reply) := viewer.page.apply action
  match action with
  | .takeDirty =>
    ⟨page, if reply.answer = some true then page.session.machine.screen.pixels else viewer.shown⟩
  | .start _ | .startWith _ _ | .startWithPreset _ _ _ =>
    ⟨page, if reply.refusal = none then Screen.blank.pixels else viewer.shown⟩
  | _ => ⟨page, viewer.shown⟩

def after (viewer : Viewer) (actions : List Action) : Viewer := actions.foldl apply viewer

variable {viewer : Viewer}

/-- The page shows what is on the screen, or one of the two marks is set. -/
def Current (viewer : Viewer) : Prop := viewer.page.session.Covers viewer.shown

theorem current_keyCode {event : Machine → UInt8 → Machine} (code : UInt32)
    (hcurrent : viewer.Current)
    (hevent : ∀ machine key, (event machine key).screen = machine.screen) :
    Current ⟨(viewer.page.keyCode code event).1, viewer.shown⟩ := by
  unfold Page.keyCode
  split
  · exact hcurrent.of_same (hevent _ _) rfl
  · exact hcurrent

/-- A new session has a blank picture, and a program blanks it. -/
theorem current_renew {random : RandomSource} {call : Call Session Unit}
    (hcurrent : viewer.Current)
    (hok : ∀ session, call (.start viewer.page.storage random) = .ok () session →
      session.Covers Screen.blank.pixels) :
    Current ⟨(viewer.page.renew random call).1,
      if (viewer.page.renew random call).2.refusal = none then Screen.blank.pixels
      else viewer.shown⟩ := by
  obtain ⟨session, hsession, hrenew⟩ | ⟨_, _, -, hrenew⟩ := viewer.page.renew_eq_or random call
  · rw [hrenew]
    exact hok session hsession
  · rw [hrenew]
    exact hcurrent

theorem shown_takeDirty (viewer : Viewer) :
    (viewer.apply .takeDirty).shown =
      if viewer.page.session.signals.screenDirty = true then
        viewer.page.session.machine.screen.pixels
      else viewer.shown := by
  simp only [Viewer.apply, Page.apply, Session.takeDirty, Option.some.injEq]

theorem Current.takeDirty (hcurrent : viewer.Current) : (viewer.apply .takeDirty).Current := by
  have hshown := viewer.shown_takeDirty
  cases hsignal : viewer.page.session.signals.screenDirty with
  | true =>
    rw [hsignal, if_pos rfl] at hshown
    exact .inl hshown
  | false =>
    rw [hsignal, if_neg Bool.false_ne_true] at hshown
    rw [Current, Session.Covers, hsignal] at hcurrent
    rw [Current, hshown]
    obtain hsame | hfalse | hdirty := hcurrent
    · exact .inl hsame
    · contradiction
    · exact .inr (.inr hdirty)

/-- With no mark left on the screen, a poll brings the page up to date. -/
theorem Current.shown_poll (hcurrent : viewer.Current)
    (hclean : viewer.page.session.machine.screen.dirty = false) :
    (viewer.apply .takeDirty).shown = viewer.page.session.machine.screen.pixels := by
  rw [shown_takeDirty]
  split
  · rfl
  · rename_i hsignal
    obtain hsame | hdirty | hdirty := hcurrent
    · exact hsame
    · exact absurd hdirty hsignal
    · rw [hclean] at hdirty
      contradiction

theorem Current.apply (hcurrent : viewer.Current) (action : Action) :
    (viewer.apply action).Current := by
  cases action with
  | start random => exact .inl rfl
  | startWith random program =>
    exact current_renew hcurrent fun _ => Session.covers_of_load
  | startWithPreset random program name =>
    refine current_renew hcurrent fun session hsession => ?_
    obtain ⟨_, loaded, hloaded, hpreset⟩ := Call.bind_eq_ok_iff.mp hsession
    have hcovers : loaded.Covers Screen.blank.pixels := Session.covers_of_load hloaded
    have hset := hcovers.setPreset name
    rwa [hpreset] at hset
  | load program => exact Session.Covers.load hcurrent program
  | reset => exact .inr (.inr rfl)
  | cycle => exact Session.Covers.cycle hcurrent
  | step => exact Session.Covers.step hcurrent
  | pause => exact hcurrent.of_same (Machine.touched_pause _).screen rfl
  | resume => exact hcurrent.of_same (Machine.touched_resume _).screen rfl
  | togglePause => exact hcurrent.of_same (Machine.touched_togglePause _).screen rfl
  | keyUp key => exact hcurrent.of_same (Machine.touched_withKeypad _ _).screen rfl
  | keyDownCode code => exact current_keyCode code hcurrent fun _ _ => rfl
  | keyUpCode code => exact current_keyCode code hcurrent fun _ _ =>
    (Machine.touched_withKeypad _ _).screen
  | setKeys states =>
    simp only [Viewer.apply, Page.apply]
    split
    · exact hcurrent.of_same (Machine.touched_withKeypad _ _).screen rfl
    · exact hcurrent
  | setPreset name => exact Session.Covers.setPreset hcurrent name
  | setIndex name => exact Session.Covers.setIndex hcurrent name
  | save =>
    rw [Current, Viewer.apply, Page.apply, Page.session_save]
    exact hcurrent
  | takeDirty => exact hcurrent.takeDirty
  | _ => exact hcurrent

theorem Current.after (hcurrent : viewer.Current) (actions : List Action) :
    (viewer.after actions).Current := by
  induction actions generalizing viewer with
  | nil => exact hcurrent
  | cons action actions ih => exact ih (hcurrent.apply action)

/-- **No frame is lost.** Whatever requests a page makes, it shows the picture on the screen, or a
change is signalled to it, or marked on the screen. A poll right after a cycle or a step brings it
up to date, however that went. -/
theorem shows_picture_or_marked (storage : Option Store) (random : RandomSource)
    (actions : List Action) :
    let viewer := (start storage random).after actions
    let session := viewer.page.session
    (viewer.shown = session.machine.screen.pixels ∨ session.signals.screenDirty = true ∨
        session.machine.screen.dirty = true) ∧
      let cycled := (viewer.apply .cycle).apply .takeDirty
      let stepped := (viewer.apply .step).apply .takeDirty
      cycled.shown = cycled.page.session.machine.screen.pixels ∧
        stepped.shown = stepped.page.session.machine.screen.pixels := by
  intro viewer session
  have hstart : (start storage random).Current := .inl rfl
  have hcurrent : viewer.Current := hstart.after actions
  exact ⟨hcurrent, (hcurrent.apply .cycle).shown_poll rfl, (hcurrent.apply .step).shown_poll rfl⟩

end Viewer

end Chip8
