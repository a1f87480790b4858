import Chip8.Proofs.Requests

/-!
# The error that a page is told of

A page can ask for the last error. There is one exactly while the machine is halted, and it is the
error of the cycle or step that halted it, whatever the page has asked for since then.
-/

namespace Chip8

namespace Session

/-- There is a last error exactly while the machine is halted. -/
def Reports (session : Session) : Prop :=
  session.lastError ≠ none ↔ session.machine.mode = .halted

variable {session : Session}

theorem Reports.lastError_of_not_halted (hreports : session.Reports)
    (hmode : session.machine.mode ≠ .halted) : session.lastError = none := by
  by_contra herror
  exact hmode (hreports.mp herror)

theorem Idles.lastError {next : Session} (hidles : session.Idles next) :
    next.lastError = session.lastError := by
  rw [Session.lastError, hidles.lastFault, Session.lastError]

end Session

namespace Page

open Session (Reports)

variable {page : Page} {action : Action} {text : String}

theorem lastError_of_restarts (hrestarts : action.Restarts) :
    (page.apply action).1.session.lastError = none := by
  rw [Session.lastError, (apply_of_restarts hrestarts).1]
  rfl

/-- A cycle or step leaves the message that it returns, or the one that it finds. -/
theorem lastError_of_runs (hruns : action.Runs) :
    (page.apply action).1.session.lastError =
      ((page.apply action).2.refusal.map Refusal.message).or page.session.lastError := by
  obtain ⟨fault, hrefusal, hlast, -⟩ := page.apply_of_runs hruns
  rw [Session.lastError, hlast, hrefusal, Session.lastError]
  cases fault <;> rfl

theorem refusal_of_runs_halted (hruns : action.Runs)
    (hhalted : page.session.machine.mode = .halted) :
    (page.apply action).2.refusal = none := by
  obtain ⟨fault, hrefusal, -, -, hnone⟩ := page.apply_of_runs hruns
  rw [hrefusal, hnone hhalted]
  rfl

theorem halted_iff_of_runs (hruns : action.Runs) :
    (page.apply action).1.session.machine.mode = .halted ↔
      page.session.machine.mode = .halted ∨ (page.apply action).2.refusal ≠ none := by
  obtain ⟨fault, hrefusal, -, hhalted, -⟩ := page.apply_of_runs hruns
  rw [hhalted, hrefusal, ne_eq, ne_eq, Option.map_eq_none_iff]

theorem reports_apply (hreports : page.session.Reports) (action : Action) :
    (page.apply action).1.session.Reports := by
  rw [Reports] at hreports ⊢
  by_cases hrestarts : action.Restarts
  · rw [lastError_of_restarts hrestarts]
    exact iff_of_false (absurd rfl) (apply_of_restarts hrestarts).2
  by_cases hruns : action.Runs
  · rw [lastError_of_runs hruns, halted_iff_of_runs hruns, ← hreports]
    cases (page.apply action).2.refusal <;> simp
  · have hidles := page.idles_apply hrestarts hruns
    rwa [hidles.lastError, hidles.halted]

theorem reports_after (hreports : page.session.Reports) (actions : List Action) :
    (page.after actions).session.Reports :=
  after_induction (fun p => p.session.Reports) (fun _ action hp => reports_apply hp action)
    hreports actions

/-- The call finds the machine not halted, halts it and returns this message. -/
structure Halts (page : Page) (action : Action) (text : String) : Prop where
  runs : action.Runs
  before : page.session.machine.mode ≠ .halted
  after : (page.apply action).1.session.machine.mode = .halted
  message : (page.apply action).2.refusal.map Refusal.message = some text

theorem lastError_apply_iff (hreports : page.session.Reports) :
    (page.apply action).1.session.lastError = some text ↔
      (page.session.lastError = some text ∧ ¬action.Restarts) ∨ page.Halts action text := by
  by_cases hruns : action.Runs
  · have hkept : ¬action.Restarts := hruns.not_restarts
    rw [lastError_of_runs hruns]
    by_cases hmode : page.session.machine.mode = .halted
    · have hhalts : ¬page.Halts action text := fun hhalts => hhalts.before hmode
      simp [refusal_of_runs_halted hruns hmode, hkept, hhalts]
    · rw [hreports.lastError_of_not_halted hmode, Option.or_none]
      constructor
      · intro hmessage
        have hrefusal : (page.apply action).2.refusal ≠ none := by
          rintro hnone
          rw [hnone] at hmessage
          contradiction
        exact .inr ⟨hruns, hmode, (halted_iff_of_runs hruns).mpr (.inr hrefusal), hmessage⟩
      · rintro (⟨hnone, -⟩ | hhalts)
        · contradiction
        · exact hhalts.message
  · have hhalts : ¬page.Halts action text := fun hhalts => hruns hhalts.runs
    by_cases hrestarts : action.Restarts
    · simp [lastError_of_restarts hrestarts, hrestarts, hhalts]
    · simp [(idles_apply hrestarts hruns).lastError, hrestarts, hhalts]

/-- A call halted the machine with this message, and no restart came after it. -/
def HaltedWith (page : Page) (actions : List Action) (text : String) : Prop :=
  ∃ action before later, actions = before ++ action :: later ∧
    (page.after before).Halts action text ∧ ∀ next ∈ later, ¬next.Restarts

theorem haltedWith_cons_iff {actions : List Action} :
    page.HaltedWith (action :: actions) text ↔
      (page.Halts action text ∧ ∀ next ∈ actions, ¬next.Restarts) ∨
        (page.apply action).1.HaltedWith actions text := by
  simp only [HaltedWith, exists_split_cons_iff, exists_or, exists_eq_left']
  rfl

theorem lastError_after_iff (hreports : page.session.Reports) (actions : List Action) :
    (page.after actions).session.lastError = some text ↔
      (page.session.lastError = some text ∧ ∀ action ∈ actions, ¬action.Restarts) ∨
        page.HaltedWith actions text := by
  induction actions generalizing page with
  | nil => simp [after, HaltedWith]
  | cons action actions ih =>
    rw [after_cons, ih (reports_apply hreports action), lastError_apply_iff hreports,
      haltedWith_cons_iff, List.forall_mem_cons, or_and_right, and_assoc, or_assoc]

/-- **The last error.** Whatever requests a page makes of a session, there is a last error exactly
while the machine is halted. It is the message that the cycle or step which halted the machine
returned, and it stays the same until a reset or a program that is accepted takes it back. -/
theorem last_error_tells_halt (storage : Option Store) (random : RandomSource)
    (actions : List Action) :
    let opened := Page.start storage random
    let page := opened.after actions
    (page.session.lastError ≠ none ↔ page.session.machine.mode = .halted) ∧
      (∀ text, page.session.lastError = some text ↔
        ∃ action before later, actions = before ++ action :: later ∧
          (opened.after before).Halts action text ∧ ∀ next ∈ later, ¬next.Restarts) ∧
      (∀ text later, page.session.lastError = some text → (∀ next ∈ later, ¬next.Restarts) →
        (page.after later).session.lastError = some text) ∧
      ∀ action : Action, action.Restarts →
        (page.apply action).1.session.lastError = none ∧
          (page.apply action).1.session.machine.mode ≠ .halted := by
  intro opened page
  have hopened : opened.session.Reports := iff_of_false (absurd rfl) (by nofun)
  have hreports : page.session.Reports := reports_after hopened actions
  refine ⟨hreports, fun text => ?_, fun text later herror hkept => ?_, fun action hrestarts => ?_⟩
  · refine (lastError_after_iff hopened actions).trans (or_iff_right ?_)
    rintro ⟨hnone, -⟩
    contradiction
  · exact (lastError_after_iff hreports later).mpr (.inl ⟨herror, hkept⟩)
  · exact ⟨lastError_of_restarts hrestarts, (apply_of_restarts hrestarts).2⟩

end Page

end Chip8
