import Chip8.Proofs.Requests

/-!
# Refused requests

Apart from a run that fails and a write that the store refuses, a request is refused only for what
it asks for: a program that is too long, a name that is none, a wrong number of keys, or a save
without a store. Such a request leaves the page as it was, and so do the events of keys that the pad
does not have.
-/

namespace Chip8

theorem Preset.ofName?_eq_none_iff {name : String} :
    ofName? name = none ↔ name ∉ ["legacy", "shift-only", "modern"] := by
  unfold ofName?
  split <;> simp_all

theorem IndexStep.ofName?_eq_none_iff {name : String} :
    ofName? name = none ↔ name ∉ ["unchanged", "x", "x+1"] := by
  unfold ofName?
  split <;> simp_all

theorem Preset.read_eq_error_iff {name : String} {fault : Fault} :
    read name = .error fault ↔
      name ∉ ["legacy", "shift-only", "modern"] ∧ fault = .invalidSetting "quirk" name := by
  rw [← ofName?_eq_none_iff, read]
  cases ofName? name with
  | some preset => simp
  | none => simp [Setting.invalid, Setting.name, eq_comm]

theorem IndexStep.read_eq_error_iff {name : String} {fault : Fault} :
    read name = .error fault ↔
      name ∉ ["unchanged", "x", "x+1"] ∧ fault = .invalidSetting "index" name := by
  rw [← ofName?_eq_none_iff, read]
  cases ofName? name with
  | some step => simp
  | none => simp [Setting.invalid, Setting.name, eq_comm]

namespace Keypad

variable {key : UInt8}

theorem press_of_gt (keypad : Keypad) (hkey : 15 < key) : keypad.press key = keypad := by
  have hsize : 16 ≤ key.toNat := UInt8.lt_iff_toNat_lt.mp hkey
  rw [press, Vector.setIfInBounds_eq_of_size_le hsize]

theorem release_of_gt (keypad : Keypad) (hkey : 15 < key) :
    keypad.release key = (keypad, none) := by
  have hsize : 16 ≤ key := UInt8.le_iff_toNat_le.mpr (UInt8.lt_iff_toNat_lt.mp hkey)
  rw [release, if_neg (UInt8.not_lt.mpr hsize)]

theorem keyOfCode?_eq_none_iff {code : UInt32} :
    keyOfCode? code = none ↔ code ∉ keymap.map Prod.fst := by
  rw [keyOfCode?, List.lookup_eq_none_iff]
  constructor
  · intro hnone hmem
    obtain ⟨entry, hentry, rfl⟩ := List.mem_map.mp hmem
    exact absurd rfl (bne_iff_ne.mp (hnone entry hentry))
  · intro hcode entry hentry
    refine bne_iff_ne.mpr fun heq => hcode ?_
    exact heq ▸ List.mem_map_of_mem hentry

end Keypad

/-- Events of keys that the pad does not have. -/
inductive Action.Ignored : Action → Prop
  | keyDown {key : UInt8} (hkey : 15 < key) : Ignored (.keyDown key)
  | keyUp {key : UInt8} (hkey : 15 < key) : Ignored (.keyUp key)
  | keyDownCode {code : UInt32} (hcode : code ∉ Keypad.keymap.map Prod.fst) :
      Ignored (.keyDownCode code)
  | keyUpCode {code : UInt32} (hcode : code ∉ Keypad.keymap.map Prod.fst) :
      Ignored (.keyUpCode code)

namespace Session

variable {session left : Session} {program : List UInt8} {name : String} {fault : Fault}

theorem load_eq_error_iff :
    session.load program = .error fault left ↔
      (3584 < program.length ∧ fault = .programTooLarge program.length) ∧ left = session := by
  obtain ⟨hfits, machine, -, hload⟩ | ⟨hlong, hload⟩ := session.load_cases program
  · simp [hload, Nat.not_lt.mpr hfits]
  · simp [hload, hlong, eq_comm]

theorem setPreset_eq_error_iff :
    session.setPreset name = .error fault left ↔
      (name ∉ ["legacy", "shift-only", "modern"] ∧ fault = .invalidSetting "quirk" name) ∧
        left = session := by
  rw [← Preset.read_eq_error_iff]
  obtain ⟨preset, hread, hset⟩ | ⟨refused, hread, hset⟩ := session.setPreset_cases name
  · simp [hset, hread]
  · simp [hset, hread, eq_comm]

theorem setIndex_eq_error_iff :
    session.setIndex name = .error fault left ↔
      (name ∉ ["unchanged", "x", "x+1"] ∧ fault = .invalidSetting "index" name) ∧
        left = session := by
  rw [← IndexStep.read_eq_error_iff]
  obtain ⟨step, hread, hset⟩ | ⟨refused, hread, hset⟩ := session.setIndex_cases name
  · simp [hset, hread]
  · simp [hset, hread, eq_comm]

end Session

namespace Page

/-- Why a request is refused for what it asks for. -/
inductive Rejects (page : Page) : Action → Refusal → Prop
  | load {program : List UInt8} (hlong : 3584 < program.length) :
      Rejects page (.load program) (.fault (.programTooLarge program.length))
  | startWith {random : RandomSource} {program : List UInt8} (hlong : 3584 < program.length) :
      Rejects page (.startWith random program) (.fault (.programTooLarge program.length))
  | startWithPreset {random : RandomSource} {program : List UInt8} {name : String}
      (hlong : 3584 < program.length) :
      Rejects page (.startWithPreset random program name)
        (.fault (.programTooLarge program.length))
  | startWithName {random : RandomSource} {program : List UInt8} {name : String}
      (hfits : program.length ≤ 3584) (hname : name ∉ ["legacy", "shift-only", "modern"]) :
      Rejects page (.startWithPreset random program name) (.fault (.invalidSetting "quirk" name))
  | setPreset {name : String} (hname : name ∉ ["legacy", "shift-only", "modern"]) :
      Rejects page (.setPreset name) (.fault (.invalidSetting "quirk" name))
  | setIndex {name : String} (hname : name ∉ ["unchanged", "x", "x+1"]) :
      Rejects page (.setIndex name) (.fault (.invalidSetting "index" name))
  | setKeys {states : List UInt8} (hlength : states.length ≠ 16) :
      Rejects page (.setKeys states) .keyCount
  | save (hstorage : page.storage = none) :
      Rejects page .save (.fault (.storage "localStorage unavailable"))

variable {page : Page} {action : Action} {refusal : Refusal}

theorem refusal_adopt_eq_some_iff {ending : Ending Session Unit} :
    (page.adopt (settle ending)).2.refusal = some refusal ↔
      ∃ fault left, ending = .error fault left ∧ refusal = .fault fault := by
  cases ending with
  | ok _ session => simp [adopt, settle]
  | error fault left => simp [adopt, settle, eq_comm]

theorem refusal_renew_eq_some_iff {random : RandomSource} {call : Call Session Unit} :
    (page.renew random call).2.refusal = some refusal ↔
      ∃ fault left, call (.start page.storage random) = .error fault left ∧
        refusal = .fault fault := by
  obtain ⟨session, hcall, hrenew⟩ | ⟨fault, left, hcall, hrenew⟩ := page.renew_eq_or random call
  · simp [hcall, hrenew]
  · simp [hcall, hrenew, eq_comm]

theorem apply_of_rejects (hrejects : page.Rejects action refusal) :
    page.apply action = (page, { refusal := some refusal }) := by
  cases hrejects with
  | load hlong =>
    rw [apply, Session.load_of_gt hlong]
    rfl
  | startWith hlong => rw [apply, renew, Session.load_of_gt hlong]
  | startWithPreset hlong => rw [apply, renew, Call.bind_of_error (Session.load_of_gt hlong)]
  | @startWithName random program name hfits hname =>
    obtain ⟨machine, hload, -⟩ := (Session.start page.storage random).load_of_le hfits
    rw [apply, renew, Call.bind_of_ok hload,
      Session.setPreset_eq_error_iff.mpr ⟨⟨hname, rfl⟩, rfl⟩]
  | setPreset hname =>
    rw [apply, Session.setPreset_eq_error_iff.mpr ⟨⟨hname, rfl⟩, rfl⟩]
    rfl
  | setIndex hname =>
    rw [apply, Session.setIndex_eq_error_iff.mpr ⟨⟨hname, rfl⟩, rfl⟩]
    rfl
  | setKeys hlength =>
    have hnone : keysOfBytes? _ = none := dif_neg hlength
    simp only [apply, hnone]
  | save hstorage =>
    simp only [apply, save, hstorage]

/-- Every refusal has its reason among these, unless a run fails or the store refuses a write. -/
theorem rejects_of_refusal (hrefusal : (page.apply action).2.refusal = some refusal)
    (hruns : ¬action.Runs) (hsave : action = .save → page.storage = none) :
    page.Rejects action refusal := by
  cases action with
  | cycle | step => exact absurd trivial hruns
  | load program =>
    obtain ⟨fault, left, herror, rfl⟩ := refusal_adopt_eq_some_iff.mp hrefusal
    obtain ⟨⟨hlong, rfl⟩, -⟩ := Session.load_eq_error_iff.mp herror
    exact .load hlong
  | startWith random program =>
    obtain ⟨fault, left, herror, rfl⟩ := refusal_renew_eq_some_iff.mp hrefusal
    obtain ⟨⟨hlong, rfl⟩, -⟩ := Session.load_eq_error_iff.mp herror
    exact .startWith hlong
  | startWithPreset random program name =>
    obtain ⟨fault, left, herror, rfl⟩ := refusal_renew_eq_some_iff.mp hrefusal
    obtain hload | ⟨_, session, hload, hpreset⟩ := Call.bind_eq_error_iff.mp herror
    · obtain ⟨⟨hlong, rfl⟩, -⟩ := Session.load_eq_error_iff.mp hload
      exact .startWithPreset hlong
    · obtain ⟨⟨hname, rfl⟩, -⟩ := Session.setPreset_eq_error_iff.mp hpreset
      refine .startWithName (Nat.le_of_not_lt fun hlong => ?_) hname
      rw [Session.load_of_gt hlong] at hload
      contradiction
  | setPreset name =>
    obtain ⟨fault, left, herror, rfl⟩ := refusal_adopt_eq_some_iff.mp hrefusal
    obtain ⟨⟨hname, rfl⟩, -⟩ := Session.setPreset_eq_error_iff.mp herror
    exact .setPreset hname
  | setIndex name =>
    obtain ⟨fault, left, herror, rfl⟩ := refusal_adopt_eq_some_iff.mp hrefusal
    obtain ⟨⟨hname, rfl⟩, -⟩ := Session.setIndex_eq_error_iff.mp herror
    exact .setIndex hname
  | setKeys states =>
    by_cases hlength : states.length = 16
    · simp [apply, keysOfBytes?, hlength] at hrefusal
    · rw [apply_of_rejects (.setKeys hlength)] at hrefusal
      obtain rfl := Option.some.inj hrefusal
      exact .setKeys hlength
  | save =>
    have hrejects : page.Rejects .save _ := .save (hsave rfl)
    rw [apply_of_rejects hrejects] at hrefusal
    obtain rfl := Option.some.inj hrefusal
    exact hrejects
  | keyDownCode code | keyUpCode code =>
    simp only [apply, keyCode] at hrefusal
    split at hrefusal <;> contradiction
  | _ => contradiction

/-- A key code that is not mapped is answered with no. -/
theorem apply_of_ignored (hignored : action.Ignored) :
    ∃ answer, page.apply action = (page, { answer }) ∧ answer ≠ some true := by
  cases hignored with
  | keyDown hkey =>
    refine ⟨none, ?_, by simp⟩
    rw [apply, Machine.keyDown, Keypad.press_of_gt _ hkey]
    rfl
  | keyUp hkey =>
    refine ⟨none, ?_, by simp⟩
    rw [apply, Machine.keyUp, Keypad.release_of_gt _ hkey]
    rfl
  | keyDownCode hcode | keyUpCode hcode =>
    refine ⟨some false, ?_, by simp⟩
    rw [apply, keyCode, Keypad.keyOfCode?_eq_none_iff.mpr hcode]

/-- **Rejected requests change nothing.** A program that is too long, a name that is none, a wrong
number of keys and a save without a store are refused, each with the reason that it has, and leave
the page as it was: its machine, signals, settings and store. So do the events of keys that the pad
does not have, which are not refused. Nothing else is refused, except a run that fails and a write
that a store does not take. -/
theorem rejected_requests_change_nothing (page : Page) :
    (∀ action refusal, page.Rejects action refusal →
      page.apply action = (page, { refusal := some refusal })) ∧
    (∀ action : Action, action.Ignored →
      ∃ answer, page.apply action = (page, { answer }) ∧ answer ≠ some true) ∧
    ∀ action refusal, (page.apply action).2.refusal = some refusal →
      page.Rejects action refusal ∨ action.Runs ∨ action = .save ∧ page.storage ≠ none := by
  refine ⟨fun _ _ => apply_of_rejects, fun _ => apply_of_ignored, fun action refusal hrefusal => ?_⟩
  by_cases hruns : action.Runs
  · exact .inr (.inl hruns)
  by_cases hsave : action = .save ∧ page.storage ≠ none
  · exact .inr (.inr hsave)
  refine .inl (rejects_of_refusal hrefusal hruns fun haction => ?_)
  exact Classical.not_not.mp fun hstorage => hsave ⟨haction, hstorage⟩

theorem blankPage_rejected :
    let page := Page.start none (.ofList [])
    page.apply (.load (.replicate 3585 0)) =
        (page, { refusal := some (.fault (.programTooLarge 3585)) }) ∧
      page.apply (.setPreset "Modern") =
        (page, { refusal := some (.fault (.invalidSetting "quirk" "Modern")) }) ∧
      page.apply (.setIndex "") =
        (page, { refusal := some (.fault (.invalidSetting "index" "")) }) ∧
      page.apply (.setKeys [1]) = (page, { refusal := some .keyCount }) ∧
      page.apply .save =
        (page, { refusal := some (.fault (.storage "localStorage unavailable")) }) ∧
      (∃ answer, page.apply (.keyUp 16) = (page, { answer }) ∧ answer ≠ some true) ∧
      ∃ answer, page.apply (.keyDownCode 48) = (page, { answer }) ∧ answer ≠ some true := by
  intro page
  obtain ⟨hrejects, hignored, -⟩ := rejected_requests_change_nothing page
  have hlong : 3584 < (List.replicate 3585 (0 : UInt8)).length := by
    rw [List.length_replicate]
    decide
  have hload := hrejects _ _ (.load hlong)
  rw [List.length_replicate] at hload
  refine ⟨hload, hrejects _ _ (.setPreset (by decide)), hrejects _ _ (.setIndex (by decide)),
    hrejects _ _ (.setKeys (by decide)), hrejects _ _ (.save rfl), hignored _ (.keyUp (by decide)),
    hignored _ (.keyDownCode (by decide))⟩

end Page

end Chip8
