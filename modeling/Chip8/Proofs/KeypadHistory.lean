import Chip8.Proofs.KeyChanges

/-!
# The history of a keypad

What a keypad has been told settles which keys it holds and whether its latch is armed: the latest
word on a key counts, and the latch is armed since an arm that nothing has undone. So the latch
fires on the first release after an arm, and never more often than it was armed.
-/

namespace Chip8

/-- What a keypad is told. -/
inductive KeypadCall
  | press (key : UInt8)
  | release (key : UInt8)
  | arm
  | disarm
  | update (keys : Vector Bool 16)
  | reset
  deriving DecidableEq

namespace KeypadCall

/-- Whether a key is held, if the call says so. -/
def says? (key : Fin 16) : KeypadCall → Option Bool
  | press pressed => if pressed.toNat = key then some true else none
  | release released => if released.toNat = key then some false else none
  | update keys => some (keys.get key)
  | reset => some false
  | arm | disarm => none

/-- The latest word on a key. Before all calls no key is held. -/
def lastSaid (calls : List KeypadCall) (key : Fin 16) : Bool :=
  (calls.reverse.findSome? (·.says? key)).getD false

/-- The calls that release a key of the pad, and that key; of several held keys it is the lowest. -/
inductive Lifts (held : Fin 16 → Bool) : KeypadCall → UInt8 → Prop
  | release {key : UInt8} (hkey : key < 16) : Lifts held (.release key) key
  | update {keys : Vector Bool 16} {key : Fin 16} (hheld : held key = true)
      (hup : keys.get key = false)
      (hlowest : ∀ lower < key, held lower = true → keys.get lower = true) :
      Lifts held (.update keys) (UInt8.ofNat key)

end KeypadCall

namespace Keypad

/-- The keypad after a call, and the key that fires its latch. -/
def call (keypad : Keypad) : KeypadCall → Keypad × Option UInt8
  | .press key => (keypad.press key, none)
  | .release key => keypad.release key
  | .arm => (keypad.arm, none)
  | .disarm => (keypad.disarm, none)
  | .update keys => keypad.update keys
  | .reset => (.idle, none)

def afterCalls (keypad : Keypad) (calls : List KeypadCall) : Keypad :=
  calls.foldl (fun current call => (current.call call).1) keypad

/-- The keys that fire the latch, call by call. -/
def fired (keypad : Keypad) : List KeypadCall → List (Option UInt8)
  | [] => []
  | call :: rest => (keypad.call call).2 :: (keypad.call call).1.fired rest

/-- None of the calls disarms the latch, resets the keypad or fires the latch. -/
def Undisturbed (keypad : Keypad) : List KeypadCall → Prop
  | [] => True
  | call :: rest =>
    (call ≠ .disarm ∧ call ≠ .reset ∧ (keypad.call call).2 = none) ∧
      (keypad.call call).1.Undisturbed rest

variable {keypad : Keypad} {call : KeypadCall} {key : UInt8}

/-! ### One call -/

theorem get_setIfInBounds (keys : Vector Bool 16) (place : Nat) (held : Bool) (key : Fin 16) :
    (keys.setIfInBounds place held).get key =
      (if place = key then some held else none).getD (keys.get key) := by
  have hset : (keys.setIfInBounds place held).get key =
      if place = key then held else keys.get key := Vector.getElem_setIfInBounds key.isLt
  rw [hset]
  split <;> rfl

theorem pressed_call (keypad : Keypad) (call : KeypadCall) (key : Fin 16) :
    (keypad.call call).1.pressed.get key = (call.says? key).getD (keypad.pressed.get key) := by
  cases call with
  | press pressed => exact get_setIfInBounds keypad.pressed pressed.toNat true key
  | release released =>
    rw [Keypad.call, release, KeypadCall.says?]
    split
    · exact get_setIfInBounds keypad.pressed released.toNat false key
    · rename_i hunknown
      have hbeyond : released.toNat ≠ key := fun hkey =>
        hunknown (UInt8.lt_iff_toNat_lt.mpr (hkey ▸ key.isLt))
      rw [if_neg hbeyond]
      rfl
  | update keys =>
    rw [Keypad.call, pressed_update]
    rfl
  | reset => exact Vector.getElem_replicate key.isLt
  | arm | disarm => rfl

theorem release_snd_eq_some_iff {released : UInt8} :
    (keypad.release released).2 = some key ↔
      keypad.armed = true ∧ released < 16 ∧ released = key := by
  rw [release]
  by_cases hpad : released < 16
  · rw [if_pos hpad]
    cases keypad.armed <;> simp [hpad]
  · rw [if_neg hpad]
    simp [hpad]

theorem update_snd_eq_some_iff {keys : Vector Bool 16} :
    (keypad.update keys).2 = some key ↔
      keypad.armed = true ∧ ∃ lowest, keypad.firstReleased? keys = some lowest ∧
        UInt8.ofNat lowest = key := by
  rw [update]
  cases keypad.firstReleased? keys with
  | none => simp
  | some lowest => cases keypad.armed <;> simp

/-- The latch fires if it is armed and the call releases a key. -/
theorem call_snd_eq_some_iff :
    (keypad.call call).2 = some key ↔
      keypad.armed = true ∧ call.Lifts keypad.pressed.get key := by
  cases call with
  | release released =>
    refine release_snd_eq_some_iff.trans (and_congr_right fun _ => ⟨?_, ?_⟩)
    · rintro ⟨hpad, rfl⟩
      exact .release hpad
    · intro hlifts
      cases hlifts with
      | release hpad => exact ⟨hpad, rfl⟩
  | update keys =>
    refine update_snd_eq_some_iff.trans (and_congr_right fun _ => ⟨?_, ?_⟩)
    · rintro ⟨lowest, hfirst, rfl⟩
      obtain ⟨⟨hheld, hup⟩, hlowest⟩ := lowest_of_firstReleased? hfirst
      refine .update hheld hup fun lower hlower hlow => ?_
      exact eq_true_of_ne_false fun hreleased => hlowest lower hlower ⟨hlow, hreleased⟩
    · intro hlifts
      cases hlifts with
      | @update _ lowest hheld hup hlowest =>
        refine ⟨lowest, firstReleased?_of_lowest ⟨hheld, hup⟩ fun lower hlower hreleases => ?_, rfl⟩
        exact Bool.false_ne_true (hreleases.2.symm.trans (hlowest lower hlower hreleases.1))
  | press | arm | disarm | reset =>
    constructor
    · intro hfired
      contradiction
    · rintro ⟨-, hlifts⟩
      cases hlifts

/-- A latch that has fired is no longer armed. -/
theorem unarmed_of_fired (hfired : (keypad.call call).2 ≠ none) :
    (keypad.call call).1.armed = false := by
  obtain ⟨key, hkey⟩ := Option.ne_none_iff_exists'.mp hfired
  cases call with
  | release released =>
    rw [Keypad.call, release] at hkey ⊢
    split at hkey
    · rename_i hpad
      rw [if_pos hpad]
    · contradiction
  | update keys => exact unarmed_of_update (Prod.ext rfl hkey)
  | press | arm | disarm | reset => contradiction

theorem armed_call_of_none (harm : call ≠ .arm) (hdisarm : call ≠ .disarm) (hreset : call ≠ .reset)
    (hnone : (keypad.call call).2 = none) : (keypad.call call).1.armed = keypad.armed := by
  cases call with
  | press => rfl
  | release => exact armed_release_of_none hnone
  | update => exact armed_update_of_none hnone
  | arm | disarm | reset => contradiction

theorem armed_call_iff :
    (keypad.call call).1.armed = true ↔
      call = .arm ∨
        (call ≠ .disarm ∧ call ≠ .reset ∧ (keypad.call call).2 = none) ∧ keypad.armed = true := by
  by_cases hsets : call = .arm ∨ call = .disarm ∨ call = .reset
  · obtain rfl | rfl | rfl := hsets <;> simp [Keypad.call, arm, disarm, idle]
  · rw [not_or, not_or] at hsets
    obtain ⟨harm, hdisarm, hreset⟩ := hsets
    cases hfired : (keypad.call call).2 with
    | none =>
      rw [armed_call_of_none harm hdisarm hreset hfired]
      simp [harm, hdisarm, hreset]
    | some key =>
      rw [unarmed_of_fired (hfired ▸ Option.some_ne_none key)]
      simp [harm]

/-- A key that fires the latch uses up an arm. -/
theorem fired_add_armed_call_le (keypad : Keypad) (call : KeypadCall) :
    (keypad.call call).2.isSome.toNat + (keypad.call call).1.armed.toNat ≤
      (call == .arm).toNat + keypad.armed.toNat := by
  cases hfired : (keypad.call call).2 with
  | some key =>
    have hnext : (keypad.call call).1.armed = false :=
      unarmed_of_fired (hfired ▸ Option.some_ne_none key)
    have harmed : keypad.armed = true := (call_snd_eq_some_iff.mp hfired).1
    rw [hnext, harmed]
    exact Nat.le_add_left _ _
  | none =>
    cases hnext : (keypad.call call).1.armed with
    | false => exact Nat.zero_le _
    | true =>
      obtain rfl | ⟨-, harmed⟩ := armed_call_iff.mp hnext
      · exact Nat.le_add_right _ _
      · rw [harmed]
        exact Nat.le_add_left _ _

/-! ### Many calls -/

theorem pressed_afterCalls (keypad : Keypad) (calls : List KeypadCall) (key : Fin 16) :
    (keypad.afterCalls calls).pressed.get key =
      (calls.reverse.findSome? (·.says? key)).getD (keypad.pressed.get key) :=
  foldl_eq_latest (fun current : Keypad => current.pressed.get key) (KeypadCall.says? key)
    (fun current call => pressed_call current call key) calls keypad

theorem armed_afterCalls_iff (keypad : Keypad) (calls : List KeypadCall) :
    (keypad.afterCalls calls).armed = true ↔
      (∃ earlier between, calls = earlier ++ .arm :: between ∧
        (keypad.afterCalls (earlier ++ [.arm])).Undisturbed between) ∨
      keypad.Undisturbed calls ∧ keypad.armed = true := by
  induction calls generalizing keypad with
  | nil => simp [afterCalls, Undisturbed]
  | cons call rest ih =>
    have hafter : keypad.afterCalls (call :: rest) = (keypad.call call).1.afterCalls rest := rfl
    rw [hafter, ih, exists_split_cons_iff, Undisturbed, armed_call_iff]
    constructor
    · rintro (hlater | ⟨hrest, rfl | ⟨hcall, harmed⟩⟩)
      · exact .inl (.inr hlater)
      · exact .inl (.inl ⟨rfl, hrest⟩)
      · exact .inr ⟨⟨hcall, hrest⟩, harmed⟩
    · rintro ((⟨rfl, hrest⟩ | hlater) | ⟨⟨hcall, hrest⟩, harmed⟩)
      · exact .inr ⟨hrest, .inl rfl⟩
      · exact .inl hlater
      · exact .inr ⟨hrest, .inr ⟨hcall, harmed⟩⟩

theorem fired_add_armed_le (keypad : Keypad) (calls : List KeypadCall) :
    (keypad.fired calls).countP Option.isSome + (keypad.afterCalls calls).armed.toNat ≤
      calls.count .arm + keypad.armed.toNat := by
  induction calls generalizing keypad with
  | nil => exact Nat.le_refl _
  | cons call rest ih =>
    have hcall := keypad.fired_add_armed_call_le call
    have hrest := ih (keypad.call call).1
    have hafter : keypad.afterCalls (call :: rest) = (keypad.call call).1.afterCalls rest := rfl
    have hone (b : Bool) : (if b = true then 1 else 0) = b.toNat := by cases b <;> rfl
    rw [fired, List.countP_cons, List.count_cons, hafter, hone, hone]
    omega

theorem isPressed_eq (keypad : Keypad) (key : UInt8) :
    keypad.isPressed key =
      if h : key.toNat < 16 then keypad.pressed.get ⟨key.toNat, h⟩ else false := by
  rw [isPressed]
  split
  · rename_i hkey
    rw [Vector.getElem?_eq_getElem hkey]
    rfl
  · rename_i hkey
    rw [Vector.getElem?_eq_none (Nat.not_lt.mp hkey)]
    rfl

/-- **One key for each arm.** Of a new keypad, whatever it has been told, the latch fires exactly on
a release after an arm that has not been undone since, with the key that is released; so it has
fired no more often than it was armed. The keys held are those of which the latest word says so. -/
theorem latch_fires_once_per_arm (calls : List KeypadCall) :
    let keypad := idle.afterCalls calls
    (∀ call key, (keypad.call call).2 = some key ↔
      (∃ earlier between, calls = earlier ++ .arm :: between ∧
        (idle.afterCalls (earlier ++ [.arm])).Undisturbed between) ∧
      call.Lifts (KeypadCall.lastSaid calls) key) ∧
      (idle.fired calls).countP Option.isSome ≤ calls.count .arm ∧
      ∀ key : UInt8, keypad.isPressed key =
        if h : key.toNat < 16 then KeypadCall.lastSaid calls ⟨key.toNat, h⟩ else false := by
  intro keypad
  have hheld : keypad.pressed.get = KeypadCall.lastSaid calls := funext fun key =>
    calc keypad.pressed.get key
        = (calls.reverse.findSome? (·.says? key)).getD (idle.pressed.get key) :=
          pressed_afterCalls idle calls key
      _ = KeypadCall.lastSaid calls key := by
          rw [KeypadCall.lastSaid, show idle.pressed.get key = false from
            Vector.getElem_replicate key.isLt]
  refine ⟨fun call key => ?_, ?_, fun key => ?_⟩
  · have harmed : keypad.armed = true ↔ ∃ earlier between, calls = earlier ++ .arm :: between ∧
        (idle.afterCalls (earlier ++ [.arm])).Undisturbed between := by
      refine (armed_afterCalls_iff idle calls).trans (or_iff_left ?_)
      rintro ⟨-, harmed⟩
      contradiction
    rw [call_snd_eq_some_iff, harmed, hheld]
  · have hcount := fired_add_armed_le idle calls
    have hidle : idle.armed.toNat = 0 := rfl
    omega
  · rw [isPressed_eq, hheld]

end Keypad

end Chip8
