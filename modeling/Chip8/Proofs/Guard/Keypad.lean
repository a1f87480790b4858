import Chip8.Proofs.Guard.Access
import Chip8.Proofs.KeyWait

/-!
# The guarded keypad

Taking over the state of all keys goes through them one by one, and releases a key as soon as it
meets one that is held and should not be. This agrees with the update, which looks for the lowest
such key first.
-/

namespace Chip8

namespace Keypad

/-- Takes over the keys from a number on; the first release so far has fired the given key. -/
def guardedUpdateFrom (keypad : Keypad) (fired : Option UInt8) (k : Nat) :
    List Bool → Option (Keypad × Option UInt8)
  | [] => return (keypad, fired)
  | now :: rest => do
    if (← Guard.read keypad.pressed k) && !now then
      let (released, key) := keypad.release (UInt8.ofNat k)
      released.guardedUpdateFrom (fired <|> key) (k + 1) rest
    else
      let pressed ← Guard.assign keypad.pressed k now
      { keypad with pressed }.guardedUpdateFrom fired (k + 1) rest

def guardedUpdate (keypad : Keypad) (keys : Vector Bool 16) : Option (Keypad × Option UInt8) :=
  keypad.guardedUpdateFrom none 0 keys.toList

/-- The state of which the first `n` keys are new. -/
def upTo (keypad : Keypad) (keys : Vector Bool 16) (n : Nat) : Vector Bool 16 :=
  Vector.ofFn fun k => if k < n then keys.get k else keypad.pressed.get k

variable {keypad : Keypad} {keys : Vector Bool 16}

theorem getElem_upTo {n k : Nat} (hk : k < 16) :
    (keypad.upTo keys n)[k] = if k < n then keys[k] else keypad.pressed[k] := by
  rw [upTo, Vector.getElem_ofFn]
  rfl

theorem get_upTo {n : Nat} (key : Fin 16) :
    (keypad.upTo keys n).get key = if key < n then keys.get key else keypad.pressed.get key :=
  getElem_upTo key.isLt

theorem releases_upTo_iff {n : Nat} {key : Fin 16} :
    keypad.Releases (keypad.upTo keys n) key ↔ key < n ∧ keypad.Releases keys key := by
  by_cases hkey : key < n <;> simp [Releases, get_upTo, hkey]

/-- One more key is the first released one if none before it is. -/
theorem firstReleased?_upTo_succ (keypad : Keypad) (keys : Vector Bool 16) (key : Fin 16) :
    keypad.firstReleased? (keypad.upTo keys (key + 1)) =
      (keypad.firstReleased? (keypad.upTo keys key)).or
        (if keypad.pressed.get key && !keys.get key then some key else none) := by
  cases hfirst : keypad.firstReleased? (keypad.upTo keys key) with
  | none =>
    have hbefore : ∀ lower < key, ¬keypad.Releases keys lower := fun lower hlower hreleases =>
      firstReleased?_eq_none_iff.mp hfirst lower (releases_upTo_iff.mpr ⟨hlower, hreleases⟩)
    rw [Option.none_or]
    by_cases hreleases : keypad.Releases keys key
    · rw [if_pos (releases_iff.mp hreleases)]
      refine firstReleased?_of_lowest (releases_upTo_iff.mpr ⟨by omega, hreleases⟩) ?_
      exact fun lower hlower hreleased => hbefore lower hlower (releases_upTo_iff.mp hreleased).2
    · rw [if_neg (mt releases_iff.mpr hreleases), firstReleased?_eq_none_iff]
      intro lower hreleased
      obtain ⟨hle, hreleased⟩ := releases_upTo_iff.mp hreleased
      by_cases heq : lower = key
      · exact hreleases (heq ▸ hreleased)
      · exact hbefore lower (by omega) hreleased
  | some lowest =>
    obtain ⟨hreleases, hbefore⟩ := lowest_of_firstReleased? hfirst
    obtain ⟨hbelow, hreleases⟩ := releases_upTo_iff.mp hreleases
    refine firstReleased?_of_lowest (releases_upTo_iff.mpr ⟨by omega, hreleases⟩) ?_
    intro lower hlower hreleased
    have hplace : lower.val < key := Nat.lt_trans hlower hbelow
    exact hbefore lower hlower
      (releases_upTo_iff.mpr ⟨hplace, (releases_upTo_iff.mp hreleased).2⟩)

theorem upTo_all : keypad.upTo keys 16 = keys :=
  Vector.ext fun k hk => by rw [getElem_upTo hk, if_pos hk]

theorem upTo_succ (key : Fin 16) :
    keypad.upTo keys (key + 1) = (keypad.upTo keys key).setIfInBounds key (keys.get key) := by
  refine Vector.ext fun j hj => ?_
  rw [Vector.getElem_setIfInBounds hj, getElem_upTo hj, getElem_upTo hj]
  by_cases heq : key.val = j
  · subst heq
    rw [if_pos rfl, if_pos (Nat.lt_succ_self _)]
    rfl
  · have hiff : j < key.val + 1 ↔ j < key.val := by omega
    simp only [if_neg heq, hiff]

theorem update_upTo_zero : keypad.update (keypad.upTo keys 0) = (keypad, none) := by
  have hstate : keypad.upTo keys 0 = keypad.pressed :=
    Vector.ext fun k hk => by rw [getElem_upTo hk, if_neg (Nat.not_lt_zero _)]
  have hfirst : keypad.firstReleased? (keypad.upTo keys 0) = none :=
    firstReleased?_eq_none_iff.mpr fun key hreleases =>
      Nat.not_lt_zero _ (releases_upTo_iff.mp hreleases).1
  rw [update, hfirst, hstate]

theorem pressed_update (keypad : Keypad) (keys : Vector Bool 16) :
    (keypad.update keys).1.pressed = keys := by
  rw [update]
  cases keypad.firstReleased? keys <;> rfl

theorem release_key (keypad : Keypad) (key : Fin 16) :
    keypad.release (UInt8.ofNat key) =
      (⟨keypad.pressed.setIfInBounds key false, false⟩,
        if keypad.armed then some (UInt8.ofNat key) else none) := by
  have hkey : (UInt8.ofNat key).toNat = key := UInt8.toNat_ofNat_of_lt' (by rw [UInt8.size]; omega)
  have hpad : UInt8.ofNat key < 16 := UInt8.lt_iff_toNat_lt.mpr (by rw [hkey]; exact key.isLt)
  rw [release, if_pos hpad, hkey]

/-- One round of the loop, from the state that an update with the keys so far leads to. -/
theorem update_upTo_succ_of_released (key : Fin 16) {before : Keypad} {fired : Option UInt8}
    (hbefore : keypad.update (keypad.upTo keys key) = (before, fired))
    (hreleased : (keypad.pressed.get key && !keys.get key) = true) :
    keypad.update (keypad.upTo keys (key + 1)) =
      ((before.release (UInt8.ofNat key)).1,
        fired <|> (before.release (UInt8.ofNat key)).2) := by
  have hfirst := firstReleased?_upTo_succ keypad keys key
  obtain ⟨-, hup⟩ := Bool.and_eq_true_iff.mp hreleased
  rw [hreleased, if_pos rfl] at hfirst
  rw [update] at hbefore ⊢
  rw [Bool.not_eq_true'] at hup
  rw [hfirst, upTo_succ, release_key, hup]
  cases hlowest : keypad.firstReleased? (keypad.upTo keys key) with
  | none =>
    rw [hlowest, Prod.mk.injEq] at hbefore
    obtain ⟨rfl, rfl⟩ := hbefore
    rfl
  | some lowest =>
    rw [hlowest, Prod.mk.injEq] at hbefore
    obtain ⟨rfl, rfl⟩ := hbefore
    cases keypad.armed <;> rfl

theorem update_upTo_succ_of_kept (key : Fin 16) {before : Keypad} {fired : Option UInt8}
    (hbefore : keypad.update (keypad.upTo keys key) = (before, fired))
    (hkept : (keypad.pressed.get key && !keys.get key) = false) :
    keypad.update (keypad.upTo keys (key + 1)) =
      ({ before with pressed := before.pressed.setIfInBounds key (keys.get key) }, fired) := by
  have hfirst := firstReleased?_upTo_succ keypad keys key
  rw [hkept, if_neg Bool.false_ne_true, Option.or_none] at hfirst
  rw [update] at hbefore ⊢
  rw [hfirst, upTo_succ]
  cases hlowest : keypad.firstReleased? (keypad.upTo keys key) with
  | none =>
    rw [hlowest, Prod.mk.injEq] at hbefore
    obtain ⟨rfl, rfl⟩ := hbefore
    rfl
  | some lowest =>
    rw [hlowest, Prod.mk.injEq] at hbefore
    obtain ⟨rfl, rfl⟩ := hbefore
    rfl

theorem guardedUpdateFrom_eq {k : Nat} {before : Keypad} {fired : Option UInt8}
    {rest : List Bool} (hrest : keys.toList.drop k = rest) (hk : k ≤ 16)
    (hbefore : keypad.update (keypad.upTo keys k) = (before, fired)) :
    before.guardedUpdateFrom fired k rest = some (keypad.update keys) := by
  induction rest generalizing k before fired with
  | nil =>
    have hall : k = 16 := by simpa [Nat.le_antisymm_iff, hk] using hrest
    rw [hall, upTo_all] at hbefore
    rw [hbefore]
    rfl
  | cons now rest ih =>
    have hlt : k < 16 := by
      refine Nat.lt_of_not_le fun hall => ?_
      rw [List.drop_of_length_le (by rwa [Vector.length_toList])] at hrest
      contradiction
    rw [List.drop_eq_getElem_cons (by rwa [Vector.length_toList]), List.cons.injEq,
      Vector.getElem_toList] at hrest
    obtain ⟨rfl, hrest⟩ := hrest
    have hpressed : before.pressed = keypad.upTo keys k := by
      rw [← pressed_update keypad (keypad.upTo keys k), hbefore]
    have hold : before.pressed[k] = keypad.pressed[k] := by
      simp only [hpressed, getElem_upTo hlt, Nat.lt_irrefl, ↓reduceIte]
    rw [guardedUpdateFrom, Guard.read_of_lt hlt, hold, Guard.assign_of_lt hlt]
    simp only [Option.bind_eq_bind, Option.bind_some]
    let key : Fin 16 := ⟨k, hlt⟩
    by_cases hreleased : (keypad.pressed[k] && !keys[k]) = true
    · have hround := update_upTo_succ_of_released key hbefore hreleased
      rw [if_pos hreleased]
      exact ih hrest hlt hround
    · have hkept := Bool.eq_false_iff.mpr hreleased
      have hround := update_upTo_succ_of_kept key hbefore hkept
      have hcells : before.pressed.setIfInBounds k keys[k] = before.pressed.set k keys[k] :=
        Vector.ext fun j hj => by rw [Vector.getElem_setIfInBounds hj, Vector.getElem_set]
      rw [if_neg hreleased, ← hcells]
      exact ih hrest hlt hround

theorem guardedUpdate_eq (keypad : Keypad) (keys : Vector Bool 16) :
    keypad.guardedUpdate keys = some (keypad.update keys) :=
  guardedUpdateFrom_eq rfl (Nat.zero_le _) update_upTo_zero

end Keypad

end Chip8
