import Mathlib.Data.Int.Notation
import Mathlib.Data.Nat.Notation

/-!
# The calls a camera receives

The sensor manager starts and stops a camera, and its consumers pause and
resume it.  Starts and stops alternate, and nothing is resumed that has not
been paused; `Duty.permits` is that law.  The cameras count the pauses in
`m_Paused`; that they are started is not recorded anywhere in their code, so
`started` is an auxiliary variable.

All camera classes build their four functions in the same way from opening
the device and closing it, which is what a `Device` provides.
-/

namespace SelfPlugins.Camera

/-- A call, with what the hardware will answer where a device is opened. -/
inductive Call (H : Type)
  | onStart (hw : H)
  | onStop
  | onPause
  | onResume (hw : H)
deriving DecidableEq

/-- What a camera has been asked for: whether the last of `OnStart` and
`OnStop` was `OnStart`, and the number of pauses. -/
structure Duty where
  started : Bool := false
  m_Paused : ℤ := 0
deriving DecidableEq

variable {S H : Type}

namespace Duty

/-- Starts and stops alternate, pauses and resumes are balanced. -/
def permits (d : Duty) : Call H → Bool
  | .onStart _ => !d.started
  | .onStop => d.started
  | .onPause => true
  | .onResume _ => decide (0 < d.m_Paused)

/-- The camera is to capture. -/
def active (d : Duty) : Bool := d.started && decide (d.m_Paused = 0)

/-- The duty after a call. -/
def next (d : Duty) : Call H → Duty
  | .onStart _ => { d with started := true }
  | .onStop => { d with started := false }
  | .onPause => { d with m_Paused := d.m_Paused + 1 }
  | .onResume _ => { d with m_Paused := d.m_Paused - 1 }

/-- The call opens the device: `OnStart` while not paused, or the `OnResume`
that ends the last pause. -/
def opens (d : Duty) : Call H → Option H
  | .onStart hw => if d.m_Paused = 0 then some hw else none
  | .onResume hw => if d.m_Paused - 1 = 0 then some hw else none
  | _ => none

/-- The call closes the device: `OnStop`, or the first `OnPause`. -/
def closes (d : Duty) : Call H → Bool
  | .onStop => true
  | .onPause => decide (d.m_Paused = 0)
  | _ => false

variable {d : Duty} {e : Call H}

theorem active_iff : d.active = true ↔ d.started = true ∧ d.m_Paused = 0 := by
  rw [active, Bool.and_eq_true, decide_eq_true_iff]

theorem active_of_stopped (h : d.started = false) : d.active = false := by
  rw [active, h, Bool.false_and]

theorem active_of_paused (h : d.m_Paused ≠ 0) : d.active = false := by
  rw [active, decide_eq_false h, Bool.and_false]

theorem next_nonneg (hd : 0 ≤ d.m_Paused) (hp : d.permits e = true) :
    0 ≤ (d.next e).m_Paused := by
  cases e with
  | onStart hw => exact hd
  | onStop => exact hd
  | onPause => exact Int.le_add_one hd
  | onResume hw => exact Int.sub_nonneg_of_le (of_decide_eq_true hp)

/-- An opening comes while the camera is not to capture: it starts the camera,
or it is the resumption that ends the last pause. -/
theorem opens_cases {hw : H} (hp : d.permits e = true)
    (ho : d.opens e = some hw) :
    d.active = false ∧ (d.next e).m_Paused = 0 ∧
      ((d.next e).started = true ∨
        e = .onResume hw ∧ d.m_Paused = 1 ∧
          (d.next e).started = d.started) := by
  cases e with
  | onStart hw' =>
      obtain ⟨hzero, -⟩ := Option.ite_none_right_eq_some.mp ho
      have hstopped : d.started = false := by simpa [permits] using hp
      exact ⟨active_of_stopped hstopped, hzero, Or.inl rfl⟩
  | onStop => cases ho
  | onPause => cases ho
  | onResume hw' =>
      obtain ⟨hzero, hhw⟩ := Option.ite_none_right_eq_some.mp ho
      obtain rfl := Option.some.inj hhw
      exact ⟨active_of_paused (by omega), hzero,
        Or.inr ⟨rfl, by omega, rfl⟩⟩

/-- A closing ends the capture. -/
theorem active_of_closes (hd : 0 ≤ d.m_Paused) (hc : d.closes e = true) :
    (d.next e).active = false := by
  cases e with
  | onStart hw => cases hc
  | onStop => exact active_of_stopped rfl
  | onPause => exact active_of_paused (by simp only [next]; omega)
  | onResume hw => cases hc

/-- Any other call comes while the camera is paused, and leaves it so. -/
theorem active_of_other (hd : 0 ≤ d.m_Paused) (hp : d.permits e = true)
    (ho : d.opens e = none) (hc : d.closes e = false) :
    d.active = false ∧ (d.next e).active = false := by
  cases e with
  | onStart hw =>
      have hne : d.m_Paused ≠ 0 := by simpa [opens] using ho
      exact ⟨active_of_paused hne, active_of_paused hne⟩
  | onStop => cases hc
  | onPause =>
      have hne : d.m_Paused ≠ 0 := of_decide_eq_false hc
      exact ⟨active_of_paused hne,
        active_of_paused (by simp only [next]; omega)⟩
  | onResume hw =>
      have hpos : 0 < d.m_Paused := of_decide_eq_true hp
      have hne : d.m_Paused - 1 ≠ 0 := by simpa [opens] using ho
      exact ⟨active_of_paused (by omega), active_of_paused hne⟩

end Duty

/-- A camera class: what its `OnStart` does when the camera is not paused, and
its `OnStop`, which has nothing to do with the duty. -/
structure Device (S H : Type) where
  duty : S → Duty
  setDuty : Duty → S → S
  start : H → S → S
  stop : S → S
  duty_setDuty : ∀ d s, duty (setDuty d s) = d
  setDuty_duty : ∀ s, setDuty (duty s) s = s
  stop_setDuty : ∀ d s, stop (setDuty d s) = setDuty d (stop s)

namespace Device

variable (D : Device S H)

/-- `OnStart` -/
def onStart (hw : H) (s : S) : S :=
  if (D.duty s).m_Paused = 0 then D.start hw s else s

/-- `OnStop` -/
def onStop (s : S) : S := D.stop s

/-- `OnPause` -/
def onPause (s : S) : S :=
  let s := if (D.duty s).m_Paused = 0 then D.onStop s else s
  D.setDuty { D.duty s with m_Paused := (D.duty s).m_Paused + 1 } s

/-- `OnResume` -/
def onResume (hw : H) (s : S) : S :=
  let s := D.setDuty { D.duty s with m_Paused := (D.duty s).m_Paused - 1 } s
  if (D.duty s).m_Paused = 0 then D.onStart hw s else s

/-- One call; `started` is set here. -/
def call (s : S) : Call H → S
  | .onStart hw => D.onStart hw (D.setDuty { D.duty s with started := true } s)
  | .onStop => D.onStop (D.setDuty { D.duty s with started := false } s)
  | .onPause => D.onPause s
  | .onResume hw => D.onResume hw s

theorem duty_stop (s : S) : D.duty (D.stop s) = D.duty s := by
  have h := D.stop_setDuty (D.duty s) s
  rw [D.setDuty_duty] at h
  rw [h, D.duty_setDuty]

/-- A call changes the duty, and opens the device, closes it or does nothing
more. -/
theorem call_eq (s : S) (e : Call H) :
    D.call s e =
      match (D.duty s).opens e with
      | some hw => D.start hw (D.setDuty ((D.duty s).next e) s)
      | none =>
          if (D.duty s).closes e then
            D.stop (D.setDuty ((D.duty s).next e) s)
          else D.setDuty ((D.duty s).next e) s := by
  cases e with
  | onStart hw =>
      by_cases hp : (D.duty s).m_Paused = 0
      · simp only [call, onStart, D.duty_setDuty, Duty.opens, if_pos hp,
          Duty.next]
      · simp only [call, onStart, D.duty_setDuty, Duty.opens, if_neg hp,
          Duty.closes, Bool.false_eq_true, if_false, Duty.next]
  | onStop => rfl
  | onPause =>
      by_cases hp : (D.duty s).m_Paused = 0
      · simp only [call, onPause, onStop, if_pos hp, D.duty_stop, Duty.opens,
          Duty.closes, decide_eq_true hp, if_true, Duty.next, D.stop_setDuty]
      · simp only [call, onPause, if_neg hp, Duty.opens, Duty.closes,
          decide_eq_false hp, Bool.false_eq_true, if_false, Duty.next]
  | onResume hw =>
      by_cases hp : (D.duty s).m_Paused - 1 = 0
      · simp only [call, onResume, onStart, D.duty_setDuty, Duty.opens,
          if_pos hp, Duty.next]
      · simp only [call, onResume, D.duty_setDuty, Duty.opens, if_neg hp,
          Duty.closes, Bool.false_eq_true, if_false, Duty.next]

/-- `call_eq`, case by case. -/
theorem call_cases (s : S) (e : Call H) :
    (∃ hw, (D.duty s).opens e = some hw ∧
        D.call s e = D.start hw (D.setDuty ((D.duty s).next e) s)) ∨
      ((D.duty s).opens e = none ∧ (D.duty s).closes e = true ∧
        D.call s e = D.stop (D.setDuty ((D.duty s).next e) s)) ∨
      ((D.duty s).opens e = none ∧ (D.duty s).closes e = false ∧
        D.call s e = D.setDuty ((D.duty s).next e) s) := by
  rw [D.call_eq]
  cases hopens : (D.duty s).opens e with
  | some hw => exact Or.inl ⟨hw, rfl, rfl⟩
  | none =>
      cases hcloses : (D.duty s).closes e with
      | true => exact Or.inr (Or.inl ⟨rfl, rfl, rfl⟩)
      | false => exact Or.inr (Or.inr ⟨rfl, rfl, rfl⟩)

end Device

end SelfPlugins.Camera
