import SelfPlugins.Library.Runs

/-!
# The extra movement of the NAO

A gesture that moves the robot has the extra movement disabled, the breathing
and the awareness.  `NaoPlatform` enables it again when a timer expires.  Any
call of the robot's services can throw, and the exceptions are caught by the
callers of the functions of this module: a call that throws ends the function,
with the members as they are by then.

`DisableExtraMovement` sets its flag before these calls and starts the timer
after them, and the expiry of the timer clears the flag after them.
`comes_back_iff` says in which runs the flag is never set without the timer.
-/

namespace SelfPlugins.Nao

open Runs

/-- A call of the session or of one of the services. -/
inductive RemoteCall where
  | service (name : String)
  | setBreathEnabled (chain : String) (enabled : Bool)
  | call (name method : String)
  | connect (signal : String)
deriving DecidableEq

/-- How the robot answers while a function runs. -/
structure Robot where
  hasService : String → Bool
  throws : RemoteCall → Bool

/-- The calls, made one after the other, all return. -/
def Robot.returns (r : Robot) (calls : List RemoteCall) : Bool :=
  calls.all fun c => !r.throws c

/-- The calls that switch the extra movement. -/
def extraMovementCalls (enabled : Bool) : List RemoteCall :=
  [.service "ALMotion", .setBreathEnabled "Body" enabled,
    .setBreathEnabled "Arms" enabled, .service "ALBasicAwareness",
    .call "ALBasicAwareness"
      (if enabled then "startAwareness" else "stopAwareness")]

/-- The extra movement can be switched: there is no `ALMotion`, or all calls
return. -/
def Robot.switches (r : Robot) (enabled : Bool) : Bool :=
  !r.hasService "ALMotion" || r.returns (extraMovementCalls enabled)

/-- The members of the platform that these functions use.  A timer handle is
`true` while its timer is yet to expire. -/
structure NaoPlatform where
  m_spDisableTimer : Bool := false
  m_spWaitTimer : Bool := false
  m_bExtraMovementDisabled : Bool := false
  m_bAutonomousLifeStarted : Bool := false
deriving DecidableEq

namespace NaoPlatform

/-! ## Translated functions

Each function returns whether it has returned normally, and the members. -/

def enableExtraMovement (r : Robot) (s : NaoPlatform) : Bool × NaoPlatform :=
  if r.hasService "ALMotion" then
    if r.returns (extraMovementCalls true) then
      (true, { s with m_bExtraMovementDisabled := false })
    else (false, s)
  else (true, { s with m_bExtraMovementDisabled := false })

def disableExtraMovement (r : Robot) (s : NaoPlatform) : Bool × NaoPlatform :=
  let s := { s with m_bExtraMovementDisabled := true }
  if r.hasService "ALMotion" then
    if r.returns (extraMovementCalls false) then
      (true, { s with m_spDisableTimer := true })
    else (false, s)
  else (true, { s with m_spDisableTimer := true })

/-- The calls of the `try` block of `StartServices` before it enables the extra
movement. -/
def startCalls (r : Robot) : List RemoteCall :=
  [.call "ALAutonomousLife" "setState"] ++
    (if r.hasService "ALMotion" then
      [.service "ALMotion", .call "ALMotion" "wakeUp"] else []) ++
    (if r.hasService "ALBasicAwareness" then
      [.service "ALBasicAwareness", .call "ALBasicAwareness" "startAwareness"]
      else []) ++
    (if r.hasService "ALMemory" then
      [.service "ALMemory", .call "ALMemory" "subscriber", .connect "signal"]
      else [])

/-- The `try` block of `StartServices`.  `inner` is how the robot answers while
`EnableExtraMovement` runs. -/
def tryStart (r inner : Robot) (s : NaoPlatform) : Bool × NaoPlatform :=
  if r.returns (startCalls r) then
    if s.m_bExtraMovementDisabled then
      (true, { s with m_bAutonomousLifeStarted := true })
    else
      let p := s.enableExtraMovement inner
      if p.1 then (true, { p.2 with m_bAutonomousLifeStarted := true }) else p
  else (false, s)

/-- The `catch` block asks for the state of the autonomous life before it
starts the timer. -/
def startServices (r inner : Robot) (s : NaoPlatform) : Bool × NaoPlatform :=
  if r.hasService "ALAutonomousLife" then
    if r.throws (.service "ALAutonomousLife") then (false, s)
    else
      let p := s.tryStart r inner
      if p.1 then p
      else if r.throws (.call "ALAutonomousLife" "getState") then p
      else (true, { p.2 with m_spWaitTimer := true })
  else (true, s)

/-- One of the functions is called, or one of the timers expires. -/
inductive Event where
  | enableExtraMovement (r : Robot)
  | disableExtraMovement (r : Robot)
  | startServices (r inner : Robot)
  | disableTimer (r : Robot)
  | waitTimer (r inner : Robot)

def step (s : NaoPlatform) : Event → Option NaoPlatform
  | .enableExtraMovement r => some (s.enableExtraMovement r).2
  | .disableExtraMovement r => some (s.disableExtraMovement r).2
  | .startServices r inner => some (s.startServices r inner).2
  | .disableTimer r =>
      if s.m_spDisableTimer then
        some ({ s with m_spDisableTimer := false }.enableExtraMovement r).2
      else none
  | .waitTimer r inner =>
      if s.m_spWaitTimer then
        some ({ s with m_spWaitTimer := false }.startServices r inner).2
      else none

/-- While the extra movement is disabled, a timer is to enable it. -/
def ComesBack (s : NaoPlatform) : Prop :=
  s.m_bExtraMovementDisabled = true → s.m_spDisableTimer = true

/-- The extra movement can be disabled unless the timer is running already, and
it can be enabled when the timer expires. -/
def Switched (s : NaoPlatform) : Event → Prop
  | .disableExtraMovement r =>
      s.m_spDisableTimer = true ∨ r.switches false = true
  | .disableTimer r =>
      s.m_bExtraMovementDisabled = true → r.switches true = true
  | _ => True

variable {s t : NaoPlatform} {r inner : Robot}

/-! ## What the functions do -/

/-- The flag is cleared iff the calls return, and nothing else happens. -/
theorem enableExtraMovement_snd (r : Robot) (s : NaoPlatform) :
    (s.enableExtraMovement r).2 =
      if r.switches true then { s with m_bExtraMovementDisabled := false }
      else s := by
  unfold enableExtraMovement Robot.switches
  cases r.hasService "ALMotion" with
  | false => rfl
  | true => cases r.returns (extraMovementCalls true) <;> rfl

/-- The flag is set, and the timer is started iff the calls return. -/
theorem disableExtraMovement_snd (r : Robot) (s : NaoPlatform) :
    (s.disableExtraMovement r).2 =
      { s with
        m_bExtraMovementDisabled := true
        m_spDisableTimer := s.m_spDisableTimer || r.switches false } := by
  unfold disableExtraMovement Robot.switches
  cases r.hasService "ALMotion" with
  | false => simp
  | true => cases r.returns (extraMovementCalls false) <;> simp

/-- What enabling does to the property: the timer stays as it is, and the flag
is not set. -/
theorem ComesBack.enableExtraMovement (h : ComesBack s) :
    ComesBack (s.enableExtraMovement r).2 := by
  rw [enableExtraMovement_snd]
  split
  · exact fun hflag => absurd hflag Bool.false_ne_true
  · exact h

/-- `StartServices` uses neither the flag nor the timer, apart from enabling
the extra movement. -/
theorem ComesBack.startServices (h : ComesBack s) :
    ComesBack (s.startServices r inner).2 := by
  have htry : ComesBack (s.tryStart r inner).2 := by
    unfold tryStart
    dsimp only
    split
    · split
      · exact h
      · split
        · exact h.enableExtraMovement
        · exact h.enableExtraMovement
    · exact h
  unfold NaoPlatform.startServices
  dsimp only
  split
  · split
    · exact h
    · split
      · exact htry
      · split
        · exact htry
        · exact htry
  · exact h

/-! ## Steps -/

theorem ComesBack.step {e : Event} (h : ComesBack s) (hC : Switched s e)
    (ht : s.step e = some t) : ComesBack t := by
  cases e with
  | enableExtraMovement r =>
      obtain rfl := Option.some.inj ht
      exact h.enableExtraMovement
  | disableExtraMovement r =>
      obtain rfl := Option.some.inj ht
      rw [disableExtraMovement_snd]
      exact fun _ => Bool.or_eq_true_iff.mpr hC
  | startServices r inner =>
      obtain rfl := Option.some.inj ht
      exact h.startServices
  | disableTimer r =>
      simp only [NaoPlatform.step, Option.ite_none_right_eq_some,
        Option.some.injEq] at ht
      obtain ⟨-, rfl⟩ := ht
      rw [enableExtraMovement_snd]
      split
      · exact fun hflag => absurd hflag Bool.false_ne_true
      · rename_i hswitch
        exact fun hflag => absurd (hC hflag) hswitch
  | waitTimer r inner =>
      simp only [NaoPlatform.step, Option.ite_none_right_eq_some,
        Option.some.injEq] at ht
      obtain ⟨-, rfl⟩ := ht
      exact startServices (s := { s with m_spWaitTimer := false }) h

/-- A call that throws at the wrong moment leaves the flag without a timer. -/
theorem not_comesBack {e : Event} (hC : ¬Switched s e)
    (ht : s.step e = some t) : ¬ComesBack t := by
  cases e with
  | enableExtraMovement r => exact absurd trivial hC
  | disableExtraMovement r =>
      obtain rfl := Option.some.inj ht
      rw [disableExtraMovement_snd]
      intro h
      exact hC (Bool.or_eq_true_iff.mp (h rfl))
  | startServices r inner => exact absurd trivial hC
  | disableTimer r =>
      obtain ⟨hflag, hswitch⟩ := Classical.not_imp.mp hC
      simp only [NaoPlatform.step, Option.ite_none_right_eq_some,
        Option.some.injEq] at ht
      obtain ⟨-, rfl⟩ := ht
      rw [enableExtraMovement_snd, if_neg hswitch]
      intro h
      exact absurd (h hflag) Bool.false_ne_true
  | waitTimer r inner => exact absurd trivial hC

/-! ## Runs -/

/-- Throughout a run a timer is to enable the extra movement that is disabled,
iff the calls return whenever the extra movement is disabled without a running
timer, and whenever the timer is to enable it. -/
theorem comes_back_iff (es : List Event) :
    Throughout step ComesBack {} es ↔ EachStep step Switched {} es :=
  throughout_iff_eachStep (I := ComesBack) (L := fun _ _ => True)
    (fun _ h => h) (fun _ _ _ h _ hC ht => h.step hC ht)
    (fun _ _ _ _ _ hC ht => not_comesBack hC ht)
    (fun h => absurd h Bool.false_ne_true) (eachStep_true _ es)

/-- The connection is lost while the breathing is being switched off. -/
theorem not_always_comes_back :
    ¬∀ es : List Event, Throughout step ComesBack {} es := by
  intro h
  have hrun : (run step {}
      [.disableExtraMovement ⟨fun _ => true,
        fun c => c = .setBreathEnabled "Arms" false⟩]).map
      (fun s => (s.m_bExtraMovementDisabled, s.m_spDisableTimer)) =
        some (true, false) := by decide
  obtain ⟨t, ht, hobs⟩ := (h _).last hrun
  obtain ⟨hflag, htimer⟩ := Prod.mk.inj hobs
  rw [ht hflag] at htimer
  cases htimer

end NaoPlatform

end SelfPlugins.Nao
