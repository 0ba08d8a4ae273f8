import SelfPlugins.Gestures.Scripts

/-!
# What the gestures do to their robots

The calls of the gestures that work through their requests are those of a
sequential program (`gestures_sequential`).  So what a request does can be
followed through its list of calls: unless a call fails, the joints that
`NaoMoveJointGesture` moves keep their stiffness until they have been waited for
and have none between the requests (`joints_supported`), and
`RaspiAnimateGesture` sets up the pins once and leaves its pin low
(`animation_calls`).
-/

namespace SelfPlugins.Gestures

open Runs Serial

/-! ## One request after the other -/

section

variable {ρ μ γ : Type} {S : Script ρ μ γ} {m : μ}

/-- What is known of the calls of a gesture: they are the first calls of a
sequential program that serves all requests it has been given, and those of one
that has served them once there is nothing left to do. -/
structure Sequential (S : Script ρ μ γ) (m : μ)
    (s : Server ρ (List γ) (Logged μ γ)) : Prop where
  rest : s.requests = [] →
    Served S m s.executed s.world.members s.world.calls
  sofar : ∃ m' calls, Served S m s.executed m' calls ∧ s.world.calls <+: calls

theorem sequential_throughout (S : Script ρ μ γ) (m : μ)
    (evs : List (Event ρ Bool Empty)) :
    Throughout (Server.step S.work) (Sequential S m) (new m) evs :=
  (S.throughout m evs).mono fun _ hs =>
    ⟨hs.1.served hs.2, hs.1.sequential hs.2⟩

end

/-- Whatever comes in while a thread is at work, the gestures make the calls of
a program that serves one request after the other. -/
theorem gestures_sequential (cfg : NaoPostureGesture.Config)
    (m_SystemId : String) (m_PinNumber : ℤ) (wired : Bool) :
    (∀ evs, Throughout (Server.step NaoMoveJointGesture.script.work)
      (Sequential NaoMoveJointGesture.script ()) (new ()) evs) ∧
    (∀ evs, Throughout (Server.step (NaoPostureGesture.script cfg).work)
      (Sequential (NaoPostureGesture.script cfg) ()) (new ()) evs) ∧
    (∀ evs, Throughout (Server.step ABBMoveJointGesture.script.work)
      (Sequential ABBMoveJointGesture.script ()) (new ()) evs) ∧
    (∀ evs, Throughout (Server.step (NaoSystemGesture.script m_SystemId).work)
      (Sequential (NaoSystemGesture.script m_SystemId) ()) (new ()) evs) ∧
    (∀ evs, Throughout
      (Server.step (RaspiAnimateGesture.script m_PinNumber).work)
      (Sequential (RaspiAnimateGesture.script m_PinNumber) wired) (new wired)
      evs) :=
  ⟨sequential_throughout _ (), sequential_throughout _ (),
    sequential_throughout _ (), sequential_throughout _ (),
    sequential_throughout _ wired⟩

/-! ## The joints of the NAO -/

/-- What the calls have done to the joints: the stiffness last set, and the
motions that have not been waited for. -/
structure Robot where
  stiffness : String → Option ℚ := fun _ => none
  moving : String → ℕ := fun _ => 0

/-- A call that fails does nothing. -/
def Robot.apply (r : Robot) : NaoCall × Bool → Robot
  | (_, true) => r
  | (.setStiffnesses j x, false) =>
      { r with stiffness := fun i => if i = j then some x else r.stiffness i }
  | (.angleInterpolation j _ _ _, false) =>
      { r with moving := fun i => if i = j then r.moving i + 1 else r.moving i }
  | (.wait j, false) =>
      { r with moving := fun i => if i = j then r.moving i - 1 else r.moving i }
  | (_, false) => r

def robot (calls : List (NaoCall × Bool)) : Robot :=
  calls.foldl Robot.apply {}

/-- The robot after calls none of which has failed. -/
def Robot.after (r : Robot) (cs : List NaoCall) : Robot :=
  (cs.map fun c => (c, false)).foldl Robot.apply r

@[simp] theorem Robot.after_nil (r : Robot) : r.after [] = r := rfl

theorem Robot.after_cons (r : Robot) (c : NaoCall) (cs : List NaoCall) :
    r.after (c :: cs) = (r.apply (c, false)).after cs := rfl

theorem Robot.after_append (r : Robot) (cs ds : List NaoCall) :
    r.after (cs ++ ds) = (r.after cs).after ds := by
  rw [Robot.after, List.map_append, List.foldl_append]
  rfl

/-- A joint in motion has the stiffness `x`. -/
def Robot.Firm (x : ℚ) (r : Robot) : Prop :=
  ∀ j, 0 < r.moving j → r.stiffness j = some x

/-- No joint is in motion or has a stiffness. -/
structure Robot.Relaxed (r : Robot) : Prop where
  moving : ∀ j, r.moving j = 0
  stiffness : ∀ j x, r.stiffness j = some x → x = 0

namespace NaoMoveJointGesture

variable {m : Move} {r : Robot}

theorem moving_begin (js : List Joint) (r : Robot) (i : String) :
    (r.after (js.flatMap (begin m))).moving i =
      r.moving i + js.countP fun j => j.name = i := by
  induction js generalizing r with
  | nil => rfl
  | cons j js ih =>
      rw [List.flatMap_cons, Robot.after_append, ih, List.countP_cons]
      simp only [begin, Robot.after_cons, Robot.after_nil, Robot.apply,
        decide_eq_true_eq, eq_comm (a := i)]
      split <;> omega

theorem moving_wait (js : List Joint) (r : Robot) (i : String) :
    (r.after (js.map fun j => .wait j.name)).moving i =
      r.moving i - js.countP fun j => j.name = i := by
  induction js generalizing r with
  | nil => rfl
  | cons j js ih =>
      rw [List.map_cons, Robot.after_cons, ih, List.countP_cons]
      simp only [Robot.apply, decide_eq_true_eq, eq_comm (a := i)]
      split <;> omega

theorem stiffness_wait (js : List Joint) (r : Robot) :
    (r.after (js.map fun j => .wait j.name)).stiffness = r.stiffness := by
  induction js generalizing r with
  | nil => rfl
  | cons j js ih => rw [List.map_cons, Robot.after_cons, ih, Robot.apply]

theorem moving_release (js : List Joint) (r : Robot) :
    (r.after (js.map fun j => .setStiffnesses j.name 0)).moving =
      r.moving := by
  induction js generalizing r with
  | nil => rfl
  | cons j js ih => rw [List.map_cons, Robot.after_cons, ih, Robot.apply]

theorem stiffness_begin (js : List Joint) (r : Robot) (i : String) :
    (r.after (js.flatMap (begin m))).stiffness i =
      if ∃ j ∈ js, j.name = i then some m.m_fStiffness else r.stiffness i := by
  induction js generalizing r with
  | nil => simp
  | cons j js ih =>
      rw [List.flatMap_cons, Robot.after_append, ih]
      simp only [begin, Robot.after_cons, Robot.after_nil, Robot.apply,
        List.exists_mem_cons_iff, eq_comm (a := i)]
      by_cases hj : j.name = i <;> simp [hj]

theorem stiffness_release (js : List Joint) (r : Robot) (i : String) :
    (r.after (js.map fun j => .setStiffnesses j.name 0)).stiffness i =
      if ∃ j ∈ js, j.name = i then some 0 else r.stiffness i := by
  induction js generalizing r with
  | nil => simp
  | cons j js ih =>
      rw [List.map_cons, Robot.after_cons, ih]
      simp only [Robot.apply, List.exists_mem_cons_iff, eq_comm (a := i)]
      by_cases hj : j.name = i <;> simp [hj]

/-- A request that is carried out leaves the joints as it should find them. -/
theorem relaxed_doMoveThread (h : r.Relaxed) :
    (r.after (doMoveThread m)).Relaxed := by
  have hhead : r.after [.disableExtraMovement, .service "ALMotion"] = r := rfl
  rw [doMoveThread, Robot.after_append, Robot.after_append,
    Robot.after_append, hhead]
  constructor
  · intro i
    rw [moving_release, moving_wait, moving_begin, h.moving]
    omega
  · intro i x hx
    rw [stiffness_release, stiffness_wait, stiffness_begin] at hx
    split at hx
    · exact (Option.some.inj hx).symm
    · exact h.stiffness i x hx

/-- `P` holds before, between and after the calls. -/
def Stays (P : Robot → Prop) (r : Robot) (cs : List NaoCall) : Prop :=
  ∀ ds, ds <+: cs → P (r.after ds)

theorem stays_cons {P : Robot → Prop} {c : NaoCall} {cs : List NaoCall}
    (h : P r) (hcs : Stays P (r.apply (c, false)) cs) :
    Stays P r (c :: cs) := by
  intro ds hds
  cases ds with
  | nil => exact h
  | cons d ds =>
      obtain ⟨rfl, htail⟩ := List.cons_prefix_cons.mp hds
      exact hcs ds htail

theorem stays_nil {P : Robot → Prop} (h : P r) : Stays P r [] := by
  intro ds hds
  rw [List.prefix_nil.mp hds]
  exact h

theorem stays_append {P : Robot → Prop} {cs ds : List NaoCall}
    (hcs : Stays P r cs) (hds : Stays P (r.after cs) ds) :
    Stays P r (cs ++ ds) := by
  induction cs generalizing r with
  | nil => exact hds
  | cons c cs ih =>
      refine stays_cons (hcs [] (List.nil_prefix)) (ih (fun es hes => ?_) hds)
      exact hcs (c :: es) (List.cons_prefix_cons.mpr ⟨rfl, hes⟩)

/-- What each call of the list keeps. -/
theorem stays_map {α : Type} {P : Robot → Prop} {f : α → NaoCall}
    (hf : ∀ a r, P r → P (r.apply (f a, false))) (as : List α) (h : P r) :
    Stays P r (as.map f) := by
  induction as generalizing r with
  | nil => exact stays_nil h
  | cons a as ih => exact stays_cons h (ih (hf a r h))

theorem firm_begin (js : List Joint) (h : r.Firm m.m_fStiffness) :
    Stays (Robot.Firm m.m_fStiffness) r (js.flatMap (begin m)) := by
  induction js generalizing r with
  | nil => exact stays_nil h
  | cons j js ih =>
      have hset : (r.apply (.setStiffnesses j.name m.m_fStiffness, false)).Firm
          m.m_fStiffness := by
        intro i hi
        change (if i = j.name then _ else _) = _
        split
        · rfl
        · exact h i hi
      have hmove : ((r.apply
          (.setStiffnesses j.name m.m_fStiffness, false)).apply
          (.angleInterpolation j.name j.angle j.speed m.m_bAbsolute,
            false)).Firm m.m_fStiffness := by
        intro i hi
        by_cases hij : i = j.name
        · change (if i = j.name then _ else _) = _
          rw [if_pos hij]
        · refine hset i ?_
          change 0 < (if i = j.name then _ else _) at hi
          rwa [if_neg hij] at hi
      rw [List.flatMap_cons]
      exact stays_append (stays_cons h (stays_cons hset (stays_nil hmove)))
        (ih hmove)

/-- While a request is carried out the joints in motion have its stiffness. -/
theorem firm_doMoveThread (h : r.Relaxed) :
    Stays (Robot.Firm m.m_fStiffness) r (doMoveThread m) := by
  have hstill : ∀ {r : Robot}, (∀ j, r.moving j = 0) →
      r.Firm m.m_fStiffness := by
    intro r hr j hj
    rw [hr j] at hj
    exact absurd hj (Nat.lt_irrefl 0)
  have hfirm := hstill h.moving
  have hhead : Stays (Robot.Firm m.m_fStiffness) r
      [.disableExtraMovement, .service "ALMotion"] :=
    stays_cons hfirm (stays_cons hfirm (stays_nil hfirm))
  have hbegin := firm_begin m.joints hfirm
  have hwait := stays_map (f := fun j : Joint => NaoCall.wait j.name)
    (fun j r (hr : r.Firm m.m_fStiffness) i hi => by
      refine hr i (Nat.lt_of_lt_of_le hi ?_)
      change (if i = j.name then _ else _) ≤ _
      split
      · exact Nat.sub_le _ _
      · exact Nat.le_refl _)
    m.joints (hbegin _ (List.prefix_refl _))
  refine stays_append (stays_append (stays_append hhead hbegin) hwait) ?_
  have hrest : ∀ i, (r.after ([.disableExtraMovement, .service "ALMotion"] ++
      m.joints.flatMap (begin m) ++
        m.joints.map fun j => .wait j.name)).moving i = 0 := by
    intro i
    have hsame : r.after [.disableExtraMovement, .service "ALMotion"] = r :=
      rfl
    rw [Robot.after_append, Robot.after_append, hsame, moving_wait,
      moving_begin, h.moving]
    omega
  intro ds hds
  apply hstill
  intro i
  obtain ⟨js, -, rfl⟩ := List.prefix_map_iff.mp hds
  rw [moving_release]
  exact hrest i

/-- Calls of a request none of which has failed are first calls of its
script. -/
theorem first_of_made {k : List NaoCall} {block ds : List (NaoCall × Bool)}
    (h : Made script k block) (hds : ds <+: block)
    (hsuccess : ∀ c ∈ ds, c.2 = false) :
    ∃ cs, cs <+: k ∧ ds = cs.map fun c => (c, false) := by
  have hpassed : ∀ {cs bs}, Passed script cs bs → ds <+: bs →
      ∃ cs', cs' <+: cs ∧ ds = cs'.map fun c => (c, false) := by
    intro cs bs hpassed hds
    obtain ⟨rest, rfl⟩ := hds
    refine ⟨ds.map Prod.fst, ?_, ?_⟩
    · rw [← hpassed.calls, List.map_append]
      exact List.prefix_append _ _
    · have hself : Passed script (ds.map Prod.fst) ds :=
        ⟨rfl, fun c hc => hpassed.ignored c (List.mem_append_left rest hc)⟩
      exact hself.eq_of_success hsuccess
  cases h with
  | whole h => exact hpassed h hds
  | @part cs rest c block hk hblock hthrow =>
      rcases List.prefix_concat_iff.mp hds with rfl | hds
      · -- The call that has thrown is among those that have not failed.
        have hfalse := hsuccess (c, true) (List.mem_append_right block
          (List.mem_singleton_self _))
        cases hfalse
      · obtain ⟨cs', hcs', heq⟩ := hpassed hblock hds
        exact ⟨cs', hk ▸ hcs'.trans (List.prefix_append cs _), heq⟩

/-- Requests that have been carried out leave the joints relaxed, as long as no
call fails. -/
theorem relaxed_of_served {rs : List Move} {u : Unit}
    {calls : List (NaoCall × Bool)} (h : Served script () rs u calls)
    (hcalls : ∀ c ∈ calls, c.2 = false) : (robot calls).Relaxed := by
  induction h with
  | nil => exact ⟨fun _ => rfl, nofun⟩
  | @snoc rs _ calls block m _ hblock ih =>
      have hrelaxed := ih fun c hc =>
        hcalls c (List.mem_append_left block hc)
      have hsuccess : ∀ c ∈ block, c.2 = false := fun c hc =>
        hcalls c (List.mem_append_right calls hc)
      cases hblock with
      | whole h =>
          rw [h.eq_of_success hsuccess, robot, List.foldl_append]
          exact relaxed_doMoveThread hrelaxed
      | @part _ _ c block _ _ _ =>
          have hfalse := hsuccess (c, true) (List.mem_append_right block
            (List.mem_singleton_self _))
          cases hfalse

/-- At any of the calls, as long as none has failed, a joint in motion has the
stiffness of one of the requests. -/
theorem firm_of_served {rs : List Move} {u : Unit}
    {calls ds : List (NaoCall × Bool)} (h : Served script () rs u calls)
    (hds : ds <+: calls) (hsuccess : ∀ c ∈ ds, c.2 = false) {j : String}
    (hj : 0 < (robot ds).moving j) :
    ∃ m ∈ rs, (robot ds).stiffness j = some m.m_fStiffness := by
  induction h with
  | nil =>
      rw [List.prefix_nil.mp hds] at hj
      exact absurd hj (Nat.lt_irrefl 0)
  | @snoc rs _ calls block m hserved hblock ih =>
      rcases List.prefix_or_prefix_of_prefix hds
        (List.prefix_append calls block) with hfirst | hwhole
      · obtain ⟨m', hm', hstiff⟩ := ih hfirst
        exact ⟨m', List.mem_append_left _ hm', hstiff⟩
      · obtain ⟨es, rfl⟩ := hwhole
        have hes : es <+: block :=
          (List.prefix_append_right_inj calls).mp hds
        obtain ⟨cs, hcs, rfl⟩ := first_of_made hblock hes fun c hc =>
          hsuccess c (List.mem_append_right calls hc)
        have hrelaxed := relaxed_of_served hserved fun c hc =>
          hsuccess c (List.mem_append_left _ hc)
        have hrobot : robot (calls ++ cs.map fun c => (c, false)) =
            (robot calls).after cs := by
          rw [robot, List.foldl_append]
          rfl
        rw [hrobot] at hj ⊢
        exact ⟨m, List.mem_append_right _ (List.mem_singleton_self m),
          firm_doMoveThread hrelaxed cs hcs j hj⟩

/-- A joint in motion has the stiffness of a request, and when there is nothing
left to do no joint has any. -/
structure Supported (s : Server Move (List NaoCall) (Logged Unit NaoCall)) :
    Prop where
  firm : ∀ j, 0 < (robot s.world.calls).moving j →
    ∃ m ∈ s.executed,
      (robot s.world.calls).stiffness j = some m.m_fStiffness
  relaxed : s.requests = [] → (robot s.world.calls).Relaxed

end NaoMoveJointGesture

open NaoMoveJointGesture in
/-- As long as no call has failed, the joints in motion are supported. -/
theorem joints_supported (evs : List (Event Move Bool Empty)) :
    Throughout (Server.step NaoMoveJointGesture.script.work)
      (fun s => (∀ c ∈ s.world.calls, c.2 = false) → Supported s) (new ())
      evs := by
  refine (sequential_throughout NaoMoveJointGesture.script () evs).mono ?_
  intro s hs hcalls
  refine ⟨fun j hj => ?_, fun hrest => relaxed_of_served (hs.rest hrest) hcalls⟩
  obtain ⟨m, calls, hserved, hfirst⟩ := hs.sofar
  exact firm_of_served hserved hfirst hcalls hj

open NaoMoveJointGesture in
/-- A stiffness that is refused is not noticed: the joint is moved slack, and
nothing has thrown. -/
theorem joint_slack (m : Move) (j : Joint) (rest : List Joint)
    (hjoints : m.joints = j :: rest) :
    ∃ s, run (Server.step NaoMoveJointGesture.script.work) (new ())
      [.execute m, .thread 0 false, .thread 0 false, .thread 0 false,
        .thread 0 true, .thread 0 false] = some s ∧ s.thrown = [] ∧
      (robot s.world.calls).moving j.name = 1 ∧
      (robot s.world.calls).stiffness j.name = none := by
  obtain ⟨joints, m_fStiffness, m_bAbsolute⟩ := m
  obtain rfl : joints = j :: rest := hjoints
  refine ⟨_, rfl, rfl, ?_, rfl⟩
  exact if_pos rfl

/-! ## The animation of the Raspberry Pi -/

namespace RaspiAnimateGesture

/-- The calls of a number of requests. -/
def animation (m_PinNumber : ℤ) (wired : Bool) (n : ℕ) : List PinCall :=
  (if n = 0 ∨ wired = true then []
    else [.wiringPiSetup, .pinMode m_PinNumber]) ++
    (List.replicate (5 * n) (blink m_PinNumber)).flatten

theorem animation_succ (pin : ℤ) (wired : Bool) (n : ℕ) :
    animation pin wired (n + 1) = animation pin wired n ++
      (doAnimateThread pin (wired || decide (0 < n))).1 := by
  have hblinks : (List.replicate (5 * (n + 1)) (blink pin)).flatten =
      (List.replicate (5 * n) (blink pin)).flatten ++
        (List.replicate 5 (blink pin)).flatten := by
    rw [Nat.mul_succ, List.replicate_add, List.flatten_append]
  rw [animation, animation, doAnimateThread, hblinks]
  cases wired with
  | true => simp
  | false =>
      cases n with
      | zero => simp
      | succ n => simp

theorem served_eq {pin : ℤ} {wired m : Bool} {rs : List Unit}
    {calls : List (PinCall × Bool)}
    (h : Served (script pin) wired rs m calls) :
    m = (wired || decide (0 < rs.length)) ∧
      calls.map Prod.fst = animation pin wired rs.length := by
  induction h with
  | nil => exact ⟨by simp, by simp [animation]⟩
  | @snoc rs m calls block r _ hblock ih =>
      obtain ⟨hm, hcalls⟩ := ih
      refine ⟨by simp [script, doAnimateThread], ?_⟩
      have hmade : block.map Prod.fst = (doAnimateThread pin m).1 :=
        hblock.calls fun _ hthrown => by cases hthrown
      rw [List.map_append, hcalls, hmade, List.length_append,
        List.length_singleton, animation_succ, ← hm]

end RaspiAnimateGesture

/-- However the requests come in, the pins are set up once, before the first
animation, and each request blinks five times and leaves the pin low. -/
theorem animation_calls (m_PinNumber : ℤ) (wired : Bool)
    (evs : List (Event Unit Bool Empty)) :
    Throughout (Server.step (RaspiAnimateGesture.script m_PinNumber).work)
      (fun s => s.requests = [] → s.world.calls.map Prod.fst =
        RaspiAnimateGesture.animation m_PinNumber wired s.executed.length)
      (new wired) evs :=
  (sequential_throughout _ wired evs).mono fun _ hs hrest =>
    (RaspiAnimateGesture.served_eq (hs.rest hrest)).2

end SelfPlugins.Gestures
