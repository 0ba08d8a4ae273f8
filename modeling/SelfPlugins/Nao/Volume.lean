import Mathlib.Algebra.Order.Ring.Unbundled.Rat
import Mathlib.Tactic.NormNum
import SelfPlugins.Framework.Json
import SelfPlugins.Library.Runs

/-!
# The volume gesture of the NAO

`NaoVolumeGesture` sets the volume of the robot, to a target or by a change of
the present one.  A request may give the change, the target, both or none; what
it does not give is configured.  The gesture writes what a request gives into
the members that hold the configuration, and the volume it sets into the one
that holds the target.

`own_volumes_of_forgetful` says in which runs the volumes set depend on their
own requests only.  The members are of the type `float`; `float` below is the
rounding to it, and nothing is assumed of it.
-/

namespace SelfPlugins.Nao

open Runs

/-- A member of the parameters of a request. -/
inductive Param where
  | absent
  | value (v : Json.Value)
deriving DecidableEq

/-- The member replaces the value, unless it is absent: `asFloat`, which throws
for what is no number, boolean or null. -/
def Param.read (float : ℚ → ℚ) (old : ℚ) : Param → Option ℚ
  | .absent => some old
  | .value v => v.asDouble?.map float

structure VolumeParams where
  m_fChange : Param := .absent
  m_fTargetVolume : Param := .absent
deriving DecidableEq

/-- How the session and `ALAudioDevice` answer one request; `none` and `false`
where the call throws. -/
structure AudioDevice where
  service : Bool := true
  getOutputVolume : Option ℤ := some 50
  setOutputVolume : Bool := true
deriving DecidableEq

/-- A volume that has been set: the parameters of the request, the present
volume and the one passed to the device. -/
structure VolumeSet where
  m_Params : VolumeParams
  current : Option ℤ
  volume : ℚ

/-- The gesture, with the parameters of the requests in its queue, whether
`VolumeThread` or `VolumeDone` is to run for the front one, and the volumes
that have been set. -/
structure NaoVolumeGesture where
  m_fChange : ℚ := 0
  m_fTargetVolume : ℚ := 0
  requests : List VolumeParams := []
  thread : Bool := false
  done : Bool := false
  volumes : List VolumeSet := []

namespace NaoVolumeGesture

variable (float : ℚ → ℚ)

/-! ## Translated functions -/

/-- The request replaces what is configured. -/
def readParams (p : VolumeParams) (s : NaoVolumeGesture) :
    Bool × NaoVolumeGesture :=
  match p.m_fChange.read float s.m_fChange with
  | none => (false, s)
  | some change =>
      let s := { s with m_fChange := change }
      match p.m_fTargetVolume.read float s.m_fTargetVolume with
      | none => (false, s)
      | some target => (true, { s with m_fTargetVolume := target })

/-- The target is computed if there is a change, and kept within its bounds. -/
def computeTarget (currentVolume : ℤ) (s : NaoVolumeGesture) :
    NaoVolumeGesture :=
  let s := if s.m_fChange ≠ 0 then
      { s with m_fTargetVolume := float (float currentVolume + s.m_fChange) }
    else s
  let s := if s.m_fTargetVolume < 0 then { s with m_fTargetVolume := 0 } else s
  if s.m_fTargetVolume > 100 then { s with m_fTargetVolume := 100 } else s

/-- The part of `DoVolumeThread` after the parameters have been read.  The
present volume is asked for only if there is a change. -/
def setVolume (p : VolumeParams) (o : AudioDevice) (s : NaoVolumeGesture) :
    NaoVolumeGesture :=
  if s.m_fChange ≠ 0 ∧ o.getOutputVolume = none then s
  else
    let next := s.computeTarget float (o.getOutputVolume.getD 0)
    if o.setOutputVolume then
      { next with volumes := s.volumes ++
          [⟨p, o.getOutputVolume, next.m_fTargetVolume⟩] }
    else next

/-- `DoVolumeThread` -/
def doVolumeThread (p : VolumeParams) (o : AudioDevice)
    (s : NaoVolumeGesture) : NaoVolumeGesture :=
  if o.service then
    let (read, s) := s.readParams float p
    if read then s.setVolume float p o else s
  else s

/-- A request is made, the thread of the front request runs, or the main thread
gets to its `VolumeDone`. -/
inductive Event where
  | execute (p : VolumeParams)
  | volumeThread (o : AudioDevice)
  | volumeDone
deriving DecidableEq

def step (s : NaoVolumeGesture) : Event → Option NaoVolumeGesture
  | .execute p =>
      some { s with
        requests := s.requests ++ [p]
        thread := s.thread || s.requests.isEmpty }
  | .volumeThread o =>
      match s.requests with
      | [] => none
      | p :: _ =>
          if s.thread then
            some { s.doVolumeThread float p o with
              thread := false
              done := true }
          else none
  | .volumeDone =>
      if s.done then
        some { s with
          requests := s.requests.tail
          done := false
          thread := !s.requests.tail.isEmpty }
      else none

/-- The gesture as it is configured. -/
def configured (m_fChange m_fTargetVolume : ℚ) : NaoVolumeGesture :=
  { m_fChange, m_fTargetVolume }

/-! ## What a request is to do -/

/-- The nearest volume. -/
def clamp (x : ℚ) : ℚ :=
  max 0 (min x 100)

/-- The volume for a change and a target, at the volume `v`. -/
def volumeAt (change target : ℚ) (v : ℤ) : ℚ :=
  if change = 0 then clamp target else clamp (float (float v + change))

/-- Each volume set is the one for what its own request gives, and else for
what is configured, at the volume that was present.  It is within the bounds,
and a target that is given alone is set as it is if no change is configured. -/
structure OwnVolumes (m_fChange m_fTargetVolume : ℚ) (s : NaoVolumeGesture) :
    Prop where
  own : ∀ x ∈ s.volumes, ∃ change target,
    x.m_Params.m_fChange.read float m_fChange = some change ∧
      x.m_Params.m_fTargetVolume.read float m_fTargetVolume = some target ∧
      x.volume = volumeAt float change target (x.current.getD 0)
  bounds : ∀ x ∈ s.volumes, 0 ≤ x.volume ∧ x.volume ≤ 100
  target : m_fChange = 0 → ∀ x ∈ s.volumes, ∀ v t,
    x.m_Params = { m_fTargetVolume := .value v } → v.asDouble? = some t →
      x.volume = clamp (float t)

/-- What the request does not give is still configured: the change and, if
there is none, the target as far as it is within the bounds. -/
def Untouched (m_fChange m_fTargetVolume : ℚ) (p : VolumeParams)
    (s : NaoVolumeGesture) : Prop :=
  (p.m_fChange = .absent → s.m_fChange = m_fChange) ∧
    (p.m_fChange.read float s.m_fChange = some 0 →
      p.m_fTargetVolume = .absent →
      clamp s.m_fTargetVolume = clamp m_fTargetVolume)

/-- The device answers all the calls that are made for the request, whose
parameters can be read. -/
def Answered (p : VolumeParams) (o : AudioDevice) (s : NaoVolumeGesture) :
    Prop :=
  o.service = true ∧ o.setOutputVolume = true ∧
    p.m_fTargetVolume.read float s.m_fTargetVolume ≠ none ∧
    p.m_fChange.read float s.m_fChange ≠ none ∧
    (p.m_fChange.read float s.m_fChange ≠ some 0 → o.getOutputVolume ≠ none)

/-- Where a volume is set, what the request does not give is still
configured. -/
def Forgetful (m_fChange m_fTargetVolume : ℚ) (s : NaoVolumeGesture) :
    Event → Prop
  | .volumeThread o => ∀ p ∈ s.requests.head?, Answered float p o s →
      Untouched float m_fChange m_fTargetVolume p s
  | .execute _ | .volumeDone => True

/-! ## Volumes -/

theorem clamp_mem (x : ℚ) : 0 ≤ clamp x ∧ clamp x ≤ 100 :=
  ⟨le_max_left _ _, max_le (by norm_num) (min_le_right _ _)⟩

theorem volumeAt_mem (change target : ℚ) (v : ℤ) :
    0 ≤ volumeAt float change target v ∧
      volumeAt float change target v ≤ 100 := by
  unfold volumeAt
  split
  · exact clamp_mem _
  · exact clamp_mem _

/-- Without a change, the target matters within the bounds only. -/
theorem volumeAt_congr {change target target' : ℚ}
    (h : change = 0 → clamp target = clamp target') (v : ℤ) :
    volumeAt float change target v = volumeAt float change target' v := by
  unfold volumeAt
  split
  · rename_i hzero
    exact h hzero
  · rfl

/-! ## What the functions do -/

variable {float} {s t : NaoVolumeGesture} {m_fChange m_fTargetVolume : ℚ}
  {p : VolumeParams} {o : AudioDevice}

theorem computeTarget_m_fTargetVolume (v : ℤ) (s : NaoVolumeGesture) :
    (s.computeTarget float v).m_fTargetVolume =
      volumeAt float s.m_fChange s.m_fTargetVolume v := by
  have hclamp : ∀ x : ℚ, (if (if x < 0 then 0 else x) > 100 then 100
      else if x < 0 then 0 else x) = clamp x := by
    intro x
    unfold clamp
    grind
  unfold computeTarget volumeAt
  rw [← hclamp, ← hclamp]
  dsimp only
  split_ifs <;> first | rfl | contradiction

@[simp] theorem computeTarget_volumes (v : ℤ) (s : NaoVolumeGesture) :
    (s.computeTarget float v).volumes = s.volumes := by
  unfold computeTarget
  dsimp only
  split_ifs <;> rfl

/-- What a request gives does not depend on the value before. -/
theorem read_of_read {x y : ℚ} {m : Param} (h : m.read float x = some y)
    (z : ℚ) : m.read float z = some (if m = .absent then z else y) := by
  cases m with
  | absent => rfl
  | value v => exact h

theorem readParams_cases (float : ℚ → ℚ) (p : VolumeParams)
    (s : NaoVolumeGesture) :
    (∃ change target, p.m_fChange.read float s.m_fChange = some change ∧
      p.m_fTargetVolume.read float s.m_fTargetVolume = some target ∧
      s.readParams float p = (true, { s with
        m_fChange := change, m_fTargetVolume := target })) ∨
    ∃ t, s.readParams float p = (false, t) ∧ t.volumes = s.volumes := by
  unfold readParams
  cases hchange : p.m_fChange.read float s.m_fChange with
  | none => exact Or.inr ⟨s, rfl, rfl⟩
  | some change =>
      dsimp only
      cases htarget : p.m_fTargetVolume.read float s.m_fTargetVolume with
      | none => exact Or.inr ⟨{ s with m_fChange := change }, rfl, rfl⟩
      | some target => exact Or.inl ⟨change, target, rfl, rfl, rfl⟩

theorem setVolume_cases (float : ℚ → ℚ) (p : VolumeParams)
    (o : AudioDevice) (s : NaoVolumeGesture) :
    ((o.setOutputVolume = true ∧
        (s.m_fChange ≠ 0 → o.getOutputVolume ≠ none)) ∧
      (s.setVolume float p o).volumes = s.volumes ++
        [⟨p, o.getOutputVolume,
          volumeAt float s.m_fChange s.m_fTargetVolume
            (o.getOutputVolume.getD 0)⟩]) ∨
    (s.setVolume float p o).volumes = s.volumes := by
  unfold setVolume
  by_cases hget : s.m_fChange ≠ 0 ∧ o.getOutputVolume = none
  · rw [if_pos hget]
    exact Or.inr rfl
  · rw [if_neg hget]
    cases hset : o.setOutputVolume with
    | false => exact Or.inr (computeTarget_volumes _ _)
    | true =>
        refine Or.inl ⟨⟨rfl, fun hne hnone => hget ⟨hne, hnone⟩⟩, ?_⟩
        simp only [if_true, computeTarget_m_fTargetVolume]

/-- A request is answered and one more volume is set, or none is. -/
theorem doVolumeThread_cases (float : ℚ → ℚ) (p : VolumeParams)
    (o : AudioDevice) (s : NaoVolumeGesture) :
    (Answered float p o s ∧ ∃ change target,
      p.m_fChange.read float s.m_fChange = some change ∧
      p.m_fTargetVolume.read float s.m_fTargetVolume = some target ∧
      (s.doVolumeThread float p o).volumes = s.volumes ++
        [⟨p, o.getOutputVolume,
          volumeAt float change target (o.getOutputVolume.getD 0)⟩]) ∨
    (s.doVolumeThread float p o).volumes = s.volumes := by
  unfold doVolumeThread Answered
  cases hservice : o.service with
  | false => exact Or.inr rfl
  | true =>
      rcases readParams_cases float p s with
        ⟨change, target, hchange, htarget, hread⟩ | ⟨u, hread, hvolumes⟩
      · simp only [if_true, hread, hchange, htarget]
        rcases setVolume_cases float p o { s with
          m_fChange := change, m_fTargetVolume := target } with
          ⟨⟨hset, hget⟩, hvolumes⟩ | hvolumes
        · exact Or.inl ⟨⟨trivial, hset, nofun, nofun,
            fun hne => hget fun h0 => hne (congrArg some h0)⟩,
            change, target, rfl, rfl, hvolumes⟩
        · exact Or.inr hvolumes
      · simp only [if_true, hread]
        exact Or.inr hvolumes

/-! ## Steps -/

theorem OwnVolumes.congr (h : OwnVolumes float m_fChange m_fTargetVolume s)
    (hvolumes : t.volumes = s.volumes) :
    OwnVolumes float m_fChange m_fTargetVolume t := by
  constructor
  · rw [hvolumes]; exact h.own
  · rw [hvolumes]; exact h.bounds
  · rw [hvolumes]; exact h.target

/-- One more volume is set, for the change and the target that the request
should have. -/
theorem OwnVolumes.concat (h : OwnVolumes float m_fChange m_fTargetVolume s)
    {change target : ℚ}
    (hchange : p.m_fChange.read float m_fChange = some change)
    (htarget : p.m_fTargetVolume.read float m_fTargetVolume = some target)
    {current : Option ℤ}
    (hvolumes : t.volumes = s.volumes ++
      [⟨p, current, volumeAt float change target (current.getD 0)⟩]) :
    OwnVolumes float m_fChange m_fTargetVolume t := by
  constructor
  · rw [hvolumes]
    refine List.forall_mem_append.mpr ⟨h.own, ?_⟩
    intro x hx
    obtain rfl := List.mem_singleton.mp hx
    exact ⟨change, target, hchange, htarget, rfl⟩
  · rw [hvolumes]
    refine List.forall_mem_append.mpr ⟨h.bounds, ?_⟩
    intro x hx
    obtain rfl := List.mem_singleton.mp hx
    exact volumeAt_mem _ _ _ _
  · intro h0
    rw [hvolumes]
    refine List.forall_mem_append.mpr ⟨h.target h0, ?_⟩
    intro x hx v q hparams hv
    obtain rfl := List.mem_singleton.mp hx
    change p = { m_fTargetVolume := .value v } at hparams
    subst hparams
    have hzero : change = 0 := (Option.some.inj hchange).symm.trans h0
    have hq : target = float q := by
      change v.asDouble?.map float = some target at htarget
      rw [hv] at htarget
      exact (Option.some.inj htarget).symm
    change volumeAt float change target (current.getD 0) = clamp (float q)
    rw [volumeAt, if_pos hzero, hq]

theorem volumeThread_cases
    (ht : s.step float (.volumeThread o) = some t) :
    ∃ p, s.requests.head? = some p ∧
      t.volumes = (s.doVolumeThread float p o).volumes := by
  cases hrequests : s.requests with
  | nil =>
      simp only [step, hrequests] at ht
      cases ht
  | cons p rest =>
      simp only [step, hrequests, Option.ite_none_right_eq_some,
        Option.some.injEq] at ht
      obtain ⟨-, rfl⟩ := ht
      exact ⟨p, rfl, rfl⟩

/-- What the request does not give is untouched, so the volume is the one that
the configuration leads to. -/
theorem Untouched.volumeAt_eq {change target : ℚ}
    (h : Untouched float m_fChange m_fTargetVolume p s)
    (hchange : p.m_fChange.read float s.m_fChange = some change)
    (htarget : p.m_fTargetVolume.read float s.m_fTargetVolume = some target)
    (v : ℤ) :
    ∃ change' target', p.m_fChange.read float m_fChange = some change' ∧
      p.m_fTargetVolume.read float m_fTargetVolume = some target' ∧
      volumeAt float change target v = volumeAt float change' target' v := by
  refine ⟨_, _, read_of_read hchange m_fChange,
    read_of_read htarget m_fTargetVolume, ?_⟩
  have hsame : (if p.m_fChange = .absent then m_fChange else change) =
      change := by
    split
    · rename_i habsent
      rw [habsent] at hchange
      exact (h.1 habsent).symm.trans (Option.some.inj hchange)
    · rfl
  rw [hsame]
  apply volumeAt_congr
  intro hzero
  split
  · rename_i habsent
    rw [habsent] at htarget
    obtain rfl := Option.some.inj htarget
    exact h.2 (by rw [hchange, hzero]) habsent
  · rfl

theorem OwnVolumes.step (h : OwnVolumes float m_fChange m_fTargetVolume s)
    {e : Event} (hC : Forgetful float m_fChange m_fTargetVolume s e)
    (ht : s.step float e = some t) :
    OwnVolumes float m_fChange m_fTargetVolume t := by
  cases e with
  | execute p =>
      obtain rfl := Option.some.inj ht
      exact h.congr rfl
  | volumeThread o =>
      obtain ⟨p, hhead, hvolumes⟩ := volumeThread_cases ht
      rcases doVolumeThread_cases float p o s with
        ⟨hanswered, change, target, hchange, htarget, hset⟩ | hsame
      · obtain ⟨change', target', hchange', htarget', heq⟩ :=
          (hC p hhead hanswered).volumeAt_eq hchange htarget
            (o.getOutputVolume.getD 0)
        exact h.concat hchange' htarget' (by rw [hvolumes, hset, heq])
      · exact h.congr (hvolumes.trans hsame)
  | volumeDone =>
      simp only [NaoVolumeGesture.step, Option.ite_none_right_eq_some,
        Option.some.injEq] at ht
      obtain ⟨-, rfl⟩ := ht
      exact h.congr rfl

/-! ## Runs -/

/-- The volumes set depend on their own requests only, throughout each run in
which, whenever one is set, what the request does not give is still
configured. -/
theorem own_volumes_of_forgetful (float : ℚ → ℚ)
    (m_fChange m_fTargetVolume : ℚ) (es : List Event)
    (hC : EachStep (step float) (Forgetful float m_fChange m_fTargetVolume)
      (configured m_fChange m_fTargetVolume) es) :
    Throughout (step float) (OwnVolumes float m_fChange m_fTargetVolume)
      (configured m_fChange m_fTargetVolume) es :=
  throughout_of_eachStep (fun _ _ _ h hC ht => h.step hC ht)
    ⟨nofun, nofun, fun _ => nofun⟩ hC

/-- A request for a change that is null, and then one for the volume 30. -/
theorem own_volumes_null_change :
    Throughout (step id) (OwnVolumes id 0 20) (configured 0 20)
      [.execute { m_fChange := .value .null }, .volumeThread {}, .volumeDone,
        .execute { m_fTargetVolume := .value (.int 30) },
        .volumeThread { getOutputVolume := some 60 }] := by
  apply own_volumes_of_forgetful
  intro s hs
  obtain rfl := Option.some.inj hs
  refine ⟨trivial, fun s hs => ?_⟩
  obtain rfl := Option.some.inj hs
  refine ⟨fun p hp _ => ?_, fun s hs => ?_⟩
  · obtain rfl := Option.some.inj hp
    exact ⟨nofun, fun _ _ => rfl⟩
  obtain rfl := Option.some.inj hs
  refine ⟨trivial, fun s hs => ?_⟩
  obtain rfl := Option.some.inj hs
  refine ⟨trivial, fun s hs => ?_⟩
  obtain rfl := Option.some.inj hs
  refine ⟨fun p hp _ => ?_, trivial⟩
  obtain rfl := Option.some.inj hp
  exact ⟨fun _ => by decide +kernel, nofun⟩

/-- A request for a change of 10, and then one for the volume 30, which turns
the volume up again. -/
theorem not_always_own_volumes :
    ¬Throughout (step id) (OwnVolumes id 0 0) (configured 0 0)
      [.execute { m_fChange := .value (.int 10) }, .volumeThread {},
        .volumeDone, .execute { m_fTargetVolume := .value (.int 30) },
        .volumeThread { getOutputVolume := some 60 }] := by
  intro h
  have hrun : (run (step id) (configured 0 0)
      [.execute { m_fChange := .value (.int 10) }, .volumeThread {},
        .volumeDone, .execute { m_fTargetVolume := .value (.int 30) },
        .volumeThread { getOutputVolume := some 60 }]).map
      (fun s => s.volumes.getLast?.map fun x => (x.m_Params, x.volume)) =
        some (some ({ m_fTargetVolume := .value (.int 30) }, 70)) := by
    decide +kernel
  obtain ⟨t, ht, hobs⟩ := h.last hrun
  obtain ⟨x, hx, hpair⟩ := Option.map_eq_some_iff.mp hobs
  obtain ⟨hparams, hvolume⟩ := Prod.mk.inj hpair
  have htarget := ht.target rfl x (List.mem_of_getLast? hx) (.int 30) 30
    hparams rfl
  rw [hvolume] at htarget
  norm_num [clamp] at htarget

end NaoVolumeGesture

end SelfPlugins.Nao
