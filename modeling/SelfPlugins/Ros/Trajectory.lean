import SelfPlugins.Framework.Building

/-!
# The trajectory of a joint move

`RosMoveJointGesture` publishes a move as one JSON value, which a loop over the
joints fills by index.  `readTrajectory` is what a receiver finds in it;
`readTrajectory_trajectory` says that it finds the goal and, at one place each,
the name, the angle and two zeros of every joint, whatever the joints are.
-/

namespace SelfPlugins.Ros

open Json (Value arrayOf setAt?_arrayOf updateAt?_zero elements_arrayOf
  at?_arrayOf update?_spec)

/-- A joint, with its entries in `m_JointNames` and `m_fAngles`. -/
structure Joint where
  name : String
  angle : ℚ
deriving DecidableEq

namespace RosMoveJointGesture

/-- The part before the loop. -/
def trajectoryHeader (m_GoalId : String) : Option Value := do
  let json ← Value.null.set? "originator" (.string "c5console")
  let json ← json.update? "header" fun h => h.set? "seq" (.int 0)
  let json ← json.update? "header" fun h => h.set? "frame_id" (.string m_GoalId)
  let json ← json.update? "header" fun h =>
    h.update? "stamp" fun t => t.set? "secs" (.int 0)
  json.update? "header" fun h =>
    h.update? "stamp" fun t => t.set? "nsecs" (.int 0)

/-- A change of `json["points"][0][key]`. -/
def updatePoint (key : String) (f : Value → Option Value) (json : Value) :
    Option Value :=
  json.update? "points" fun points =>
    points.updateAt? 0 fun point => point.update? key f

/-- A round of the loop. -/
def setJoint (json : Value) (j : Joint × ℕ) : Option Value := do
  let json ← json.update? "joint_names" fun names =>
    names.setAt? j.2 (.string j.1.name)
  let json ← updatePoint "positions"
    (fun xs => xs.setAt? j.2 (.real j.1.angle)) json
  let json ← updatePoint "velocities" (fun xs => xs.setAt? j.2 (.int 0)) json
  updatePoint "accelerations" (fun xs => xs.setAt? j.2 (.int 0)) json

/-- The value that `DoMoveThread` publishes. -/
def trajectory (m_GoalId : String) (joints : List Joint) : Option Value := do
  let json ← trajectoryHeader m_GoalId
  let json ← joints.zipIdx.foldlM setJoint json
  let json ← updatePoint "time_from_start" (fun t => t.set? "secs" (.int 0))
    json
  updatePoint "time_from_start" (fun t => t.set? "nsecs" (.int 0)) json

/-! ## What a receiver reads -/

/-- A trajectory, as far as its receiver looks at it. -/
structure Trajectory where
  frameId : Value
  names : List Value
  positions : List Value
  velocities : List Value
  accelerations : List Value
  timeFromStart : Option Value × Option Value
deriving DecidableEq

def readTrajectory (json : Value) : Option Trajectory := do
  let frameId ← (← json.get? "header").get? "frame_id"
  let names ← json.get? "joint_names"
  let point ← (← json.get? "points").at? 0
  let positions ← point.get? "positions"
  let velocities ← point.get? "velocities"
  let accelerations ← point.get? "accelerations"
  let time ← point.get? "time_from_start"
  return ⟨frameId, names.elements, positions.elements, velocities.elements,
    accelerations.elements, time.get? "secs", time.get? "nsecs"⟩

/-- What the value holds after the loop has been through the joints `js`, with
`time` for the start. -/
structure Laid (goalId : String) (js : List Joint) (time json : Value) :
    Prop where
  header : ∃ h, json.get? "header" = some h ∧
    h.get? "frame_id" = some (.string goalId)
  names : json.get? "joint_names" =
    some (arrayOf (js.map fun j => .string j.name))
  points : ∃ vs, vs.length ≤ 1 ∧ json.get? "points" = some (arrayOf vs) ∧
    (vs.getD 0 .null).get? "positions" =
      some (arrayOf (js.map fun j => .real j.angle)) ∧
    (vs.getD 0 .null).get? "velocities" =
      some (arrayOf (js.map fun _ => .int 0)) ∧
    (vs.getD 0 .null).get? "accelerations" =
      some (arrayOf (js.map fun _ => .int 0)) ∧
    (vs.getD 0 .null).get? "time_from_start" = some time

/-- The part before the loop has no joints yet. -/
theorem laid_header (goalId : String) :
    ∃ json, trajectoryHeader goalId = some json ∧
      Laid goalId [] .null json := by
  refine ⟨.object [("header", .object [("frame_id", .string goalId),
    ("seq", .int 0), ("stamp", .object [("nsecs", .int 0), ("secs", .int 0)])]),
    ("originator", .string "c5console")], rfl, ⟨_, rfl, rfl⟩, rfl, [], ?_⟩
  exact ⟨Nat.zero_le 1, rfl, rfl, rfl, rfl, rfl⟩

/-- A change of one key of the point, and of no other. -/
theorem updatePoint_spec (key : String) {f : Value → Option Value}
    {json w w' : Value} {vs : List Value}
    (hpoints : json.get? "points" = some (arrayOf vs)) (hlen : vs.length ≤ 1)
    (hkey : (vs.getD 0 .null).get? key = some w) (hf : f w = some w') :
    ∃ json' p, updatePoint key f json = some json' ∧
      json'.get? "points" = some (arrayOf [p]) ∧
      (∀ l, l ≠ "points" → json'.get? l = json.get? l) ∧
      ∀ l, p.get? l =
        if key = l then some w' else (vs.getD 0 .null).get? l := by
  obtain ⟨p, hp, hkeys⟩ := update?_spec hkey hf
  have hpoint := updateAt?_zero (f := fun p => p.update? key f) hlen hp
  obtain ⟨json', hjson, hothers⟩ := update?_spec
    (f := fun points => points.updateAt? 0 fun p => p.update? key f) hpoints
    hpoint
  refine ⟨json', p, hjson, by rw [hothers, if_pos rfl], fun l hl => ?_, hkeys⟩
  rw [hothers, if_neg hl.symm]

/-- The next element of an array that has one for each joint. -/
theorem setAt?_map (js : List Joint) (j : Joint) (f : Joint → Value) :
    (arrayOf (js.map f)).setAt? js.length (f j) =
      some (arrayOf ((js ++ [j]).map f)) := by
  have h := setAt?_arrayOf (js.map f) (f j)
  rw [List.length_map] at h
  rw [h, List.map_append, List.map_singleton]

/-- A round of the loop lays out one more joint. -/
theorem Laid.setJoint {goalId : String} {js : List Joint} {time json : Value}
    (h : Laid goalId js time json) (j : Joint) :
    ∃ json', setJoint json (j, js.length) = some json' ∧
      Laid goalId (js ++ [j]) time json' := by
  obtain ⟨⟨header, hheader, hframe⟩, hnames, vs, hlen, hpoints, hpositions,
    hvelocities, haccelerations, htime⟩ := h
  obtain ⟨json₁, hjson₁, hother₁⟩ := update?_spec
    (f := fun names => names.setAt? js.length (.string j.name)) hnames
    (setAt?_map js j fun j => .string j.name)
  have hpoints₁ : json₁.get? "points" = some (arrayOf vs) := by
    rw [hother₁, if_neg (by decide), hpoints]
  obtain ⟨json₂, p₂, hjson₂, hpoints₂, hother₂, hkeys₂⟩ :=
    updatePoint_spec "positions"
      (f := fun xs => xs.setAt? js.length (.real j.angle)) hpoints₁ hlen
      hpositions (setAt?_map js j fun j => .real j.angle)
  obtain ⟨json₃, p₃, hjson₃, hpoints₃, hother₃, hkeys₃⟩ :=
    updatePoint_spec "velocities"
      (f := fun xs => xs.setAt? js.length (.int 0)) hpoints₂ (Nat.le_refl 1)
      ((hkeys₂ "velocities").trans hvelocities)
      (setAt?_map js j fun _ => .int 0)
  obtain ⟨json₄, p₄, hjson₄, hpoints₄, hother₄, hkeys₄⟩ :=
    updatePoint_spec "accelerations"
      (f := fun xs => xs.setAt? js.length (.int 0)) hpoints₃ (Nat.le_refl 1)
      ((hkeys₃ "accelerations").trans
        ((hkeys₂ "accelerations").trans haccelerations))
      (setAt?_map js j fun _ => .int 0)
  refine ⟨json₄, ?_, ⟨header, ?_, hframe⟩, ?_, [p₄], Nat.le_refl 1, hpoints₄,
    ?_, ?_, ?_, ?_⟩
  · simp only [RosMoveJointGesture.setJoint, hjson₁, hjson₂, hjson₃, hjson₄,
      Option.bind_eq_bind, Option.bind_some]
  · rw [hother₄ _ (by decide), hother₃ _ (by decide), hother₂ _ (by decide),
      hother₁, if_neg (by decide), hheader]
  · rw [hother₄ _ (by decide), hother₃ _ (by decide), hother₂ _ (by decide),
      hother₁, if_pos rfl]
  · exact (hkeys₄ _).trans ((hkeys₃ _).trans ((hkeys₂ _).trans (if_pos rfl)))
  · exact (hkeys₄ _).trans ((hkeys₃ _).trans (if_pos rfl))
  · exact (hkeys₄ _).trans (if_pos rfl)
  · exact (hkeys₄ _).trans ((hkeys₃ _).trans ((hkeys₂ _).trans htime))

/-- The loop lays out all joints; it has been through `js` before. -/
theorem Laid.foldlM {goalId : String} (rest : List Joint) {js : List Joint}
    {time json : Value} (h : Laid goalId js time json) :
    ∃ json', (rest.zipIdx js.length).foldlM RosMoveJointGesture.setJoint json =
        some json' ∧ Laid goalId (js ++ rest) time json' := by
  induction rest generalizing js json with
  | nil => exact ⟨json, rfl, by rwa [List.append_nil]⟩
  | cons j rest ih =>
      obtain ⟨json', hjson', h'⟩ := h.setJoint j
      obtain ⟨json'', hjson'', h''⟩ := ih h'
      refine ⟨json'', ?_, ?_⟩
      · rw [List.zipIdx_cons, List.foldlM_cons, hjson']
        rw [List.length_append, List.length_singleton] at hjson''
        exact hjson''
      · rwa [List.append_assoc, List.singleton_append] at h''

/-- The time is set beside the joints. -/
theorem Laid.setTime {goalId : String} {js : List Joint}
    {time time' json : Value} (h : Laid goalId js time json) (key : String)
    (hset : time.set? key (.int 0) = some time') :
    ∃ json', updatePoint "time_from_start" (fun t => t.set? key (.int 0))
        json = some json' ∧ Laid goalId js time' json' := by
  obtain ⟨⟨header, hheader, hframe⟩, hnames, vs, hlen, hpoints, hpositions,
    hvelocities, haccelerations, htime⟩ := h
  obtain ⟨json', p, hjson, hpoint, hother, hkeys⟩ :=
    updatePoint_spec "time_from_start" (f := fun t => t.set? key (.int 0))
      hpoints hlen htime hset
  refine ⟨json', hjson, ⟨header, ?_, hframe⟩, ?_, [p], Nat.le_refl 1, hpoint,
    ?_, ?_, ?_, ?_⟩
  · rw [hother _ (by decide), hheader]
  · rw [hother _ (by decide), hnames]
  · exact (hkeys _).trans hpositions
  · exact (hkeys _).trans hvelocities
  · exact (hkeys _).trans haccelerations
  · exact (hkeys _).trans (if_pos rfl)

/-- Whatever the goal and the joints are, the value can be built, and its reader
finds them. -/
theorem readTrajectory_trajectory (m_GoalId : String) (joints : List Joint) :
    (trajectory m_GoalId joints).bind readTrajectory =
      some {
        frameId := .string m_GoalId
        names := joints.map fun j => .string j.name
        positions := joints.map fun j => .real j.angle
        velocities := joints.map fun _ => .int 0
        accelerations := joints.map fun _ => .int 0
        timeFromStart := (some (.int 0), some (.int 0)) } := by
  obtain ⟨json₁, hjson₁, h₁⟩ := laid_header m_GoalId
  obtain ⟨json₂, hjson₂, h₂⟩ := h₁.foldlM joints
  obtain ⟨json₃, hjson₃, h₃⟩ := h₂.setTime "secs" rfl
  obtain ⟨json₄, hjson₄, h₄⟩ := h₃.setTime "nsecs" rfl
  rw [List.nil_append] at h₄
  obtain ⟨⟨header, hheader, hframe⟩, hnames, vs, hlen, hpoints, hpositions,
    hvelocities, haccelerations, htime⟩ := h₄
  have hbuilt : trajectory m_GoalId joints = some json₄ := by
    simp only [trajectory, hjson₁, Option.bind_eq_bind, Option.bind_some]
    simp only [List.length_nil] at hjson₂
    rw [hjson₂]
    simp only [Option.bind_some, hjson₃, hjson₄]
  rw [hbuilt, Option.bind_some]
  simp only [readTrajectory, hheader, hframe, hnames, hpoints, at?_arrayOf,
    hpositions, hvelocities, haccelerations, htime, elements_arrayOf,
    Option.bind_eq_bind, Option.bind_some]
  rfl

end RosMoveJointGesture

end SelfPlugins.Ros
