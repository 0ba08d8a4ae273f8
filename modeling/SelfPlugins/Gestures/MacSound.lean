import SelfPlugins.Framework.Json
import SelfPlugins.Library.Runs

/-!
# The sounds of the Mac

`MacSoundGesture` works through its requests as the gestures of
`SelfPlugins.Gestures.Scripts` do, but reads the parameters of a request when
its turn comes, in `Execute` or `OnSoundDone`, before it has a thread.
`asString` and `asFloat` throw for members of the wrong type.  Then nothing is
queued that would pop the request: it stays in front.

`sounds_played` says that the requests before the first one with such a member
are served one after the other, each with the sound given last, and that no
other is ever served.
-/

namespace SelfPlugins.Gestures

open Json Runs

namespace MacSoundGesture

/-! ## Translated functions -/

/-- The parameters of a request that `Play` looks at. -/
structure Params where
  sound : Option Value := none
  volume : Option Value := none
  pan : Option Value := none

/-- The members, which are those of the configuration at first. -/
structure Members where
  m_Sound : String
  m_fVolume : ℚ
  m_fPan : ℚ

/-- A parameter replaces the member, unless there is none or reading it
throws. -/
def replace {α : Type} (read : Value → Option α) (old : α) :
    Option Value → Option α
  | none => some old
  | some v => read v

/-- The gesture: its queue, the threads at work, the calls of `OnSoundDone` that
are queued, the commands given to the system, and the requests that have been
completed and executed so far. -/
structure State where
  members : Members
  requests : List Params := []
  threads : ℕ := 0
  dones : ℕ := 0
  commands : List String := []
  completed : List Params := []
  executed : List Params := []

section

variable (realText : ℚ → String) (float : ℚ → ℚ) (staticDataPath : String)

/-- The parameters are read in turn; what has been read before an exception
stays replaced. -/
def readParams (p : Params) (m : Members) : Bool × Members :=
  match replace (Value.asString? realText) m.m_Sound p.sound with
  | none => (false, m)
  | some sound =>
      let m := { m with m_Sound := sound }
      match replace (fun v => v.asDouble?.map float) m.m_fVolume p.volume with
      | none => (false, m)
      | some volume =>
          let m := { m with m_fVolume := volume }
          match replace (fun v => v.asDouble?.map float) m.m_fPan p.pan with
          | none => (false, m)
          | some pan => (true, { m with m_fPan := pan })

/-- `Play` starts a thread, if nothing has thrown. -/
def play (s : State) : State :=
  match s.requests with
  | [] => s
  | p :: _ =>
      let read := readParams realText float p s.members
      { s with members := read.2, threads := s.threads + read.1.toNat }

def push (p : Params) (s : State) : State :=
  { s with
    requests := s.requests ++ [p]
    executed := s.executed ++ [p] }

def pop (s : State) : State :=
  { s with
    requests := s.requests.tail
    completed := s.completed ++ s.requests.head?.toList }

/-- `Execute` -/
def execute (p : Params) (s : State) : State :=
  if s.requests.isEmpty then play realText float (push p s) else push p s

/-- What `PlayThread` gives to the system. -/
def command (sound : String) : String :=
  "afplay " ++ (staticDataPath ++ sound)

/-- `PlayThread`, whatever the system returns. -/
def playThread (s : State) : State :=
  { s with
    commands := s.commands ++ [command staticDataPath s.members.m_Sound]
    threads := s.threads - 1
    dones := s.dones + 1 }

/-- `OnSoundDone` -/
def onSoundDone (s : State) : State :=
  let t := pop { s with dones := s.dones - 1 }
  if t.requests.isEmpty then t else play realText float t

inductive Event
  | execute (p : Params)
  | playThread
  | onSoundDone

def step (s : State) : Event → Option State
  | .execute p => some (execute realText float p s)
  | .playThread =>
      if 0 < s.threads then some (playThread staticDataPath s) else none
  | .onSoundDone =>
      if 0 < s.dones then some (onSoundDone realText float s) else none

/-! ## What is played -/

/-- No member of the request makes `Play` throw. -/
def Params.readable (p : Params) : Bool :=
  p.sound.all (fun v => (v.asString? realText).isSome) &&
    p.volume.all (fun v => v.asDouble?.isSome) &&
    p.pan.all (fun v => v.asDouble?.isSome)

/-- The sound given last. -/
def lastSound (m : Members) (ps : List Params) : String :=
  (ps.reverse.findSome? fun p => p.sound.bind (Value.asString? realText)).getD
    m.m_Sound

/-- The commands for the requests `ps`. -/
def commandsFor (m : Members) (ps : List Params) : List String :=
  (List.range ps.length).map fun i =>
    command staticDataPath (lastSound realText m (ps.take (i + 1)))

/-- The requests before the first one that cannot be read. -/
def served (ps : List Params) : List Params :=
  ps.takeWhile (Params.readable realText)

/-- The requests that can be served are completed in the order of the calls of
`Execute`, each after its command.  Once nothing is at work, all of them are,
and the others wait. -/
structure Played (m : Members) (s : State) : Prop where
  order : s.completed ++ s.requests = s.executed
  completed : s.completed <+: served realText s.executed
  commands : s.commands <+:
    commandsFor realText staticDataPath m (served realText s.executed)
  turn : s.commands.length = s.completed.length + s.dones
  one : s.threads + s.dones ≤ 1
  rest : s.threads = 0 → s.dones = 0 →
    s.completed = served realText s.executed ∧
      s.commands = commandsFor realText staticDataPath m s.completed

end

/-! ## Lemmas -/

section

variable {realText : ℚ → String} {float : ℚ → ℚ} {staticDataPath : String}
  {m : Members} {p : Params} {ps : List Params} {s t : State}

theorem replace_map_isSome {α : Type} (read : Value → Option α) (old : α)
    (o : Option Value) :
    (replace read old o).isSome = o.all fun v => (read v).isSome := by
  cases o <;> rfl

/-- Reading the parameters throws iff one of them cannot be read, and else the
sound is the one given, if any. -/
theorem readParams_spec (realText : ℚ → String) (float : ℚ → ℚ) (p : Params)
    (m : Members) :
    (readParams realText float p m).1 = p.readable realText ∧
      (p.readable realText = true →
        (readParams realText float p m).2.m_Sound =
          (p.sound.bind (Value.asString? realText)).getD m.m_Sound) := by
  have hsound := replace_map_isSome (Value.asString? realText) m.m_Sound p.sound
  have hvolume := replace_map_isSome (fun v => v.asDouble?.map float)
    m.m_fVolume p.volume
  have hpan := replace_map_isSome (fun v => v.asDouble?.map float) m.m_fPan
    p.pan
  simp only [Option.isSome_map] at hvolume hpan
  unfold readParams Params.readable
  rw [← hsound, ← hvolume, ← hpan]
  split
  · next hnone => simp [hnone]
  · next sound hsome =>
    have hread : (p.sound.bind (Value.asString? realText)).getD m.m_Sound =
        sound := by
      cases hp : p.sound with
      | none =>
          rw [hp] at hsome
          exact Option.some.inj hsome
      | some v =>
          rw [hp] at hsome
          rw [Option.bind_some, show v.asString? realText = some sound from
            hsome, Option.getD_some]
    dsimp only
    split
    · next hnone => simp [hsome, hnone]
    · next volume hvolume =>
      split
      · next hnone => simp [hsome, hvolume, hnone]
      · next pan hpan => simp [hsome, hvolume, hpan, hread]

theorem lastSound_append (m : Members) (ps : List Params) (p : Params) :
    lastSound realText m (ps ++ [p]) =
      (p.sound.bind (Value.asString? realText)).getD
        (lastSound realText m ps) := by
  rw [lastSound, List.reverse_append, List.reverse_singleton,
    List.singleton_append, List.findSome?_cons]
  cases p.sound.bind (Value.asString? realText) with
  | none => rfl
  | some sound => rfl

theorem length_commandsFor (m : Members) (ps : List Params) :
    (commandsFor realText staticDataPath m ps).length = ps.length := by
  rw [commandsFor, List.length_map, List.length_range]

theorem commandsFor_append (m : Members) (ps : List Params) (p : Params) :
    commandsFor realText staticDataPath m (ps ++ [p]) =
      commandsFor realText staticDataPath m ps ++
        [command staticDataPath (lastSound realText m (ps ++ [p]))] := by
  rw [commandsFor, List.length_append, List.length_singleton, List.range_succ,
    List.map_append]
  congr 1
  · refine List.map_congr_left fun i hi => ?_
    rw [List.take_append_of_le_length (List.mem_range.mp hi)]
  · rw [List.map_singleton, List.take_of_length_le (by simp)]

/-- More requests mean more commands. -/
theorem commandsFor_prefix (realText : ℚ → String) (staticDataPath : String)
    (m : Members) (ps qs : List Params) :
    commandsFor realText staticDataPath m ps <+:
      commandsFor realText staticDataPath m (ps ++ qs) := by
  induction qs generalizing ps with
  | nil => exact ⟨[], by simp⟩
  | cons q qs ih =>
      have hone := ih (ps ++ [q])
      rw [List.append_assoc, List.singleton_append, commandsFor_append] at hone
      exact (List.prefix_append _ _).trans hone

/-! ## The stages of a request -/

/-- Nothing is at work, and the sound is the one given last. -/
structure Idle (realText : ℚ → String) (staticDataPath : String) (m : Members)
    (s : State) : Prop where
  threads : s.threads = 0
  dones : s.dones = 0
  commands : s.commands = commandsFor realText staticDataPath m s.completed

/-- What has become of the request in front: it could not be read, it has a
thread, or it has been played. -/
inductive Stage (realText : ℚ → String) (staticDataPath : String) (m : Members)
    (s : State) : Prop
  | resting (h : Idle realText staticDataPath m s) (hrequests : s.requests = [])
      (hsound : s.members.m_Sound = lastSound realText m s.completed)
  | stuck (h : Idle realText staticDataPath m s) (p : Params)
      (rest : List Params) (hrequests : s.requests = p :: rest)
      (hread : p.readable realText = false)
  | playing (p : Params) (rest : List Params)
      (hrequests : s.requests = p :: rest)
      (hread : p.readable realText = true) (hthreads : s.threads = 1)
      (hdones : s.dones = 0)
      (hcommands : s.commands =
        commandsFor realText staticDataPath m s.completed)
      (hsound : s.members.m_Sound = lastSound realText m (s.completed ++ [p]))
  | played (p : Params) (rest : List Params)
      (hrequests : s.requests = p :: rest)
      (hread : p.readable realText = true) (hthreads : s.threads = 0)
      (hdones : s.dones = 1)
      (hcommands : s.commands =
        commandsFor realText staticDataPath m (s.completed ++ [p]))
      (hsound : s.members.m_Sound = lastSound realText m (s.completed ++ [p]))

/-- The invariant of the gesture. -/
structure Inv (realText : ℚ → String) (staticDataPath : String) (m : Members)
    (s : State) : Prop where
  order : s.completed ++ s.requests = s.executed
  readable : ∀ p ∈ s.completed, p.readable realText = true
  stage : Stage realText staticDataPath m s

/-- `Play`, for the request whose turn has come. -/
theorem stage_play (h : Idle realText staticDataPath m s)
    (hsound : s.members.m_Sound = lastSound realText m s.completed)
    {rest : List Params} (hrequests : s.requests = p :: rest) :
    Stage realText staticDataPath m (play realText float s) := by
  obtain ⟨hread, hmember⟩ := readParams_spec realText float p s.members
  have hplay : play realText float s = { s with
      members := (readParams realText float p s.members).2
      threads := s.threads + (p.readable realText).toNat } := by
    rw [play, hrequests, ← hread]
  rw [hplay]
  cases hreadable : p.readable realText with
  | false =>
      exact .stuck ⟨h.threads, h.dones, h.commands⟩ p rest hrequests hreadable
  | true =>
      refine .playing p rest hrequests hreadable ?_ h.dones h.commands ?_
      · change s.threads + 1 = 1
        rw [h.threads]
      · rw [lastSound_append, ← hsound]
        exact hmember hreadable

theorem play_requests : (play realText float s).requests = s.requests := by
  rw [play]
  split <;> rfl

theorem play_completed : (play realText float s).completed = s.completed := by
  rw [play]
  split <;> rfl

theorem play_executed : (play realText float s).executed = s.executed := by
  rw [play]
  split <;> rfl

theorem inv_play (order : s.completed ++ s.requests = s.executed)
    (readable : ∀ p ∈ s.completed, p.readable realText = true)
    (stage : Stage realText staticDataPath m (play realText float s)) :
    Inv realText staticDataPath m (play realText float s) where
  order := by rw [play_completed, play_requests, play_executed, order]
  readable := by rwa [play_completed]
  stage := stage

theorem Inv.execute (h : Inv realText staticDataPath m s) (p : Params) :
    Inv realText staticDataPath m (execute realText float p s) := by
  have horder : s.completed ++ (s.requests ++ [p]) = s.executed ++ [p] := by
    rw [← List.append_assoc, h.order]
  rw [MacSoundGesture.execute, push]
  cases h.stage with
  | resting hidle hrequests hsound =>
      rw [hrequests, List.isEmpty_nil, if_pos rfl]
      rw [hrequests] at horder
      exact inv_play horder h.readable
        (stage_play ⟨hidle.threads, hidle.dones, hidle.commands⟩ hsound rfl)
  | stuck hidle q rest hrequests hread =>
      rw [hrequests, List.isEmpty_cons, if_neg Bool.false_ne_true]
      rw [hrequests] at horder
      exact ⟨horder, h.readable,
        .stuck ⟨hidle.threads, hidle.dones, hidle.commands⟩ q _ rfl hread⟩
  | playing q rest hrequests hread hthreads hdones hcommands hsound =>
      rw [hrequests, List.isEmpty_cons, if_neg Bool.false_ne_true]
      rw [hrequests] at horder
      exact ⟨horder, h.readable,
        .playing q _ rfl hread hthreads hdones hcommands hsound⟩
  | played q rest hrequests hread hthreads hdones hcommands hsound =>
      rw [hrequests, List.isEmpty_cons, if_neg Bool.false_ne_true]
      rw [hrequests] at horder
      exact ⟨horder, h.readable,
        .played q _ rfl hread hthreads hdones hcommands hsound⟩

theorem Inv.playThread (h : Inv realText staticDataPath m s)
    (hthreads : 0 < s.threads) :
    Inv realText staticDataPath m (playThread staticDataPath s) := by
  refine ⟨h.order, h.readable, ?_⟩
  cases h.stage with
  | resting hidle => exact absurd hidle.threads hthreads.ne'
  | stuck hidle => exact absurd hidle.threads hthreads.ne'
  | played _ _ _ _ hnone => exact absurd hnone hthreads.ne'
  | playing p rest hrequests hread hone hdones hcommands hsound =>
      refine .played p rest hrequests hread ?_ ?_ ?_ hsound
      · change s.threads - 1 = 0
        rw [hone]
      · change s.dones + 1 = 1
        rw [hdones]
      · change s.commands ++ [command staticDataPath s.members.m_Sound] = _
        rw [hcommands, hsound, ← commandsFor_append]
        rfl

theorem Inv.onSoundDone (h : Inv realText staticDataPath m s)
    (hdones : 0 < s.dones) :
    Inv realText staticDataPath m (onSoundDone realText float s) := by
  cases h.stage with
  | resting hidle => exact absurd hidle.dones hdones.ne'
  | stuck hidle => exact absurd hidle.dones hdones.ne'
  | playing _ _ _ _ _ hnone => exact absurd hnone hdones.ne'
  | played p rest hrequests hread hthreads hone hcommands hsound =>
      have horder : (s.completed ++ [p]) ++ rest = s.executed := by
        rw [List.append_assoc, List.singleton_append, ← hrequests, h.order]
      have hreadable : ∀ q ∈ s.completed ++ [p],
          q.readable realText = true := by
        intro q hq
        rcases List.mem_append.mp hq with hq | hq
        · exact h.readable q hq
        · rwa [List.mem_singleton.mp hq]
      have hpop : pop { s with dones := s.dones - 1 } = { s with
          dones := 0, requests := rest, completed := s.completed ++ [p] } := by
        rw [pop, hrequests, hone]
        rfl
      rw [MacSoundGesture.onSoundDone, hpop]
      cases rest with
      | nil =>
          rw [List.isEmpty_nil, if_pos rfl]
          exact ⟨horder, hreadable,
            .resting ⟨hthreads, rfl, hcommands⟩ rfl hsound⟩
      | cons q rest =>
          rw [List.isEmpty_cons, if_neg Bool.false_ne_true]
          exact inv_play horder hreadable
            (stage_play ⟨hthreads, rfl, hcommands⟩ hsound rfl)

theorem Inv.step {e : Event} (h : Inv realText staticDataPath m s)
    (ht : step realText float staticDataPath s e = some t) :
    Inv realText staticDataPath m t := by
  cases e with
  | execute p =>
      obtain rfl := Option.some.inj ht
      exact h.execute p
  | playThread =>
      obtain ⟨hthreads, hplayed⟩ := Option.ite_none_right_eq_some.mp ht
      obtain rfl := Option.some.inj hplayed
      exact h.playThread hthreads
  | onSoundDone =>
      obtain ⟨hdones, hdone⟩ := Option.ite_none_right_eq_some.mp ht
      obtain rfl := Option.some.inj hdone
      exact h.onSoundDone hdones

/-- The requests that are served, for a state in which some are completed. -/
theorem Inv.served (h : Inv realText staticDataPath m s) :
    served realText s.executed =
      s.completed ++ served realText s.requests := by
  rw [← h.order, MacSoundGesture.served,
    List.takeWhile_append_of_pos h.readable]
  rfl

theorem served_cons (hread : p.readable realText = true) :
    served realText (p :: ps) = p :: served realText ps :=
  List.takeWhile_cons_of_pos hread

theorem played_of_inv (h : Inv realText staticDataPath m s) :
    Played realText staticDataPath m s := by
  have hserved := h.served
  have hcompleted : s.completed <+: served realText s.executed := by
    rw [hserved]
    exact List.prefix_append _ _
  have hfirst := commandsFor_prefix realText staticDataPath m s.completed
    (served realText s.requests)
  rw [← hserved] at hfirst
  have hidle : Idle realText staticDataPath m s →
      served realText s.requests = [] →
      Played realText staticDataPath m s := by
    intro hidle hnil
    rw [hnil, List.append_nil] at hserved
    refine ⟨h.order, hcompleted, hidle.commands ▸ hfirst, ?_, ?_, fun _ _ =>
      ⟨hserved.symm, hidle.commands⟩⟩
    · rw [hidle.commands, length_commandsFor, hidle.dones, Nat.add_zero]
    · rw [hidle.threads, hidle.dones]
      exact Nat.zero_le 1
  cases h.stage with
  | resting h hrequests =>
      refine hidle h ?_
      rw [hrequests]
      rfl
  | stuck h p rest hrequests hread =>
      refine hidle h ?_
      rw [hrequests]
      exact List.takeWhile_cons_of_neg (Bool.eq_false_iff.mp hread)
  | playing p rest hrequests hread hthreads hdones hcommands =>
      refine ⟨h.order, hcompleted, hcommands ▸ hfirst, ?_, ?_, fun hnone => ?_⟩
      · rw [hcommands, length_commandsFor, hdones, Nat.add_zero]
      · rw [hthreads, hdones]
      · rw [hthreads] at hnone
        cases hnone
  | played p rest hrequests hread hthreads hdones hcommands =>
      have hmore := commandsFor_prefix realText staticDataPath m
        (s.completed ++ [p]) (served realText rest)
      rw [List.append_assoc, List.singleton_append, ← served_cons hread,
        ← hrequests, ← hserved] at hmore
      refine ⟨h.order, hcompleted, hcommands ▸ hmore, ?_, ?_,
        fun _ hnone => ?_⟩
      · rw [hcommands, length_commandsFor, hdones, List.length_append,
          List.length_singleton]
      · rw [hthreads, hdones]
      · rw [hdones] at hnone
        cases hnone

end

end MacSoundGesture

open MacSoundGesture in
/-- However `Execute`, the threads and the calls of `OnSoundDone` are
interleaved: volume and pan have no effect, a request that gives no sound plays
the one given last, and nothing from the first request on that `Play` cannot
read is ever played or completed. -/
theorem sounds_played (realText : ℚ → String) (float : ℚ → ℚ)
    (staticDataPath : String) (m : Members)
    (es : List MacSoundGesture.Event) :
    Throughout (step realText float staticDataPath)
      (Played realText staticDataPath m) { members := m } es := by
  have hinv : Throughout (step realText float staticDataPath)
      (Inv realText staticDataPath m) { members := m } es :=
    throughout_of_eachStep (C := fun _ _ => True)
      (fun _ _ _ h _ ht => h.step ht)
      ⟨rfl, nofun, .resting ⟨rfl, rfl, rfl⟩ rfl rfl⟩ (eachStep_true _ es)
  exact hinv.mono fun _ h => played_of_inv h

end SelfPlugins.Gestures
