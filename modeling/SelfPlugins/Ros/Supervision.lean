import SelfPlugins.Framework.Supervision
import SelfPlugins.Library.Runs
import SelfPlugins.Ros.Platform

/-!
# Supervision by the ROS platform

The recurring timer of `RosPlatform` is held all the time, and its ticks are
gated by `m_bActive`.  The flag is set by `ConnectToRobot`, and cleared by a
failing `Send()` and by every `CLOSED` or `DISCONNECTED` notification, that of
a client replaced long ago included.
-/

namespace SelfPlugins.Ros

open Runs Supervision

namespace RosPlatform

def supervisor : Supervisor RosPlatform where
  armed _ := true
  webClient := webClient
  getState := getState
  setState := setState
  connectToRobot := connectToRobot
  onClientState := onClientState

/-- The platform before the constructor connects, which it does as if its timer
had ticked. -/
def start (url : String) : Link RosPlatform := ⟨blank url, []⟩

/-! ## The flag -/

theorem onClientState_active (k : ClientId) (s : RosPlatform) :
    (s.onClientState k).active = (s.active && !(s.getState k).isDown) := by
  rw [onClientState]
  cases hdown : (s.getState k).isDown with
  | false => simp
  | true => simp

theorem onClientState_clients (k : ClientId) (s : RosPlatform) :
    (s.onClientState k).webClient = s.webClient ∧
      (s.onClientState k).clients = s.clients := by
  rw [onClientState]
  split
  · exact ⟨rfl, rfl⟩
  · exact ⟨rfl, rfl⟩

theorem notify_active {k : ClientId} {s : RosPlatform}
    (hk : k < s.clients.length) (st : ClientState) :
    (s.notify k st).active = (s.active && !st.isDown) := by
  rw [notify, onClientState_active, getState_setState hk, if_pos rfl]
  rfl

theorem send_active {k : ClientId} {s : RosPlatform}
    (hk : k < s.clients.length) (o : SendOutcome) :
    (s.send k o).active = (s.active && !o.notified.any ClientState.isDown) := by
  have hfold : ∀ (sts : List ClientState) (s : RosPlatform),
      k < s.clients.length →
      (sts.foldl (fun s st => s.notify k st) s).active =
        (s.active && !sts.any ClientState.isDown) := by
    intro sts
    induction sts with
    | nil => simp
    | cons st sts ih =>
        intro s hk
        have hk' : k < (s.notify k st).clients.length := by
          rwa [(notify_spec k st s).2.2]
        rw [List.foldl_cons, ih _ hk', notify_active hk, List.any_cons,
          Bool.not_or, Bool.and_assoc]
  exact hfold o.notified s hk

/-- After a connect the flag tells whether the new client is alive. -/
theorem connectToRobot_active {s : RosPlatform} (hs : s.active = false)
    (o : Sending) :
    (s.connectToRobot o.toSendOutcome).active = !o.fails := by
  have hlt : s.clients.length < s.createClient.clients.length := by
    simp [createClient]
  have hsend := send_active hlt o.toSendOutcome
  rw [connectToRobot, if_neg (by simp [hs]), Sending.fails]
  cases hok : o.ok with
  | false => simp
  | true => simpa [createClient] using hsend

/-! ## Runs -/

/-- What steps that are not stale keep: the flag is set while the current
client is alive. -/
structure Gated (s : Link RosPlatform) : Prop where
  length : s.marks.length = s.platform.clients.length
  inside : s.platform.active = true →
    s.platform.webClient < s.marks.length
  current : ∀ m ∈ s.current supervisor, m.dead = !s.platform.active

/-- A tick of an inactive platform puts a new client in place of the old
one. -/
theorem Gated.replaces {s : Link RosPlatform} (hs : Gated s)
    (hactive : s.platform.active = false) (o : SendOutcome) :
    (s.platform.connectToRobot o).webClient = s.marks.length := by
  rcases connectToRobot_cases o s.platform with ⟨h, -⟩ | ⟨-, -, h, -⟩
  · cases hactive.symm.trans h
  · exact h.trans hs.length.symm

theorem Gated.supervised {s : Link RosPlatform} (hs : Gated s) :
    Supervised supervisor s where
  tended := by
    intro m hm hdead _
    rw [hs.current m hm, Bool.not_eq_true'] at hdead
    exact ⟨rfl, hs.replaces hdead⟩
  spared := by
    intro m hm halive _ _ o
    rw [hs.current m hm, Bool.not_eq_false'] at halive
    have hsame : s.platform.connectToRobot o = s.platform :=
      if_pos halive
    exact congrArg webClient hsame

theorem Gated.timer {s : Link RosPlatform} (hs : Gated s) {o : Sending}
    (hactive : s.platform.active = false) :
    Gated ⟨s.platform.connectToRobot o.toSendOutcome,
      s.marks ++ [o.mark]⟩ := by
  have hclient := hs.replaces hactive o.toSendOutcome
  refine ⟨?_, fun _ => ?_, fun m hm => ?_⟩
  · rcases connectToRobot_cases o.toSendOutcome s.platform with
      ⟨h, -⟩ | ⟨-, -, -, h, -⟩
    · cases hactive.symm.trans h
    · rw [List.length_append, hs.length]
      exact h.symm
  · rw [hclient, List.length_append]
    exact Nat.lt_succ_self _
  · have hcurrent := current_append (v := supervisor) (m := o.mark)
      (p := s.platform.connectToRobot o.toSendOutcome) hclient
    rw [hcurrent, Option.mem_some_iff] at hm
    subst hm
    rw [connectToRobot_active hactive, Bool.not_not]
    rfl

theorem Gated.notify {s : Link RosPlatform} (hs : Gated s) {k : ℕ} {m : Mark}
    (hk : s.marks[k]? = some m) (hstale : NotStale supervisor s (.notify k)) :
    Gated ⟨s.platform.onClientState k, s.marks.set k
      ⟨m.queued - 1, m.dead || (s.platform.getState k).isDown⟩⟩ := by
  obtain ⟨hclient, hclients⟩ := onClientState_clients k s.platform
  have hactive := onClientState_active k s.platform
  refine ⟨?_, fun h => ?_, forall_current_set hk hclient ?_ ?_⟩
  · rw [List.length_set, hs.length]
    exact congrArg List.length hclients.symm
  · rw [hclient, List.length_set]
    rw [hactive, Bool.and_eq_true] at h
    exact hs.inside h.1
  · intro _ hm
    rw [hactive, hs.current m hm, Bool.not_and, Bool.not_not]
  · intro hne n hn
    rw [hactive]
    cases hdown : (s.platform.getState k).isDown with
    | false =>
        rw [Bool.not_false, Bool.and_true]
        exact hs.current n hn
    | true =>
        rw [Bool.not_true, Bool.and_false]
        exact hstale hne hdown n hn

theorem Gated.next {s t : Link RosPlatform} {e : Supervision.Event}
    (hs : Gated s) (he : NotStale supervisor s e)
    (ht : Supervision.step supervisor s e = some t) : Gated t := by
  cases e with
  | timer o =>
      cases hactive : s.platform.active with
      | false =>
          rw [step_timer_new rfl (hs.replaces hactive o.toSendOutcome)] at ht
          cases ht
          exact hs.timer hactive
      | true =>
          rw [step_timer_same rfl (if_pos hactive) (hs.inside hactive)] at ht
          cases ht
          exact hs
  | change k st =>
      obtain ⟨m, hk, h⟩ := Option.bind_eq_some_iff.mp ht
      split at h
      · cases h
        refine ⟨?_, fun h => ?_, forall_current_set hk rfl ?_ ?_⟩
        · rw [List.length_set, hs.length]
          exact (List.length_modify ..).symm
        · rw [List.length_set]
          exact hs.inside h
        · exact fun _ hm => hs.current m hm
        · exact fun _ => hs.current
      · cases h
  | notify k =>
      obtain ⟨m, hk, h⟩ := Option.bind_eq_some_iff.mp ht
      split at h
      · cases h
      · cases h
        exact hs.notify hk he

theorem gated_start (url : String) : Gated (start url) where
  length := rfl
  inside := nofun
  current := nofun

/-- A run without stale notifications is supervised throughout. -/
theorem supervised_of_notStale (url : String) {es : List Supervision.Event}
    (hes : EachStep (Supervision.step supervisor) (NotStale supervisor)
      (start url) es) :
    Throughout (Supervision.step supervisor) (Supervised supervisor)
      (start url) es :=
  (throughout_of_eachStep (fun _ _ _ hs he ht => Gated.next hs he ht)
    (gated_start url) hes).mono fun _ hs => hs.supervised

end RosPlatform

end SelfPlugins.Ros
