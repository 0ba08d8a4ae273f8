import SelfPlugins.Abb.Platform
import SelfPlugins.Ros.Supervision

/-!
# The links to the robots

`ABBPlatform` and `RosPlatform` side by side.  Neither looks at which client a
notification comes from, so that a late one of a replaced client counts for the
current one.  `ABBPlatform` moreover drops its timer before it calls `Send()`,
ignores what is reported inside of it, and takes its failure for a success.
-/

namespace SelfPlugins.Supervision

open Runs Abb Ros

/-- Throughout a run a dead client is replaced at the next tick and no other is
replaced at all, if notifications of replaced clients that are down are handled
only while the current client is dead, and if for the ABB platform each
`Send()` that kills its client leaves a notification to be handled and the
client down. -/
theorem supervised_links (url : String) :
    (∀ es : List Event,
      EachStep (step ABBPlatform.supervisor) ABBPlatform.Heeded
          (ABBPlatform.start url) es →
        Throughout (step ABBPlatform.supervisor)
          (Supervised ABBPlatform.supervisor) (ABBPlatform.start url) es) ∧
      ∀ es : List Event,
        EachStep (step RosPlatform.supervisor)
            (NotStale RosPlatform.supervisor) (RosPlatform.start url) es →
          Throughout (step RosPlatform.supervisor)
            (Supervised RosPlatform.supervisor) (RosPlatform.start url) es :=
  ⟨fun _ => ABBPlatform.supervised_of_heeded url,
    fun _ => RosPlatform.supervised_of_notStale url⟩

/-- The constructor connects, and the connection is lost. -/
theorem supervised_links_lost :
    let es : List Event := [.timer ⟨⟨[], true, .connected⟩, 0⟩,
      .change 0 .disconnected, .notify 0]
    Throughout (step ABBPlatform.supervisor)
        (Supervised ABBPlatform.supervisor) (ABBPlatform.start "ws://robot") es ∧
      Throughout (step RosPlatform.supervisor)
        (Supervised RosPlatform.supervisor) (RosPlatform.start "ws://robot")
        es := by
  intro es
  obtain ⟨habb, hros⟩ := supervised_links "ws://robot"
  constructor
  · apply habb
    rintro _ ⟨⟩
    refine ⟨⟨trivial, fun o ho hfails => ?_⟩, ?_⟩
    · cases ho
      cases hfails
    rintro _ ⟨⟩
    refine ⟨⟨trivial, nofun⟩, ?_⟩
    rintro _ ⟨⟩
    exact ⟨⟨fun hstale => absurd rfl hstale, nofun⟩, trivial⟩
  · apply hros
    rintro _ ⟨⟩
    refine ⟨trivial, ?_⟩
    rintro _ ⟨⟩
    refine ⟨trivial, ?_⟩
    rintro _ ⟨⟩
    exact ⟨fun hstale => absurd rfl hstale, trivial⟩

/-- For the ABB platform the first `Send()` fails, and no timer is armed.  For
the ROS platform it fails, too, and its notification is handled when the next
client is connected, which the next tick then replaces. -/
theorem not_supervised_links :
    ¬Throughout (step ABBPlatform.supervisor)
        (Supervised ABBPlatform.supervisor) (ABBPlatform.start "ws://robot")
        [.timer ⟨⟨[], false, .disconnected⟩, 0⟩] ∧
      ¬Throughout (step RosPlatform.supervisor)
        (Supervised RosPlatform.supervisor) (RosPlatform.start "ws://robot")
        [.timer ⟨⟨[], false, .disconnected⟩, 1⟩,
          .timer ⟨⟨[], true, .connected⟩, 0⟩, .notify 0] := by
  constructor
  · intro h
    have hrun : (run (step ABBPlatform.supervisor)
        (ABBPlatform.start "ws://robot")
        [.timer ⟨⟨[], false, .disconnected⟩, 0⟩]).map
          (fun s => (s.marks, s.current ABBPlatform.supervisor,
            s.platform.reconnectTimer)) =
        some ([⟨0, true⟩], some ⟨0, true⟩, none) := by decide
    obtain ⟨t, hend, hobs⟩ := h.last hrun
    obtain ⟨hmarks, hobs⟩ := Prod.mk.inj hobs
    obtain ⟨hcurrent, htimer⟩ := Prod.mk.inj hobs
    have hnone : ∀ n ∈ t.marks, n.queued = 0 := by
      rw [hmarks]
      simp
    obtain ⟨harmed, -⟩ := hend.tended ⟨0, true⟩ hcurrent rfl hnone
    change t.platform.reconnectTimer.isSome = true at harmed
    rw [htimer] at harmed
    cases harmed
  · intro h
    let next : SendOutcome := ⟨[], true, .connected⟩
    have hrun : (run (step RosPlatform.supervisor)
        (RosPlatform.start "ws://robot")
        [.timer ⟨⟨[], false, .disconnected⟩, 1⟩,
          .timer ⟨⟨[], true, .connected⟩, 0⟩, .notify 0]).map
          (fun s => (s.current RosPlatform.supervisor,
            s.platform.getState s.platform.webClient, s.platform.webClient,
            (s.platform.connectToRobot next).webClient)) =
        some (some ⟨0, false⟩, .connected, 1, 2) := by decide
    obtain ⟨t, hend, hobs⟩ := h.last hrun
    obtain ⟨hcurrent, hobs⟩ := Prod.mk.inj hobs
    obtain ⟨hstate, hobs⟩ := Prod.mk.inj hobs
    obtain ⟨hclient, hnext⟩ := Prod.mk.inj hobs
    have hopen : t.platform.getState t.platform.webClient ≠ .closing := by
      rw [hstate]
      decide
    have hsame : (t.platform.connectToRobot next).webClient =
        t.platform.webClient :=
      hend.spared ⟨0, false⟩ hcurrent rfl hopen rfl next
    rw [hnext, hclient] at hsame
    cases hsame

end SelfPlugins.Supervision
