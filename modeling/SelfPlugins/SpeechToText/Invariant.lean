import SelfPlugins.SpeechToText.Tended

/-!
# Speech to text: the invariant

Every connection of the service is tended.  The loops of `StartListening` and
`RefreshConnections` are interrupted by calls of `Send()`: a connection that is
being started is `alive` before it is in `m_Connections`, and the connections
that are still to be refreshed are `waiting`.
-/

namespace SelfPlugins.Stt

namespace SpeechToText

variable {p : Prop}

/-- The connections, with the one that is being started. -/
def alive (s : SpeechToText) : List ConnId :=
  match s.loop with
  | .starting c _ => s.connections ++ [c]
  | .idle | .refreshing _ => s.connections

/-- The connections that are still to be refreshed. -/
def waiting (s : SpeechToText) : List ConnId :=
  match s.loop with
  | .refreshing cs => cs
  | .idle | .starting _ _ => []

/-- The invariant, but for the connection `c`, the only one that may be inside
of `Send()`. -/
structure InvBut (p : Prop) (c : ConnId) (s : SpeechToText) : Prop where
  listening : s.isListening = true
  nodup : s.alive.Nodup
  bound : ∀ c' ∈ s.alive, c' < s.nextConn
  waiting_nodup : s.waiting.Nodup
  waiting_alive : ∀ c' ∈ s.waiting, c' ∈ s.alive
  noSelfStop : p → s.selfStops = []
  mem : c ∈ s.alive
  not_waiting : c ∉ s.waiting
  calls : Calls c s
  tended : ∀ c' ∈ s.alive, c' ≠ c → Tended p s c'

structure Inv (p : Prop) (s : SpeechToText) : Prop where
  silent : s.isListening = false → s.alive = []
  nodup : s.alive.Nodup
  bound : ∀ c ∈ s.alive, c < s.nextConn
  waiting_nodup : s.waiting.Nodup
  waiting_alive : ∀ c ∈ s.waiting, c ∈ s.alive
  noSelfStop : p → s.selfStops = []
  calls : s.sends = [] ∨ ∃ c ∈ s.alive, c ∉ s.waiting ∧ Calls c s
  tended : ∀ c ∈ s.alive, Tended p s c

/-- What holds between two calls of `Send()`, whatever is left of the loops. -/
structure Resting (p : Prop) (s : SpeechToText) : Prop where
  silent : s.isListening = false → s.connections = []
  nodup : s.connections.Nodup
  bound : ∀ c ∈ s.connections, c < s.nextConn
  noSelfStop : p → s.selfStops = []
  sends : s.sends = []
  tended : ∀ c ∈ s.connections, Tended p s c

theorem Only.alive {c : ConnId} {s t : SpeechToText} (h : Only c s t) :
    t.alive = s.alive := by
  rw [SpeechToText.alive, SpeechToText.alive, h.loop, h.connections]

theorem Only.waiting {c : ConnId} {s t : SpeechToText} (h : Only c s t) :
    t.waiting = s.waiting := by
  rw [SpeechToText.waiting, SpeechToText.waiting, h.loop]

theorem Quiet.alive {s t : SpeechToText} (h : Quiet s t) :
    t.alive = s.alive := by
  rw [SpeechToText.alive, SpeechToText.alive, h.loop, h.connections]

theorem Quiet.waiting {s t : SpeechToText} (h : Quiet s t) :
    t.waiting = s.waiting := by
  rw [SpeechToText.waiting, SpeechToText.waiting, h.loop]

theorem Inv.listening {s : SpeechToText} (h : Inv p s) {c : ConnId}
    (hc : c ∈ s.alive) : s.isListening = true := by
  cases hlistening : s.isListening with
  | true => rfl
  | false =>
      rw [h.silent hlistening] at hc
      cases hc

theorem Inv.but {s : SpeechToText} (h : Inv p s) {c : ConnId}
    (hc : c ∈ s.alive) (hwaiting : c ∉ s.waiting) (hcalls : Calls c s) :
    InvBut p c s where
  listening := h.listening hc
  nodup := h.nodup
  bound := h.bound
  waiting_nodup := h.waiting_nodup
  waiting_alive := h.waiting_alive
  noSelfStop := h.noSelfStop
  mem := hc
  not_waiting := hwaiting
  calls := hcalls
  tended c' hc' _ := h.tended c' hc'

theorem InvBut.only {s t : SpeechToText} {c : ConnId} (h : InvBut p c s)
    (hst : Only c s t) (hcalls : Calls c t) : InvBut p c t where
  listening := hst.isListening.trans h.listening
  nodup := by
    rw [hst.alive]
    exact h.nodup
  bound := by
    rw [hst.alive, hst.nextConn]
    exact h.bound
  waiting_nodup := by
    rw [hst.waiting]
    exact h.waiting_nodup
  waiting_alive := by
    rw [hst.waiting, hst.alive]
    exact h.waiting_alive
  noSelfStop := by
    rw [hst.selfStops]
    exact h.noSelfStop
  mem := by
    rw [hst.alive]
    exact h.mem
  not_waiting := by
    rw [hst.waiting]
    exact h.not_waiting
  calls := hcalls
  tended c' hc' hne := by
    rw [hst.alive] at hc'
    exact (h.tended c' hc' hne).only hst h.calls hne

theorem InvBut.inv {s : SpeechToText} {c : ConnId} (h : InvBut p c s)
    (hc : Tended p s c) : Inv p s where
  silent hsilent := by
    rw [h.listening] at hsilent
    cases hsilent
  nodup := h.nodup
  bound := h.bound
  waiting_nodup := h.waiting_nodup
  waiting_alive := h.waiting_alive
  noSelfStop := h.noSelfStop
  calls := Or.inr ⟨c, h.mem, h.not_waiting, h.calls⟩
  tended c' hc' := by
    by_cases heq : c' = c
    · rw [heq]
      exact hc
    · exact h.tended c' hc' heq

/-- A function called for `c` restores the invariant. -/
theorem InvBut.served {s t : SpeechToText} {c : ConnId}
    (h : InvBut p c s) (hst : Served p c s t) : Inv p t :=
  (h.only hst.toOnly hst.calls).inv hst.tended

theorem Inv.quiet {s t : SpeechToText} (h : Inv p s) (hst : Quiet s t) :
    Inv p t where
  silent := by
    rw [hst.isListening, hst.alive]
    exact h.silent
  nodup := by
    rw [hst.alive]
    exact h.nodup
  bound := by
    rw [hst.alive, hst.nextConn]
    exact h.bound
  waiting_nodup := by
    rw [hst.waiting]
    exact h.waiting_nodup
  waiting_alive := by
    rw [hst.waiting, hst.alive]
    exact h.waiting_alive
  noSelfStop := by
    rw [hst.selfStops]
    exact h.noSelfStop
  calls := by
    rw [hst.sends, hst.alive, hst.waiting]
    rcases h.calls with hsends | ⟨c, hc, hwaiting, hcalls⟩
    · exact Or.inl hsends
    · exact Or.inr ⟨c, hc, hwaiting, hst.calls hcalls⟩
  tended c hc := by
    rw [hst.alive] at hc
    exact (h.tended c hc).quiet hst

theorem Idle.quiet {s t : SpeechToText} (h : s.Idle) (hst : Quiet s t) :
    t.Idle :=
  ⟨hst.sends.trans h.1, hst.loop.trans h.2⟩

theorem Idle.alive {s : SpeechToText} (h : s.Idle) :
    s.alive = s.connections := by
  rw [SpeechToText.alive, h.2]

theorem Idle.waiting {s : SpeechToText} (h : s.Idle) : s.waiting = [] := by
  rw [SpeechToText.waiting, h.2]

/-- Between two events a connection can be set aside. -/
theorem Inv.but_of_idle {s : SpeechToText} (h : Inv p s) (hidle : s.Idle)
    {c : ConnId} (hc : c ∈ s.connections) : InvBut p c s := by
  apply h.but
  · rw [hidle.alive]
    exact hc
  · rw [hidle.waiting]
    exact List.not_mem_nil
  · exact calls_of_nil hidle.1 c

theorem inv_new (settings : Settings) : Inv p (new settings) where
  silent _ := rfl
  nodup := List.nodup_nil
  bound := by
    intro c hc
    cases hc
  waiting_nodup := List.nodup_nil
  waiting_alive := by
    intro c hc
    cases hc
  noSelfStop _ := rfl
  calls := Or.inl rfl
  tended := by
    intro c hc
    cases hc

/-! ## The loops -/

/-- A change of the loops and of the list of connections. -/
theorem Tended.loop {s : SpeechToText} {c : ConnId} (h : Tended p s c)
    (cs : List ConnId) (n : ℕ) (loop : Loop) :
    Tended p { s with connections := cs, nextConn := n, loop := loop } c where
  socket := h.socket
  armed := h.armed
  lost := h.lost
  rest hidle := { h.rest hidle with }

theorem Inv.resting {s : SpeechToText} (h : Inv p s) (hsends : s.sends = []) :
    Resting p { s with connections := s.alive } where
  silent := h.silent
  nodup := h.nodup
  bound := h.bound
  noSelfStop := h.noSelfStop
  sends := hsends
  tended c hc := (h.tended c hc).loop s.alive s.nextConn s.loop

theorem Resting.idle {s : SpeechToText} (h : Resting p s) :
    Inv p { s with loop := .idle } where
  silent := h.silent
  nodup := h.nodup
  bound := h.bound
  waiting_nodup := List.nodup_nil
  waiting_alive := by
    intro c hc
    cases hc
  noSelfStop := h.noSelfStop
  calls := Or.inl h.sends
  tended c hc := (h.tended c hc).loop s.connections s.nextConn .idle

/-- The state in which the first of the models gets its connection. -/
def opened (model : String) (rest : List String) (s : SpeechToText) :
    SpeechToText :=
  modifyConn s.nextConn (fun _ => Connection.new model s.now)
    { s with nextConn := s.nextConn + 1, loop := .starting s.nextConn rest }

theorem startNext_cons (model : String) (rest : List String)
    (s : SpeechToText) : startNext (model :: rest) s =
      createListenConnector s.nextConn (opened model rest s) := rfl

theorem opened_conn (model : String) (rest : List String)
    (s : SpeechToText) : (opened model rest s).conn s.nextConn =
      Connection.new model s.now := by
  rw [opened, modifyConn_conn, if_pos rfl]

theorem served_opened {s : SpeechToText} (hsends : s.sends = [])
    (model : String) (rest : List String) :
    Served p s.nextConn (opened model rest s)
      (startNext (model :: rest) s) := by
  rw [startNext_cons]
  apply served_createListenConnector
  · exact hsends
  · rw [opened_conn]
    rfl
  · rw [opened_conn]
    simp [Connection.new]

theorem Resting.opened {s : SpeechToText} (h : Resting p s)
    (hlistening : s.isListening = true) (model : String)
    (rest : List String) :
    InvBut p s.nextConn (opened model rest s) where
  listening := hlistening
  nodup := by
    show (s.connections ++ [s.nextConn]).Nodup
    rw [List.nodup_append]
    refine ⟨h.nodup, List.pairwise_singleton _ _, ?_⟩
    intro c hc c' hc'
    rw [List.mem_singleton.mp hc']
    exact Nat.ne_of_lt (h.bound c hc)
  bound := by
    intro c hc
    rcases List.mem_append.mp hc with hc | hc
    · exact Nat.lt_succ_of_lt (h.bound c hc)
    · rw [List.mem_singleton.mp hc]
      exact Nat.lt_succ_self _
  waiting_nodup := List.nodup_nil
  waiting_alive := by
    intro c hc
    cases hc
  noSelfStop := h.noSelfStop
  mem := List.mem_append_right _ List.mem_cons_self
  not_waiting := List.not_mem_nil
  calls := calls_of_nil (s := SpeechToText.opened model rest s) h.sends _
  tended c hc hne := by
    rcases List.mem_append.mp hc with hc | hc
    · have htended : Tended p
          { s with nextConn := s.nextConn + 1
                   loop := .starting s.nextConn rest } c :=
        (h.tended c hc).loop s.connections _ _
      exact htended.only (only_modifyConn _ _ _)
        (calls_of_nil h.sends _) hne
    · exact absurd (List.mem_singleton.mp hc) hne

theorem inv_startNext {s : SpeechToText} (h : Resting p s)
    (hlistening : s.isListening = true) (models : List String) :
    Inv p (startNext models s) := by
  cases models with
  | nil => exact h.idle
  | cons model rest =>
      exact (h.opened hlistening model rest).served
        (served_opened h.sends model rest)

theorem Resting.refreshing {s : SpeechToText} (h : Resting p s)
    (hlistening : s.isListening = true) {c : ConnId} {rest : List ConnId}
    (hnodup : (c :: rest).Nodup)
    (hmem : ∀ c' ∈ c :: rest, c' ∈ s.connections) :
    InvBut p c { s with loop := .refreshing rest } where
  listening := hlistening
  nodup := h.nodup
  bound := h.bound
  waiting_nodup := (List.nodup_cons.mp hnodup).2
  waiting_alive c' hc' := hmem c' (List.mem_cons_of_mem c hc')
  noSelfStop := h.noSelfStop
  mem := hmem c List.mem_cons_self
  not_waiting := (List.nodup_cons.mp hnodup).1
  calls := calls_of_nil h.sends _
  tended c' hc' _ := (h.tended c' hc').loop s.connections s.nextConn _

theorem served_refreshNext {s : SpeechToText} {c : ConnId}
    (hsends : s.sends = []) (h : Fine s c) (rest : List ConnId) :
    Served p c { s with loop := .refreshing rest }
      (refreshNext (c :: rest) s) := by
  have hfine : Fine { s with loop := .refreshing rest } c := { h with }
  exact served_refresh hsends hfine

theorem inv_refreshNext {s : SpeechToText} (h : Resting p s)
    (hlistening : s.isListening = true) {cs : List ConnId}
    (hnodup : cs.Nodup) (hmem : ∀ c ∈ cs, c ∈ s.connections) :
    Inv p (refreshNext cs s) := by
  cases cs with
  | nil => exact h.idle
  | cons c rest =>
      have hc : Tended p s c := h.tended c (hmem c List.mem_cons_self)
      exact (h.refreshing hlistening hnodup hmem).served
        (served_refreshNext h.sends hc.toFine rest)

/-- `Send()` has returned, and the loop goes on. -/
theorem inv_resume {s : SpeechToText} (h : Inv p s)
    (hlistening : s.isListening = true) : Inv p (resume s) := by
  rw [resume]
  split
  · rename_i hsends
    have hresting := h.resting hsends
    cases hloop : s.loop with
    | idle => exact h
    | starting c models =>
        have halive : s.alive = s.connections ++ [c] := by
          rw [alive, hloop]
        rw [halive] at hresting
        exact inv_startNext hresting hlistening models
    | refreshing cs =>
        have halive : s.alive = s.connections := by
          rw [alive, hloop]
        have hwaiting : s.waiting = cs := by
          rw [waiting, hloop]
        have hnodup := h.waiting_nodup
        have hmem := h.waiting_alive
        rw [hwaiting] at hnodup hmem
        rw [halive] at hresting hmem
        exact inv_refreshNext hresting hlistening hnodup hmem
  · exact h

end SpeechToText

end SelfPlugins.Stt
