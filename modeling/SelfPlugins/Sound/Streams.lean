import Mathlib.Data.Nat.Notation
import SelfPlugins.Framework.Text
import SelfPlugins.Library.Ledger
import SelfPlugins.Library.Runs

/-!
# Streamed sounds

`NaoSoundGesture` and `WinSoundGesture` play the sounds of their requests one
after the other in a thread of the pool.  For a URL the thread creates a web
client, which is held by a counted pointer, and waits until `m_bStreaming` is
cleared.  `OnStreamState` clears the flag when any client says that it is
disconnected or closed, and deletes that client.

`ownedOnce_iff` says in which runs each client is destroyed once.
-/

namespace SelfPlugins.SoundStreams

open Runs Text

inductive SoundClass where
  | naoSoundGesture
  | winSoundGesture
deriving DecidableEq

/-- The NAO closes its player after the wait, Windows releases its buffer in
`OnPlayDone`. -/
def SoundClass.closesAfterWait : SoundClass → Bool
  | .naoSoundGesture => true
  | .winSoundGesture => false

/-- Where `PlayThread` is: not started; in the pool; in or before the call of
`Send`, or in the loop, with the number of its client; playing a file; at its
end, before `PlayDone` or `OnPlayDone`. -/
inductive Phase where
  | idle
  | playThread
  | send (client : ℕ)
  | streaming (client : ℕ)
  | file
  | playDone
deriving DecidableEq

/-- A gesture with its queue of requests, each with its parameter `sound`, and
the clients, which are numbered in the order of their creation.  `player` is
whether there is an `m_Player` or an `m_pBuffer`.  `misused` are the clients
used after they have been destroyed, `clearedBy` is the client whose
notification has cleared `m_bStreaming`, and `ends` are the ended waits, with
their clients and what has cleared the flag. -/
structure SoundGesture where
  m_Sound : String := ""
  m_bStreaming : Bool := false
  player : Bool := false
  requests : List (Option String) := []
  phase : Phase := .idle
  clients : Ledger := {}
  misused : List ℕ := []
  clearedBy : Option ℕ := none
  ends : List (ℕ × Option ℕ) := []
deriving DecidableEq

/-- A request is made; the play thread goes on, where `Send` has the given
result; a client notifies of its state, or of data, with which a player may be
opened. -/
inductive Event where
  | execute (sound : Option String)
  | thread (sends : Bool)
  | onStreamState (client : ℕ) (disconnected : Bool)
  | onStreamData (client : ℕ) (opens : Bool)
deriving DecidableEq

namespace SoundGesture

/-! ## Translated functions -/

def isWebRequest (u : StringUtil) (m_Sound : String) : Bool :=
  u.startsWith m_Sound "http://" || u.startsWith m_Sound "https://"

/-- `Play` -/
def play (s : SoundGesture) : SoundGesture :=
  match s.requests with
  | [] => s
  | sound :: _ =>
      { s with m_Sound := sound.getD s.m_Sound, phase := .playThread }

def execute (sound : Option String) (s : SoundGesture) : SoundGesture :=
  let next := { s with requests := s.requests ++ [sound] }
  if s.requests = [] then next.play else next

/-- The block of `PlayThread` that holds the client is left. -/
def release (client : ℕ) (s : SoundGesture) : SoundGesture :=
  { s with clients := s.clients.dispose client, phase := .playDone }

/-- The next part of `PlayThread`, or `PlayDone`. -/
def playThread (u : StringUtil) (c : SoundClass) (sends : Bool)
    (s : SoundGesture) : Option SoundGesture :=
  match s.phase with
  | .idle => none
  | .playThread =>
      if isWebRequest u s.m_Sound then
        some { s with
          m_bStreaming := true
          clearedBy := none
          clients := s.clients.create
          phase := .send s.clients.created }
      else some { s with phase := .file }
  | .send client =>
      if sends then some { s with phase := .streaming client }
      else some ({ s with m_bStreaming := false }.release client)
  | .streaming client =>
      if s.m_bStreaming then some s
      else
        some ({ s with
          player := s.player && !c.closesAfterWait
          ends := s.ends ++ [(client, s.clearedBy)] }.release client)
  | .file => some { s with phase := .playDone }
  | .playDone =>
      let next := { s with
        player := s.player && c.closesAfterWait
        requests := s.requests.tail
        phase := .idle }
      some next.play

/-- `GetState`, which is a use of the client. -/
def getState (client : ℕ) (s : SoundGesture) : SoundGesture :=
  if s.clients.disposed.count client = 0 then s
  else { s with misused := client :: s.misused }

def onStreamState (client : ℕ) (disconnected : Bool) (s : SoundGesture) :
    SoundGesture :=
  let s := s.getState client
  if disconnected then
    { s with
      m_bStreaming := false
      clearedBy := some client
      clients := s.clients.dispose client }
  else s

def step (u : StringUtil) (c : SoundClass) (s : SoundGesture) :
    Event → Option SoundGesture
  | .execute sound => some (s.execute sound)
  | .thread sends => s.playThread u c sends
  | .onStreamState client disconnected =>
      if client < s.clients.created then
        some (s.onStreamState client disconnected)
      else none
  | .onStreamData client opens =>
      if client < s.clients.created then
        some { s with player := s.player || opens }
      else none

/-! ## The law -/

/-- The play thread holds the client. -/
def Holds (s : SoundGesture) (client : ℕ) : Prop :=
  s.phase = .send client ∨ s.phase = .streaming client

instance (s : SoundGesture) (client : ℕ) : Decidable (s.Holds client) :=
  inferInstanceAs (Decidable (_ ∨ _))

/-- No client is destroyed twice, those that are not held any more have been
destroyed, none is used after that, and a wait ends because of its own
client. -/
structure OwnedOnce (s : SoundGesture) : Prop where
  once : ∀ k, s.clients.disposed.count k ≤ 1
  left : ∀ k < s.clients.created, ¬s.Holds k → s.clients.disposed.count k = 1
  unused : s.misused = []
  own : ∀ w ∈ s.ends, w.2 = some w.1

/-- A client notifies of its state before it has been destroyed, `Send` fails
only for such a client, and the wait for a stream does not end. -/
def Single (s : SoundGesture) : Event → Prop
  | .onStreamState client _ => s.clients.disposed.count client = 0
  | .thread sends =>
      match s.phase with
      | .send client => sends = false → s.clients.disposed.count client = 0
      | .streaming _ => s.m_bStreaming = true
      | _ => True
  | _ => True

/-- The client in the play thread is there until its notification clears the
flag. -/
def alive (s : SoundGesture) (client : ℕ) : ℕ :=
  if s.m_bStreaming = true ∧ s.Holds client then 1 else 0

/-- The invariant. -/
structure Sound (s : SoundGesture) : Prop where
  accounts : Ledger.Accounts s.clients s.alive
  current : ∀ k, s.Holds k → k < s.clients.created
  unused : s.misused = []
  own : s.ends = []
  queue : s.requests = [] → s.phase = .idle

variable {u : StringUtil} {c : SoundClass} {s t : SoundGesture} {client : ℕ}

theorem Holds.unique {k : ℕ} (h : s.Holds client) (hk : s.Holds k) :
    k = client := by
  rcases h with h | h
  · rcases hk with hk | hk
    · exact Phase.send.inj (hk.symm.trans h)
    · exact nomatch hk.symm.trans h
  · rcases hk with hk | hk
    · exact nomatch hk.symm.trans h
    · exact Phase.streaming.inj (hk.symm.trans h)

theorem Sound.ownedOnce (h : Sound s) : OwnedOnce s where
  once := by
    intro k
    have hk := h.accounts k
    split at hk <;> omega
  left := fun k hk hnot =>
    h.accounts.disposed_once (if_neg fun hand => hnot hand.2) hk
  unused := h.unused
  own := by
    rw [h.own]
    exact nofun

/-- The clients are as they were, and so is which one is alive. -/
theorem Sound.congr (h : Sound s) (hclients : t.clients = s.clients)
    (halive : t.alive = s.alive) (hholds : ∀ k, t.Holds k → s.Holds k)
    (hmisused : t.misused = s.misused) (hends : t.ends = s.ends)
    (hqueue : t.requests = [] → t.phase = .idle) : Sound t := by
  refine ⟨?_, ?_, hmisused.trans h.unused, hends.trans h.own, hqueue⟩
  · rw [hclients, halive]
    exact h.accounts
  · intro k hk
    rw [hclients]
    exact h.current k (hholds k hk)

/-- A thread without a client holds none. -/
theorem alive_eq_zero (h : ∀ k, ¬s.Holds k) : s.alive = fun _ => 0 := by
  funext k
  exact if_neg fun hand => h k hand.2

theorem alive_eq (hstreaming : s.m_bStreaming = true)
    (hholds : s.Holds client) (k : ℕ) :
    s.alive k = if k = client then 1 else 0 := by
  unfold alive
  by_cases hk : k = client
  · rw [if_pos hk, if_pos ⟨hstreaming, hk ▸ hholds⟩]
  · rw [if_neg hk, if_neg fun hand => hk (hholds.unique hand.2)]

/-- The play thread goes on without a client. -/
theorem Sound.congr_free (h : Sound s) (hs : ∀ k, ¬s.Holds k)
    (ht : ∀ k, ¬t.Holds k) (hclients : t.clients = s.clients)
    (hmisused : t.misused = s.misused) (hends : t.ends = s.ends)
    (hqueue : t.requests = [] → t.phase = .idle) : Sound t :=
  h.congr hclients (by rw [alive_eq_zero hs, alive_eq_zero ht])
    (fun k hk => absurd hk (ht k)) hmisused hends hqueue

/-- A client that has not been destroyed is the one in the play thread. -/
theorem Sound.alive_of_count (h : Sound s) (hlt : client < s.clients.created)
    (hcount : s.clients.disposed.count client = 0) :
    s.m_bStreaming = true ∧ s.Holds client := by
  have hclient := h.accounts client
  rw [hcount, if_pos hlt, Nat.add_zero] at hclient
  by_contra hnot
  rw [alive, if_neg hnot] at hclient
  cases hclient

/-- The client in the play thread has been destroyed if the flag is clear. -/
theorem Sound.count_of_clear (h : Sound s) (hholds : s.Holds client)
    (hstreaming : s.m_bStreaming = false) :
    s.clients.disposed.count client = 1 := by
  refine h.accounts.disposed_once (if_neg fun hand => ?_)
    (h.current client hholds)
  rw [hstreaming] at hand
  cases hand.1

/-! ## What the functions do -/

/-- The play thread is started, where it is not running. -/
theorem Sound.play (h : Sound s) (hidle : s.phase = .idle) : Sound s.play := by
  have hnone : ∀ k, ¬s.Holds k := fun k hk => by
    simp [Holds, hidle] at hk
  unfold SoundGesture.play
  split
  · exact h
  · rename_i sound rest hrequests
    refine h.congr_free hnone (fun k hk => ?_) rfl rfl rfl fun hnil => ?_
    · simp [Holds] at hk
    · rw [hrequests] at hnil
      cases hnil

theorem Sound.execute (h : Sound s) (sound : Option String) :
    Sound (s.execute sound) := by
  unfold SoundGesture.execute
  dsimp only
  split
  · rename_i hnil
    have hidle := h.queue hnil
    exact (h.congr (t := { s with requests := s.requests ++ [sound] }) rfl rfl
      (fun _ hk => hk) rfl rfl fun _ => hidle).play hidle
  · exact h.congr rfl rfl (fun _ hk => hk) rfl rfl fun hnil =>
      absurd (List.append_eq_nil_iff.mp hnil).2 (List.cons_ne_nil _ _)

/-- The client in the play thread goes, and the flag is clear. -/
theorem Sound.dispose (h : Sound s) (hstreaming : s.m_bStreaming = true)
    (hholds : s.Holds client)
    (hclients : t.clients = s.clients.dispose client)
    (hclear : t.m_bStreaming = false) (hsame : ∀ k, t.Holds k → s.Holds k)
    (hmisused : t.misused = s.misused) (hends : t.ends = s.ends)
    (hqueue : t.requests = [] → t.phase = .idle) : Sound t := by
  refine ⟨?_, ?_, hmisused.trans h.unused, hends.trans h.own, hqueue⟩
  · rw [hclients]
    refine h.accounts.dispose fun k => ?_
    have hzero : t.alive k = 0 := if_neg fun hand => by
      rw [hclear] at hand
      cases hand.1
    rw [alive_eq hstreaming hholds, hzero, Nat.zero_add]
  · intro k hk
    rw [hclients]
    exact h.current k (hsame k hk)

theorem Sound.onStreamState (h : Sound s) (hlt : client < s.clients.created)
    (hcount : s.clients.disposed.count client = 0) (disconnected : Bool) :
    Sound (s.onStreamState client disconnected) := by
  obtain ⟨hstreaming, hholds⟩ := h.alive_of_count hlt hcount
  unfold SoundGesture.onStreamState getState
  rw [if_pos hcount]
  cases disconnected with
  | false => exact h
  | true =>
      exact h.dispose hstreaming hholds rfl rfl (fun _ hk => hk) rfl rfl
        h.queue

/-- A client is created while there is none. -/
theorem Sound.create (h : Sound s) (hnone : ∀ k, ¬s.Holds k)
    (hrequests : s.requests ≠ []) :
    Sound { s with
      m_bStreaming := true
      clearedBy := none
      clients := s.clients.create
      phase := .send s.clients.created } := by
  refine ⟨?_, ?_, h.unused, h.own, fun hnil => absurd hnil hrequests⟩
  · refine h.accounts.create fun k => ?_
    rw [alive_eq_zero hnone, Nat.zero_add]
    exact alive_eq rfl (Or.inl rfl) k
  · intro k hk
    obtain rfl : k = s.clients.created := Holds.unique (Or.inl rfl) hk
    exact Nat.lt_succ_self _

theorem Sound.playThread (h : Sound s) {sends : Bool}
    (hC : Single s (.thread sends)) (ht : s.playThread u c sends = some t) :
    Sound t := by
  have hbusy : ∀ phase, s.phase = phase → phase ≠ .idle → s.requests ≠ [] :=
    fun phase hphase hne hnil => hne (hphase.symm.trans (h.queue hnil))
  unfold Single at hC
  unfold SoundGesture.playThread at ht
  cases hphase : s.phase with
  | idle =>
      rw [hphase] at ht
      cases ht
  | playThread =>
      have hnone : ∀ k, ¬s.Holds k := fun k hk => by
        simp [Holds, hphase] at hk
      simp only [hphase] at ht
      split at ht
      · obtain rfl := Option.some.inj ht
        exact h.create hnone (hbusy _ hphase nofun)
      · obtain rfl := Option.some.inj ht
        refine h.congr_free hnone (fun k hk => ?_) rfl rfl rfl
          fun hnil => absurd hnil (hbusy _ hphase nofun)
        simp [Holds] at hk
  | send client =>
      rw [hphase] at hC
      simp only [hphase] at ht
      have hholds : s.Holds client := Or.inl hphase
      cases sends with
      | true =>
          obtain rfl := Option.some.inj ht
          have hiff : ∀ k, Holds { s with phase := .streaming client } k ↔
              s.Holds k := fun k => by simp [Holds, hphase]
          refine h.congr rfl ?_ (fun k => (hiff k).mp) rfl rfl
            fun hnil => absurd hnil (hbusy _ hphase nofun)
          funext k
          simp only [alive, hiff]
      | false =>
          obtain rfl := Option.some.inj ht
          obtain ⟨hstreaming, -⟩ :=
            h.alive_of_count (h.current client hholds) (hC rfl)
          exact h.dispose hstreaming hholds rfl rfl
            (fun k hk => by simp [Holds, release] at hk) rfl rfl
            fun hnil => absurd hnil (hbusy _ hphase nofun)
  | streaming client =>
      rw [hphase] at hC
      simp only [hphase] at ht
      rw [if_pos hC] at ht
      obtain rfl := Option.some.inj ht
      exact h
  | file =>
      simp only [hphase] at ht
      obtain rfl := Option.some.inj ht
      have hnone : ∀ k, ¬s.Holds k := fun k hk => by
        simp [Holds, hphase] at hk
      refine h.congr_free hnone (fun k hk => ?_) rfl rfl rfl
        fun hnil => absurd hnil (hbusy _ hphase nofun)
      simp [Holds] at hk
  | playDone =>
      simp only [hphase] at ht
      obtain rfl := Option.some.inj ht
      have hnone : ∀ k, ¬s.Holds k := fun k hk => by
        simp [Holds, hphase] at hk
      have hfree : ∀ k, ¬Holds { s with
          player := s.player && c.closesAfterWait
          requests := s.requests.tail
          phase := .idle } k := fun k hk => by simp [Holds] at hk
      exact Sound.play
        (h.congr_free hnone hfree rfl rfl rfl fun _ => rfl) rfl

/-! ## Steps -/

theorem Sound.step {e : Event} (h : Sound s) (hC : Single s e)
    (ht : s.step u c e = some t) : Sound t := by
  cases e with
  | execute sound =>
      obtain rfl := Option.some.inj ht
      exact h.execute sound
  | thread sends => exact h.playThread hC ht
  | onStreamState client disconnected =>
      obtain ⟨hlt, ht⟩ := Option.ite_none_right_eq_some.mp ht
      obtain rfl := Option.some.inj ht
      exact h.onStreamState hlt hC disconnected
  | onStreamData client opens =>
      obtain ⟨-, ht⟩ := Option.ite_none_right_eq_some.mp ht
      obtain rfl := Option.some.inj ht
      exact h.congr rfl rfl (fun _ hk => hk) rfl rfl h.queue

/-- A client that is destroyed once more has been destroyed twice. -/
theorem not_ownedOnce_release (hcount : s.clients.disposed.count client = 1)
    (hclients : t.clients = s.clients.dispose client) : ¬OwnedOnce t := by
  intro hown
  have honce := hown.once client
  rw [hclients, Ledger.dispose, List.count_cons_self, hcount] at honce
  omega

theorem not_ownedOnce {e : Event} (h : Sound s) (hC : ¬Single s e)
    (ht : s.step u c e = some t) : ¬OwnedOnce t := by
  cases e with
  | execute sound => exact absurd trivial hC
  | thread sends =>
      change s.playThread u c sends = some t at ht
      unfold Single at hC
      unfold SoundGesture.playThread at ht
      cases hphase : s.phase with
      | send client =>
          rw [hphase] at hC
          simp only [hphase] at ht
          obtain ⟨rfl, hcount⟩ := Classical.not_imp.mp hC
          obtain rfl := Option.some.inj ht
          have hholds : s.Holds client := Or.inl hphase
          have hone : s.clients.disposed.count client = 1 := by
            have hle := h.ownedOnce.once client
            omega
          exact not_ownedOnce_release hone rfl
      | streaming client =>
          rw [hphase] at hC
          simp only [hphase] at ht
          rw [if_neg hC] at ht
          obtain rfl := Option.some.inj ht
          have hholds : s.Holds client := Or.inr hphase
          exact not_ownedOnce_release
            (h.count_of_clear hholds (Bool.eq_false_iff.mpr hC)) rfl
      | _ =>
          rw [hphase] at hC
          exact absurd trivial hC
  | onStreamState client disconnected =>
      obtain ⟨-, ht⟩ := Option.ite_none_right_eq_some.mp ht
      obtain rfl := Option.some.inj ht
      have hcount : s.clients.disposed.count client ≠ 0 := hC
      intro hown
      have hmisused :
          client ∈ (s.onStreamState client disconnected).misused := by
        unfold onStreamState getState
        rw [if_neg hcount]
        cases disconnected <;> exact List.mem_cons_self
      rw [hown.unused] at hmisused
      cases hmisused
  | onStreamData client opens => exact absurd trivial hC

/-! ## Runs -/

/-- Throughout a run each client is destroyed once, and not used afterwards,
and waits end because of their own clients, iff no client notifies that has
been destroyed, `Send` fails for no such client, and no wait ends. -/
theorem ownedOnce_iff (u : StringUtil) (c : SoundClass) (es : List Event) :
    Throughout (step u c) OwnedOnce {} es ↔
      EachStep (step u c) Single {} es :=
  throughout_iff_eachStep (I := Sound) (L := fun _ _ => True)
    (fun _ h => h.ownedOnce) (fun _ _ _ h _ hC ht => h.step hC ht)
    (fun _ _ _ h _ hC ht => not_ownedOnce h hC ht)
    ⟨Ledger.accounts_empty, fun k hk => by simp [Holds] at hk, rfl, rfl,
      fun _ => rfl⟩ (eachStep_true _ es)

/-- A stream that is closed by its server. -/
theorem not_always_ownedOnce :
    ¬∀ (u : StringUtil) (c : SoundClass) (es : List Event),
      Throughout (step u c) OwnedOnce {} es := by
  intro h
  have hrun : (run (step .plain .naoSoundGesture) {}
      [.execute (some "http://example.org/a.wav"), .thread true, .thread true,
        .onStreamState 0 true, .thread true]).map
      (fun s => s.clients.disposed) = some [0, 0] := by decide +kernel
  obtain ⟨t, ht, hdisposed⟩ := (h _ _ _).last hrun
  have honce := ht.once 0
  rw [hdisposed] at honce
  exact absurd honce (by decide)

end SoundGesture

end SelfPlugins.SoundStreams
