import Mathlib.Data.List.Perm.Basic
import SelfPlugins.Gateway.RobotGateway

/-!
# The start-up handshake of the robot gateway

`Start` waits for two flags that only the callbacks of its requests set.  At
any time one request is responsible for `m_ParentFetched`: the registration,
then the organization, then the parent; `parents` counts these requests and
the flag, and a response keeps the sum unless it breaks the chain.  The chain
is broken by an organization whose parent is the empty string, and by values
that are neither objects nor null where a callback has to look into them
(`Settles`).

`completed_iff_answerable` shows that these are the only ways in which the
wait loop can be left with both flags unset and nothing to wait for.
-/

namespace SelfPlugins.Gateway

open Runs
open Json (Value lookup)

namespace RobotGateway

/-- The requests whose responses lead to `m_ParentFetched`. -/
def settlesParent : Request → Bool
  | .registerEmbodiment _ => true
  | .getOrganization => true
  | .getParent _ => true
  | .getOrgAdminList => false
  | .getServices => false

/-- The requests whose responses lead to `m_ConfigsFetched`. -/
def servesConfigs : Request → Bool
  | .registerEmbodiment _ => true
  | .getServices => true
  | .getOrganization => false
  | .getParent _ => false
  | .getOrgAdminList => false

/-- The outstanding requests that lead to `m_ParentFetched`, and the flag. -/
def parents (s : RobotGateway) : ℕ :=
  s.outstanding.countP settlesParent + s.parentFetched.toNat

/-- The outstanding requests that lead to `m_ConfigsFetched`, and the flag. -/
def configs (s : RobotGateway) : ℕ :=
  s.outstanding.countP servesConfigs + s.configsFetched.toNat

/-- With no request outstanding the wait loop of `Start` ends. -/
def Completed (s : RobotGateway) : Prop :=
  s.outstanding = [] → s.configsFetched = true ∧ s.parentFetched = true

/-- The responses that leave no flag behind: registration and parent are null
or objects, and an organization that is looked into does not have the empty
string as its parent. -/
def Settles (applyParentHost : Bool) : Request → Response → Prop
  | .registerEmbodiment _, .json v => v.members?.isSome
  | .getParent _, .json v => v.members?.isSome
  | .getOrganization, .json v =>
      v.isNull = true ∨ applyParentHost = false ∨
        ∃ parent, v.get? "parent" = some parent ∧ parent ≠ .string ""
  | _, _ => True

/-- The request is answered by a response that settles it. -/
def Answerable (s : RobotGateway) : Event → Prop
  | .answer n response =>
      ∀ r, s.outstanding[n]? = some r → Settles s.applyParentHost r response
  | .configTimer => True

variable {f : Framework}

/-! ## What the callbacks do for the handshake -/

/-- The part of the state the handshake depends on is the same. -/
structure SameProgress (s t : RobotGateway) : Prop where
  outstanding : t.outstanding = s.outstanding
  parentFetched : t.parentFetched = s.parentFetched
  configsFetched : t.configsFetched = s.configsFetched

theorem SameProgress.trans {s t u : RobotGateway} (hst : SameProgress s t)
    (htu : SameProgress t u) : SameProgress s u where
  outstanding := htu.outstanding.trans hst.outstanding
  parentFetched := htu.parentFetched.trans hst.parentFetched
  configsFetched := htu.configsFetched.trans hst.configsFetched

theorem sameProgress_readName (v : Value) (s : RobotGateway) :
    SameProgress s (readName v s) := by
  cases v with
  | _ => exact ⟨rfl, rfl, rfl⟩

theorem sameProgress_readToken (v : Value) (s : RobotGateway) :
    SameProgress s (readToken v s) := by
  cases v with
  | string token =>
      simp only [readToken]
      split
      · exact ⟨rfl, rfl, rfl⟩
      · exact ⟨rfl, rfl, rfl⟩
  | _ => exact ⟨rfl, rfl, rfl⟩

theorem sameProgress_readId (v : Value) (s : RobotGateway) :
    SameProgress s (readId v s) := by
  cases v with
  | _ => exact ⟨rfl, rfl, rfl⟩

theorem sameProgress_readParent (ip name : Value) (s : RobotGateway) :
    SameProgress s (readParent f ip name s) := by
  unfold readParent
  split
  · split
    · exact ⟨rfl, rfl, rfl⟩
    · exact ⟨rfl, rfl, rfl⟩
  · exact ⟨rfl, rfl, rfl⟩

theorem updateConfig_requests (s : RobotGateway) :
    let t := updateConfig (getOrgAdminList (getOrganization s))
    t.outstanding = s.outstanding ++
        [.getOrganization, .getOrgAdminList, .getServices] ∧
      t.parentFetched = s.parentFetched ∧
      t.configsFetched = s.configsFetched := by
  simp [updateConfig, getServices, getOrgAdminList, getOrganization, request]

theorem onRegisteredEmbodiment_object {v : Value} (hnull : v.isNull = false)
    {ms : List (String × Value)} (hv : v.members? = some ms)
    (s : RobotGateway) :
    ∃ t, onRegisteredEmbodiment v s = some t ∧
      t.outstanding = s.outstanding ++
        [.getOrganization, .getOrgAdminList, .getServices] ∧
      t.parentFetched = s.parentFetched ∧
      t.configsFetched = s.configsFetched := by
  let member (key : String) : Value := (lookup key ms).getD .null
  have hget : ∀ key, v.get? key = some (member key) := by
    intro key
    rw [Value.get?, hv]
    rfl
  let u : RobotGateway := readId (member "_id")
    (readToken (member "embodimentToken") (readName (member "embodimentName") s))
  have hsame : SameProgress s u :=
    ((sameProgress_readName _ s).trans (sameProgress_readToken _ _)).trans
      (sameProgress_readId _ _)
  have hreturn : onRegisteredEmbodiment v s =
      some (updateConfig (getOrgAdminList (getOrganization u))) := by
    simp [onRegisteredEmbodiment, hnull, hget, u]
  obtain ⟨hout, hparent, hconfigs⟩ := updateConfig_requests u
  rw [hsame.outstanding] at hout
  rw [hsame.parentFetched] at hparent
  rw [hsame.configsFetched] at hconfigs
  exact ⟨_, hreturn, hout, hparent, hconfigs⟩

theorem onRegisteredEmbodiment_none {v : Value} (hv : v.members? = none)
    (s : RobotGateway) : onRegisteredEmbodiment v s = none := by
  have hnull : v.isNull = false := by
    cases v with
    | null => cases hv
    | _ => rfl
  simp [onRegisteredEmbodiment, hnull, Value.get?, hv]

theorem onParent_some {v : Value} {ms : List (String × Value)}
    (hv : v.members? = some ms) (s : RobotGateway) :
    ∃ t, onParent f v s = some t ∧ t.outstanding = s.outstanding ∧
      t.parentFetched = true ∧ t.configsFetched = s.configsFetched := by
  by_cases hnull : v.isNull = true
  · exact ⟨{ s with parentFetched := true }, by rw [onParent, if_pos hnull],
      rfl, rfl, rfl⟩
  · have hsame := sameProgress_readParent (f := f) ((lookup "parentIp" ms).getD
      .null) ((lookup "parentName" ms).getD .null) s
    refine ⟨_, by simp [onParent, hnull, Value.get?, hv]; rfl, ?_⟩
    exact ⟨hsame.outstanding, rfl, hsame.configsFetched⟩

theorem onParent_none {v : Value} (hv : v.members? = none)
    (s : RobotGateway) : onParent f v s = none := by
  have hnull : v.isNull = false := by
    cases v with
    | null => cases hv
    | _ => rfl
  simp [onParent, hnull, Value.get?, hv]

theorem onOrganization_of_settles {v : Value} {s : RobotGateway}
    (h : Settles s.applyParentHost .getOrganization (.json v)) :
    ∃ t, onOrganization v s = some t ∧ t.configsFetched = s.configsFetched ∧
      ((t.outstanding = s.outstanding ∧ t.parentFetched = true) ∨
        ∃ parentId, t.outstanding = s.outstanding ++ [.getParent parentId] ∧
          t.parentFetched = s.parentFetched) := by
  by_cases hnull : v.isNull = true
  · refine ⟨{ s with parentFetched := true }, ?_, rfl, Or.inl ⟨rfl, rfl⟩⟩
    rw [onOrganization, if_pos hnull]
  · cases happly : s.applyParentHost with
    | false =>
        refine ⟨{ s with parentFetched := true }, ?_, rfl, Or.inl ⟨rfl, rfl⟩⟩
        simp [onOrganization, hnull, happly]
    | true =>
        rcases h with h | h | ⟨parent, hparent, hne⟩
        · exact absurd h hnull
        · rw [happly] at h
          cases h
        · cases parent with
          | string parentId =>
              have hlength : 0 < parentId.length := by
                apply Nat.pos_of_ne_zero
                intro hzero
                exact hne (congrArg _ (String.length_eq_zero_iff.mp hzero))
              refine ⟨getParent parentId s, ?_, rfl,
                Or.inr ⟨parentId, rfl, rfl⟩⟩
              simp [onOrganization, hnull, happly, hparent, hlength]
          | _ =>
              refine ⟨{ s with parentFetched := true }, ?_, rfl,
                Or.inl ⟨rfl, rfl⟩⟩
              simp [onOrganization, hnull, happly, hparent]

/-- An organization with an empty parent, or one that cannot be looked into,
changes nothing. -/
theorem onOrganization_of_not_settles {v : Value} {s : RobotGateway}
    (h : ¬Settles s.applyParentHost .getOrganization (.json v)) :
    (onOrganization v s).getD s = s := by
  simp only [Settles, not_or, not_exists, not_and, not_not] at h
  obtain ⟨hnull, happly, hparent⟩ := h
  cases hget : v.get? "parent" with
  | none => simp [onOrganization, hnull, happly, hget]
  | some parent =>
      rw [hparent parent hget] at hget
      simp [onOrganization, hnull, happly, hget]

/-- The callback of the list of administrators does nothing for the
handshake. -/
theorem sameProgress_onOrgAdminList (v : Value) (s : RobotGateway) :
    SameProgress s ((onOrgAdminList f v s).getD s) := by
  by_cases hnull : v.isNull = true
  · simp only [onOrgAdminList, hnull, if_true, Option.getD_some]
    exact ⟨rfl, rfl, rfl⟩
  · cases hv : onOrgAdminList f v s with
    | none => exact ⟨rfl, rfl, rfl⟩
    | some t =>
        simp only [onOrgAdminList, hnull] at hv
        obtain ⟨b, -, hv⟩ := Option.bind_eq_some_iff.mp hv
        cases b with
        | false =>
            cases hv
            exact ⟨rfl, rfl, rfl⟩
        | true =>
            obtain ⟨emails, -, hv⟩ := Option.bind_eq_some_iff.mp hv
            obtain ⟨text, -, hv⟩ := Option.bind_eq_some_iff.mp hv
            cases hv
            exact ⟨rfl, rfl, rfl⟩

theorem onConfigured_progress (list : Option (List Service))
    (s : RobotGateway) :
    (onConfigured list s).outstanding = s.outstanding ∧
      (onConfigured list s).parentFetched = s.parentFetched ∧
      (onConfigured list s).configsFetched = true := by
  cases list with
  | none => exact ⟨rfl, rfl, rfl⟩
  | some services =>
      by_cases happly : s.applyRemoteConfigs = true
      · simp [onConfigured, happly]
      · simp [onConfigured, happly]

/-! ## Counting -/

/-- What the callback of a request does for the handshake if the response
settles it: a flag is set, or other requests are made. -/
inductive Handled (s t : RobotGateway) : Request → Prop
  | registered (body : Value)
      (h : SameProgress
        { s with configsFetched := true, parentFetched := true } t) :
      Handled s t (.registerEmbodiment body)
  | asks (body : Value)
      (h : SameProgress { s with outstanding := s.outstanding ++
        [.getOrganization, .getOrgAdminList, .getServices] } t) :
      Handled s t (.registerEmbodiment body)
  | organization (h : SameProgress { s with parentFetched := true } t) :
      Handled s t .getOrganization
  | asksParent (parentId : String)
      (h : SameProgress { s with outstanding := s.outstanding ++
        [.getParent parentId] } t) :
      Handled s t .getOrganization
  | parent (parentId : String)
      (h : SameProgress { s with parentFetched := true } t) :
      Handled s t (.getParent parentId)
  | orgAdminList (h : SameProgress s t) : Handled s t .getOrgAdminList
  | services (h : SameProgress { s with configsFetched := true } t) :
      Handled s t .getServices

theorem handled_callback {r : Request} {response : Response}
    {s : RobotGateway} (htakes : takes r response = true)
    (h : Settles s.applyParentHost r response) :
    Handled s ((callback f r response s).getD s) r := by
  cases r with
  | registerEmbodiment body =>
      cases response with
      | services list => cases htakes
      | json v =>
          obtain ⟨ms, hv⟩ := Option.isSome_iff_exists.mp h
          by_cases hnull : v.isNull = true
          · rw [callback, onRegisteredEmbodiment, if_pos hnull,
              Option.getD_some]
            exact .registered body ⟨rfl, rfl, rfl⟩
          · rw [Bool.not_eq_true] at hnull
            obtain ⟨t, ht, hout, hparent, hconfigs⟩ :=
              onRegisteredEmbodiment_object hnull hv s
            rw [callback, ht, Option.getD_some]
            exact .asks body ⟨hout, hparent, hconfigs⟩
  | getOrganization =>
      cases response with
      | services list => cases htakes
      | json v =>
          obtain ⟨t, ht, hconfigs, ⟨hout, hparent⟩ | ⟨id, hout, hparent⟩⟩ :=
            onOrganization_of_settles h
          · rw [callback, ht, Option.getD_some]
            exact .organization ⟨hout, hparent, hconfigs⟩
          · rw [callback, ht, Option.getD_some]
            exact .asksParent id ⟨hout, hparent, hconfigs⟩
  | getParent parentId =>
      cases response with
      | services list => cases htakes
      | json v =>
          obtain ⟨ms, hv⟩ := Option.isSome_iff_exists.mp h
          obtain ⟨t, ht, hout, hparent, hconfigs⟩ :=
            onParent_some (f := f) hv s
          rw [callback, ht, Option.getD_some]
          exact .parent parentId ⟨hout, hparent, hconfigs⟩
  | getOrgAdminList =>
      cases response with
      | services list => cases htakes
      | json v => exact .orgAdminList (sameProgress_onOrgAdminList v s)
  | getServices =>
      cases response with
      | json v => cases htakes
      | services list =>
          obtain ⟨hout, hparent, hconfigs⟩ := onConfigured_progress list s
          exact .services ⟨hout, hparent, hconfigs⟩

theorem SameProgress.parents_eq {s t : RobotGateway} (h : SameProgress s t) :
    parents t = parents s := by
  rw [parents, parents, h.outstanding, h.parentFetched]

theorem SameProgress.configs_eq {s t : RobotGateway} (h : SameProgress s t) :
    configs t = configs s := by
  rw [configs, configs, h.outstanding, h.configsFetched]

/-- The request that led to `m_ParentFetched` is replaced by another one, or
by the flag. -/
theorem Handled.parents_eq {s t : RobotGateway} {r : Request}
    (h : Handled s t r) (hflag : settlesParent r = true →
      s.parentFetched = false) :
    parents t = parents s + (settlesParent r).toNat := by
  cases h with
  | registered body h =>
      rw [h.parents_eq]
      simp [parents, hflag rfl, settlesParent]
  | asks body h =>
      have hone : List.countP settlesParent
          [.getOrganization, .getOrgAdminList, .getServices] = 1 := rfl
      rw [h.parents_eq]
      simp [parents, hflag rfl, hone, settlesParent]
  | organization h =>
      rw [h.parents_eq]
      simp [parents, hflag rfl, settlesParent]
  | asksParent parentId h =>
      rw [h.parents_eq]
      simp [parents, hflag rfl, settlesParent]
  | parent parentId h =>
      rw [h.parents_eq]
      simp [parents, hflag rfl, settlesParent]
  | orgAdminList h =>
      rw [h.parents_eq]
      rfl
  | services h =>
      rw [h.parents_eq]
      rfl

/-- A request that leads to `m_ConfigsFetched` sets the flag, or leads to
another one. -/
theorem Handled.configs_pos {s t : RobotGateway} {r : Request}
    (h : Handled s t r) (hdue : 1 ≤ configs s + (servesConfigs r).toNat) :
    1 ≤ configs t := by
  cases h with
  | registered body h =>
      rw [h.configs_eq]
      simp [configs]
  | asks body h =>
      have hone : List.countP servesConfigs
          [.getOrganization, .getOrgAdminList, .getServices] = 1 := rfl
      rw [h.configs_eq]
      simp only [configs, List.countP_append, hone]
      omega
  | organization h =>
      rw [h.configs_eq]
      exact hdue
  | asksParent parentId h =>
      rw [h.configs_eq]
      simpa [configs, servesConfigs] using hdue
  | parent parentId h =>
      rw [h.configs_eq]
      exact hdue
  | orgAdminList h =>
      rw [h.configs_eq]
      exact hdue
  | services h =>
      rw [h.configs_eq]
      simp [configs]

/-- A response that does not settle its request changes nothing. -/
theorem callback_of_not_settles {r : Request} {response : Response}
    {s : RobotGateway} (h : ¬Settles s.applyParentHost r response) :
    settlesParent r = true ∧ (callback f r response s).getD s = s := by
  cases r with
  | registerEmbodiment body =>
      cases response with
      | services list => exact absurd trivial h
      | json v =>
          simp only [Settles, Bool.not_eq_true, Option.isSome_eq_false_iff,
            Option.isNone_iff_eq_none] at h
          exact ⟨rfl, by simp [callback, onRegisteredEmbodiment_none h]⟩
  | getParent parentId =>
      cases response with
      | services list => exact absurd trivial h
      | json v =>
          simp only [Settles, Bool.not_eq_true, Option.isSome_eq_false_iff,
            Option.isNone_iff_eq_none] at h
          exact ⟨rfl, by simp [callback, onParent_none h]⟩
  | getOrganization =>
      cases response with
      | services list => exact absurd trivial h
      | json v => exact ⟨rfl, onOrganization_of_not_settles h⟩
  | getOrgAdminList => exact absurd trivial h
  | getServices => exact absurd trivial h

/-! ## Runs of the handshake -/

/-- Removing the request that is answered. -/
theorem countP_eraseIdx {s : RobotGateway} {n : ℕ} {r : Request}
    (hr : s.outstanding[n]? = some r) (p : Request → Bool) :
    s.outstanding.countP p =
      (s.outstanding.eraseIdx n).countP p + (p r).toNat := by
  obtain ⟨hn, rfl⟩ := List.getElem?_eq_some_iff.mp hr
  have hperm := List.getElem_cons_eraseIdx_perm hn
  rw [← hperm.countP_eq p, List.countP_cons]
  cases p s.outstanding[n] with
  | true => rfl
  | false => rfl

/-- The gateway without the request that is answered. -/
def answering (s : RobotGateway) (n : ℕ) : RobotGateway :=
  { s with outstanding := s.outstanding.eraseIdx n }

theorem step_answer {s t : RobotGateway} {n : ℕ} {response : Response}
    (ht : step f s (.answer n response) = some t) :
    ∃ r, s.outstanding[n]? = some r ∧ takes r response = true ∧
      t = (callback f r response (s.answering n)).getD (s.answering n) := by
  simp only [step] at ht
  split at ht
  · cases ht
  · rename_i r hr
    split at ht
    · rename_i htakes
      exact ⟨r, hr, htakes, (Option.some.inj ht).symm⟩
    · cases ht

theorem parents_answering {s : RobotGateway} {n : ℕ} {r : Request}
    (hr : s.outstanding[n]? = some r) :
    parents s = parents (s.answering n) + (settlesParent r).toNat := by
  have hcount := countP_eraseIdx hr settlesParent
  simp only [parents, answering]
  omega

theorem configs_answering {s : RobotGateway} {n : ℕ} {r : Request}
    (hr : s.outstanding[n]? = some r) :
    configs s = configs (s.answering n) + (servesConfigs r).toNat := by
  have hcount := countP_eraseIdx hr servesConfigs
  simp only [configs, answering]
  omega

/-- A timer tick asks for the services once more. -/
theorem counts_configTimer {s t : RobotGateway}
    (ht : step f s .configTimer = some t) :
    parents t = parents s ∧ configs t = configs s + 1 := by
  simp only [step] at ht
  split at ht
  · cases ht
    constructor
    · simp [parents, updateConfig, getServices, request, settlesParent]
    · simp [configs, updateConfig, getServices, request, servesConfigs]
      omega
  · cases ht

/-- Both flags are set or led to. -/
structure OnTrack (s : RobotGateway) : Prop where
  parents_eq : parents s = 1
  configs_pos : 1 ≤ configs s

theorem OnTrack.next {s t : RobotGateway} (h : OnTrack s) {e : Event}
    (hanswerable : Answerable s e) (ht : step f s e = some t) :
    OnTrack t := by
  cases e with
  | configTimer =>
      obtain ⟨hparents, hconfigs⟩ := counts_configTimer ht
      refine ⟨?_, ?_⟩
      · rw [hparents]
        exact h.parents_eq
      · omega
  | answer n response =>
      obtain ⟨r, hr, htakes, rfl⟩ := step_answer ht
      have hsettles : Settles (s.answering n).applyParentHost r response :=
        hanswerable r hr
      have hparents := parents_answering hr
      have hconfigs := configs_answering hr
      have hone := h.parents_eq
      have hpos := h.configs_pos
      refine ⟨?_, ?_⟩
      · rw [(handled_callback htakes hsettles).parents_eq ?_]
        · omega
        · intro hr'
          rw [hr', Bool.toNat_true] at hparents
          have hzero : parents (s.answering n) = 0 := by omega
          simp only [parents, Nat.add_eq_zero_iff] at hzero
          exact Bool.toNat_eq_zero.mp hzero.2
      · apply (handled_callback htakes hsettles).configs_pos
        omega

theorem OnTrack.broken {s t : RobotGateway} (h : OnTrack s) {e : Event}
    (hanswerable : ¬Answerable s e) (ht : step f s e = some t) :
    parents t = 0 := by
  cases e with
  | configTimer => exact absurd trivial hanswerable
  | answer n response =>
      obtain ⟨r, hr, -, rfl⟩ := step_answer ht
      have hsettles : ¬Settles (s.answering n).applyParentHost r response := by
        intro hsettles
        apply hanswerable
        intro r' hr'
        obtain rfl : r = r' := Option.some.inj (hr.symm.trans hr')
        exact hsettles
      obtain ⟨hr', hsame⟩ := callback_of_not_settles (f := f) hsettles
      have hparents := parents_answering hr
      have hone := h.parents_eq
      rw [hsame]
      rw [hr', Bool.toNat_true] at hparents
      omega

/-- Once the chain is broken nothing is left that could set the flag. -/
theorem parents_zero_next {s t : RobotGateway} (h : parents s = 0) {e : Event}
    (ht : step f s e = some t) : parents t = 0 := by
  cases e with
  | configTimer =>
      rw [(counts_configTimer ht).1]
      exact h
  | answer n response =>
      obtain ⟨r, hr, htakes, rfl⟩ := step_answer ht
      have hparents := parents_answering hr
      have hr' : settlesParent r = false := by
        apply Bool.toNat_eq_zero.mp
        omega
      have hsettles :
          Settles (s.answering n).applyParentHost r response := by
        by_contra hnot
        have htrue := (callback_of_not_settles (f := f) hnot).1
        rw [hr'] at htrue
        cases htrue
      rw [(handled_callback htakes hsettles).parents_eq ?_]
      · omega
      · intro htrue
        rw [hr'] at htrue
        cases htrue

/-- The gateway when `Start` begins to wait. -/
def waiting (applyRemoteConfigs applyParentHost : Bool)
    (pInstance : SelfInstance) : RobotGateway :=
  registerEmbodiment
    (setHeaders (configure pInstance (new applyRemoteConfigs applyParentHost)))

theorem OnTrack.waiting (applyRemoteConfigs applyParentHost : Bool)
    (pInstance : SelfInstance) :
    OnTrack (waiting applyRemoteConfigs applyParentHost pInstance) :=
  ⟨rfl, Nat.le_refl 1⟩

theorem OnTrack.fetched {s : RobotGateway} (h : OnTrack s)
    (hdone : s.outstanding = []) :
    s.configsFetched = true ∧ s.parentFetched = true := by
  obtain ⟨hparents, hconfigs⟩ := h
  simp only [parents, configs, hdone, List.countP_nil, Nat.zero_add]
    at hparents hconfigs
  constructor
  · cases hflag : s.configsFetched with
    | true => rfl
    | false => simp [hflag] at hconfigs
  · cases hflag : s.parentFetched with
    | true => rfl
    | false => simp [hflag] at hparents

theorem OnTrack.throughout_iff {s : RobotGateway} (h : OnTrack s)
    (es : List Event) :
    Throughout (step f) Completed s es ↔
      ∀ fs, fs <+: es → ∀ t, run (step f) s fs = some t →
        t.outstanding = [] → EachStep (step f) Answerable s fs := by
  rw [throughout_iff_run]
  have hcases : ∀ fs t, run (step f) s fs = some t →
      (EachStep (step f) Answerable s fs ∧ OnTrack t) ∨
        (¬EachStep (step f) Answerable s fs ∧ parents t = 0) :=
    fun fs t hrun => eachStep_dichotomy
      (fun _ _ _ htrack hanswerable ht => htrack.next hanswerable ht)
      (fun _ _ _ htrack hanswerable ht => htrack.broken hanswerable ht)
      (fun _ _ _ hzero ht => parents_zero_next hzero ht) h hrun
  constructor
  · intro hcompleted fs hfs t hrun hdone
    rcases hcases fs t hrun with ⟨hes, -⟩ | ⟨-, hzero⟩
    · exact hes
    · have hparent := (hcompleted fs hfs t hrun hdone).2
      simp [parents, hparent] at hzero
  · intro hall fs hfs t hrun hdone
    rcases hcases fs t hrun with ⟨-, htrack⟩ | ⟨hnot, -⟩
    · exact htrack.fetched hdone
    · exact absurd (hall fs hfs t hrun hdone) hnot

/-- In every state without an outstanding request both flags are set,
precisely when every run to such a state answers its requests in a way that
settles them. -/
theorem completed_iff_answerable (f : Framework)
    (applyRemoteConfigs applyParentHost : Bool) (pInstance : SelfInstance)
    (es : List Event) :
    let s := waiting applyRemoteConfigs applyParentHost pInstance
    Throughout (step f) Completed s es ↔
      ∀ fs, fs <+: es → ∀ t, run (step f) s fs = some t →
        t.outstanding = [] → EachStep (step f) Answerable s fs :=
  (OnTrack.waiting applyRemoteConfigs applyParentHost
    pInstance).throughout_iff es

/-- An organization without a parent, told by the empty string, keeps `Start`
waiting for ever. -/
theorem not_completed_empty_parent :
    let f : Framework := ⟨id, fun _ => ""⟩
    let pInstance : SelfInstance :=
      ⟨⟨"token", "group", "robot", "mac", "org", ""⟩, "nao"⟩
    ¬Throughout (step f) Completed (waiting true true pInstance)
      [.answer 0 (.json (.object [("_id", .string "1")])),
        .answer 0 (.json (.object [("parent", .string "")])),
        .answer 0 (.json .null), .answer 0 (.services (some []))] := by
  intro f pInstance h
  have hdone := throughout_iff_run.mp h _ (List.prefix_refl _) _ rfl rfl
  exact absurd hdone.2 Bool.false_ne_true

end RobotGateway

end SelfPlugins.Gateway
