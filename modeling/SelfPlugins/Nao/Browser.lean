import Mathlib.Data.List.Nodup
import Mathlib.Data.List.Perm.Basic
import Mathlib.Data.Rat.Defs
import SelfPlugins.Library.Runs

/-!
# The browser of the NAO

`NaoBrowser` shows URLs on the robot's tablet.  `ShowURL` queues a request; a
thread of the service looks after the connection to the tablet, and takes one
request in each of its rounds while the tablet is connected.  A request is
answered by its callback, which is queued for the main thread.  Every call of
the tablet can throw.

`answers_iff` says in which runs every request taken is answered.
-/

namespace SelfPlugins.Nao

open Runs

/-- What the browser needs of the URLs.  A URL is given by its text. -/
structure UrlFunctions where
  getHost : String → String
  setHost : String → String → String
  escapeUrl : String → String

/-- The text that is passed to the tablet. -/
def UrlFunctions.mapped (u : UrlFunctions) (url : String) : String :=
  if (u.getHost url).map Char.toLower = "localhost" then
    u.escapeUrl (u.setHost "198.18.0.1" url)
  else u.escapeUrl url

/-- How clock and tablet answer while a function runs.  An answer is `none`
where the call throws. -/
structure TabletAnswers where
  time : ℚ := 0
  hasService : Bool := true
  service : Option Bool := some true
  returns : String → Bool := fun _ => true
  getWifiStatus : Option String := some "CONNECTED"
  showImage : Option Bool := some true
  showWebview : String → Option Bool := fun _ => some true

/-- A request, with the number of its call of `ShowURL` and whether its
callback is valid. -/
structure UrlRequest where
  number : ℕ
  m_spUrl : String
  m_Callback : Bool
deriving DecidableEq

/-- What a callback is invoked with. -/
structure URLServiceData where
  number : ℕ
  m_spUrl : String
  m_JsonValue : Option String
deriving DecidableEq

/-- The queue of requests, and what has become of the others: how many calls
of `ShowURL` there have been, which requests have been taken, and which
callbacks are queued or have been invoked. -/
structure UrlRequests where
  m_RequestList : List UrlRequest := []
  asked : ℕ := 0
  processed : List UrlRequest := []
  queued : List URLServiceData := []
  invoked : List URLServiceData := []
deriving DecidableEq

/-- Where `TabletThread` is: about to be entered, at the head of its loop, or
after the clock has been read in a round, before and after a request is
taken. -/
inductive TabletPhase where
  | stopped
  | entered
  | round
  | taking (now : ℚ)
  | taken (now : ℚ)
deriving DecidableEq

structure NaoBrowser extends UrlRequests where
  m_bServiceActive : Bool := false
  m_bThreadStopped : Bool := true
  m_bTabletConnected : Bool := false
  m_bLogoDisplayed : Bool := false
  m_LastUpdate : ℚ := 0
  m_LastCheck : ℚ := 0
  m_Tablet : Bool := false
  phase : TabletPhase := .stopped
deriving DecidableEq

/-- The members that are configured. -/
structure BrowserConfig where
  m_TabletCheckInterval : ℚ := 10
  m_TabletDisplayTime : ℚ := 0

namespace NaoBrowser

/-! ## Translated functions -/

def displayLogo (o : TabletAnswers) (s : NaoBrowser) : NaoBrowser :=
  if o.showImage = some true then { s with m_bLogoDisplayed := true } else s

/-- After the logo the brightness is set and the touch events are connected,
which changes no member, whether or not it throws. -/
def configureTablet (o : TabletAnswers) (s : NaoBrowser) : NaoBrowser :=
  let s := { s with m_bTabletConnected := false, m_bLogoDisplayed := false }
  if o.hasService then
    match o.service with
    | none => s
    | some tablet =>
        let s := { s with m_Tablet := tablet }
        if tablet && o.returns "resetTablet" && o.returns "enableWifi" then
          match o.getWifiStatus with
          | none => s
          | some status =>
              if status = "CONNECTED" then
                { s with m_bTabletConnected := true }.displayLogo o
              else s
        else s
  else s

/-- `check` is the answer to the status query, `o` are the answers while the
tablet is configured. -/
def checkConnection (check : Option String) (o : TabletAnswers)
    (s : NaoBrowser) : NaoBrowser :=
  let s := { s with m_LastCheck := o.time }
  let connected := s.m_Tablet && decide (check = some "CONNECTED")
  let s := { s with m_bTabletConnected := connected }
  if connected then s else s.configureTablet o

def showURL (url : String) (callback : Bool) (s : NaoBrowser) : NaoBrowser :=
  { s with
    m_RequestList := s.m_RequestList ++ [⟨s.asked, url, callback⟩]
    asked := s.asked + 1 }

def tabletShowURL (u : UrlFunctions) (o : TabletAnswers) (req : UrlRequest)
    (s : NaoBrowser) : NaoBrowser :=
  let url := u.mapped req.m_spUrl
  let s := { s with m_LastUpdate := o.time, m_bLogoDisplayed := false }
  if o.returns "cleanWebview" then
    match o.showWebview url with
    | none => s
    | some shown =>
        if req.m_Callback then
          { s with queued := s.queued ++
              [⟨req.number, req.m_spUrl,
                if shown then some "COMPLETED" else none⟩] }
        else s
  else s

/-- The first request of the queue is taken off whatever happened to it. -/
def takeRequest (u : UrlFunctions) (o : TabletAnswers) (s : NaoBrowser) :
    NaoBrowser :=
  match s.m_RequestList with
  | [] => s
  | req :: rest =>
      { s.tabletShowURL u o req with
        m_RequestList := rest
        processed := s.processed ++ [req] }

/-- The next part of `TabletThread`, up to where the queue is locked or
unlocked. -/
def tabletThread (u : UrlFunctions) (cfg : BrowserConfig)
    (check : Option String) (o : TabletAnswers) (s : NaoBrowser) :
    Option NaoBrowser :=
  match s.phase with
  | .stopped => none
  | .entered =>
      some { { s with m_LastCheck := o.time, m_LastUpdate := o.time
             }.configureTablet o with phase := .round }
  | .round =>
      if s.m_bServiceActive then
        if o.time - s.m_LastCheck > cfg.m_TabletCheckInterval then
          some { s.checkConnection check o with phase := .taking o.time }
        else some { s with phase := .taking o.time }
      else some { s with m_bThreadStopped := true, phase := .stopped }
  | .taking now =>
      if s.m_bTabletConnected then
        some { s.takeRequest u o with phase := .taken now }
      else some { s with phase := .round }
  | .taken now =>
      if s.m_bLogoDisplayed = false ∧
          now - s.m_LastUpdate > cfg.m_TabletDisplayTime ∧
          cfg.m_TabletDisplayTime > 0 then
        some { s.displayLogo o with phase := .round }
      else some { s with phase := .round }

/-- The service is started or stopped, a URL is to be shown, the tablet is
touched, the thread goes on, or the main thread invokes one of the queued
callbacks. -/
inductive Event where
  | start
  | stop
  | showURL (url : String) (callback : Bool)
  | onTouchData (time : ℚ)
  | thread (check : Option String) (o : TabletAnswers)
  | main (n : ℕ)

def step (u : UrlFunctions) (cfg : BrowserConfig) (s : NaoBrowser) :
    Event → Option NaoBrowser
  | .start =>
      if s.m_bThreadStopped then
        some { s with
          m_bServiceActive := true
          m_bThreadStopped := false
          phase := .entered }
      else none
  | .stop => some { s with m_bServiceActive := false }
  | .showURL url callback => some (s.showURL url callback)
  | .onTouchData time => some { s with m_LastUpdate := time }
  | .thread check o => s.tabletThread u cfg check o
  | .main n =>
      s.queued[n]?.map fun data =>
        { s with
          queued := s.queued.eraseIdx n
          invoked := s.invoked ++ [data] }

end NaoBrowser

/-! ## The requests -/

namespace UrlRequests

/-- The requests whose callbacks are queued or have been invoked. -/
def answered (s : UrlRequests) : List ℕ :=
  (s.queued ++ s.invoked).map URLServiceData.number

/-- The requests that have been taken and have a valid callback. -/
def due (s : UrlRequests) : List ℕ :=
  (s.processed.filter UrlRequest.m_Callback).map UrlRequest.number

/-- The requests are taken in the order of the calls of `ShowURL`, each at most
once, and exactly one callback is queued or has been invoked for each one with
a valid callback. -/
structure Answers (s : UrlRequests) : Prop where
  inOrder : (s.processed ++ s.m_RequestList).map UrlRequest.number =
    List.range s.asked
  once : ∀ req ∈ s.processed, req.m_Callback = true →
    s.answered.count req.number = 1
  only : ∀ n ∈ s.answered, n ∈ s.due

/-- The invariant. -/
structure Balanced (s : UrlRequests) : Prop where
  inOrder : (s.processed ++ s.m_RequestList).map UrlRequest.number =
    List.range s.asked
  perm : s.answered.Perm s.due

variable {s t : UrlRequests}

theorem Balanced.nodup (h : Balanced s) :
    ((s.processed ++ s.m_RequestList).map UrlRequest.number).Nodup := by
  rw [h.inOrder]
  exact List.nodup_range

theorem Balanced.nodup_due (h : Balanced s) : s.due.Nodup := by
  have hprocessed := h.nodup
  rw [List.map_append] at hprocessed
  exact hprocessed.of_append_left.sublist (List.filter_sublist.map _)

theorem Balanced.answers (h : Balanced s) : Answers s where
  inOrder := h.inOrder
  once := by
    intro req hreq hcallback
    rw [h.perm.count_eq]
    exact List.count_eq_one_of_mem h.nodup_due
      (List.mem_map_of_mem (List.mem_filter.mpr ⟨hreq, hcallback⟩))
  only := fun n hn => h.perm.mem_iff.mp hn

/-- One request is taken, and answered if it has a valid callback. -/
theorem Balanced.take (h : Balanced s) {req : UrlRequest}
    {rest : List UrlRequest} {data : URLServiceData}
    (hlist : s.m_RequestList = req :: rest) (hdata : data.number = req.number)
    (ht : t = { s with
      m_RequestList := rest
      processed := s.processed ++ [req]
      queued := if req.m_Callback then s.queued ++ [data] else s.queued }) :
    Balanced t := by
  subst ht
  constructor
  · have horder := h.inOrder
    rw [hlist] at horder
    simpa only [List.append_assoc, List.singleton_append] using horder
  · cases hcallback : req.m_Callback with
    | false => simpa [answered, due, hcallback] using h.perm
    | true =>
        have hperm := h.perm.cons req.number
        simp only [answered, due, List.map_append, List.filter_append]
          at hperm ⊢
        simp only [hcallback, if_pos, List.filter_cons_of_pos, List.filter_nil,
          List.map_append, List.map_cons, List.map_nil, hdata,
          List.append_assoc, List.singleton_append]
        exact List.perm_middle.trans (hperm.trans
          (List.perm_append_singleton _ _).symm)

/-- One request with a valid callback is taken and not answered. -/
theorem Balanced.not_answers (h : Balanced s) {req : UrlRequest}
    {rest : List UrlRequest} (hlist : s.m_RequestList = req :: rest)
    (hcallback : req.m_Callback = true)
    (ht : t = { s with
      m_RequestList := rest
      processed := s.processed ++ [req] }) : ¬Answers t := by
  subst ht
  intro hanswers
  have hcount := hanswers.once req (by simp) hcallback
  have hpos : 0 < s.answered.count req.number := hcount.symm ▸ Nat.one_pos
  have hmem : req.number ∈ s.due :=
    h.perm.mem_iff.mp (List.count_pos_iff.mp hpos)
  obtain ⟨other, hother, hnumber⟩ := List.mem_map.mp hmem
  have hdisjoint := h.nodup
  rw [hlist, List.map_append, List.nodup_append] at hdisjoint
  exact hdisjoint.2.2 _ (List.mem_map_of_mem (List.mem_filter.mp hother).1)
    _ (by simp) hnumber

end UrlRequests

namespace NaoBrowser

open UrlRequests

variable {u : UrlFunctions} {cfg : BrowserConfig} {s t : NaoBrowser}

/-! ## What the functions do to the requests -/

@[simp] theorem toUrlRequests_displayLogo (o : TabletAnswers)
    (s : NaoBrowser) :
    (s.displayLogo o).toUrlRequests = s.toUrlRequests := by
  unfold displayLogo
  split <;> rfl

@[simp] theorem toUrlRequests_configureTablet (o : TabletAnswers)
    (s : NaoBrowser) :
    (s.configureTablet o).toUrlRequests = s.toUrlRequests := by
  unfold configureTablet
  dsimp only
  split
  · split
    · rfl
    · split
      · split
        · rfl
        · split
          · rw [toUrlRequests_displayLogo]
          · rfl
      · rfl
  · rfl

@[simp] theorem toUrlRequests_checkConnection (check : Option String)
    (o : TabletAnswers) (s : NaoBrowser) :
    (s.checkConnection check o).toUrlRequests = s.toUrlRequests := by
  unfold checkConnection
  dsimp only
  split
  · rfl
  · rw [toUrlRequests_configureTablet]

/-- The two calls of the tablet between taking a request and answering it
return. -/
def Shown (u : UrlFunctions) (o : TabletAnswers) (req : UrlRequest) : Prop :=
  o.returns "cleanWebview" = true ∧
    (o.showWebview (u.mapped req.m_spUrl)).isSome = true

/-- A request with a valid callback is taken only where it can be shown. -/
def Answerable (u : UrlFunctions) (s : NaoBrowser) : Event → Prop
  | .thread _ o => ∀ now req, s.phase = .taking now →
      s.m_bTabletConnected = true → s.m_RequestList.head? = some req →
      req.m_Callback = true → Shown u o req
  | _ => True

/-- A request that is shown is answered. -/
theorem tabletShowURL_of_shown {o : TabletAnswers} {req : UrlRequest}
    (h : Shown u o req) :
    ∃ data : URLServiceData, data.number = req.number ∧
      (s.tabletShowURL u o req).toUrlRequests =
        { s.toUrlRequests with
          queued := if req.m_Callback then s.queued ++ [data]
            else s.queued } := by
  obtain ⟨hclean, hshow⟩ := h
  obtain ⟨shown, hshown⟩ := Option.isSome_iff_exists.mp hshow
  refine ⟨⟨req.number, req.m_spUrl,
    if shown then some "COMPLETED" else none⟩, rfl, ?_⟩
  simp only [tabletShowURL, hclean, hshown, if_true]
  split <;> rfl

/-- A request that is not shown, or has no valid callback, is not answered. -/
theorem tabletShowURL_of_not {o : TabletAnswers} {req : UrlRequest}
    (h : ¬Shown u o req ∨ req.m_Callback = false) :
    (s.tabletShowURL u o req).toUrlRequests = s.toUrlRequests := by
  unfold tabletShowURL
  dsimp only
  split
  · rename_i hclean
    split
    · rfl
    · rename_i shown hshown
      split
      · rename_i hcallback
        rcases h with hnot | hfalse
        · exact absurd ⟨hclean, Option.isSome_iff_exists.mpr ⟨shown, hshown⟩⟩
            hnot
        · rw [hfalse] at hcallback
          cases hcallback
      · rfl
  · rfl

/-- Taking a request keeps the balance if one with a valid callback is
shown. -/
theorem takeRequest_balanced (h : Balanced s.toUrlRequests)
    {o : TabletAnswers} (hC : ∀ req, s.m_RequestList.head? = some req →
      req.m_Callback = true → Shown u o req) :
    Balanced (s.takeRequest u o).toUrlRequests := by
  unfold takeRequest
  cases hlist : s.m_RequestList with
  | nil => exact h
  | cons req rest =>
      dsimp only
      by_cases hshown : Shown u o req
      · obtain ⟨data, hnumber, hshow⟩ := tabletShowURL_of_shown (s := s) hshown
        exact h.take hlist hnumber (by rw [hshow])
      · have hcallback : req.m_Callback = false := by
          by_contra hnot
          exact hshown (hC req (by rw [hlist]; rfl)
            (Bool.ne_false_iff.mp hnot))
        have hshow :=
          tabletShowURL_of_not (s := s) (u := u) (o := o) (Or.inr hcallback)
        have hnumber : (URLServiceData.mk req.number "" none).number =
            req.number := rfl
        exact h.take hlist hnumber (by rw [hshow, hcallback]; rfl)

theorem not_answers_takeRequest (h : Balanced s.toUrlRequests)
    {o : TabletAnswers} {req : UrlRequest}
    (hlist : s.m_RequestList.head? = some req)
    (hcallback : req.m_Callback = true) (hshown : ¬Shown u o req) :
    ¬Answers (s.takeRequest u o).toUrlRequests := by
  obtain ⟨rest, hrest⟩ := List.head?_eq_some_iff.mp hlist
  have hshow := tabletShowURL_of_not (s := s) (Or.inl hshown)
  unfold takeRequest
  simp only [hrest]
  exact h.not_answers hrest hcallback (by rw [hshow])

/-- The thread does nothing to the requests unless it takes one. -/
theorem tabletThread_cases {check : Option String} {o : TabletAnswers}
    (ht : s.tabletThread u cfg check o = some t) :
    t.toUrlRequests = s.toUrlRequests ∧
        (∀ now, s.phase = .taking now → s.m_bTabletConnected = false) ∨
      (∃ now, s.phase = .taking now) ∧ s.m_bTabletConnected = true ∧
        t.toUrlRequests = (s.takeRequest u o).toUrlRequests := by
  unfold tabletThread at ht
  cases hphase : s.phase with
  | stopped =>
      rw [hphase] at ht
      cases ht
  | entered =>
      rw [hphase] at ht
      obtain rfl := Option.some.inj ht
      exact Or.inl ⟨by simp, nofun⟩
  | round =>
      simp only [hphase] at ht
      refine Or.inl ⟨?_, nofun⟩
      split at ht
      · split at ht
        · obtain rfl := Option.some.inj ht
          simp
        · obtain rfl := Option.some.inj ht
          rfl
      · obtain rfl := Option.some.inj ht
        rfl
  | taking now =>
      simp only [hphase] at ht
      split at ht
      · rename_i hconnected
        obtain rfl := Option.some.inj ht
        exact Or.inr ⟨⟨now, rfl⟩, hconnected, rfl⟩
      · rename_i hconnected
        obtain rfl := Option.some.inj ht
        exact Or.inl ⟨rfl, fun _ _ => Bool.eq_false_iff.mpr hconnected⟩
  | taken now =>
      simp only [hphase] at ht
      refine Or.inl ⟨?_, nofun⟩
      split at ht
      · obtain rfl := Option.some.inj ht
        simp
      · obtain rfl := Option.some.inj ht
        rfl

/-! ## Steps -/

theorem balanced_showURL (h : Balanced s.toUrlRequests) (url : String)
    (callback : Bool) : Balanced (s.showURL url callback).toUrlRequests where
  inOrder := by
    have horder := h.inOrder
    simp only [showURL, List.map_append, List.map_cons, List.map_nil,
      List.range_succ, ← List.append_assoc] at horder ⊢
    rw [horder]
  perm := h.perm

theorem balanced_main (h : Balanced s.toUrlRequests) {n : ℕ}
    (ht : s.step u cfg (.main n) = some t) : Balanced t.toUrlRequests := by
  obtain ⟨data, hdata, rfl⟩ := Option.map_eq_some_iff.mp ht
  obtain ⟨hn, rfl⟩ := List.getElem?_eq_some_iff.mp hdata
  refine ⟨h.inOrder, List.Perm.trans (List.Perm.map _ ?_) h.perm⟩
  have hperm := List.getElem_cons_eraseIdx_perm hn
  calc s.queued.eraseIdx n ++ (s.invoked ++ [s.queued[n]])
      = s.queued.eraseIdx n ++ s.invoked ++ [s.queued[n]] :=
        (List.append_assoc _ _ _).symm
    _ |>.Perm (s.queued[n] :: (s.queued.eraseIdx n ++ s.invoked)) :=
        List.perm_append_singleton _ _
    _ |>.Perm (s.queued ++ s.invoked) := hperm.append_right s.invoked

theorem Balanced.step (h : Balanced s.toUrlRequests) {e : Event}
    (hC : Answerable u s e) (ht : s.step u cfg e = some t) :
    Balanced t.toUrlRequests := by
  cases e with
  | start =>
      simp only [NaoBrowser.step, Option.ite_none_right_eq_some,
        Option.some.injEq] at ht
      obtain ⟨-, rfl⟩ := ht
      exact h
  | stop =>
      obtain rfl := Option.some.inj ht
      exact h
  | showURL url callback =>
      obtain rfl := Option.some.inj ht
      exact balanced_showURL h url callback
  | onTouchData time =>
      obtain rfl := Option.some.inj ht
      exact h
  | thread check o =>
      rcases tabletThread_cases ht with ⟨hsame, -⟩ |
        ⟨⟨now, hphase⟩, hconnected, htake⟩
      · rw [hsame]
        exact h
      · rw [htake]
        exact takeRequest_balanced h fun req => hC now req hphase hconnected
  | main n => exact balanced_main h ht

theorem not_answers (h : Balanced s.toUrlRequests) {e : Event}
    (hC : ¬Answerable u s e) (ht : s.step u cfg e = some t) :
    ¬Answers t.toUrlRequests := by
  cases e with
  | thread check o =>
      unfold Answerable at hC
      push Not at hC
      obtain ⟨now, req, hphase, hconnected, hhead, hcallback, hshown⟩ := hC
      rcases tabletThread_cases ht with ⟨-, hdisconnected⟩ | ⟨-, -, htake⟩
      · rw [hdisconnected now hphase] at hconnected
        cases hconnected
      · rw [htake]
        exact not_answers_takeRequest h hhead hcallback hshown
  | _ => exact absurd trivial hC

/-! ## Runs -/

/-- Throughout a run the requests are taken in order and all are answered, iff
the two calls of the tablet return whenever a request with a valid callback is
shown. -/
theorem answers_iff (u : UrlFunctions) (cfg : BrowserConfig)
    (es : List Event) :
    Throughout (step u cfg) (fun s => Answers s.toUrlRequests) {} es ↔
      EachStep (step u cfg) (Answerable u) {} es :=
  throughout_iff_eachStep (I := fun s => Balanced s.toUrlRequests)
    (L := fun _ _ => True) (fun _ h => h.answers)
    (fun _ _ _ h _ hC ht => Balanced.step h hC ht)
    (fun _ _ _ h _ hC ht => not_answers h hC ht) ⟨rfl, List.Perm.refl _⟩
    (eachStep_true _ es)

/-- A request is lost when `showWebview` throws. -/
theorem not_always_answers :
    ¬∀ (u : UrlFunctions) (cfg : BrowserConfig) (es : List Event),
      Throughout (step u cfg) (fun s => Answers s.toUrlRequests) {} es := by
  intro h
  let u : UrlFunctions := ⟨fun _ => "example.org", fun _ url => url, id⟩
  have hrun : (run (step u {}) {}
      [.start, .showURL "http://example.org/" true, .thread none {},
        .thread none {}, .thread none { showWebview := fun _ => none }]).map
      (fun s => (s.processed, s.answered)) =
        some ([⟨0, "http://example.org/", true⟩], []) := by decide +kernel
  obtain ⟨t, ht, hobs⟩ := (h _ _ _).last hrun
  obtain ⟨hprocessed, hanswered⟩ := Prod.mk.inj hobs
  have hcount := ht.once _ (hprocessed ▸ List.mem_singleton_self _) rfl
  rw [hanswered] at hcount
  cases hcount

end NaoBrowser

end SelfPlugins.Nao
