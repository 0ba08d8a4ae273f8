import Mathlib.Data.List.Induction
import SelfPlugins.Framework.Json
import SelfPlugins.Framework.Text
import SelfPlugins.Library.Runs

/-!
# The login of the video analytics service

`IVA` logs in by a request, whose response sets the session cookies, and sends
them back with all later requests.  It cuts the text of a cookie at each `;` and
the pieces at each `=`, and reads the pieces that are in two parts.  The value
of a cookie may contain further `=`.

`readsCompletely_iff` says which cookies are read completely.
-/

namespace SelfPlugins.Iva

open Runs Text

/-- A `Set-Cookie` value. -/
structure SetCookie where
  name : String
  value : String
  attributes : List String := []
  name_token : '=' ∉ name.toList ∧ ';' ∉ name.toList
  value_octets : ';' ∉ value.toList
  attributes_av : ∀ av ∈ attributes, ';' ∉ av.toList

/-- The text of the cookie, with its attributes in their order. -/
def SetCookie.text (c : SetCookie) : String :=
  c.name ++ "=" ++ c.value ++ String.join (c.attributes.map ("; " ++ ·))

/-- The body of a request: a JSON value, or a form with its fields and one
file, given by its name, file name, contents and content type. -/
inductive Body where
  | json (value : Json.Value)
  | form (fields : List (String × String))
      (file : String × String × String × String)
deriving DecidableEq

/-- A request to the service. -/
structure Request where
  a_Endpoint : String
  a_RequestType : String
  a_Headers : List (String × String)
  a_Body : Body
deriving DecidableEq

/-- The credentials of the service. -/
structure Config where
  m_User : String
  m_Password : String

/-- The service, with the login requests it has sent and the number of those
that are yet to be answered. -/
structure IVA where
  m_SessionId : String := ""
  m_JSessionId : String := ""
  m_spRetryTimer : Bool := false
  m_Headers : List (String × String) := []
  sent : List Request := []
  unanswered : ℕ := 0
deriving DecidableEq

namespace IVA

/-! ## Translated functions -/

/-- The request of `Login`. -/
def loginRequest (cfg : Config) (s : IVA) : Request where
  a_Endpoint := "/session"
  a_RequestType := "POST"
  a_Headers := [("Accept", "application/json"),
    ("Content-Type", "application/json"), ("X-IVA-Request", s.m_SessionId)]
  a_Body := .json (.object [
    ("_markup", .string "login"),
    ("_type", .string "session"),
    ("items", .array [.object [
      ("dateFormat", .string "yyyy-MM-dd"),
      ("locale", .string "en"),
      ("mime", .string "json"),
      ("numberFormat", .string "######.##"),
      ("password", .string cfg.m_Password),
      ("timestampFormat", .string "yyyy-MM-dd'T'HH.mm.ss.SSS"),
      ("timezone", .string "America/New_York"),
      ("userId", .string cfg.m_User)]])])

def login (cfg : Config) (s : IVA) : IVA :=
  { s with
    sent := s.sent ++ [s.loginRequest cfg]
    unanswered := s.unanswered + 1 }

/-- `Start`, where the base class starts. -/
def start (cfg : Config) (s : IVA) : IVA :=
  { s with m_Headers := Json.remove "Authorization" s.m_Headers }.login cfg

variable (u : StringUtil)

/-- One piece of a cookie. -/
def readPair (s : IVA) (piece : String) : IVA :=
  match u.split piece '=' with
  | [key, value] =>
      if key = "IVASESSIONID" then { s with m_SessionId := value }
      else if key = "JSESSIONID" then { s with m_JSessionId := value }
      else s
  | _ => s

/-- One cookie. -/
def readCookie (s : IVA) (cookie : String) : IVA :=
  (u.split cookie ';').foldl (readPair u) s

/-- `OnLoginSession` -/
def onLoginSession (cookies : List String) (s : IVA) : IVA :=
  let s := cookies.foldl (readCookie u) s
  { s with
    m_spRetryTimer := s.m_JSessionId = "" ∨ s.m_SessionId = ""
    m_Headers := Json.assign "Cookie" ("JSESSIONID=" ++ s.m_JSessionId ++
      "; IVASESSIONID=" ++ s.m_SessionId) s.m_Headers }

/-- The service is started, a login is answered, or the timer expires. -/
inductive Event where
  | start
  | onLoginSession (cookies : List SetCookie)
  | retryTimer

def step (cfg : Config) (s : IVA) : Event → Option IVA
  | .start => some (s.start cfg)
  | .onLoginSession cookies =>
      if 0 < s.unanswered then
        some (onLoginSession u (cookies.map SetCookie.text)
          { s with unanswered := s.unanswered - 1 })
      else none
  | .retryTimer =>
      if s.m_spRetryTimer then
        some ({ s with m_spRetryTimer := false }.login cfg)
      else none

end IVA

/-! ## What is to be read -/

/-- The value of the last cookie of a name. -/
def lastValue (name : String) (cookies : List SetCookie) : Option String :=
  (cookies.filter fun c => c.name = name).getLast?.map SetCookie.value

/-- After the response the session ids are the values of the last cookies of
their names, if there are any, and the timer is armed iff one of them is
empty. -/
structure ReadsCompletely (u : StringUtil) (cookies : List SetCookie)
    (s : IVA) : Prop where
  session : (s.onLoginSession u (cookies.map SetCookie.text)).m_SessionId =
    (lastValue "IVASESSIONID" cookies).getD s.m_SessionId
  jSession : (s.onLoginSession u (cookies.map SetCookie.text)).m_JSessionId =
    (lastValue "JSESSIONID" cookies).getD s.m_JSessionId
  retry : (s.onLoginSession u (cookies.map SetCookie.text)).m_spRetryTimer =
      true ↔
    (lastValue "JSESSIONID" cookies).getD s.m_JSessionId = "" ∨
      (lastValue "IVASESSIONID" cookies).getD s.m_SessionId = ""

/-- The value of the last cookie of the name is in one part. -/
def Undivided (name : String) (cookies : List SetCookie) : Prop :=
  ∀ value, lastValue name cookies = some value → '=' ∉ value.toList

/-! ## What is read -/

/-- What is made of a session id by one cookie. -/
def keep (name old : String) (c : SetCookie) : String :=
  if c.name = name ∧ '=' ∉ c.value.toList then c.value else old

theorem pieces_attributes {a : String} {attributes : List String}
    (ha : ';' ∉ a.toList) (h : ∀ av ∈ attributes, ';' ∉ av.toList) :
    pieces ';' (a ++ String.join (attributes.map ("; " ++ ·))) =
      a :: attributes.map (" " ++ ·) := by
  induction attributes generalizing a with
  | nil =>
      rw [List.map_nil, List.map_nil]
      simpa using pieces_eq_singleton ha
  | cons av attributes ih =>
      have hav : ';' ∉ (" " ++ av).toList := by
        simpa using h av List.mem_cons_self
      have htext : a ++ String.join ((av :: attributes).map ("; " ++ ·)) =
          a ++ String.singleton ';' ++
            (" " ++ av ++ String.join (attributes.map ("; " ++ ·))) := by
        rw [← String.toList_inj]
        simp
      rw [htext, pieces_append ha,
        ih hav fun b hb => h b (List.mem_cons_of_mem _ hb), List.map_cons]

/-- The pieces of a cookie. -/
theorem pieces_text (c : SetCookie) :
    pieces ';' c.text =
      (c.name ++ "=" ++ c.value) :: c.attributes.map (" " ++ ·) := by
  refine pieces_attributes ?_ c.attributes_av
  simpa using ⟨c.name_token.2, c.value_octets⟩

/-- The name and the value are read if the value is in one part. -/
theorem pieces_pair (c : SetCookie) :
    pieces '=' (c.name ++ "=" ++ c.value) = c.name :: pieces '=' c.value :=
  pieces_append c.name_token.1 c.value

namespace IVA

variable {u : StringUtil} {cfg : Config} {s t : IVA}

/-- Attributes are not read, since they start with a blank. -/
theorem readPair_attribute (s : IVA) (av : String) :
    s.readPair u (" " ++ av) = s := by
  have hhead : ∀ key rest, u.split (" " ++ av) '=' = key :: rest →
      key.toList.head? ≠ some 'I' ∧ key.toList.head? ≠ some 'J' := by
    intro key rest h
    have hlist : (" " ++ av).toList = ' ' :: av.toList := by simp
    rw [u.split_eq, pieces, hlist, List.splitOn_cons_eq_if_modifyHead] at h
    obtain ⟨piece, pieces, hpieces⟩ :=
      List.exists_cons_of_ne_nil (List.splitOn_ne_nil '=' av.toList)
    rw [hpieces] at h
    obtain ⟨rfl, -⟩ := List.cons.inj h
    simp
  unfold readPair
  split
  · rename_i key value hpair
    obtain ⟨hI, hJ⟩ := hhead key [value] hpair
    rw [if_neg, if_neg]
    · rintro rfl
      exact hJ rfl
    · rintro rfl
      exact hI rfl
  · rfl

/-- The piece with name and value is read if the value is in one part. -/
theorem readPair_pair (s : IVA) (c : SetCookie) :
    s.readPair u (c.name ++ "=" ++ c.value) =
      { s with
        m_SessionId := keep "IVASESSIONID" s.m_SessionId c
        m_JSessionId := keep "JSESSIONID" s.m_JSessionId c } := by
  unfold readPair keep
  rw [u.split_eq, pieces_pair]
  by_cases hvalue : '=' ∉ c.value.toList
  · rw [pieces_eq_singleton hvalue]
    dsimp only
    by_cases hname : c.name = "IVASESSIONID"
    · simp [hname, hvalue]
    · by_cases hname' : c.name = "JSESSIONID"
      · simp [hname', hvalue]
      · simp [hname, hname']
  · have hlength : (pieces '=' c.value).length ≠ 1 := fun h =>
      hvalue (pieces_length_eq_one_iff.mp h)
    split
    · rename_i key value hpair
      rw [(List.cons.inj hpair).2] at hlength
      exact absurd rfl hlength
    · simp [hvalue]

theorem readCookie_text (s : IVA) (c : SetCookie) :
    s.readCookie u c.text =
      { s with
        m_SessionId := keep "IVASESSIONID" s.m_SessionId c
        m_JSessionId := keep "JSESSIONID" s.m_JSessionId c } := by
  have hattributes : ∀ (avs : List String) (s : IVA),
      (avs.map (" " ++ ·)).foldl (readPair u) s = s := by
    intro avs
    induction avs with
    | nil => exact fun s => rfl
    | cons av avs ih =>
        intro s
        rw [List.map_cons, List.foldl_cons, readPair_attribute, ih]
  rw [readCookie, u.split_eq, pieces_text, List.foldl_cons, hattributes,
    readPair_pair]

theorem foldl_readCookie (s : IVA) (cookies : List SetCookie) :
    (cookies.map SetCookie.text).foldl (readCookie u) s =
      { s with
        m_SessionId := cookies.foldl (keep "IVASESSIONID") s.m_SessionId
        m_JSessionId := cookies.foldl (keep "JSESSIONID") s.m_JSessionId } := by
  induction cookies generalizing s with
  | nil => rfl
  | cons c cookies ih =>
      rw [List.map_cons, List.foldl_cons, readCookie_text, ih]
      rfl

/-- The session ids after the response. -/
theorem onLoginSession_ids (cookies : List SetCookie) (s : IVA) :
    (s.onLoginSession u (cookies.map SetCookie.text)).m_SessionId =
        cookies.foldl (keep "IVASESSIONID") s.m_SessionId ∧
      (s.onLoginSession u (cookies.map SetCookie.text)).m_JSessionId =
        cookies.foldl (keep "JSESSIONID") s.m_JSessionId := by
  unfold onLoginSession
  rw [foldl_readCookie]
  exact ⟨rfl, rfl⟩

theorem onLoginSession_retry (cookies : List String) (s : IVA) :
    (s.onLoginSession u cookies).m_spRetryTimer = true ↔
      (s.onLoginSession u cookies).m_JSessionId = "" ∨
        (s.onLoginSession u cookies).m_SessionId = "" :=
  decide_eq_true_iff

end IVA

/-! ## The last cookie -/

theorem lastValue_concat (name : String) (cookies : List SetCookie)
    (c : SetCookie) :
    lastValue name (cookies ++ [c]) =
      if c.name = name then some c.value else lastValue name cookies := by
  unfold lastValue
  rw [List.filter_append]
  split
  · rename_i hname
    simp [hname]
  · rename_i hname
    simp [hname]

theorem foldl_keep_undivided {name old : String} (hold : '=' ∉ old.toList)
    (cookies : List SetCookie) :
    '=' ∉ (cookies.foldl (keep name) old).toList := by
  induction cookies generalizing old with
  | nil => exact hold
  | cons c cookies ih =>
      refine ih ?_
      unfold keep
      split
      · rename_i hkeep
        exact hkeep.2
      · exact hold

/-- A session id without `=` becomes the value of the last cookie of the name
iff that contains no `=` either. -/
theorem foldl_keep_eq_iff {name old : String} (hold : '=' ∉ old.toList)
    (cookies : List SetCookie) :
    cookies.foldl (keep name) old = (lastValue name cookies).getD old ↔
      Undivided name cookies := by
  -- by induction on the list from its end, where the last cookie is
  induction cookies using List.reverseRecOn with
  | nil => exact ⟨fun _ => nofun, fun _ => rfl⟩
  | append_singleton cookies c ih =>
      have hrest : '=' ∉ (cookies.foldl (keep name) old).toList :=
        foldl_keep_undivided hold cookies
      unfold Undivided
      rw [List.foldl_concat, lastValue_concat]
      unfold keep
      by_cases hname : c.name = name
      · rw [if_pos hname, Option.getD_some]
        by_cases hvalue : '=' ∉ c.value.toList
        · rw [if_pos ⟨hname, hvalue⟩]
          refine ⟨fun _ value h => ?_, fun _ => rfl⟩
          exact Option.some.inj h ▸ hvalue
        · rw [if_neg fun h => hvalue h.2]
          refine ⟨fun h => absurd (h ▸ hrest) hvalue,
            fun h => absurd (h c.value rfl) hvalue⟩
      · rw [if_neg hname, if_neg fun h => hname h.1]
        exact ih

/-! ## Runs -/

namespace IVA

variable {u : StringUtil} {cfg : Config} {s t : IVA}

/-- No session id that has been read contains a `=`. -/
structure Plain (s : IVA) : Prop where
  session : '=' ∉ s.m_SessionId.toList
  jSession : '=' ∉ s.m_JSessionId.toList

theorem Plain.step {e : Event} (h : Plain s) (ht : s.step u cfg e = some t) :
    Plain t := by
  cases e with
  | start =>
      obtain rfl := Option.some.inj ht
      exact ⟨h.session, h.jSession⟩
  | onLoginSession cookies =>
      simp only [IVA.step, Option.ite_none_right_eq_some,
        Option.some.injEq] at ht
      obtain ⟨-, rfl⟩ := ht
      obtain ⟨hsession, hjSession⟩ := onLoginSession_ids (u := u) cookies
        { s with unanswered := s.unanswered - 1 }
      constructor
      · rw [hsession]
        exact foldl_keep_undivided h.session cookies
      · rw [hjSession]
        exact foldl_keep_undivided h.jSession cookies
  | retryTimer =>
      simp only [IVA.step, Option.ite_none_right_eq_some,
        Option.some.injEq] at ht
      obtain ⟨-, rfl⟩ := ht
      exact ⟨h.session, h.jSession⟩

theorem plain_of_run {es : List Event}
    (hs : run (step u cfg) {} es = some s) : Plain s :=
  invariant_of_reaches (fun _ _ _ h ht => h.step ht) ⟨by simp, by simp⟩
    ⟨es, hs⟩

/-- In every state that is reached, a response is read completely iff the
values of the last cookies of the two names contain no `=`. -/
theorem readsCompletely_iff (u : StringUtil) (cfg : Config) (es : List Event)
    (s : IVA) (hs : run (step u cfg) {} es = some s)
    (cookies : List SetCookie) :
    ReadsCompletely u cookies s ↔
      Undivided "IVASESSIONID" cookies ∧ Undivided "JSESSIONID" cookies := by
  have hplain := plain_of_run hs
  obtain ⟨hsession, hjSession⟩ := onLoginSession_ids (u := u) cookies s
  have hsession_iff : _ ↔ Undivided "IVASESSIONID" cookies :=
    foldl_keep_eq_iff hplain.session cookies
  have hjSession_iff : _ ↔ Undivided "JSESSIONID" cookies :=
    foldl_keep_eq_iff hplain.jSession cookies
  rw [← hsession] at hsession_iff
  rw [← hjSession] at hjSession_iff
  constructor
  · intro h
    exact ⟨hsession_iff.mp h.session, hjSession_iff.mp h.jSession⟩
  · rintro ⟨h, h'⟩
    refine ⟨hsession_iff.mpr h, hjSession_iff.mpr h', ?_⟩
    rw [onLoginSession_retry, hsession_iff.mpr h, hjSession_iff.mpr h']

/-- The first login of a service, answered with one of the cookies. -/
theorem readsCompletely_iff_first :
    ReadsCompletely .plain
      [⟨"JSESSIONID", "0000Rx:-1", ["Path=/"], by decide, by decide,
        by decide⟩] (start ⟨"user", "secret"⟩ {}) := by
  refine (readsCompletely_iff .plain ⟨"user", "secret"⟩ [.start] _ rfl _).mpr
    ⟨?_, ?_⟩
  · intro value h
    cases h
  · intro value h
    obtain rfl := Option.some.inj h
    decide

/-- A value that ends in `=`. -/
theorem not_always_readsCompletely :
    ¬∀ (u : StringUtil) (cfg : Config) (es : List Event) (s : IVA),
      run (step u cfg) {} es = some s →
        ∀ cookies, ReadsCompletely u cookies s := by
  intro h
  have hread := h .plain ⟨"user", "secret"⟩ [.start] _ rfl
    [⟨"IVASESSIONID", "b3BhcXVl=", [], by decide, by decide, nofun⟩]
  have hempty : ((start ⟨"user", "secret"⟩ {}).onLoginSession .plain
      (["IVASESSIONID=b3BhcXVl="])).m_SessionId = "" := by decide +kernel
  have hvalue := hread.session
  exact absurd (hempty.symm.trans hvalue) (by decide +kernel)

end IVA

end SelfPlugins.Iva
