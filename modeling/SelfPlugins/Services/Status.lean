import SelfPlugins.Framework.Json
import SelfPlugins.Framework.WebClient
import SelfPlugins.Library.Errands

/-!
# The status of the services

`GetServiceStatus` of a service that is configured creates a
`ServiceStatusChecker`, which sends a small request and reports whether an
answer has come; for a service that is not configured it reports at once that it
is not there.  `VisualRecognition` asks nobody, and `Wayblazer` reports the
opposite of what the others do.  `PackageStore` wants an object with three
members, and throws if the answer is something else than an object.

The answer to a request is what `OnCheckService` is called with.  `Alchemy` lets
the answers to its checks be kept, under one name for all of them, so that there
the answer may be that of an earlier check.

`status_reported` says what is reported, whatever the order of the calls and the
answers is, and whose answer it is.
-/

namespace SelfPlugins.Status

open Json (Value)
open Runs Errands

/-- The members of the services that are read; `m_pConfig` is the user of the
configuration. -/
structure Service where
  m_ServiceId : String
  m_pConfig : Option String
  isConfigured : Bool
  m_EmbodimentToken : String
  m_AvailabilitySuffix : String

structure ServiceStatus where
  m_ServiceId : String
  up : Bool
deriving DecidableEq

structure Request where
  endpoint : String
  method : String
  cacheRequest : Option (CacheRequest String)

/-- `GetServiceStatus` with a checker that reports what `up` says of the answer;
the service may change in any way meanwhile. -/
def checker {α : Type} (configured : Service → Bool)
    (request : Service → Request) (up : Bool → α → Option Bool) :
    Errand Service Unit Request α ServiceStatus Service where
  opens s _ :=
    if configured s then .send (request s)
    else .tell ⟨s.m_ServiceId, false⟩ false
  closes s valid _ a := (up valid a).map fun b => ⟨s.m_ServiceId, b⟩
  reacts _ s := some s

/-- A pointer to the object that has been read, or null. -/
abbrev Pointer : Type := Option Value

/-- `a_pObject != NULL` -/
def notNull : Bool → Pointer → Option Bool := fun _ p => some p.isSome

namespace NaturalLanguageClassifier

def getServiceStatus : Errand Service Unit Request Pointer ServiceStatus
    Service :=
  checker Service.isConfigured (fun _ => ⟨"/v1/classifiers", "GET", none⟩)
    notNull

end NaturalLanguageClassifier

namespace LanguageTranslator

def getServiceStatus : Errand Service Unit Request Pointer ServiceStatus
    Service :=
  checker Service.isConfigured
    (fun _ => ⟨"/v2/identifiable_languages", "GET", none⟩) notNull

end LanguageTranslator

namespace SpeechToText

def getServiceStatus : Errand Service Unit Request Pointer ServiceStatus
    Service :=
  checker (fun s => s.m_pConfig.isSome)
    (fun _ => ⟨"/v1/models", "GET", none⟩) notNull

end SpeechToText

namespace TextToSpeech

def getServiceStatus : Errand Service Unit Request Pointer ServiceStatus
    Service :=
  checker (fun s => s.m_pConfig.isSome)
    (fun _ => ⟨"/v1/voices", "GET", none⟩) notNull

end TextToSpeech

namespace RobotGateway

def getServiceStatus : Errand Service Unit Request Pointer ServiceStatus
    Service :=
  checker (fun s => s.m_pConfig.isSome && 0 < s.m_EmbodimentToken.length)
    (fun _ => ⟨"/v1/services/getServiceListing", "GET", none⟩) notNull

end RobotGateway

namespace Alchemy

/-- `GetPosTags`, for a service that has a configuration; answers are kept by
the hash of the text. -/
def getPosTags (urlEscape : String → String) (a_Text : String) (s : Service) :
    Request where
  endpoint := "/text/TextGetPOSTags" ++ "?apikey=" ++ s.m_pConfig.getD "" ++
    "&outputMode=json" ++ "&text=" ++ urlEscape a_Text
  method := "GET"
  cacheRequest := some ⟨"GetPosTags", a_Text⟩

def getServiceStatus (urlEscape : String → String) :
    Errand Service Unit Request Value ServiceStatus Service :=
  checker (fun s => s.m_pConfig.isSome) (getPosTags urlEscape "This is a test")
    fun _ parsedResults => some !parsedResults.isNull

end Alchemy

namespace PackageStore

/-- The answer is only looked at for a valid callback. -/
def onCheckService (valid : Bool) (versions : Value) : Option Bool :=
  if valid then do
    return (← versions.isMember? "devVersion") &&
      (← versions.isMember? "reqVersion") && (← versions.isMember? "recVersion")
  else some false

def getServiceStatus : Errand Service Unit Request Value ServiceStatus
    Service :=
  checker (fun s => s.m_pConfig.isSome)
    (fun _ => ⟨"/getVersions?packageId=" ++ "Self-Nao.zip", "POST", none⟩)
    onCheckService

end PackageStore

namespace Wayblazer

/-- `a_Json.isNull() != false` -/
def getServiceStatus : Errand Service Unit Request Value ServiceStatus
    Service :=
  checker (fun s => s.m_pConfig.isSome)
    (fun s => ⟨s.m_AvailabilitySuffix, "GET", none⟩)
    fun _ a_Json => some (a_Json.isNull != false)

end Wayblazer

namespace VisualRecognition

/-- The checker reports in its constructor. -/
def getServiceStatus : Errand Service Unit Request Empty ServiceStatus
    Service where
  opens s _ :=
    if s.m_pConfig.isSome then .tell ⟨s.m_ServiceId, true⟩ true
    else .tell ⟨s.m_ServiceId, false⟩ false
  closes _ _ _ a := nomatch a
  reacts _ s := some s

end VisualRecognition

/-! ## What is reported -/

/-- The calls are as `Filed` says; a service is up according to a report
precisely where the answer of this call says so, and precisely the answers that
break the checker are `lost`.  The answers are kept, if at all, under the same
name for all requests. -/
structure Reported {α : Type}
    (E : Errand Service Unit Request α ServiceStatus Service)
    (kept : Option (CacheRequest String)) (there : α → Prop)
    (lost : Bool → α → Prop)
    (s : Desk Service Unit Request α ServiceStatus) : Prop
    extends Filed E s, Loses (fun _ => lost) s where
  cacheRequest : ∀ n k, (n, k) ∈ s.sent → k.cacheRequest = kept
  up : ∀ n status, (n, status) ∈ s.told → ∃ c, s.calls[n]? = some c ∧
    (status.up = true ↔ ∃ w a, c.fate = .answered w a status ∧ there a)

section

variable {α : Type} {configured : Service → Bool} {request : Service → Request}
  {up : Bool → α → Option Bool} {kept : Option (CacheRequest String)}
  {there : α → Prop} {lost : Bool → α → Prop}

theorem request_of_request? {c : Call Service Unit α ServiceStatus}
    {k : Request} (h : (checker configured request up).request? c = some k) :
    k = request c.owner := by
  simp only [Errand.request?, checker] at h
  split at h
  · rename_i hopens
    split at hopens <;> cases hopens
    exact (Option.some.inj h).symm
  · cases h

theorem reported_throughout
    (hkept : ∀ s, (request s).cacheRequest = kept)
    (hthere : ∀ a b, up true a = some b → (b = true ↔ there a))
    (hlost : ∀ valid a, up valid a = none ↔ lost valid a) (s : Service)
    (evs : List (Event Unit α Service)) :
    Throughout (Desk.step (checker configured request up))
      (Reported (checker configured request up) kept there lost)
      { owner := s } evs := by
  refine (filed_throughout _ s evs).mono fun t ht =>
    ⟨ht, ht.loses fun w valid r a => ?_, ?_, ?_⟩
  · rw [← hlost valid a]
    exact Option.map_eq_none_iff
  · intro n k hsent
    obtain ⟨c, -, hrequest⟩ := (ht.sent n k).mp hsent
    rw [request_of_request? hrequest]
    exact hkept c.owner
  · intro n status hstatus
    obtain ⟨c, hc, hmem, hvalid, hresult⟩ := ht.told_cases hstatus
    refine ⟨c, hc, ?_⟩
    rcases hresult with ⟨checked, hopens⟩ | ⟨w, a, hfate, hcloses⟩
    · have hfate := (ht.accounts c hmem).fate_of_tell hopens
      have hdown : status.up = false := by
        simp only [checker] at hopens
        split at hopens <;> cases hopens
        rfl
      refine iff_of_false (fun hup => ?_) ?_
      · rw [hdown] at hup
        cases hup
      · rintro ⟨w, a, hanswered, -⟩
        rw [hfate] at hanswered
        cases hanswered
    · rw [hvalid] at hcloses
      obtain ⟨b, hb, rfl⟩ := Option.map_eq_some_iff.mp hcloses
      refine (hthere a b hb).trans ⟨fun h => ⟨w, a, hfate, h⟩, ?_⟩
      rintro ⟨w', a', hfate', h⟩
      rw [hfate] at hfate'
      cases hfate'
      exact h

end

/-- The answer is a pointer that is not null. -/
def Read (p : Pointer) : Prop := p ≠ none

theorem notNull_iff (p : Pointer) (b : Bool) (h : notNull true p = some b) :
    b = true ↔ Read p := by
  obtain rfl := Option.some.inj h
  exact Option.isSome_iff_ne_none

/-- The answer has the versions that are asked for. -/
def PackageStore.Listed (versions : Value) : Prop :=
  ∀ key ∈ ["devVersion", "reqVersion", "recVersion"],
    versions.isMember? key = some true

theorem PackageStore.onCheckService_iff (versions : Value) (b : Bool)
    (h : onCheckService true versions = some b) :
    b = true ↔ Listed versions := by
  obtain ⟨dev, hdev, h⟩ := Option.bind_eq_some_iff.mp h
  obtain ⟨req, hreq, h⟩ := Option.bind_eq_some_iff.mp h
  obtain ⟨rec, hrec, h⟩ := Option.bind_eq_some_iff.mp h
  obtain rfl := Option.some.inj h
  simp [Listed, hdev, hreq, hrec, and_assoc]

theorem PackageStore.onCheckService_eq_none_iff (valid : Bool)
    (versions : Value) :
    onCheckService valid versions = none ↔
      valid = true ∧ versions.members? = none := by
  unfold onCheckService
  cases valid with
  | false => simp
  | true =>
      cases hmembers : versions.members? with
      | none => simp [Value.isMember?, hmembers]
      | some ms => simp [Value.isMember?, hmembers]

/-- Nobody is asked. -/
theorem VisualRecognition.sent_eq_nil
    {t : Desk Service Unit Request Empty ServiceStatus}
    (h : Filed getServiceStatus t) : t.sent = [] := by
  refine List.eq_nil_iff_forall_not_mem.mpr ?_
  rintro ⟨n, k⟩ hk
  obtain ⟨c, -, hrequest⟩ := (h.sent n k).mp hk
  simp only [Errand.request?, getServiceStatus] at hrequest
  split at hrequest
  · rename_i hopens
    split at hopens <;> cases hopens
  · cases hrequest

theorem VisualRecognition.up_iff
    {t : Desk Service Unit Request Empty ServiceStatus}
    (h : Filed getServiceStatus t) {n : ℕ} {status : ServiceStatus}
    (hstatus : (n, status) ∈ t.told) :
    ∃ c, t.calls[n]? = some c ∧
      (status.up = true ↔ c.owner.m_pConfig ≠ none) := by
  obtain ⟨c, hc, -, -, hresult⟩ := h.told_cases hstatus
  refine ⟨c, hc, ?_⟩
  rcases hresult with ⟨checked, hopens⟩ | ⟨w, a, -⟩
  · simp only [getServiceStatus] at hopens
    split at hopens
    · rename_i hconfig
      cases hopens
      exact iff_of_true rfl (Option.isSome_iff_ne_none.mp hconfig)
    · rename_i hconfig
      cases hopens
      exact iff_of_false nofun
        fun hne => hconfig (Option.isSome_iff_ne_none.mpr hne)
  · exact nomatch a

/-- In whatever order the calls and the answers come, a report that the service
is up says that an answer to its own request has come: an object that could be
read, a value that is not null, the versions of a package.  `Wayblazer` reports
so precisely where the answer is null.  The only answers that are not reported
are those to `PackageStore` that are no object, and the only ones that may be
those of an earlier check those to `Alchemy`. -/
theorem status_reported (urlEscape : String → String) (s : Service) :
    (∀ E ∈ [NaturalLanguageClassifier.getServiceStatus,
        LanguageTranslator.getServiceStatus, SpeechToText.getServiceStatus,
        TextToSpeech.getServiceStatus, RobotGateway.getServiceStatus],
      ∀ evs, Throughout (Desk.step E) (Reported E none Read fun _ _ => False)
        { owner := s } evs) ∧
    (∀ evs, Throughout (Desk.step (Alchemy.getServiceStatus urlEscape))
      (Reported (Alchemy.getServiceStatus urlEscape)
        (some ⟨"GetPosTags", "This is a test"⟩) (· ≠ .null) fun _ _ => False)
      { owner := s } evs) ∧
    (∀ evs, Throughout (Desk.step PackageStore.getServiceStatus)
      (Reported PackageStore.getServiceStatus none PackageStore.Listed
        fun valid versions => valid = true ∧ versions.members? = none)
      { owner := s } evs) ∧
    (∀ evs, Throughout (Desk.step Wayblazer.getServiceStatus)
      (Reported Wayblazer.getServiceStatus none (· = .null) fun _ _ => False)
      { owner := s } evs) ∧
    (∀ evs, Throughout (Desk.step VisualRecognition.getServiceStatus)
      (fun t => Filed VisualRecognition.getServiceStatus t ∧ t.sent = [] ∧
        ∀ n status, (n, status) ∈ t.told → ∃ c, t.calls[n]? = some c ∧
          (status.up = true ↔ c.owner.m_pConfig ≠ none))
      { owner := s } evs) := by
  refine ⟨?_, fun evs => ?_, fun evs => ?_, fun evs => ?_, fun evs => ?_⟩
  · intro E hE evs
    simp only [List.mem_cons, List.not_mem_nil, or_false] at hE
    rcases hE with rfl | rfl | rfl | rfl | rfl
    all_goals
      exact reported_throughout (fun _ => rfl) notNull_iff
        (fun _ _ => iff_of_false (Option.some_ne_none _) not_false) s evs
  · refine reported_throughout (fun _ => ?_) (fun v b h => ?_)
      (fun _ _ => iff_of_false (Option.some_ne_none _) not_false) s evs
    · rfl
    · obtain rfl := Option.some.inj h
      rw [Bool.not_eq_true', ← Bool.not_eq_true, Value.isNull_iff]
  · exact reported_throughout (fun _ => rfl) PackageStore.onCheckService_iff
      PackageStore.onCheckService_eq_none_iff s evs
  · refine reported_throughout (fun _ => ?_) (fun v b h => ?_)
      (fun _ _ => iff_of_false (Option.some_ne_none _) not_false) s evs
    · rfl
    · obtain rfl := Option.some.inj h
      rw [bne_iff_ne, Ne, Bool.not_eq_false, Value.isNull_iff]
  · exact (filed_throughout _ s evs).mono fun t ht =>
      ⟨ht, VisualRecognition.sent_eq_nil ht,
        fun n status => VisualRecognition.up_iff ht⟩

end SelfPlugins.Status
