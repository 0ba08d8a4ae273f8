import SelfPlugins.Archives.Sensors

/-!
# The saved members of services and proxies

As for the sensors, the members that the classes themselves save.  The data
models of the Natural Language Classifier are saved in the same way, with
vectors of objects.
-/

namespace SelfPlugins.Archives

open Json (Value Formats Codec Archive texts)
open Json.Value (isString isString_string isDouble isNumeric)

/-! ## Services -/

structure NaoBrowser (F : Formats) where
  m_TabletCheckInterval : F.Float
  m_TabletDisplayTime : F.Float
  m_fBrightness : F.Float

def NaoBrowser.archive (F : Formats) : Archive (NaoBrowser F) where
  members := [
    (Codec.float F).member "m_TabletCheckInterval" m_TabletCheckInterval
      fun x s => { s with m_TabletCheckInterval := x },
    (Codec.float F).member "m_TabletDisplayTime" m_TabletDisplayTime
      fun x s => { s with m_TabletDisplayTime := x },
    (Codec.float F).member "m_fBrightness" m_fBrightness
      fun x s => { s with m_fBrightness := x }]
  keys := ["m_TabletCheckInterval", "m_TabletDisplayTime", "m_fBrightness"]

structure WEX where
  m_Collection : String

def WEX.archive (F : Formats) : Archive WEX where
  members := [
    (Codec.string F).member "m_Collection" m_Collection
      fun x s => { s with m_Collection := x }]
  keys := ["m_Collection"]

structure WEXIntent where
  m_Text : String
  m_Collection : String

def WEXIntent.archive (F : Formats) : Archive WEXIntent where
  members := [
    (Codec.string F).memberAlways "m_Text" m_Text
      fun x s => { s with m_Text := x },
    (Codec.string F).memberAlways "m_Collection" m_Collection
      fun x s => { s with m_Collection := x }]
  keys := ["m_Text", "m_Collection"]

structure AlchemyNews where
  m_ReturnParameters : List String

def AlchemyNews.finish (s : AlchemyNews) : AlchemyNews where
  m_ReturnParameters := filled ["enriched.url.title", "enriched.url.url",
    "enriched.url.text"] s.m_ReturnParameters

def AlchemyNews.archive (F : Formats) : Archive AlchemyNews where
  members := [
    texts F "m_ReturnParameters" m_ReturnParameters
      fun x s => { s with m_ReturnParameters := x }]
  finish := finish
  kept := finish
  keys := ["m_ReturnParameters"]
  kept_kept s := by simp [finish]

structure Conversation where
  m_APIVersion : String
  m_CacheTag : String

def Conversation.archive (F : Formats) : Archive Conversation where
  members := [
    (Codec.string F).member "m_APIVersion" m_APIVersion
      fun x s => { s with m_APIVersion := x },
    (Codec.string F).member "m_CacheTag" m_CacheTag
      fun x s => { s with m_CacheTag := x }]
  keys := ["m_APIVersion", "m_CacheTag"]

structure NaturalLanguageUnderstanding where
  m_APIVersion : String
  m_Language : String

def NaturalLanguageUnderstanding.archive (F : Formats) :
    Archive NaturalLanguageUnderstanding where
  members := [
    (Codec.string F).member "m_Version" m_APIVersion
      fun x s => { s with m_APIVersion := x },
    (Codec.string F).member "m_Language" m_Language
      fun x s => { s with m_Language := x }]
  keys := ["m_Version", "m_Language"]

structure PersonalityInsights where
  m_Version : String

def PersonalityInsights.archive (F : Formats) : Archive PersonalityInsights where
  members := [
    (Codec.string F).member "m_Version" m_Version
      fun x s => { s with m_Version := x }]
  keys := ["m_Version"]

structure ToneAnalyzer where
  m_Version : String

def ToneAnalyzer.archive (F : Formats) : Archive ToneAnalyzer where
  members := [
    (Codec.string F).member "m_Version" m_Version
      fun x s => { s with m_Version := x }]
  keys := ["m_Version"]

structure RetrieveAndRank where
  m_SolrId : String
  m_WorkspaceId : String

def RetrieveAndRank.archive (F : Formats) : Archive RetrieveAndRank where
  members := [
    (Codec.string F).member "m_SolrId" m_SolrId
      fun x s => { s with m_SolrId := x },
    (Codec.string F).member "m_WorkspaceId" m_WorkspaceId
      fun x s => { s with m_WorkspaceId := x }]
  keys := ["m_SolrId", "m_WorkspaceId"]

structure SpeechToText (F : Formats) where
  m_Models : List String
  m_MaxAlternatives : Int32
  m_Timestamps : Bool
  m_WordConfidence : Bool
  m_Continous : Bool
  m_Interium : Bool
  m_DetectSilence : Bool
  m_SilenceThreshold : F.Float
  m_MaxAudioQueueSize : UInt32
  m_bLearningOptOut : Bool
  m_fResultDelay : F.Float
  m_Timeout : Int32

def SpeechToText.finish {F : Formats} (s : SpeechToText F) : SpeechToText F :=
  { s with m_Models := filled ["en-US_BroadbandModel"] s.m_Models }

def SpeechToText.archive (F : Formats) : Archive (SpeechToText F) where
  members := [
    texts F "m_Models" m_Models fun x s => { s with m_Models := x },
    Codec.int.member "m_MaxAlternatives" m_MaxAlternatives
      fun x s => { s with m_MaxAlternatives := x },
    Codec.bool.member "m_Timestamps" m_Timestamps
      fun x s => { s with m_Timestamps := x },
    Codec.bool.member "m_WordConfidence" m_WordConfidence
      fun x s => { s with m_WordConfidence := x },
    Codec.bool.member "m_Continous" m_Continous
      fun x s => { s with m_Continous := x },
    Codec.bool.member "m_Interium" m_Interium
      fun x s => { s with m_Interium := x },
    Codec.bool.member "m_DetectSilence" m_DetectSilence
      fun x s => { s with m_DetectSilence := x },
    (Codec.float F).member "m_SilenceThreshold" m_SilenceThreshold
      fun x s => { s with m_SilenceThreshold := x },
    Codec.uint.member "m_MaxAudioQueueSize" m_MaxAudioQueueSize
      fun x s => { s with m_MaxAudioQueueSize := x },
    Codec.bool.member "m_LearningOptOut" m_bLearningOptOut
      fun x s => { s with m_bLearningOptOut := x },
    (Codec.float F).member "m_fResultDelay" m_fResultDelay
      fun x s => { s with m_fResultDelay := x },
    Codec.int.member "m_Timeout" m_Timeout
      fun x s => { s with m_Timeout := x }]
  finish := finish
  kept := finish
  keys := ["m_Models", "m_MaxAlternatives", "m_Timestamps",
    "m_WordConfidence", "m_Continous", "m_Interium", "m_DetectSilence",
    "m_SilenceThreshold", "m_MaxAudioQueueSize", "m_LearningOptOut",
    "m_fResultDelay", "m_Timeout"]
  finish_put s t := by
    simp only [List.foldl_cons, List.foldl_nil, Codec.member, texts,
      Codec.vector, Codec.int, Codec.uint, Codec.bool, Codec.float, id]
  kept_kept s := by simp [finish]

structure TextToSpeech where
  m_Voice : String

def TextToSpeech.archive (F : Formats) : Archive TextToSpeech where
  members := [
    (Codec.string F).member "m_Voice" m_Voice
      fun x s => { s with m_Voice := x }]
  keys := ["m_Voice"]

structure VisualRecognition (F : Formats) where
  m_APIVersion : String
  m_ClassifyThreshold : F.Float

def VisualRecognition.archive (F : Formats) :
    Archive (VisualRecognition F) where
  members := [
    (Codec.string F).memberIf isString isString_string "m_APIVersion"
      m_APIVersion fun x s => { s with m_APIVersion := x },
    (Codec.float F).memberIf isDouble (fun _ => rfl) "m_ClassifyThreshold"
      m_ClassifyThreshold fun x s => { s with m_ClassifyThreshold := x }]
  keys := ["m_APIVersion", "m_ClassifyThreshold"]

structure WeatherCompanyData (F : Formats) where
  m_Units : String
  m_Language : String
  m_Location : String
  m_Long : F.Float
  m_Lat : F.Float

def WeatherCompanyData.archive (F : Formats) :
    Archive (WeatherCompanyData F) where
  members := [
    (Codec.string F).memberIf isString isString_string "m_Units" m_Units
      fun x s => { s with m_Units := x },
    (Codec.string F).memberIf isString isString_string "m_Language" m_Language
      fun x s => { s with m_Language := x },
    (Codec.string F).memberIf isString isString_string "m_Location" m_Location
      fun x s => { s with m_Location := x },
    (Codec.float F).memberIf isNumeric (fun _ => rfl) "m_Long" m_Long
      fun x s => { s with m_Long := x },
    (Codec.float F).memberIf isNumeric (fun _ => rfl) "m_Lat" m_Lat
      fun x s => { s with m_Lat := x }]
  keys := ["m_Units", "m_Language", "m_Location", "m_Long", "m_Lat"]

/-! ## Proxies -/

structure InteractProxy where
  m_ServiceId : String

def InteractProxy.archive (F : Formats) : Archive InteractProxy where
  members := [
    (Codec.string F).member "m_ServiceId" m_ServiceId
      fun x s => { s with m_ServiceId := x }]
  keys := ["m_ServiceId"]

structure DeepQAProxy (F : Formats) where
  m_ServiceId : String
  m_PipelineType : String
  m_fMinConfidence : F.Float
  m_LowConfidenceResponses : List String

def DeepQAProxy.finish {F : Formats} (s : DeepQAProxy F) : DeepQAProxy F :=
  { s with
    m_LowConfidenceResponses := filled ["I don't know the answer to that one"]
      s.m_LowConfidenceResponses }

def DeepQAProxy.archive (F : Formats) : Archive (DeepQAProxy F) where
  members := [
    (Codec.string F).memberIf isString isString_string "m_ServiceId"
      m_ServiceId fun x s => { s with m_ServiceId := x },
    (Codec.string F).memberIf isString isString_string "m_PipelineType"
      m_PipelineType fun x s => { s with m_PipelineType := x },
    (Codec.float F).memberIf isDouble (fun _ => rfl) "m_fMinConfidence"
      m_fMinConfidence fun x s => { s with m_fMinConfidence := x },
    texts F "m_LowConfidenceResponses" m_LowConfidenceResponses
      fun x s => { s with m_LowConfidenceResponses := x }]
  finish := finish
  kept := finish
  keys := ["m_ServiceId", "m_PipelineType", "m_fMinConfidence",
    "m_LowConfidenceResponses"]
  kept_kept s := by simp [finish]

structure RetrieveAndRankProxy (F : Formats) where
  m_ServiceId : String
  m_WorkspaceId : String
  m_fMinConfidence : F.Float
  m_SolrId : String
  m_Source : String
  m_LowConfidenceResponses : List String

def RetrieveAndRankProxy.finish {F : Formats} (s : RetrieveAndRankProxy F) :
    RetrieveAndRankProxy F :=
  { s with
    m_LowConfidenceResponses := filled ["I don't know the answer to that one"]
      s.m_LowConfidenceResponses }

def RetrieveAndRankProxy.archive (F : Formats) :
    Archive (RetrieveAndRankProxy F) where
  members := [
    (Codec.string F).memberIf isString isString_string "m_ServiceId"
      m_ServiceId fun x s => { s with m_ServiceId := x },
    (Codec.string F).memberIf isString isString_string "m_WorkspaceId"
      m_WorkspaceId fun x s => { s with m_WorkspaceId := x },
    (Codec.float F).memberIf isDouble (fun _ => rfl) "m_fMinConfidence"
      m_fMinConfidence fun x s => { s with m_fMinConfidence := x },
    (Codec.string F).memberIf isString isString_string "m_SolrId" m_SolrId
      fun x s => { s with m_SolrId := x },
    (Codec.string F).memberIf isString isString_string "m_Source" m_Source
      fun x s => { s with m_Source := x },
    texts F "m_LowConfidenceResponses" m_LowConfidenceResponses
      fun x s => { s with m_LowConfidenceResponses := x }]
  finish := finish
  kept := finish
  keys := ["m_ServiceId", "m_WorkspaceId", "m_fMinConfidence", "m_SolrId",
    "m_Source", "m_LowConfidenceResponses"]
  kept_kept s := by simp [finish]

structure NLCProxy where
  m_ClassifierFile : String
  m_ClassifierId : String
  m_Language : String

def NLCProxy.archive (F : Formats) : Archive NLCProxy where
  members := [
    (Codec.string F).member "m_ClassifierFile" m_ClassifierFile
      fun x s => { s with m_ClassifierFile := x },
    (Codec.string F).member "m_ClassifierId" m_ClassifierId
      fun x s => { s with m_ClassifierId := x },
    (Codec.string F).member "m_Language" m_Language
      fun x s => { s with m_Language := x }]
  keys := ["m_ClassifierFile", "m_ClassifierId", "m_Language"]

/-- `Serialize` gives a proxy without a language one, after it has written the
members. -/
def NLCProxy.serialize (F : Formats) (s : NLCProxy)
    (json : List (String × Value)) : NLCProxy × List (String × Value) :=
  (if s.m_Language = "" then { s with m_Language := "en" } else s,
    (archive F).serialize s json)

/-! ## The data models of the classifier -/

structure Classifier where
  m_Name : String := ""
  m_Language : String := ""
  m_URL : String := ""
  m_ClassifierId : String := ""
  m_Created : String := ""
  m_Status : String := ""
  m_StatusDescription : String := ""

def Classifier.archive (F : Formats) : Archive Classifier where
  members := [
    (Codec.string F).member "name" m_Name fun x s => { s with m_Name := x },
    (Codec.string F).member "language" m_Language
      fun x s => { s with m_Language := x },
    (Codec.string F).member "url" m_URL fun x s => { s with m_URL := x },
    (Codec.string F).member "classifier_id" m_ClassifierId
      fun x s => { s with m_ClassifierId := x },
    (Codec.string F).member "created" m_Created
      fun x s => { s with m_Created := x },
    (Codec.string F).member "status" m_Status
      fun x s => { s with m_Status := x },
    (Codec.string F).member "status_description" m_StatusDescription
      fun x s => { s with m_StatusDescription := x }]
  keys := ["name", "language", "url", "classifier_id", "created", "status",
    "status_description"]

structure Classifiers where
  m_Classifiers : List Classifier

def Classifiers.archive (F : Formats) : Archive Classifiers where
  members := [
    ((Classifier.archive F).codec {}).vector F (fun _ => rfl) "classifiers"
      m_Classifiers fun x s => { s with m_Classifiers := x }]
  keys := ["classifiers"]

/-- The confidence of a new object is whatever stands in its memory. -/
structure Class where
  m_Confidence : ℚ
  m_ClassName : String := ""

def Class.archive (F : Formats) : Archive Class where
  members := [
    Codec.double.member "confidence" m_Confidence
      fun x s => { s with m_Confidence := x },
    (Codec.string F).member "class_name" m_ClassName
      fun x s => { s with m_ClassName := x }]
  keys := ["confidence", "class_name"]

structure ClassifyResult where
  m_ClassifierId : String
  m_URL : String
  m_Text : String
  m_TopClass : String
  m_Classes : List Class

def ClassifyResult.archive (F : Formats) (blank : ℚ) :
    Archive ClassifyResult where
  members := [
    (Codec.string F).member "classifier_id" m_ClassifierId
      fun x s => { s with m_ClassifierId := x },
    (Codec.string F).member "url" m_URL fun x s => { s with m_URL := x },
    (Codec.string F).member "text" m_Text fun x s => { s with m_Text := x },
    (Codec.string F).member "top_class" m_TopClass
      fun x s => { s with m_TopClass := x },
    ((Class.archive F).codec { m_Confidence := blank }).vector F
      (fun _ => rfl) "classes" m_Classes fun x s => { s with m_Classes := x }]
  keys := ["classifier_id", "url", "text", "top_class", "classes"]

end SelfPlugins.Archives
