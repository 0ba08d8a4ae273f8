import SelfPlugins.Archives.Services

/-!
# What comes back of a saved object

The classes whose saved members are all loaded.  An object comes back as it was,
into whatever object it is loaded, unless one of its lists is empty where
`Deserialize` fills it, or a `double` does not fit into the `float` that it is
read as; and what has come back once comes back as it is.
-/

namespace SelfPlugins.Archives

open Json (Value Formats Archive)

inductive Plugin
  | kinectCamera
  | kinectDepthCamera
  | openCVCamera
  | pointGreyCamera
  | naoDepthCamera
  | raspiMicrophone
  | naoGaze
  | naoGestureSensor
  | naoLaser
  | naoSonar
  | naoHealthSensor
  | naoPostureGesture
  | naoSpeechGesture
  | remoteCameraAgent
  | naoBrowser
  | wex
  | wexIntent
  | alchemyNews
  | conversation
  | naturalLanguageUnderstanding
  | personalityInsights
  | toneAnalyzer
  | retrieveAndRank
  | speechToText
  | textToSpeech
  | visualRecognition
  | weatherCompanyData
  | interactProxy
  | deepQAProxy
  | retrieveAndRankProxy
  | nlcProxy
  | classifier
  | classifiers
  | classOfText
  | classifyResult
deriving DecidableEq

namespace Plugin

/-- The saved members of a class. -/
def Object (F : Formats) : Plugin → Type
  | kinectCamera => KinectCamera
  | kinectDepthCamera => KinectDepthCamera
  | openCVCamera => OpenCVCamera
  | pointGreyCamera => PointGreyCamera
  | naoDepthCamera => NaoDepthCamera
  | raspiMicrophone => RaspiMicrophone
  | naoGaze => NaoGaze F
  | naoGestureSensor => NaoGestureSensor F
  | naoLaser => NaoLaser F
  | naoSonar => NaoSonar F
  | naoHealthSensor => NaoHealthSensor F
  | naoPostureGesture => NaoPostureGesture
  | naoSpeechGesture => NaoSpeechGesture
  | remoteCameraAgent => RemoteCameraAgent F
  | naoBrowser => NaoBrowser F
  | wex => WEX
  | wexIntent => WEXIntent
  | alchemyNews => AlchemyNews
  | conversation => Conversation
  | naturalLanguageUnderstanding => NaturalLanguageUnderstanding
  | personalityInsights => PersonalityInsights
  | toneAnalyzer => ToneAnalyzer
  | retrieveAndRank => RetrieveAndRank
  | speechToText => SpeechToText F
  | textToSpeech => TextToSpeech
  | visualRecognition => VisualRecognition F
  | weatherCompanyData => WeatherCompanyData F
  | interactProxy => InteractProxy
  | deepQAProxy => DeepQAProxy F
  | retrieveAndRankProxy => RetrieveAndRankProxy F
  | nlcProxy => NLCProxy
  | classifier => Classifier
  | classifiers => Classifiers
  | classOfText => Class
  | classifyResult => ClassifyResult

/-- `blank` is the confidence of a new `Class`. -/
def archive (F : Formats) (blank : ℚ) : (c : Plugin) → Archive (c.Object F)
  | kinectCamera => KinectCamera.archive
  | kinectDepthCamera => KinectDepthCamera.archive
  | openCVCamera => OpenCVCamera.archive F
  | pointGreyCamera => PointGreyCamera.archive
  | naoDepthCamera => NaoDepthCamera.archive
  | raspiMicrophone => RaspiMicrophone.archive
  | naoGaze => NaoGaze.archive F
  | naoGestureSensor => NaoGestureSensor.archive F
  | naoLaser => NaoLaser.archive F
  | naoSonar => NaoSonar.archive F
  | naoHealthSensor => NaoHealthSensor.archive F
  | naoPostureGesture => NaoPostureGesture.archive
  | naoSpeechGesture => NaoSpeechGesture.archive F
  | remoteCameraAgent => RemoteCameraAgent.archive F
  | naoBrowser => NaoBrowser.archive F
  | wex => WEX.archive F
  | wexIntent => WEXIntent.archive F
  | alchemyNews => AlchemyNews.archive F
  | conversation => Conversation.archive F
  | naturalLanguageUnderstanding => NaturalLanguageUnderstanding.archive F
  | personalityInsights => PersonalityInsights.archive F
  | toneAnalyzer => ToneAnalyzer.archive F
  | retrieveAndRank => RetrieveAndRank.archive F
  | speechToText => SpeechToText.archive F
  | textToSpeech => TextToSpeech.archive F
  | visualRecognition => VisualRecognition.archive F
  | weatherCompanyData => WeatherCompanyData.archive F
  | interactProxy => InteractProxy.archive F
  | deepQAProxy => DeepQAProxy.archive F
  | retrieveAndRankProxy => RetrieveAndRankProxy.archive F
  | nlcProxy => NLCProxy.archive F
  | classifier => Classifier.archive F
  | classifiers => Classifiers.archive F
  | classOfText => Class.archive F
  | classifyResult => ClassifyResult.archive F blank

/-- There is nothing that loading would fill in or round. -/
def Complete (F : Formats) : (c : Plugin) → c.Object F → Prop
  | naoGestureSensor, s => F.toFloat s.m_WaveThreshold = s.m_WaveThreshold
  | naoHealthSensor, s => s.m_StablePostures ≠ [] ∧ s.m_ImportantJoints ≠ []
  | alchemyNews, s => s.m_ReturnParameters ≠ []
  | speechToText, s => s.m_Models ≠ []
  | deepQAProxy, s => s.m_LowConfidenceResponses ≠ []
  | retrieveAndRankProxy, s => s.m_LowConfidenceResponses ≠ []
  | _, _ => True

end Plugin

variable {F : Formats}

theorem NaoGestureSensor.kept_iff (s : NaoGestureSensor F) :
    (archive F).kept s = s ↔
      F.toFloat s.m_WaveThreshold = s.m_WaveThreshold :=
  ⟨congrArg m_WaveThreshold, fun h => by simp only [archive, h]⟩

theorem NaoHealthSensor.finish_eq_self (s : NaoHealthSensor F) :
    s.finish = s ↔ s.m_StablePostures ≠ [] ∧ s.m_ImportantJoints ≠ [] := by
  rw [← filled_eq_self, ← filled_eq_self]
  constructor
  · intro h
    exact ⟨congrArg m_StablePostures h, congrArg m_ImportantJoints h⟩
  · rintro ⟨hpostures, hjoints⟩
    simp only [finish, hpostures, hjoints]

theorem AlchemyNews.finish_eq_self (s : AlchemyNews) :
    s.finish = s ↔ s.m_ReturnParameters ≠ [] := by
  rw [← filled_eq_self]
  exact ⟨congrArg m_ReturnParameters, fun h => by simp only [finish, h]⟩

theorem SpeechToText.finish_eq_self (s : SpeechToText F) :
    s.finish = s ↔ s.m_Models ≠ [] := by
  rw [← filled_eq_self]
  exact ⟨congrArg m_Models, fun h => by simp only [finish, h]⟩

theorem DeepQAProxy.finish_eq_self (s : DeepQAProxy F) :
    s.finish = s ↔ s.m_LowConfidenceResponses ≠ [] := by
  rw [← filled_eq_self]
  exact ⟨congrArg m_LowConfidenceResponses, fun h => by simp only [finish, h]⟩

theorem RetrieveAndRankProxy.finish_eq_self (s : RetrieveAndRankProxy F) :
    s.finish = s ↔ s.m_LowConfidenceResponses ≠ [] := by
  rw [← filled_eq_self]
  exact ⟨congrArg m_LowConfidenceResponses, fun h => by simp only [finish, h]⟩

theorem Plugin.kept_eq_self (blank : ℚ) (c : Plugin) (s : c.Object F) :
    (c.archive F blank).kept s = s ↔ c.Complete F s := by
  cases c with
  | naoGestureSensor => exact NaoGestureSensor.kept_iff s
  | naoHealthSensor => exact NaoHealthSensor.finish_eq_self s
  | alchemyNews => exact AlchemyNews.finish_eq_self s
  | speechToText => exact SpeechToText.finish_eq_self s
  | deepQAProxy => exact DeepQAProxy.finish_eq_self s
  | retrieveAndRankProxy => exact RetrieveAndRankProxy.finish_eq_self s
  | _ => exact ⟨fun _ => trivial, fun _ => rfl⟩

/-- A saved object is loaded, whatever the base classes have written and
whatever the object was like that it is loaded into; it is loaded as it was
precisely where it is complete, and as it is from then on. -/
theorem Plugin.comes_back (blank : ℚ) (c : Plugin) (s t u : c.Object F)
    (json json' : List (String × Value)) :
    ∃ s', (c.archive F blank).deserialize
        (.object ((c.archive F blank).serialize s json)) t = some s' ∧
      (s' = s ↔ c.Complete F s) ∧
      (c.archive F blank).deserialize
        (.object ((c.archive F blank).serialize s' json')) u = some s' := by
  refine ⟨_, Archive.deserialize_serialize _ s json t, kept_eq_self blank c s,
    ?_⟩
  rw [Archive.deserialize_serialize, Archive.kept_kept]

/-- A proxy of the classifier comes back as it was before it was saved; saving
changes it if it has no language. -/
theorem NLCProxy.comes_back_unsaved (s t : NLCProxy)
    (json : List (String × Value)) :
    (archive F).deserialize (.object (s.serialize F json).2) t = some s ∧
      ((s.serialize F json).1 = s ↔ s.m_Language ≠ "") := by
  refine ⟨Archive.deserialize_serialize _ s json t, ?_⟩
  rw [serialize]
  split
  · rename_i hempty
    refine ⟨fun h => ?_, fun h => absurd hempty h⟩
    have hen : "en" = s.m_Language := congrArg m_Language h
    rw [← hen]
    decide
  · rename_i hlanguage
    exact ⟨fun _ => hlanguage, fun _ => rfl⟩

end SelfPlugins.Archives
