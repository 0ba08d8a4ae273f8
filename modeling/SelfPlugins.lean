import SelfPlugins.Library.Runs
import SelfPlugins.Library.MultiMap
import SelfPlugins.Library.SwapRemove
import SelfPlugins.Framework.Json
import SelfPlugins.Framework.WebClient
import SelfPlugins.Ros.Platform
import SelfPlugins.Ros.Subscriptions
import SelfPlugins.Ros.Session
import SelfPlugins.Wex.Queue
import SelfPlugins.Gateway.Handshake
import SelfPlugins.Speech.Balance
import SelfPlugins.Conversation.CacheHits
import SelfPlugins.SpeechToText.Reconnect
import SelfPlugins.Speech.Turns
import SelfPlugins.SpeechToText.Recognition
import SelfPlugins.SpeechToText.Results
import SelfPlugins.SpeechToText.Fusion
import SelfPlugins.SpeechToText.Sessions
import SelfPlugins.SpeechToText.Streams
import SelfPlugins.SpeechToText.Announcements
import SelfPlugins.Telephony.Framing
import SelfPlugins.Telephony.Calls
import SelfPlugins.Telephony.Isolation
import SelfPlugins.Framework.Retry
import SelfPlugins.Telephony.Retry
import SelfPlugins.Reconnection
import SelfPlugins.Conversation.MessageReq
import SelfPlugins.Conversation.Proxy
import SelfPlugins.Conversation.Requests
import SelfPlugins.Conversation.Ownership
import SelfPlugins.Classifier.FindRequest
import SelfPlugins.Classifier.Selection
import SelfPlugins.Classifier.Training
import SelfPlugins.Gateway.Logs
import SelfPlugins.Gateway.Restart
import SelfPlugins.TextToSpeech.Streams
import SelfPlugins.Speech.Win
import SelfPlugins.Speech.WinStreams
import SelfPlugins.Abb.Platform
import SelfPlugins.Ros.Supervision
import SelfPlugins.RobotLinks
import SelfPlugins.Camera.Duty
import SelfPlugins.Camera.Kinect
import SelfPlugins.Camera.Sharing
import SelfPlugins.Camera.OpenCV
import SelfPlugins.Camera.CaptureLaw
import SelfPlugins.Library.Stretches
import SelfPlugins.Nao.Health
import SelfPlugins.Nao.Alerts
import SelfPlugins.Nao.Bookkeeping
import SelfPlugins.Speech.Robots
import SelfPlugins.Camera.Streaming
import SelfPlugins.Camera.StreamingLaw
import SelfPlugins.Nao.Gestures
import SelfPlugins.Nao.Speech
import SelfPlugins.Speech.WinEnding
import SelfPlugins.Camera.RemoteVideo
import SelfPlugins.Framework.Text
import SelfPlugins.Nao.Browser
import SelfPlugins.Nao.Movement
import SelfPlugins.Nao.Volume
import SelfPlugins.Sound.WinMicrophone
import SelfPlugins.Framework.Xml
import SelfPlugins.Iva.Login
import SelfPlugins.Iva.AddFace
import SelfPlugins.Iva.Enrolment
import SelfPlugins.Library.Ring
import SelfPlugins.Sound.Streams
import SelfPlugins.Sound.WinRing
import SelfPlugins.Configuration
import SelfPlugins.Nao.Touch
import SelfPlugins.PersonalityInsights.Profile
import SelfPlugins.Classifier.TrainingFile
import SelfPlugins.Conversation.Context
import SelfPlugins.RetrieveAndRank.Response
import SelfPlugins.Camera.Resampling
import SelfPlugins.Raspi.MoveJoint
import SelfPlugins.Raspi.Requests
import SelfPlugins.Windows.QIRef
import SelfPlugins.Library.Amortised
import SelfPlugins.Sound.Recorder
import SelfPlugins.Library.Serial
import SelfPlugins.Gestures.Scripts
import SelfPlugins.Gestures.Effects
import SelfPlugins.Gestures.MacSound
import SelfPlugins.Framework.Building
import SelfPlugins.Ros.Trajectory
import SelfPlugins.Ros.MoveJoint
import SelfPlugins.SmartThings.Rest
import SelfPlugins.SmartThings.ExampleSensor
import SelfPlugins.Archives.Sensors
import SelfPlugins.Archives.Services
import SelfPlugins.Archives.Plugins
import SelfPlugins.Library.Errands
import SelfPlugins.Nao.Grasp
import SelfPlugins.Services.Questions
import SelfPlugins.Services.Status
import SelfPlugins.Classifier.TextRequests
