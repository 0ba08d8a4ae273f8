import SelfPlugins.Framework.Json
import SelfPlugins.Library.Runs

/-!
# The robot gateway: registration and configuration

`RobotGateway::Start` registers the embodiment and then waits until
`m_ConfigsFetched` and `m_ParentFetched` are set.  The callbacks of the
requests set the flags or issue further requests.  The state holds the members
these functions use, what they change outside the gateway, and the requests
that have not been answered; they may be answered in any order.

A response may be any JSON value.  Accessing a member of a value that is
neither an object nor null throws; every callback that can throw does so
before it changes anything, so a callback is `none` there and the step leaves
the state as it is, the answered request apart.
-/

namespace SelfPlugins.Gateway

open Json (Value assign)

/-- What the gateway asks of classes outside the plugins: `URL::GetURL`, and
the text of a floating-point number. -/
structure Framework where
  getURL : String → String
  realText : ℚ → String

structure LocalConfig where
  bearerToken : String
  groupId : String
  name : String
  macId : String
  orgId : String
  embodimentId : String

structure SelfInstance where
  localConfig : LocalConfig
  robotType : String

structure Service where
  serviceName : String
  endpoint : String
  username : String
  password : String
  attributes : List (String × String)

structure ServiceConfig where
  serviceId : String
  url : String
  user : String
  password : String
  customMap : List (String × String)

structure Health where
  name : String
  state : String
  failing : Bool
  apology : Bool

inductive Request where
  | registerEmbodiment (body : Value)
  | getOrganization
  | getOrgAdminList
  | getServices
  | getParent (parentId : String)

/-- The two kinds of callbacks: JSON responses, and the list of services,
which is null if the request failed. -/
inductive Response where
  | json (v : Value)
  | services (list : Option (List Service))

structure RobotGateway where
  headers : List (String × String)
  groupId : String
  robotName : String
  robotType : String
  organizationId : String
  macId : String
  embodimentToken : String
  embodimentId : String
  embodimentName : String
  orgAdminList : String
  applyRemoteConfigs : Bool
  applyParentHost : Bool
  configsFetched : Bool
  parentFetched : Bool
  /-- Is `m_spConfigTimer` set? -/
  configTimer : Bool
  /-- The local configuration of the `SelfInstance`. -/
  localConfig : LocalConfig
  /-- The parent host of the topic manager. -/
  parentHost : String
  /-- The calls of `AddServiceConfig`. -/
  serviceConfigs : List ServiceConfig
  /-- The things added to the blackboard. -/
  healths : List Health
  /-- The requests that have not been answered. -/
  outstanding : List Request

namespace RobotGateway

/-- A gateway before `Start`; the two settings are configurable. -/
def new (applyRemoteConfigs applyParentHost : Bool) : RobotGateway where
  headers := []
  groupId := ""
  robotName := ""
  robotType := ""
  organizationId := ""
  macId := ""
  embodimentToken := ""
  embodimentId := ""
  embodimentName := ""
  orgAdminList := ""
  applyRemoteConfigs := applyRemoteConfigs
  applyParentHost := applyParentHost
  configsFetched := false
  parentFetched := false
  configTimer := false
  localConfig := ⟨"", "", "", "", "", ""⟩
  parentHost := ""
  serviceConfigs := []
  healths := []
  outstanding := []

/-! ## Requests -/

def request (r : Request) (s : RobotGateway) : RobotGateway :=
  { s with outstanding := s.outstanding ++ [r] }

def registerEmbodiment (s : RobotGateway) : RobotGateway :=
  let s := { s with robotType := s.robotType.toUpper }
  request (.registerEmbodiment (.object
    (assign "_id" (.string s.embodimentId)
    (assign "embodimentName" (.string s.robotName)
    (assign "groupId" (.string s.groupId)
    (assign "orgId" (.string s.organizationId)
    (assign "macId" (.string s.macId)
    (assign "type" (.string s.robotType)
    (assign "embodimentToken" (.string "token") []))))))))) s

def getOrganization : RobotGateway → RobotGateway := request .getOrganization

def getOrgAdminList : RobotGateway → RobotGateway := request .getOrgAdminList

def getParent (parentId : String) : RobotGateway → RobotGateway :=
  request (.getParent parentId)

def getServices : RobotGateway → RobotGateway := request .getServices

def setHeader (key value : String) (s : RobotGateway) : RobotGateway :=
  { s with headers := assign key value s.headers }

/-- What `Start` takes from the `SelfInstance`. -/
def configure (pInstance : SelfInstance) (s : RobotGateway) : RobotGateway :=
  { s with
    localConfig := pInstance.localConfig
    embodimentToken := pInstance.localConfig.bearerToken
    groupId := pInstance.localConfig.groupId
    robotName := pInstance.localConfig.name
    macId := pInstance.localConfig.macId
    robotType := pInstance.robotType
    organizationId := pInstance.localConfig.orgId
    embodimentId := pInstance.localConfig.embodimentId }

def setHeaders (s : RobotGateway) : RobotGateway :=
  setHeader "_id" s.embodimentId
    (setHeader "Authorization" ("Bearer " ++ s.embodimentToken)
    (setHeader "orgId" s.organizationId
    (setHeader "groupId" s.groupId
    (setHeader "macId" s.macId
    (setHeader "Content-Type" "application/json" s)))))

/-- `Start` up to its wait loop; `none` where it returns false before, because
the base class does not start or there is no bearer token. -/
def start (baseStarted : Bool) (pInstance : SelfInstance)
    (s : RobotGateway) : Option RobotGateway :=
  if !baseStarted then none
  else
    let s := configure pInstance s
    if s.embodimentToken.length = 0 then none
    else some (registerEmbodiment (setHeaders s))

/-! ## Callbacks -/

def setBearerToken (token : String) (s : RobotGateway) : RobotGateway :=
  { s with localConfig := { s.localConfig with bearerToken := token } }

def setEmbodimentId (id : String) (s : RobotGateway) : RobotGateway :=
  { s with localConfig := { s.localConfig with embodimentId := id } }

/-- `UpdateConfig`, called by `OnRegisteredEmbodiment` and by the timer it
starts. -/
def updateConfig (s : RobotGateway) : RobotGateway :=
  getServices { s with configTimer := true }

/-- `OnRegisteredEmbodiment` reads the name of the embodiment. -/
def readName (v : Value) (s : RobotGateway) : RobotGateway :=
  match v with
  | .string name => { s with embodimentName := name }
  | _ => s

/-- `OnRegisteredEmbodiment` reads the token of the embodiment. -/
def readToken (v : Value) (s : RobotGateway) : RobotGateway :=
  match v with
  | .string token =>
      let s := setHeader "Authorization" ("Bearer " ++ token)
        { s with embodimentToken := token }
      if s.localConfig.bearerToken ≠ token then setBearerToken token s else s
  | _ => s

/-- `OnRegisteredEmbodiment` reads the identity of the embodiment. -/
def readId (v : Value) (s : RobotGateway) : RobotGateway :=
  match v with
  | .string id =>
      setEmbodimentId id (setHeader "_id" id { s with embodimentId := id })
  | _ => s

def onRegisteredEmbodiment (response : Value) (s : RobotGateway) :
    Option RobotGateway :=
  if response.isNull then
    some { s with configsFetched := true, parentFetched := true }
  else do
    let name ← response.get? "embodimentName"
    let token ← response.get? "embodimentToken"
    let id ← response.get? "_id"
    let s := readId id (readToken token (readName name s))
    some (updateConfig (getOrgAdminList (getOrganization s)))

def onOrganization (response : Value) (s : RobotGateway) :
    Option RobotGateway :=
  if response.isNull then some { s with parentFetched := true }
  else if s.applyParentHost then do
    let parent ← response.get? "parent"
    match parent with
    | .string parentId =>
        if parentId.length > 0 then some (getParent parentId s) else some s
    | _ => some { s with parentFetched := true }
  else some { s with parentFetched := true }

variable (f : Framework)

/-- `OnParent` hands the host of the parent to the topic manager. -/
def readParent (ip name : Value) (s : RobotGateway) : RobotGateway :=
  match ip, name with
  | .string parentIp, .string parentName =>
      if parentName ≠ s.embodimentName then
        { s with parentHost := f.getURL parentIp }
      else { s with parentHost := "" }
  | _, _ => s

def onParent (response : Value) (s : RobotGateway) : Option RobotGateway :=
  if response.isNull then some { s with parentFetched := true }
  else do
    let ip ← response.get? "parentIp"
    let name ← response.get? "parentName"
    some { readParent f ip name s with parentFetched := true }

def onOrgAdminList (response : Value) (s : RobotGateway) :
    Option RobotGateway :=
  if response.isNull then some s
  else do
    if ← response.isMember? "adminEmails" then
      let emails ← response.get? "adminEmails"
      let text ← emails.asString? f.realText
      some { s with orgAdminList := text }
    else some s

/-- The credentials of a service; of equal keys the last one counts. -/
def credentials (service : Service) : ServiceConfig where
  serviceId := service.serviceName
  url := service.endpoint
  user := service.username
  password := service.password
  customMap := service.attributes.foldl (fun m a => assign a.1 a.2 m) []

def onConfigured (list : Option (List Service)) (s : RobotGateway) :
    RobotGateway :=
  match list with
  | some services =>
      let s :=
        if s.applyRemoteConfigs then
          { s with
            serviceConfigs := s.serviceConfigs ++ services.map credentials }
        else s
      { s with configsFetched := true }
  | none =>
      { s with
        configsFetched := true
        healths := s.healths ++
          [⟨"Configuration", "RobotGatewayDown", true, true⟩] }

/-- The callback of a request. -/
def callback (r : Request) (response : Response) (s : RobotGateway) :
    Option RobotGateway :=
  match r, response with
  | .registerEmbodiment _, .json v => onRegisteredEmbodiment v s
  | .getOrganization, .json v => onOrganization v s
  | .getOrgAdminList, .json v => onOrgAdminList f v s
  | .getParent _, .json v => onParent f v s
  | .getServices, .services list => some (onConfigured list s)
  | .registerEmbodiment _, .services _ | .getOrganization, .services _
  | .getOrgAdminList, .services _ | .getParent _, .services _
  | .getServices, .json _ => none

/-- Is this the kind of response the callback of the request takes? -/
def takes : Request → Response → Bool
  | .getServices, .services _ => true
  | .getServices, .json _ => false
  | _, .json _ => true
  | _, .services _ => false

/-- Request `n` of the outstanding ones is answered, or the configuration timer
expires. -/
inductive Event where
  | answer (n : ℕ) (response : Response)
  | configTimer

def step (s : RobotGateway) : Event → Option RobotGateway
  | .answer n response =>
      match s.outstanding[n]? with
      | none => none
      | some r =>
          if takes r response then
            let s := { s with outstanding := s.outstanding.eraseIdx n }
            some ((callback f r response s).getD s)
          else none
  | .configTimer => if s.configTimer then some (updateConfig s) else none

end RobotGateway

end SelfPlugins.Gateway
