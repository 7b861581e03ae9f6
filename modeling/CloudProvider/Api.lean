import CloudProvider.Dialogue
import CloudProvider.Json.Decode

/-!
# The remote API

* `Service`, `Action`: what the remote can be asked to do.
* `Api`: operations that call the remote.
* `Api.call`: one call, logged, with its answer read as data.
* `Api.acceptGone`: a call for which an entity that does not exist is as good as done.
-/

namespace CloudProvider

/-! ## Services and actions -/

/-- A product of the cloud. -/
inductive Service where
  /-- Virtual networks. -/
  | vpc
  /-- Databases. -/
  | cdb
  deriving DecidableEq, Repr

namespace Service

def name : Service → String
  | .vpc => "vpc"
  | .cdb => "cdb"

/-- The version of the API that is spoken. -/
def version : Service → String
  | .vpc => "2017-03-12"
  | .cdb => "2017-03-20"

def host (s : Service) : String := s!"{s.name}.tencentcloudapi.com"

/-- The codes that say that the addressed entity does not exist. -/
def notFoundCodes : Service → List String
  | .vpc => ["ResourceNotFound"]
  | .cdb => ["InvalidParameter.InstanceNotFound", "InvalidParameter"]

end Service

/-- An action of a service. -/
inductive Action where
  | describeVpcs | createVpc | modifyVpcAttribute | deleteVpc
  | describeSubnets | createSubnet | modifySubnetAttribute | deleteSubnet
  | replaceRouteTableAssociation
  | describeRouteTables | createRouteTable | modifyRouteTableAttribute | deleteRouteTable
  | createRoutes | deleteRoutes
  | describeBackups | describeBackupConfig | modifyBackupConfig
  | describeZoneConfig | describeDefaultParams | describeInstanceParams
  | describeAccounts | createAccounts | modifyAccountPassword | modifyAccountDescription
  | deleteAccounts | describeAsyncRequestInfo
  | describeAccountPrivileges | modifyAccountPrivileges
  deriving DecidableEq, Repr

namespace Action

/-- The name by which the remote knows an action. -/
def name : Action → String
  | .describeVpcs => "DescribeVpcs"
  | .createVpc => "CreateVpc"
  | .modifyVpcAttribute => "ModifyVpcAttribute"
  | .deleteVpc => "DeleteVpc"
  | .describeSubnets => "DescribeSubnets"
  | .createSubnet => "CreateSubnet"
  | .modifySubnetAttribute => "ModifySubnetAttribute"
  | .deleteSubnet => "DeleteSubnet"
  | .replaceRouteTableAssociation => "ReplaceRouteTableAssociation"
  | .describeRouteTables => "DescribeRouteTables"
  | .createRouteTable => "CreateRouteTable"
  | .modifyRouteTableAttribute => "ModifyRouteTableAttribute"
  | .deleteRouteTable => "DeleteRouteTable"
  | .createRoutes => "CreateRoutes"
  | .deleteRoutes => "DeleteRoutes"
  | .describeBackups => "DescribeBackups"
  | .describeBackupConfig => "DescribeBackupConfig"
  | .modifyBackupConfig => "ModifyBackupConfig"
  | .describeZoneConfig => "DescribeDBZoneConfig"
  | .describeDefaultParams => "DescribeDefaultParams"
  | .describeInstanceParams => "DescribeInstanceParams"
  | .describeAccounts => "DescribeAccounts"
  | .createAccounts => "CreateAccounts"
  | .modifyAccountPassword => "ModifyAccountPassword"
  | .modifyAccountDescription => "ModifyAccountDescription"
  | .deleteAccounts => "DeleteAccounts"
  | .describeAsyncRequestInfo => "DescribeAsyncRequestInfo"
  | .describeAccountPrivileges => "DescribeAccountPrivileges"
  | .modifyAccountPrivileges => "ModifyAccountPrivileges"

/-- The service that an action belongs to. -/
def service : Action → Service
  | .describeVpcs | .createVpc | .modifyVpcAttribute | .deleteVpc
  | .describeSubnets | .createSubnet | .modifySubnetAttribute | .deleteSubnet
  | .replaceRouteTableAssociation
  | .describeRouteTables | .createRouteTable | .modifyRouteTableAttribute | .deleteRouteTable
  | .createRoutes | .deleteRoutes => .vpc
  | _ => .cdb

/-- Whether an action only looks at the remote and changes nothing there. -/
def isDescribing : Action → Bool
  | .describeVpcs | .describeSubnets | .describeRouteTables
  | .describeBackups | .describeBackupConfig
  | .describeZoneConfig | .describeDefaultParams | .describeInstanceParams
  | .describeAccounts | .describeAsyncRequestInfo | .describeAccountPrivileges => true
  | _ => false

end Action

/-! ## Calls -/

/-- An action with its parameters. -/
structure Call where
  action : Action
  request : Json

/-- The content of an answer, or the failure that it reports. -/
abbrev Reply := Except ApiError Json

/-- An operation that calls the remote. -/
abbrev Api := Operation Call Reply

namespace Api

/-- The parameters that are never written to the log. -/
def secretParameters : List String := ["Password", "NewPassword"]

/-- Parameters with the secret ones hidden. -/
def masked : Json → Json
  | .obj members =>
    .obj (members.map fun (name, j) =>
      (name, if name ∈ secretParameters then .str "******" else j))
  | j => j

/-- The fields that all events of a call have. -/
def callFields (call : Call) : List (String × String) :=
  [("service", call.action.service.name), ("action", call.action.name),
   ("request", (masked call.request).compact)]

def succeeded (call : Call) (response : Json) : Event :=
  .ofTexts .debug "api success" (callFields call ++ [("response", response.compact)])

def failed (call : Call) (e : ApiError) : Event :=
  .ofTexts .error "api fail" (callFields call ++ [("reason", e.text)])

/-- The answer of a call that cannot be read. -/
def undecodable (action : Action) (issue : Issue) : Error :=
  .malformed s!"failed to decode {action.name} response: {issue.message}"

/-- **One call**, with its answer read by `decode`. -/
def call {α : Type} (action : Action) (request : Json) (decode : Json → Except Issue α) :
    Api α := do
  let call : Call := ⟨action, request⟩
  match ← Operation.ask call with
  | .error e =>
    Operation.log (failed call e)
    throw ⟨.remote e, none⟩
  | .ok response =>
    Operation.log (succeeded call response)
    match decode response with
    | .error issue => throw (undecodable action issue)
    | .ok a => return a

/-- The answer of an action that has nothing to tell. -/
def nothing : Json → Except Issue Unit := Row.ofJson "Empty" (pure ())

/-- A call whose answer has nothing to tell. -/
def command (action : Action) (request : Json) : Api Unit := call action request nothing

/-! ## Entities that do not exist -/

/-- Whether an error says that the addressed entity of a service does not exist. -/
def isNotFound (service : Service) (e : Error) : Bool :=
  e.apiError?.any fun e => e.isNotFound service.notFoundCodes

def goneEvent (e : Error) : Event :=
  .ofTexts .debug "entity already gone" [("error", e.message)]

/-- An operation for which an entity that does not exist is as good as done. -/
def acceptGone (service : Service) (op : Api Unit) : Api Unit := do
  match ← op.outcome with
  | .ok () => return ()
  | .error e => if isNotFound service e then Operation.log (goneEvent e) else throw e

/-- An operation whose result is `absent` when the entity does not exist. -/
def orIfNotFound {α : Type} (service : Service) (op : Api α) (absent : α) : Api α := do
  match ← op.outcome with
  | .ok a => return a
  | .error e => if isNotFound service e then return absent else throw e

end Api

end CloudProvider
