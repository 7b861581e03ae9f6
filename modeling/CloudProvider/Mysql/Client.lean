import CloudProvider.AsyncRequest
import CloudProvider.Listing
import CloudProvider.Lookup
import CloudProvider.Mysql.Account
import CloudProvider.Mysql.Backup
import CloudProvider.Mysql.Offer

/-!
# Calls on databases

Each function is one thing that the database service can be asked for. Changes of accounts are only
taken on by the service; they give the id of a request to wait for.

* `Mysql.listBackups`, `Mysql.findAccount`, …: what there is.
* `Mysql.createAccount`, `Mysql.setPrivileges`, …: changes, with the id of the request.
* `Mysql.await`: the end of a request.
-/

namespace CloudProvider.Mysql

/-! ## Requests and answers -/

/-- The parameters of a page of a listing of an instance. -/
def pageRequest (mysqlId : String) (c : Listing.Cursor) : Json :=
  Json.object
    [("InstanceId", .str mysqlId), ("Offset", .int c.offset), ("Limit", .int c.limit.toNat)]

/-- A page that a listing answers. -/
def pageRow {α : Type} (item : Json → Except Issue α) : Row Json (Listing.Page α) :=
  (fun total items => ⟨items, total⟩) <$> .column "TotalCount" Json.asNat64 0
    <*> .column "Items" (Json.asListOrNull item) []

/-- A list that is answered at once. -/
def itemsOf {α : Type} (item : Json → Except Issue α) : Json → Except Issue (List α) :=
  Row.ofJson "Items" (.column "Items" (Json.asListOrNull item) [])

/-- The accounts that a change of one user concerns. -/
def accountsOf (user : String) : Json :=
  .arr [Json.object [("User", .str user), ("Host", .str anyHost)]]

/-- A change that is only taken on, and the id of its request. -/
def requested (action : Action) (request : Json) : Api String := do
  let id ← Api.call action request
    (Row.ofJson "AsyncRequestResponse" (.column "AsyncRequestId" Json.asText ""))
  if id = "" then throw (.malformed s!"{action.name} returned no AsyncRequestId") else return id

/-! ## Backups -/

/-- **The backups of an instance**, at most `max` of them. -/
def listBackups (pageSize : UInt64) (mysqlId : String) (max : Nat) : Api (List Backup) :=
  if max = 0 then return []
  else
    Listing.upTo pageSize (some max) fun c =>
      Api.call .describeBackups (pageRequest mysqlId c)
        ((pageRow Backup.ofJson).ofJson "Listing")

def readBackupPolicy (mysqlId : String) : Api BackupPolicy :=
  Api.call .describeBackupConfig (Json.object [("InstanceId", .str mysqlId)]) BackupPolicy.ofJson

def setBackupPolicy (mysqlId : String) (retentionDays : Int64) (method window : String) :
    Api Unit :=
  Api.command .modifyBackupConfig <| Json.object
    [("InstanceId", .str mysqlId), ("ExpireDays", .int retentionDays.toInt),
     ("StartTime", .str window), ("BackupMethod", .str method)]

/-! ## Zones and parameters -/

def listRegions : Api (List Region) :=
  Api.call .describeZoneConfig (Json.object []) (itemsOf Region.ofJson)

def listDefaultParameters (engineVersion : String) : Api (List Parameter) :=
  Api.call .describeDefaultParams (Json.object [("EngineVersion", .str engineVersion)])
    (itemsOf Parameter.ofJson)

def listInstanceParameters (mysqlId : String) : Api (List Parameter) :=
  Api.call .describeInstanceParams (Json.object [("InstanceId", .str mysqlId)])
    (itemsOf Parameter.ofJson)

/-! ## Accounts -/

def createAccount (mysqlId name password description : String) : Api String :=
  requested .createAccounts <| Json.object
    [("InstanceId", .str mysqlId), ("Accounts", accountsOf name), ("Password", .str password),
     ("Description", .str description)]

def setPassword (mysqlId name password : String) : Api String :=
  requested .modifyAccountPassword <| Json.object
    [("InstanceId", .str mysqlId), ("Accounts", accountsOf name), ("NewPassword", .str password)]

def setDescription (mysqlId name description : String) : Api String :=
  requested .modifyAccountDescription <| Json.object
    [("InstanceId", .str mysqlId), ("Accounts", accountsOf name),
     ("Description", .str description)]

def deleteAccount (mysqlId name : String) : Api String :=
  requested .deleteAccounts <| Json.object
    [("InstanceId", .str mysqlId), ("Accounts", accountsOf name)]

def listAccounts (pageSize : UInt64) (mysqlId : String) : Api (List Account) :=
  Listing.all pageSize fun c =>
    Api.call .describeAccounts (pageRequest mysqlId c) ((pageRow Account.ofJson).ofJson "Listing")

/-- **The account of a user**, if there is one. -/
def findAccount (pageSize : UInt64) (mysqlId name : String) : Api (Option Account) := do
  let accounts ← listAccounts pageSize mysqlId
  Lookup.unique "mysql account" (Account.idText mysqlId name) (accounts.filter (Account.isOf name))

/-! ## Requests that were taken on -/

/-- What is known of a request. -/
def observe (requestId : String) : Api AsyncRequest.Observation :=
  Api.call .describeAsyncRequestInfo (Json.object [("AsyncRequestId", .str requestId)])
    (Row.ofJson "AsyncRequestInfoResponse"
      (AsyncRequest.Observation.mk <$> .column "Status" Json.asText ""
        <*> .column "Info" Json.asText ""))

/-- **The end of a request.** -/
def await (polling : AsyncRequest.Polling) (requestId : String) : Api Unit :=
  AsyncRequest.waitFor requestId polling (observe requestId)

/-! ## Privileges -/

def setPrivileges (mysqlId name : String) (grant : Grant) : Api String :=
  requested .modifyAccountPrivileges <| Json.object
    [("InstanceId", .str mysqlId), ("Accounts", accountsOf name),
     ("DatabasePrivileges", .arr [grant.json])]

/-- The privileges that an account holds on a database. -/
def readPrivileges (mysqlId name database : String) : Api (List String) := do
  let request := Json.object
    [("InstanceId", .str mysqlId), ("User", .str name), ("Host", .str anyHost)]
  let grants ← Api.call .describeAccountPrivileges request
    (Row.ofJson "AccountPrivilegesResponse"
      (.column "DatabasePrivileges" (Json.asListOrNull Grant.ofJson) []))
  return ((grants.find? fun g => g.database = database).map fun g => g.privileges).getD []

end CloudProvider.Mysql
