import CloudProvider.Api
import CloudProvider.CompositeId

/-!
# Accounts of a database instance, and their privileges

Accounts are addressed by the instance and the user. All of them are bound to the same host.
-/

namespace CloudProvider.Mysql

/-- The host that every account is bound to: any. -/
def anyHost : String := "%"

/-- An account, as the remote describes it. -/
structure Account where
  user : String
  host : String
  notes : String
  createTime : String
  modifyTime : String
  deriving DecidableEq, Repr

namespace Account

def row : Row Json Account :=
  Account.mk <$> .column "User" Json.asText ""
    <*> .column "Host" Json.asText ""
    <*> .column "Notes" Json.asText ""
    <*> .column "CreateTime" Json.asText ""
    <*> .column "ModifyTime" Json.asText ""

def ofJson : Json → Except Issue Account := row.ofJson "AccountInfo"

/-- Whether an account is the one of a user, bound to the host that is managed here. -/
def isOf (user : String) (a : Account) : Bool := a.user = user && a.host = anyHost

/-- **The attributes of an account** of an instance. -/
def attributes (mysqlId : String) (a : Account) : Attributes :=
  Fields.ofList
    [("mysql_id", .text mysqlId), ("name", .text a.user), ("description", .text a.notes)]

/-- The shape of the identifier of an account. -/
def idShape : String := "<mysql_id>#<name>"

/-- The identifier of an account. -/
def idText (mysqlId name : String) : String := CompositeId.text [mysqlId, name]

end Account

/-- The privileges of an account on one database. -/
structure Grant where
  database : String
  privileges : List String
  deriving DecidableEq, Repr

namespace Grant

def row : Row Json Grant :=
  Grant.mk <$> .column "Database" Json.asText ""
    <*> .column "Privileges" (Json.asListOrNull Json.asText) []

def ofJson : Json → Except Issue Grant := row.ofJson "DatabasePrivilege"

def json (g : Grant) : Json :=
  Json.object [("Database", .str g.database), ("Privileges", .strs g.privileges)]

/-- **The attributes of the privileges** of an account of an instance. -/
def attributes (mysqlId account : String) (g : Grant) : Attributes :=
  Fields.ofList
    [("mysql_id", .text mysqlId),
     ("account_name", .text account),
     ("database_name", .text g.database),
     ("privileges", .texts g.privileges)]

/-- The shape of the identifier of the privileges of an account on a database. -/
def idShape : String := "<mysql_id>#<account_name>#<database_name>"

/-- The identifier of the privileges of an account on a database. -/
def idText (mysqlId account database : String) : String :=
  CompositeId.text [mysqlId, account, database]

end Grant

end CloudProvider.Mysql
