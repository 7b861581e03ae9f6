import CloudProvider.Catalog.Mysql
import CloudProvider.Lifecycle.Basic
import CloudProvider.Mysql.Client
import CloudProvider.Settings

/-!
# Lifecycles of databases

* `Lifecycle.account`, `Lifecycle.privilege`, `Lifecycle.backupPolicy`.

A change of an account or of its privileges is over only when its request is, so each one waits.
-/

namespace CloudProvider.Lifecycle

variable (settings : Settings)

/-- A change that is only taken on, and the end of its request. -/
def finish (change : Api String) : Api Unit := do
  let requestId ← change
  Mysql.await settings.polling requestId

/-! ## Accounts -/

/-- The desired description of an account. -/
def accountDescription (r : Resource) : String :=
  (r.text? "description").getD Catalog.defaultAccountDescription

def createAccount (r : Resource) : Api String := do
  let mysqlId ← r.required "mysql_id"
  let name ← r.required "name"
  let password ← r.required "password"
  finish settings (Mysql.createAccount mysqlId name password (accountDescription r))
  return Mysql.Account.idText mysqlId name

def readAccount (identifier : String) : Api (Option Attributes) := do
  let (mysqlId, name) ← CompositeId.two identifier Mysql.Account.idShape
  let found := do
    let account ← Mysql.findAccount settings.pageSize mysqlId name
    return account.map (Mysql.Account.attributes mysqlId)
  Api.orIfNotFound .cdb found none

def updateAccount (identifier : String) (current : State) (desired : Resource) : Api Unit := do
  let (mysqlId, name) ← CompositeId.two identifier Mysql.Account.idShape
  let password ← desired.required "password"
  if (current.get? "password").bind Value.text? ≠ some password then
    finish settings (Mysql.setPassword mysqlId name password)
  let description := accountDescription desired
  if (current.get? "description").bind Value.text? ≠ some description then
    finish settings (Mysql.setDescription mysqlId name description)

def deleteAccount (identifier : String) : Api Unit := do
  let (mysqlId, name) ← CompositeId.two identifier Mysql.Account.idShape
  match ← readAccount settings identifier with
  | none => return ()
  | some _ =>
    match ← Api.orIfNotFound .cdb (some <$> Mysql.deleteAccount mysqlId name) none with
    | none => return ()
    | some requestId => Mysql.await settings.polling requestId

/-- **Accounts.** -/
def account : Lifecycle where
  create := createAccount settings
  read := readAccount settings
  update := updateAccount settings
  delete := deleteAccount settings

/-! ## Privileges -/

/-- The privileges of an account on a database made to be just these. -/
def grant (mysqlId name : String) (g : Mysql.Grant) : Api Unit :=
  finish settings (Mysql.setPrivileges mysqlId name g)

/-- The desired privileges. -/
def privileges (r : Resource) : List String := (r.texts? "privileges").getD []

def createPrivilege (r : Resource) : Api String := do
  let mysqlId ← r.required "mysql_id"
  let name ← r.required "account_name"
  let database ← r.required "database_name"
  grant settings mysqlId name ⟨database, privileges r⟩
  return Mysql.Grant.idText mysqlId name database

/-- The privileges of an account on a database, if it exists and has any there. -/
def findPrivileges (mysqlId name database : String) : Api (Option (List String)) := do
  match ← Mysql.findAccount settings.pageSize mysqlId name with
  | none => return none
  | some _ =>
    let privileges ← Mysql.readPrivileges mysqlId name database
    return if privileges.isEmpty then none else some privileges

def readPrivilege (identifier : String) : Api (Option Attributes) := do
  let (mysqlId, name, database) ← CompositeId.three identifier Mysql.Grant.idShape
  let found := do
    let privileges ← findPrivileges settings mysqlId name database
    return privileges.map fun ps => Mysql.Grant.attributes mysqlId name ⟨database, ps⟩
  Api.orIfNotFound .cdb found none

def updatePrivilege (identifier : String) (desired : Resource) : Api Unit := do
  let (mysqlId, name, database) ← CompositeId.three identifier Mysql.Grant.idShape
  grant settings mysqlId name ⟨database, privileges desired⟩

def deletePrivilege (identifier : String) : Api Unit := do
  let (mysqlId, name, database) ← CompositeId.three identifier Mysql.Grant.idShape
  match ← readPrivilege settings identifier with
  | none => return ()
  | some _ => Api.orIfNotFound .cdb (grant settings mysqlId name ⟨database, []⟩) ()

/-- **Privileges of an account on a database.** To delete them is to take all of them away. -/
def privilege : Lifecycle where
  create := createPrivilege settings
  read := readPrivilege settings
  update identifier _ desired := updatePrivilege settings identifier desired
  delete := deletePrivilege settings

/-! ## Backup policies -/

/-- The policy of an instance made to be the desired one. -/
def applyBackupPolicy (mysqlId : String) (r : Resource) : Api Unit :=
  Mysql.setBackupPolicy mysqlId ((r.int? "retention_period").getD Catalog.defaultRetention)
    ((r.text? "backup_model").getD Catalog.defaultBackupMethod)
    ((r.text? "backup_time").getD Catalog.defaultBackupWindow)

def createBackupPolicy (r : Resource) : Api String := do
  let mysqlId ← r.required "mysql_id"
  applyBackupPolicy mysqlId r
  return mysqlId

def readBackupPolicy (mysqlId : String) : Api (Option Attributes) :=
  let found := do
    let policy ← Mysql.readBackupPolicy mysqlId
    return some (Mysql.BackupPolicy.attributes mysqlId policy)
  Api.orIfNotFound .cdb found none

def deleteBackupPolicy (mysqlId : String) : Api Unit :=
  Api.acceptGone .cdb <|
    Mysql.setBackupPolicy mysqlId Catalog.defaultRetention Catalog.defaultBackupMethod
      Catalog.defaultBackupWindow

/-- **Backup policies.** An instance always has one; to delete it is to restore the defaults. -/
def backupPolicy : Lifecycle where
  create := createBackupPolicy
  read := readBackupPolicy
  update mysqlId _ desired := applyBackupPolicy mysqlId desired
  delete := deleteBackupPolicy

end CloudProvider.Lifecycle
