import CloudProvider.Catalog.Network

/-!
# Schemas of databases
-/

namespace CloudProvider.Catalog

def backupMethods : List String := ["physical", "logical"]

/-- The times of day that an instance can be backed up at. -/
def backupWindows : List String :=
  ["02:00-06:00", "06:00-10:00", "10:00-14:00", "14:00-18:00", "18:00-22:00", "22:00-02:00"]

def engineVersions : List String := ["5.5", "5.6", "5.7", "8.0"]

/-! ## Defaults -/

def defaultRetention : Int64 := 7

def defaultBackupMethod : String := "physical"

def defaultBackupWindow : String := "02:00-06:00"

def defaultAccountDescription : String := "--"

/-! ## Resources -/

/-- The id of the instance that a resource belongs to. -/
def mysqlIdAttribute : Attribute :=
  { name := "mysql_id", type := .text, required := true, forceNew := true }

def accountSchema : Schema :=
  .ofAttributes "mysql_account" (some "A database account bound to host '%'")
    [mysqlIdAttribute,
     { name := "name", type := .textBetween 1 16, required := true, forceNew := true },
     { name := "password", type := .textBetween 8 64, required := true, writeOnly := true },
     { name := "description", type := .textBetween 1 200,
       default := some (.text defaultAccountDescription) }]

def privilegeSchema : Schema :=
  .ofAttributes "mysql_privilege" (some "Privileges of an account on one database")
    [mysqlIdAttribute,
     { name := "account_name", type := .text, required := true, forceNew := true },
     { name := "database_name", type := .text, required := true, forceNew := true },
     { name := "privileges", type := .format .privileges, required := true }]

def backupPolicySchema : Schema :=
  .ofAttributes "mysql_backup_policy"
    (some "Backup settings of an instance; deleting restores the defaults")
    [mysqlIdAttribute,
     { name := "retention_period", type := .intBetween 7 732,
       default := some (.int defaultRetention) },
     { name := "backup_model", type := .oneOf backupMethods,
       default := some (.text defaultBackupMethod) },
     { name := "backup_time", type := .oneOf backupWindows,
       default := some (.text defaultBackupWindow) },
     { name := "binlog_period", type := .int, computed := true }]

/-! ## Data sources -/

def backupListSchema : Schema :=
  .ofAttributes "mysql_backup_list" (some "Most recent backups of an instance")
    [{ name := "mysql_id", type := .text, required := true },
     { name := "max_number", type := .intBetween 1 10000, default := some (.int 10) },
     resultList "list"]

def parameterListSchema : Schema :=
  .ofAttributes "mysql_parameter_list"
    (some "Parameters of an instance, or the defaults of an engine version")
    [{ name := "mysql_id", type := .text },
     { name := "engine_version", type := .oneOf engineVersions },
     resultList "parameter_list"]

def zoneConfigSchema : Schema :=
  .ofAttributes "mysql_zone_config" (some "Zones selling MySQL in a region")
    [{ name := "region", type := .text,
       description := some "Defaults to the provider region" },
     resultList "list"]

end CloudProvider.Catalog
