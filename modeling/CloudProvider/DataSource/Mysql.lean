import CloudProvider.DataSource.Basic
import CloudProvider.Mysql.Client
import CloudProvider.Settings

/-!
# Data sources on databases

* `DataSource.backupList`, `DataSource.parameterList`, `DataSource.zoneConfig`.
-/

namespace CloudProvider.DataSource

/-! ## Backups -/

def backupItem (b : Mysql.Backup) : Value :=
  .ofEntries
    [("time", .text b.date),
     ("finish_time", .text b.finishTime),
     ("size_byte", .int b.size),
     ("backup_id", .int b.id),
     ("backup_model", .text b.method),
     ("intranet_url", .text b.intranetUrl),
     ("internet_url", .text b.internetUrl),
     ("creator", .text b.creator)]

/-- How many backups are listed when nothing is said. -/
def defaultBackupCount : Int64 := 10

/-- **The backups of an instance**, no more than asked for. -/
def backupList (pageSize : UInt64) : DataSource := fun r => do
  let some mysqlId := r.text? "mysql_id"
    | throw (.invalid "mysql_id should be a non-empty string")
  let max := (r.int? "max_number").getD defaultBackupCount
  if max < 0 then throw (.invalid s!"max_number {max} is negative")
  let backups ← Mysql.listBackups pageSize mysqlId max.toInt.toNat
  return {
    identifier := s!"mysql_backup_list{mysqlId}_{max}"
    attributes := Found.listing r ["mysql_id", "max_number"] "list" (backups.map backupItem) }

/-! ## Parameters -/

def parameterItem (p : Mysql.Parameter) : Value :=
  .ofEntries
    [("parameter_name", .text p.name),
     ("parameter_type", .text p.type),
     ("description", .text p.description),
     ("current_value", .text p.currentValue),
     ("default_value", .text p.default),
     ("enum_value", .texts p.variants),
     ("max", .int p.max),
     ("min", .int p.min),
     ("need_reboot", .bool (p.needReboot = 1))]

def parametersFound (r : Resource) (key : String) (parameters : List Mysql.Parameter) : Found where
  identifier := s!"mysql_parameter_list{key}"
  attributes :=
    Found.listing r ["mysql_id", "engine_version"] "parameter_list" (parameters.map parameterItem)

/-- **The parameters of an instance**, or the default ones of an engine version. -/
def parameterList : DataSource := fun r => do
  match r.text? "mysql_id", r.text? "engine_version" with
  | some mysqlId, _ => return parametersFound r mysqlId (← Mysql.listInstanceParameters mysqlId)
  | none, some version => return parametersFound r version (← Mysql.listDefaultParameters version)
  | none, none => throw (.invalid "one of mysql_id or engine_version must be set")

/-! ## Zones -/

def zoneItem (region : String) (z : Mysql.Zone) : Value :=
  .ofEntries
    [("region", .text region),
     ("zone", .text z.id),
     ("zone_name", .text z.name),
     ("is_default", .bool z.isDefault),
     ("is_support_disaster_recovery", .bool z.supportsDisasterRecovery),
     ("is_support_vpc", .bool z.supportsVpc),
     ("hour_instance_sale_max_num", .int z.hourlyMaximum),
     ("pay_type", .texts z.payTypes),
     ("engine_versions", .texts z.engineVersions)]

/-- **The zones of a region** that sell instances. -/
def zoneConfig (settings : Settings) : DataSource := fun r => do
  let region := (r.text? "region").getD settings.region
  let regions ← Mysql.listRegions
  let items := (regions.filter fun g => g.id = region).flatMap fun g => g.zones.map (zoneItem g.id)
  return {
    identifier := s!"mysql_zone_config{region}"
    attributes := (Found.listing r [] "list" items).insert "region" (.text region) }

end CloudProvider.DataSource
