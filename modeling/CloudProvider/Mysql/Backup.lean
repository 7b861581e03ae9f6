import CloudProvider.Api
import CloudProvider.Text.Digits

/-!
# Backups of a database instance
-/

namespace CloudProvider.Mysql

/-- A backup, as the remote describes it. -/
structure Backup where
  id : Int64
  name : String
  size : Int64
  date : String
  finishTime : String
  intranetUrl : String
  internetUrl : String
  type : String
  method : String
  way : String
  status : String
  creator : String
  deriving DecidableEq, Repr

def Backup.ofJson : Json → Except Issue Backup :=
  Row.ofJson "BackupInfo"
    (Backup.mk <$> .column "BackupId" Json.asInt64 0
      <*> .column "Name" Json.asText ""
      <*> .column "Size" Json.asInt64 0
      <*> .column "Date" Json.asText ""
      <*> .column "FinishTime" Json.asText ""
      <*> .column "IntranetUrl" Json.asText ""
      <*> .column "InternetUrl" Json.asText ""
      <*> .column "Type" Json.asText ""
      <*> .column "Method" Json.asText ""
      <*> .column "Way" Json.asText ""
      <*> .column "Status" Json.asText ""
      <*> .column "Creator" Json.asText "")

/-- How an instance is backed up, as the remote describes it. -/
structure BackupPolicy where
  /-- The hour at which the time for backups starts. -/
  startHour : Int64
  /-- The hour at which it ends. -/
  endHour : Int64
  retentionDays : Int64
  method : String
  binlogDays : Int64
  deriving DecidableEq, Repr

namespace BackupPolicy

def row : Row Json BackupPolicy :=
  BackupPolicy.mk <$> .column "StartTimeMin" Json.asInt64 0
    <*> .column "StartTimeMax" Json.asInt64 0
    <*> .column "BackupExpireDays" Json.asInt64 0
    <*> .column "BackupMethod" Json.asText ""
    <*> .column "BinlogExpireDays" Json.asInt64 0

def ofJson : Json → Except Issue BackupPolicy := row.ofJson "BackupConfig"

/-- An hour on at least two places. -/
def hourText (h : Int64) : String :=
  if 0 ≤ h then Text.twoDigits h.toInt.toNat else toString h

/-- The time of day for backups. -/
def window (p : BackupPolicy) : String :=
  s!"{hourText p.startHour}:00-{hourText p.endHour}:00"

/-- **The attributes of the policy** of an instance. -/
def attributes (mysqlId : String) (p : BackupPolicy) : Attributes :=
  Fields.ofList
    [("mysql_id", .text mysqlId),
     ("retention_period", .int p.retentionDays),
     ("backup_model", .text p.method),
     ("backup_time", .text p.window),
     ("binlog_period", .int p.binlogDays)]

end BackupPolicy

end CloudProvider.Mysql
