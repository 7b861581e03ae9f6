import CloudProvider.Proofs.Layout

/-!
# Answers that are read alike

Every entity that the remote describes, and every answer, has a layout. Answers that differ in what
the layout allows to leave out are read as the same.

* `Network.Vpc.layout`, `Mysql.Region.layout`, …: the layouts of the entities.
* `Entity`, **`Entity.tolerant`**: all entities.
* `Action.layout`, **`Action.tolerant`**: all answers.
-/

namespace CloudProvider

open Layout Row

/-! ## Networks -/

namespace Network

def Vpc.layout : Layout := .record
  [("VpcId", .text), ("VpcName", .text), ("CidrBlock", .text), ("IsDefault", .flag),
   ("EnableMulticast", .flag), ("DnsServerSet", .list .text), ("CreatedTime", .text)]

theorem Vpc.tolerant : Tolerant layout ofJson :=
  ((follows_text.map Vpc.mk).seq follows_text |>.seq follows_text |>.seq follows_flag
    |>.seq follows_flag |>.seq (follows_list tolerant_text) |>.seq follows_text).tolerant
    (by decide) "VpcInfo"

def Subnet.layout : Layout := .record
  [("VpcId", .text), ("SubnetId", .text), ("SubnetName", .text), ("CidrBlock", .text),
   ("IsDefault", .flag), ("EnableBroadcast", .flag), ("Zone", .text), ("RouteTableId", .text),
   ("CreatedTime", .text), ("AvailableIpAddressCount", .number)]

theorem Subnet.tolerant : Tolerant layout ofJson :=
  ((follows_text.map Subnet.mk).seq follows_text |>.seq follows_text |>.seq follows_text
    |>.seq follows_flag |>.seq follows_flag |>.seq follows_text |>.seq follows_text
    |>.seq follows_text |>.seq follows_int64).tolerant
    (by decide) "SubnetInfo"

def Association.layout : Layout := .record [("SubnetId", .text), ("RouteTableId", .text)]

theorem Association.tolerant : Tolerant layout ofJson :=
  ((follows_text.map Association.mk).seq follows_text).tolerant (by decide) "RouteTableAssociation"

def Route.layout : Layout := .record
  [("RouteId", .number), ("DestinationCidrBlock", .text), ("GatewayType", .text),
   ("GatewayId", .text), ("RouteDescription", .text)]

theorem Route.tolerant : Tolerant layout ofJson :=
  ((follows_nat64.map Route.mk).seq follows_text |>.seq follows_text |>.seq follows_text
    |>.seq follows_text).tolerant
    (by decide) "RouteInfo"

def RouteTable.layout : Layout := .record
  [("VpcId", .text), ("RouteTableId", .text), ("RouteTableName", .text),
   ("AssociationSet", .list Association.layout), ("RouteSet", .list Route.layout), ("Main", .flag),
   ("CreatedTime", .text)]

theorem RouteTable.tolerant : Tolerant layout ofJson :=
  ((follows_text.map RouteTable.mk).seq follows_text |>.seq follows_text
    |>.seq (follows_list Association.tolerant) |>.seq (follows_list Route.tolerant)
    |>.seq follows_flag |>.seq follows_text).tolerant
    (by decide) "RouteTableInfo"

end Network

/-! ## Databases -/

namespace Mysql

def Account.layout : Layout := .record
  [("User", .text), ("Host", .text), ("Notes", .text), ("CreateTime", .text),
   ("ModifyTime", .text)]

theorem Account.tolerant : Tolerant layout ofJson :=
  ((follows_text.map Account.mk).seq follows_text |>.seq follows_text |>.seq follows_text
    |>.seq follows_text).tolerant
    (by decide) "AccountInfo"

def Grant.layout : Layout := .record [("Database", .text), ("Privileges", .list .text)]

theorem Grant.tolerant : Tolerant layout ofJson :=
  ((follows_text.map Grant.mk).seq (follows_list tolerant_text)).tolerant
    (by decide) "DatabasePrivilege"

def Backup.layout : Layout := .record
  [("BackupId", .number), ("Name", .text), ("Size", .number), ("Date", .text),
   ("FinishTime", .text), ("IntranetUrl", .text), ("InternetUrl", .text), ("Type", .text),
   ("Method", .text), ("Way", .text), ("Status", .text), ("Creator", .text)]

theorem Backup.tolerant : Tolerant layout ofJson :=
  ((follows_int64.map Backup.mk).seq follows_text |>.seq follows_int64 |>.seq follows_text
    |>.seq follows_text |>.seq follows_text |>.seq follows_text |>.seq follows_text
    |>.seq follows_text |>.seq follows_text |>.seq follows_text |>.seq follows_text).tolerant
    (by decide) "BackupInfo"

def BackupPolicy.layout : Layout := .record
  [("StartTimeMin", .number), ("StartTimeMax", .number), ("BackupExpireDays", .number),
   ("BackupMethod", .text), ("BinlogExpireDays", .number)]

theorem BackupPolicy.tolerant : Tolerant layout ofJson :=
  ((follows_int64.map BackupPolicy.mk).seq follows_int64 |>.seq follows_int64
    |>.seq follows_text |>.seq follows_int64).tolerant
    (by decide) "BackupConfig"

def Parameter.layout : Layout := .record
  [("Name", .text), ("ParamType", .text), ("Default", .text), ("Description", .text),
   ("CurrentValue", .text), ("NeedReboot", .number), ("Max", .number), ("Min", .number),
   ("EnumValue", .list .text)]

theorem Parameter.tolerant : Tolerant layout ofJson :=
  ((follows_text.map Parameter.mk).seq follows_text |>.seq follows_text |>.seq follows_text
    |>.seq follows_text |>.seq follows_int64 |>.seq follows_int64 |>.seq follows_int64
    |>.seq (follows_list tolerant_text)).tolerant
    (by decide) "ParameterDetail"

def SellType.layout : Layout := .record [("TypeName", .text), ("EngineVersion", .list .text)]

theorem SellType.tolerant : Tolerant layout ofJson :=
  ((follows_text.map SellType.mk).seq (follows_list tolerant_text)).tolerant (by decide) "SellType"

def Zone.layout : Layout := .record
  [("Status", .number), ("ZoneName", .text), ("Zone", .text), ("IsCustom", .flag),
   ("IsSupportDr", .flag), ("IsSupportVpc", .flag), ("HourInstanceSaleMaxNum", .number),
   ("IsDefaultZone", .flag), ("PayType", .list .text), ("SellType", .list SellType.layout)]

theorem Zone.tolerant : Tolerant layout ofJson :=
  ((follows_int64.map Zone.mk).seq follows_text |>.seq follows_text |>.seq follows_flag
    |>.seq follows_flag |>.seq follows_flag |>.seq follows_int64 |>.seq follows_flag
    |>.seq (follows_list tolerant_text) |>.seq (follows_list SellType.tolerant)).tolerant
    (by decide) "ZoneSellConf"

def Region.layout : Layout := .record
  [("Region", .text), ("RegionName", .text), ("Area", .text), ("RegionConfig", .list Zone.layout)]

theorem Region.tolerant : Tolerant layout ofJson :=
  ((follows_text.map Region.mk).seq follows_text |>.seq follows_text
    |>.seq (follows_list Zone.tolerant)).tolerant
    (by decide) "RegionSellConf"

end Mysql

/-! ## Entities -/

/-- **The entities that the remote describes.** -/
inductive Entity where
  | vpc | subnet | association | route | routeTable
  | account | grant | backup | backupPolicy | parameter | sellType | zone | region

namespace Entity

/-- What an entity is read as. -/
def Record : Entity → Type
  | .vpc => Network.Vpc
  | .subnet => Network.Subnet
  | .association => Network.Association
  | .route => Network.Route
  | .routeTable => Network.RouteTable
  | .account => Mysql.Account
  | .grant => Mysql.Grant
  | .backup => Mysql.Backup
  | .backupPolicy => Mysql.BackupPolicy
  | .parameter => Mysql.Parameter
  | .sellType => Mysql.SellType
  | .zone => Mysql.Zone
  | .region => Mysql.Region

/-- How an entity is read. -/
def decode : (e : Entity) → Json → Except Issue e.Record
  | .vpc => Network.Vpc.ofJson
  | .subnet => Network.Subnet.ofJson
  | .association => Network.Association.ofJson
  | .route => Network.Route.ofJson
  | .routeTable => Network.RouteTable.ofJson
  | .account => Mysql.Account.ofJson
  | .grant => Mysql.Grant.ofJson
  | .backup => Mysql.Backup.ofJson
  | .backupPolicy => Mysql.BackupPolicy.ofJson
  | .parameter => Mysql.Parameter.ofJson
  | .sellType => Mysql.SellType.ofJson
  | .zone => Mysql.Zone.ofJson
  | .region => Mysql.Region.ofJson

/-- How an entity is laid out. -/
def layout : Entity → Layout
  | .vpc => Network.Vpc.layout
  | .subnet => Network.Subnet.layout
  | .association => Network.Association.layout
  | .route => Network.Route.layout
  | .routeTable => Network.RouteTable.layout
  | .account => Mysql.Account.layout
  | .grant => Mysql.Grant.layout
  | .backup => Mysql.Backup.layout
  | .backupPolicy => Mysql.BackupPolicy.layout
  | .parameter => Mysql.Parameter.layout
  | .sellType => Mysql.SellType.layout
  | .zone => Mysql.Zone.layout
  | .region => Mysql.Region.layout

/-- **Entities that are alike are read as the same.** -/
theorem tolerant : ∀ e : Entity, Tolerant e.layout e.decode
  | .vpc => Network.Vpc.tolerant
  | .subnet => Network.Subnet.tolerant
  | .association => Network.Association.tolerant
  | .route => Network.Route.tolerant
  | .routeTable => Network.RouteTable.tolerant
  | .account => Mysql.Account.tolerant
  | .grant => Mysql.Grant.tolerant
  | .backup => Mysql.Backup.tolerant
  | .backupPolicy => Mysql.BackupPolicy.tolerant
  | .parameter => Mysql.Parameter.tolerant
  | .sellType => Mysql.SellType.tolerant
  | .zone => Mysql.Zone.tolerant
  | .region => Mysql.Region.tolerant

end Entity

/-! ## Answers -/

namespace Layout

/-- The layout of a page of a listing. -/
def page (itemsName : String) (item : Layout) : Layout :=
  .record [("TotalCount", .number), (itemsName, .list item)]

/-- The layout of a list that is answered at once. -/
def items (itemsName : String) (item : Layout) : Layout := .record [(itemsName, .list item)]

variable {α : Type} {item : Layout} {decode : Json → Except Issue α} {itemsName : String}

theorem tolerant_page (h : Tolerant item decode) (hname : itemsName ≠ "TotalCount")
    (record : String) :
    Tolerant (page itemsName item) ((Network.pageRow itemsName decode).ofJson record) :=
  ((follows_nat64.map _).seq (follows_list h)).tolerant (by simpa using hname.symm) record

theorem tolerant_items (h : Tolerant item decode) (record : String) :
    Tolerant (items itemsName item)
      (Row.ofJson record (.column itemsName (Json.asListOrNull decode) [])) :=
  (follows_list h).tolerant (List.nodup_singleton itemsName) record

end Layout

namespace Action

/-- **How the answer of an action is laid out.** -/
def layout : Action → Layout
  | .describeVpcs => .page "VpcSet" Network.Vpc.layout
  | .describeSubnets => .page "SubnetSet" Network.Subnet.layout
  | .describeRouteTables => .page "RouteTableSet" Network.RouteTable.layout
  | .createVpc => .record [("Vpc", Network.Vpc.layout)]
  | .createSubnet => .record [("Subnet", Network.Subnet.layout)]
  | .createRouteTable => .record [("RouteTable", Network.RouteTable.layout)]
  | .describeBackups => .page "Items" Mysql.Backup.layout
  | .describeBackupConfig => Mysql.BackupPolicy.layout
  | .describeZoneConfig => .items "Items" Mysql.Region.layout
  | .describeDefaultParams | .describeInstanceParams => .items "Items" Mysql.Parameter.layout
  | .describeAccounts => .page "Items" Mysql.Account.layout
  | .createAccounts | .modifyAccountPassword | .modifyAccountDescription | .deleteAccounts
  | .modifyAccountPrivileges => .record [("AsyncRequestId", .text)]
  | .describeAsyncRequestInfo => .record [("Status", .text), ("Info", .text)]
  | .describeAccountPrivileges => .items "DatabasePrivileges" Mysql.Grant.layout
  | .modifyVpcAttribute | .deleteVpc | .modifySubnetAttribute | .deleteSubnet
  | .replaceRouteTableAssociation | .modifyRouteTableAttribute | .deleteRouteTable
  | .createRoutes | .deleteRoutes | .modifyBackupConfig => .record []

/-- **Answers that are alike are read as the same.** -/
theorem tolerant (action : Action) : Tolerant action.layout action.decode := by
  cases action with
  | describeVpcs => exact tolerant_page Network.Vpc.tolerant (by decide) _
  | describeSubnets => exact tolerant_page Network.Subnet.tolerant (by decide) _
  | describeRouteTables => exact tolerant_page Network.RouteTable.tolerant (by decide) _
  | createVpc => exact (follows_required Network.Vpc.tolerant rfl).tolerant (by decide) _
  | createSubnet => exact (follows_required Network.Subnet.tolerant rfl).tolerant (by decide) _
  | createRouteTable =>
    exact (follows_required Network.RouteTable.tolerant rfl).tolerant (by decide) _
  | describeBackups => exact tolerant_page Mysql.Backup.tolerant (by decide) _
  | describeBackupConfig => exact Mysql.BackupPolicy.tolerant
  | describeZoneConfig => exact tolerant_items Mysql.Region.tolerant _
  | describeDefaultParams | describeInstanceParams =>
    exact tolerant_items Mysql.Parameter.tolerant _
  | describeAccounts => exact tolerant_page Mysql.Account.tolerant (by decide) _
  | createAccounts | modifyAccountPassword | modifyAccountDescription | deleteAccounts
  | modifyAccountPrivileges => exact follows_text.tolerant (by decide) _
  | describeAsyncRequestInfo =>
    exact ((follows_text.map AsyncRequest.Observation.mk).seq follows_text).tolerant (by decide) _
  | describeAccountPrivileges => exact tolerant_items Mysql.Grant.tolerant _
  | modifyVpcAttribute | deleteVpc | modifySubnetAttribute | deleteSubnet
  | replaceRouteTableAssociation | modifyRouteTableAttribute | deleteRouteTable
  | createRoutes | deleteRoutes | modifyBackupConfig =>
    exact (Follows.pure ()).tolerant List.nodup_nil _

end Action

end CloudProvider
