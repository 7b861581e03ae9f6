import CloudProvider.Api

/-!
# What can be had of databases: parameters, and zones that sell instances

* `Zone.engineVersions`: the engine versions of a zone, each once.
-/

namespace CloudProvider.Mysql

/-- A parameter of an instance or of an engine version, as the remote describes it. -/
structure Parameter where
  name : String
  type : String
  default : String
  description : String
  currentValue : String
  needReboot : Int64
  max : Int64
  min : Int64
  variants : List String
  deriving DecidableEq, Repr

def Parameter.ofJson : Json → Except Issue Parameter :=
  Row.ofJson "ParameterDetail"
    (Parameter.mk <$> .column "Name" Json.asText ""
      <*> .column "ParamType" Json.asText ""
      <*> .column "Default" Json.asText ""
      <*> .column "Description" Json.asText ""
      <*> .column "CurrentValue" Json.asText ""
      <*> .column "NeedReboot" Json.asInt64 0
      <*> .column "Max" Json.asInt64 0
      <*> .column "Min" Json.asInt64 0
      <*> .column "EnumValue" (Json.asListOrNull Json.asText) [])

/-- A way in which instances are sold. -/
structure SellType where
  name : String
  engineVersions : List String
  deriving DecidableEq, Repr

def SellType.ofJson : Json → Except Issue SellType :=
  Row.ofJson "SellType"
    (SellType.mk <$> .column "TypeName" Json.asText ""
      <*> .column "EngineVersion" (Json.asListOrNull Json.asText) [])

/-- A zone that sells instances, as the remote describes it. -/
structure Zone where
  status : Int64
  name : String
  id : String
  isCustom : Bool
  supportsDisasterRecovery : Bool
  supportsVpc : Bool
  hourlyMaximum : Int64
  isDefault : Bool
  payTypes : List String
  sellTypes : List SellType
  deriving DecidableEq, Repr

namespace Zone

def ofJson : Json → Except Issue Zone :=
  Row.ofJson "ZoneSellConf"
    (Zone.mk <$> .column "Status" Json.asInt64 0
      <*> .column "ZoneName" Json.asText ""
      <*> .column "Zone" Json.asText ""
      <*> .column "IsCustom" Json.asBool false
      <*> .column "IsSupportDr" Json.asBool false
      <*> .column "IsSupportVpc" Json.asBool false
      <*> .column "HourInstanceSaleMaxNum" Json.asInt64 0
      <*> .column "IsDefaultZone" Json.asBool false
      <*> .column "PayType" (Json.asListOrNull Json.asText) []
      <*> .column "SellType" (Json.asListOrNull SellType.ofJson) [])

/-- Items put behind others, without the ones that are there already. -/
def addNew (seen : List String) (items : List String) : List String :=
  items.foldl (fun seen v => if v ∈ seen then seen else seen ++ [v]) seen

/-- **The engine versions of a zone**, each once, in the order in which they come first. -/
def engineVersions (z : Zone) : List String :=
  addNew [] (z.sellTypes.flatMap fun t => t.engineVersions)

end Zone

/-- A region and its zones, as the remote describes it. -/
structure Region where
  id : String
  name : String
  area : String
  zones : List Zone
  deriving DecidableEq, Repr

def Region.ofJson : Json → Except Issue Region :=
  Row.ofJson "RegionSellConf"
    (Region.mk <$> .column "Region" Json.asText ""
      <*> .column "RegionName" Json.asText ""
      <*> .column "Area" Json.asText ""
      <*> .column "RegionConfig" (Json.asListOrNull Zone.ofJson) [])

end CloudProvider.Mysql
