import CloudProvider.Api
import CloudProvider.RouteEntryId

/-!
# Route tables and their routes
-/

namespace CloudProvider.Network

/-- A subnet that uses a route table. -/
structure Association where
  subnetId : String
  routeTableId : String
  deriving DecidableEq, Repr

/-- A route of a table, as the remote describes it. -/
structure Route where
  id : UInt64
  destination : String
  gatewayType : String
  gatewayId : String
  description : String
  deriving DecidableEq, Repr

/-- A route table, as the remote describes it. -/
structure RouteTable where
  vpcId : String
  id : String
  name : String
  associations : List Association
  routes : List Route
  /-- Whether subnets use the table when no other is given. -/
  isMain : Bool
  createdTime : String
  deriving DecidableEq, Repr

/-- The desired content of a route. -/
structure RouteSpec where
  destination : String
  gatewayType : String
  gatewayId : String
  description : String
  deriving DecidableEq, Repr

def Association.ofJson : Json → Except Issue Association :=
  Row.ofJson "RouteTableAssociation"
    (Association.mk <$> .column "SubnetId" Json.asText ""
      <*> .column "RouteTableId" Json.asText "")

namespace Route

def row : Row Json Route :=
  Route.mk <$> .column "RouteId" Json.asNat64 0
    <*> .column "DestinationCidrBlock" Json.asText ""
    <*> .column "GatewayType" Json.asText ""
    <*> .column "GatewayId" Json.asText ""
    <*> .column "RouteDescription" Json.asText ""

def ofJson : Json → Except Issue Route := row.ofJson "RouteInfo"

/-- **The attributes of a route** in a table of a network. -/
def attributes (routeTableId vpcId : String) (r : Route) : Attributes :=
  Fields.ofList
    [("route_table_id", .text routeTableId),
     ("vpc_id", .text vpcId),
     ("destination_cidr_block", .text r.destination),
     ("next_type", .text r.gatewayType),
     ("next_hub", .text r.gatewayId),
     ("description", .text r.description)]

end Route

/-- Whether a route is the one that is asked for, whatever its description. -/
def RouteSpec.matches (spec : RouteSpec) (r : Route) : Bool :=
  r.destination = spec.destination && r.gatewayType = spec.gatewayType
    && r.gatewayId = spec.gatewayId

namespace RouteTable

def row : Row Json RouteTable :=
  RouteTable.mk <$> .column "VpcId" Json.asText ""
    <*> .column "RouteTableId" Json.asText ""
    <*> .column "RouteTableName" Json.asText ""
    <*> .column "AssociationSet" (Json.asListOrNull Association.ofJson) []
    <*> .column "RouteSet" (Json.asListOrNull Route.ofJson) []
    <*> .column "Main" Json.asBool false
    <*> .column "CreatedTime" Json.asText ""

def ofJson : Json → Except Issue RouteTable := row.ofJson "RouteTableInfo"

variable (t : RouteTable)

/-- The subnets that use a table. -/
def subnetIds : List String := t.associations.map fun a => a.subnetId

/-- The addresses of the routes of a table, in its order. -/
def entryIds : List RouteEntryId := t.routes.map fun r => ⟨r.id, t.id⟩

/-- The route of a table with some number. -/
def entry? (id : UInt64) : Option Route := t.routes.find? fun r => r.id = id

/-- **The attributes of a route table.** -/
def attributes : Attributes :=
  Fields.ofList
    [("vpc_id", .text t.vpcId),
     ("name", .text t.name),
     ("subnet_ids", .texts t.subnetIds),
     ("route_entry_ids", .texts (t.entryIds.map RouteEntryId.text)),
     ("is_default", .bool t.isMain),
     ("create_time", .text t.createdTime)]

end RouteTable

end CloudProvider.Network
