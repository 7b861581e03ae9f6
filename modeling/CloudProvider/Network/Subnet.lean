import CloudProvider.Api

/-!
# Subnets
-/

namespace CloudProvider.Network

/-- A subnet, as the remote describes it. -/
structure Subnet where
  vpcId : String
  id : String
  name : String
  cidrBlock : String
  isDefault : Bool
  isMulticast : Bool
  zone : String
  routeTableId : String
  createdTime : String
  availableAddresses : Int64
  deriving DecidableEq, Repr

namespace Subnet

def row : Row Json Subnet :=
  Subnet.mk <$> .column "VpcId" Json.asText ""
    <*> .column "SubnetId" Json.asText ""
    <*> .column "SubnetName" Json.asText ""
    <*> .column "CidrBlock" Json.asText ""
    <*> .column "IsDefault" Json.asBool false
    <*> .column "EnableBroadcast" Json.asBool false
    <*> .column "Zone" Json.asText ""
    <*> .column "RouteTableId" Json.asText ""
    <*> .column "CreatedTime" Json.asText ""
    <*> .column "AvailableIpAddressCount" Json.asInt64 0

def ofJson : Json → Except Issue Subnet := row.ofJson "SubnetInfo"

/-- **The attributes of a subnet.** -/
def attributes (s : Subnet) : Attributes :=
  Fields.ofList
    [("vpc_id", .text s.vpcId),
     ("availability_zone", .text s.zone),
     ("name", .text s.name),
     ("cidr_block", .text s.cidrBlock),
     ("is_multicast", .bool s.isMulticast),
     ("route_table_id", .text s.routeTableId),
     ("is_default", .bool s.isDefault),
     ("available_ip_count", .int s.availableAddresses),
     ("create_time", .text s.createdTime)]

end Subnet

end CloudProvider.Network
