import CloudProvider.Api

/-!
# Virtual networks
-/

namespace CloudProvider.Network

/-- A virtual network, as the remote describes it. -/
structure Vpc where
  id : String
  name : String
  cidrBlock : String
  isDefault : Bool
  isMulticast : Bool
  dnsServers : List String
  createdTime : String
  deriving DecidableEq, Repr

namespace Vpc

def row : Row Json Vpc :=
  Vpc.mk <$> .column "VpcId" Json.asText ""
    <*> .column "VpcName" Json.asText ""
    <*> .column "CidrBlock" Json.asText ""
    <*> .column "IsDefault" Json.asBool false
    <*> .column "EnableMulticast" Json.asBool false
    <*> .column "DnsServerSet" (Json.asListOrNull Json.asText) []
    <*> .column "CreatedTime" Json.asText ""

def ofJson : Json → Except Issue Vpc := row.ofJson "VpcInfo"

/-- **The attributes of a network.** -/
def attributes (v : Vpc) : Attributes :=
  Fields.ofList
    [("name", .text v.name),
     ("cidr_block", .text v.cidrBlock),
     ("dns_servers", .texts v.dnsServers),
     ("is_multicast", .bool v.isMulticast),
     ("is_default", .bool v.isDefault),
     ("create_time", .text v.createdTime)]

end Vpc

end CloudProvider.Network
