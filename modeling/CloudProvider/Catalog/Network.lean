import CloudProvider.Schema.Basic

/-!
# Schemas of networks
-/

namespace CloudProvider.Catalog

/-- The name of a resource: 1 to 60 characters. -/
def nameType : AttributeType := .textBetween 1 60

/-- The types of gateway that a route can lead to. -/
def gatewayTypes : List String :=
  ["CVM", "VPN", "DIRECTCONNECT", "PEERCONNECTION", "SSLVPN", "HAVIP", "NAT", "NORMAL_CVM", "EIP",
   "CCN"]

/-- The gateway type of routes that lead straight out. -/
def directGateway : String := "EIP"

/-- An attribute that only the remote gives. -/
def reported (name : String) (type : AttributeType) (description : String) : Attribute :=
  { name, type, computed := true, description := some description }

/-- The attribute in which a data source gives what it found. -/
def resultList (name : String) : Attribute :=
  { name, type := .list (.map .text), computed := true }

/-- The id of the network that a resource belongs to. -/
def vpcIdAttribute : Attribute :=
  { name := "vpc_id", type := .text, required := true, forceNew := true }

def multicastAttribute : Attribute :=
  { name := "is_multicast", type := .bool, default := some (.bool true) }

def cidrBlockAttribute (name : String) : Attribute :=
  { name, type := .format .cidr, required := true, forceNew := true }

def vpcSchema : Schema :=
  .ofAttributes "vpc" (some "A virtual private cloud")
    [{ name := "name", type := nameType, required := true },
     cidrBlockAttribute "cidr_block",
     { name := "dns_servers", type := .listBetween .text 1 4, computed := true,
       description := some "Defaults to the platform resolvers when unset" },
     multicastAttribute,
     reported "is_default" .bool "Whether this is the default VPC",
     reported "create_time" .text "Creation time"]

def subnetSchema : Schema :=
  .ofAttributes "subnet" (some "A subnet inside a VPC, bound to one availability zone")
    [vpcIdAttribute,
     { name := "availability_zone", type := .text, required := true, forceNew := true },
     { name := "name", type := nameType, required := true },
     cidrBlockAttribute "cidr_block",
     multicastAttribute,
     { name := "route_table_id", type := .text, computed := true },
     reported "is_default" .bool "Whether this is the default subnet",
     reported "available_ip_count" .int "Unallocated addresses",
     reported "create_time" .text "Creation time"]

def routeTableSchema : Schema :=
  .ofAttributes "route_table" (some "A named set of routes associated with subnets of one VPC")
    [vpcIdAttribute,
     { name := "name", type := nameType, required := true },
     reported "subnet_ids" (.list .text) "Associated subnets",
     reported "route_entry_ids" (.list .text) "Entries as <entry_id>.<route_table_id>",
     reported "is_default" .bool "Whether this is the main table",
     reported "create_time" .text "Creation time"]

def routeEntrySchema : Schema :=
  .ofAttributes "route_table_entry"
    (some "One route of a route table; every attribute forces a new entry")
    [{ name := "route_table_id", type := .text, required := true, forceNew := true },
     cidrBlockAttribute "destination_cidr_block",
     { name := "next_type", type := .oneOf gatewayTypes, required := true, forceNew := true },
     { name := "next_hub", type := .text, required := true, forceNew := true,
       description := some "Must be \"0\" when next_type is EIP" },
     { name := "description", type := .text, forceNew := true },
     { name := "vpc_id", type := .text, forceNew := true,
       description := some "When set, the route table must belong to this VPC" }]

def vpcInstancesSchema : Schema :=
  .ofAttributes "vpc_instances" (some "VPCs matching an optional id and name")
    [{ name := "vpc_id", type := .text }, { name := "name", type := .text },
     resultList "instance_list"]

def vpcSubnetsSchema : Schema :=
  .ofAttributes "vpc_subnets" (some "Subnets matching an optional id and name")
    [{ name := "subnet_id", type := .text }, { name := "name", type := .text },
     resultList "instance_list"]

def vpcRouteTablesSchema : Schema :=
  .ofAttributes "vpc_route_tables"
    (some "Route tables matching an optional id and name, with their entries")
    [{ name := "route_table_id", type := .text }, { name := "name", type := .text },
     resultList "instance_list"]

end CloudProvider.Catalog
