import CloudProvider.DataSource.Basic
import CloudProvider.Network.Client

/-!
# Data sources on networks

* `DataSource.vpcInstances`, `DataSource.vpcSubnets`, `DataSource.vpcRouteTables`.
-/

namespace CloudProvider.DataSource

variable (pageSize : UInt64)

/-! ## Networks -/

def vpcItem (v : Network.Vpc) (subnetIds : List String) : Value :=
  .ofEntries
    [("vpc_id", .text v.id),
     ("name", .text v.name),
     ("cidr_block", .text v.cidrBlock),
     ("is_default", .bool v.isDefault),
     ("is_multicast", .bool v.isMulticast),
     ("dns_servers", .texts v.dnsServers),
     ("subnet_ids", .texts subnetIds),
     ("create_time", .text v.createdTime)]

/-- The items of networks, each with the subnets that are listed for it. -/
def vpcItems : List Network.Vpc → Api (List Value)
  | [] => return []
  | v :: rest => do
    let subnets ← Network.listSubnets pageSize { vpcId := some v.id }
    let items ← vpcItems rest
    return vpcItem v (subnets.map fun s => s.id) :: items

/-- **Networks**, by id and name, with their subnets. -/
def vpcInstances : DataSource := fun r => do
  let id := r.text? "vpc_id"
  let name := r.text? "name"
  let vpcs ← Network.listVpcs pageSize id name
  let items ← vpcItems pageSize vpcs
  return {
    identifier := Found.idText "vpc_instances" id name
    attributes := Found.listing r ["vpc_id", "name"] "instance_list" items }

/-! ## Subnets -/

def subnetItem (s : Network.Subnet) : Value :=
  .ofEntries
    [("availability_zone", .text s.zone),
     ("vpc_id", .text s.vpcId),
     ("subnet_id", .text s.id),
     ("name", .text s.name),
     ("cidr_block", .text s.cidrBlock),
     ("is_default", .bool s.isDefault),
     ("is_multicast", .bool s.isMulticast),
     ("route_table_id", .text s.routeTableId),
     ("available_ip_count", .int s.availableAddresses),
     ("create_time", .text s.createdTime)]

/-- **Subnets**, by id and name. -/
def vpcSubnets : DataSource := fun r => do
  let id := r.text? "subnet_id"
  let name := r.text? "name"
  let subnets ← Network.listSubnets pageSize { id, name }
  return {
    identifier := Found.idText "vpc_subnets" id name
    attributes := Found.listing r ["subnet_id", "name"] "instance_list" (subnets.map subnetItem) }

/-! ## Route tables -/

/-- The item of a route of a table. The number of a route has to fit in an attribute. -/
def routeItem (tableId : String) (route : Network.Route) : Except Error Value :=
  if route.id.toNat < 0x8000000000000000 then
    .ok <| .ofEntries
      [("route_entry_id", .int (Int64.ofNat route.id.toNat)),
       ("description", .text route.description),
       ("destination_cidr_block", .text route.destination),
       ("next_type", .text route.gatewayType),
       ("next_hub", .text route.gatewayId)]
  else .error (.malformed s!"route id {route.id} of {tableId} is out of range")

def routeTableItem (t : Network.RouteTable) : Except Error Value := do
  let routes ← t.routes.mapM (routeItem t.id)
  return .ofEntries
    [("route_table_id", .text t.id),
     ("name", .text t.name),
     ("vpc_id", .text t.vpcId),
     ("subnet_ids", .texts t.subnetIds),
     ("route_entry_infos", .list routes),
     ("is_default", .bool t.isMain),
     ("create_time", .text t.createdTime)]

/-- **Route tables**, by id and name, with their routes. -/
def vpcRouteTables : DataSource := fun r => do
  let id := r.text? "route_table_id"
  let name := r.text? "name"
  let tables ← Network.listRouteTables pageSize { id, name }
  let items ← (tables.mapM routeTableItem : Except Error (List Value))
  return {
    identifier := Found.idText "vpc_route_tables" id name
    attributes := Found.listing r ["route_table_id", "name"] "instance_list" items }

end CloudProvider.DataSource
