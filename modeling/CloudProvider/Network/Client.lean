import CloudProvider.Listing
import CloudProvider.Lookup
import CloudProvider.Network.RouteTable
import CloudProvider.Network.Subnet
import CloudProvider.Network.Vpc

/-!
# Calls on networks

Each function is one thing that the network service can be asked for. A look-up by an id goes
through the listing with the id as its filter, and an id that the remote does not know matches
nothing.

* `Network.listVpcs`, `Network.findVpc`, …: entities that match, and the only one that does.
* `Network.createVpc`, `Network.deleteVpc`, …: changes.
* `Network.createRoute`: a new route, whose number is found by reading the table back.
-/

namespace CloudProvider.Network

/-! ## Requests -/

/-- A flag as the service reads it. -/
def flag (b : Bool) : Json := .str (if b then "true" else "false")

/-- The filters that have a value. -/
def filterList (filters : List (String × Option String)) : List Json :=
  filters.filterMap fun (name, value) =>
    value.map fun v => Json.object [("Name", .str name), ("Values", .strs [v])]

/-- A member that is left out when it has no items. -/
def unlessEmpty (name : String) (items : List Json) : List (String × Json) :=
  if items.isEmpty then [] else [(name, .arr items)]

/-- The parameters of a page of a listing, of the entities with some ids and matching some
filters. -/
def listRequest (idsName : String) (id : Option String)
    (filters : List (String × Option String)) (c : Listing.Cursor) : Json :=
  Json.object <|
    unlessEmpty idsName (id.toList.map .str) ++ unlessEmpty "Filters" (filterList filters) ++
      [("Offset", .str (toString c.offset)), ("Limit", .str (toString c.limit))]

/-- A page that a listing answers, with its items under a name. -/
def pageRow {α : Type} (itemsName : String) (item : Json → Except Issue α) :
    Row Json (Listing.Page α) :=
  (fun total items => ⟨items, total⟩) <$> .column "TotalCount" Json.asNat64 0
    <*> .column itemsName (Json.asListOrNull item) []

/-- The id of a new entity. -/
def checkId (action : Action) (id : String) : Api String :=
  if id = "" then throw (.malformed s!"{action.name} returned no id") else return id

/-! ## Networks -/

variable (pageSize : UInt64)

def listVpcs (id name : Option String) : Api (List Vpc) :=
  Listing.all pageSize fun c =>
    Api.call .describeVpcs (listRequest "VpcIds" id [("vpc-name", name)] c)
      ((pageRow "VpcSet" Vpc.ofJson).ofJson "DescribeVpcsResponse")

/-- **The network with an id**, if there is one. -/
def findVpc (id : String) : Api (Option Vpc) := do
  Lookup.unique "vpc" id (← Api.orIfNotFound .vpc (listVpcs pageSize (some id) none) [])

def createVpc (name cidrBlock : String) (isMulticast : Bool) (dnsServers : List String) :
    Api String := do
  let request := Json.object <|
    [("CidrBlock", .str cidrBlock), ("VpcName", .str name), ("EnableMulticast", flag isMulticast)]
      ++ unlessEmpty "DnsServers" (dnsServers.map .str)
  let vpc ← Api.call .createVpc request
    (Row.ofJson "CreateVpcResponse" (.required "Vpc" Vpc.ofJson))
  checkId .createVpc vpc.id

def modifyVpc (id name : String) (isMulticast : Bool) (dnsServers : List String) : Api Unit :=
  Api.command .modifyVpcAttribute <| Json.object <|
    [("VpcId", .str id), ("VpcName", .str name), ("EnableMulticast", flag isMulticast)]
      ++ unlessEmpty "DnsServers" (dnsServers.map .str)

def deleteVpc (id : String) : Api Unit :=
  Api.command .deleteVpc (Json.object [("VpcId", .str id)])

/-! ## Subnets -/

/-- Which subnets are listed; nothing matches all. -/
structure SubnetQuery where
  id : Option String := none
  vpcId : Option String := none
  name : Option String := none
  zone : Option String := none

def listSubnets (q : SubnetQuery) : Api (List Subnet) :=
  Listing.all pageSize fun c =>
    let filters := [("vpc-id", q.vpcId), ("subnet-name", q.name), ("zone", q.zone)]
    Api.call .describeSubnets (listRequest "SubnetIds" q.id filters c)
      ((pageRow "SubnetSet" Subnet.ofJson).ofJson "DescribeSubnetsResponse")

/-- **The subnet with an id**, if there is one. -/
def findSubnet (id : String) : Api (Option Subnet) := do
  Lookup.unique "subnet" id (← Api.orIfNotFound .vpc (listSubnets pageSize { id := some id }) [])

def createSubnet (vpcId name cidrBlock zone : String) : Api String := do
  let request := Json.object
    [("VpcId", .str vpcId), ("SubnetName", .str name), ("CidrBlock", .str cidrBlock),
     ("Zone", .str zone)]
  let subnet ← Api.call .createSubnet request
    (Row.ofJson "CreateSubnetResponse" (.required "Subnet" Subnet.ofJson))
  checkId .createSubnet subnet.id

def modifySubnet (id name : String) (isMulticast : Bool) : Api Unit :=
  Api.command .modifySubnetAttribute <| Json.object
    [("SubnetId", .str id), ("SubnetName", .str name), ("EnableBroadcast", flag isMulticast)]

def deleteSubnet (id : String) : Api Unit :=
  Api.command .deleteSubnet (Json.object [("SubnetId", .str id)])

/-- A subnet made to use another route table. -/
def associateRouteTable (subnetId routeTableId : String) : Api Unit :=
  Api.command .replaceRouteTableAssociation <| Json.object
    [("SubnetId", .str subnetId), ("RouteTableId", .str routeTableId)]

/-! ## Route tables -/

/-- Which route tables are listed; nothing matches all. -/
structure RouteTableQuery where
  id : Option String := none
  vpcId : Option String := none
  name : Option String := none

def listRouteTables (q : RouteTableQuery) : Api (List RouteTable) :=
  Listing.all pageSize fun c =>
    let filters := [("vpc-id", q.vpcId), ("route-table-name", q.name)]
    Api.call .describeRouteTables (listRequest "RouteTableIds" q.id filters c)
      ((pageRow "RouteTableSet" RouteTable.ofJson).ofJson "DescribeRouteTablesResponse")

/-- The only route table that matches, if there is one. -/
def uniqueRouteTable (id : String) (vpcId : Option String) : Api (Option RouteTable) := do
  let query : RouteTableQuery := { id := some id, vpcId }
  Lookup.unique "route table" id (← Api.orIfNotFound .vpc (listRouteTables pageSize query) [])

/-- **The route table with an id**, if there is one. -/
def findRouteTable (id : String) : Api (Option RouteTable) :=
  uniqueRouteTable pageSize id none

/-- Whether a network has a route table with an id. -/
def isRouteTableInVpc (id vpcId : String) : Api Bool := do
  return (← uniqueRouteTable pageSize id (some vpcId)).isSome

def createRouteTable (vpcId name : String) : Api String := do
  let request := Json.object [("VpcId", .str vpcId), ("RouteTableName", .str name)]
  let table ← Api.call .createRouteTable request
    (Row.ofJson "CreateRouteTableResponse" (.required "RouteTable" RouteTable.ofJson))
  checkId .createRouteTable table.id

def modifyRouteTable (id name : String) : Api Unit :=
  Api.command .modifyRouteTableAttribute <| Json.object
    [("RouteTableId", .str id), ("RouteTableName", .str name)]

def deleteRouteTable (id : String) : Api Unit :=
  Api.command .deleteRouteTable (Json.object [("RouteTableId", .str id)])

/-! ## Routes -/

def RouteSpec.json (spec : RouteSpec) : Json :=
  Json.object
    [("DestinationCidrBlock", .str spec.destination), ("GatewayType", .str spec.gatewayType),
     ("GatewayId", .str spec.gatewayId), ("RouteDescription", .str spec.description)]

/-- **A new route in a table, and its number.** The remote does not tell the number, so the table is
read back and the route with the same destination and gateway is picked. -/
def createRoute (routeTableId : String) (spec : RouteSpec) : Api UInt64 := do
  Api.command .createRoutes <| Json.object
    [("RouteTableId", .str routeTableId), ("Routes", .arr [spec.json])]
  let some table ← findRouteTable pageSize routeTableId
    | throw (.malformed s!"route table {routeTableId} disappeared after CreateRoutes")
  let key := s!"{spec.destination}->{spec.gatewayType}:{spec.gatewayId} in {routeTableId}"
  match ← Lookup.unique "route entry" key (table.routes.filter spec.matches) with
  | some route => return route.id
  | none => throw (.malformed s!"route {key} not found after CreateRoutes")

def deleteRoute (id : RouteEntryId) : Api Unit :=
  Api.command .deleteRoutes <| Json.object
    [("RouteTableId", .str id.routeTable),
     ("Routes", .arr [Json.object [("RouteId", .int id.entry.toNat)]])]

end CloudProvider.Network
