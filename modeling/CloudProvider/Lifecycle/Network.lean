import CloudProvider.Catalog.Network
import CloudProvider.Lifecycle.Basic
import CloudProvider.Network.Client

/-!
# Lifecycles of networks

* `Lifecycle.vpc`, `Lifecycle.subnet`, `Lifecycle.routeTable`, `Lifecycle.routeEntry`.
-/

namespace CloudProvider.Lifecycle

variable (pageSize : UInt64)

/-! ## Networks -/

def createVpc (r : Resource) : Api String := do
  let name ← r.required "name"
  let cidrBlock ← r.required "cidr_block"
  Network.createVpc name cidrBlock (r.boolOr "is_multicast" true) ((r.texts? "dns_servers").getD [])

/-- The servers that a network is to use; without desired ones it keeps those that it has. -/
def dnsServers (current : State) (desired : Resource) : List String :=
  ((desired.texts? "dns_servers").or ((current.get? "dns_servers").bind Value.texts?)).getD []

def updateVpc (id : String) (current : State) (desired : Resource) : Api Unit := do
  let name ← desired.required "name"
  Network.modifyVpc id name (desired.boolOr "is_multicast" true) (dnsServers current desired)

def deleteVpc (id : String) : Api Unit := do
  match ← Network.findVpc pageSize id with
  | none => return ()
  | some _ => Api.acceptGone .vpc (Network.deleteVpc id)

/-- **Networks.** -/
def vpc : Lifecycle where
  create := createVpc
  read id := do return (← Network.findVpc pageSize id).map Network.Vpc.attributes
  update := updateVpc
  delete := deleteVpc pageSize

/-! ## Subnets -/

/-- The error of a route table that does not belong to the network. -/
def foreignTable (routeTableId vpcId : String) : Error :=
  .invalid s!"route table {routeTableId} not found in vpc {vpcId}"

/-- A route table made sure to belong to a network. -/
def ensureInVpc (routeTableId vpcId : String) : Api Unit := do
  unless ← Network.isRouteTableInVpc pageSize routeTableId vpcId do
    throw (foreignTable routeTableId vpcId)

/-- A new subnet. A route table of another network is refused before anything is created. The flag
for multicast and the table are set afterwards, since a subnet is created without them. -/
def createSubnet (r : Resource) : Api String := do
  let vpcId ← r.required "vpc_id"
  let zone ← r.required "availability_zone"
  let name ← r.required "name"
  let cidrBlock ← r.required "cidr_block"
  if let some table := r.text? "route_table_id" then
    ensureInVpc pageSize table vpcId
  let id ← Network.createSubnet vpcId name cidrBlock zone
  Network.modifySubnet id name (r.boolOr "is_multicast" true)
  if let some table := r.text? "route_table_id" then
    Network.associateRouteTable id table
  return id

/-- Whether the name or the flag of a subnet differs from the desired one. -/
def subnetDiffers (current : State) (name : String) (isMulticast : Bool) : Bool :=
  (current.get? "name").bind Value.text? ≠ some name
    || (current.get? "is_multicast").bind Value.bool? ≠ some isMulticast

/-- The desired route table of a subnet, if it is not the one that the subnet uses. -/
def newTable? (current : State) (desired : Resource) : Option String :=
  (desired.text? "route_table_id").filter fun table =>
    (current.get? "route_table_id").bind Value.text? ≠ some table

def updateSubnet (id : String) (current : State) (desired : Resource) : Api Unit := do
  let name ← desired.required "name"
  let isMulticast := desired.boolOr "is_multicast" true
  if subnetDiffers current name isMulticast then
    Network.modifySubnet id name isMulticast
  if let some table := newTable? current desired then
    let vpcId ← desired.required "vpc_id"
    ensureInVpc pageSize table vpcId
    Network.associateRouteTable id table

def deleteSubnet (id : String) : Api Unit := do
  match ← Network.findSubnet pageSize id with
  | none => return ()
  | some _ => Api.acceptGone .vpc (Network.deleteSubnet id)

/-- **Subnets.** -/
def subnet : Lifecycle where
  create := createSubnet pageSize
  read id := do return (← Network.findSubnet pageSize id).map Network.Subnet.attributes
  update := updateSubnet pageSize
  delete := deleteSubnet pageSize

/-! ## Route tables -/

def createRouteTable (r : Resource) : Api String := do
  let vpcId ← r.required "vpc_id"
  let name ← r.required "name"
  Network.createRouteTable vpcId name

def updateRouteTable (id : String) (desired : Resource) : Api Unit := do
  let name ← desired.required "name"
  Network.modifyRouteTable id name

def deleteRouteTable (id : String) : Api Unit := do
  match ← Network.findRouteTable pageSize id with
  | none => return ()
  | some _ => Api.acceptGone .vpc (Network.deleteRouteTable id)

/-- **Route tables.** -/
def routeTable : Lifecycle where
  create := createRouteTable
  read id := do return (← Network.findRouteTable pageSize id).map Network.RouteTable.attributes
  update id _ desired := updateRouteTable id desired
  delete := deleteRouteTable pageSize

/-! ## Route entries -/

/-- A route that leads straight out has no gateway to name. -/
def checkRouteEntry (r : Resource) : Except Error Unit :=
  if r.text? "next_type" = some Catalog.directGateway ∧ r.text? "next_hub" ≠ some "0" then
    .error (.invalid "next_hub must be \"0\" when next_type is EIP")
  else .ok ()

/-- A new route entry. If a network is given, the table has to belong to it. -/
def createRouteEntry (r : Resource) : Api String := do
  let table ← r.required "route_table_id"
  let spec : Network.RouteSpec :=
    { destination := ← r.required "destination_cidr_block"
      gatewayType := ← r.required "next_type"
      gatewayId := ← r.required "next_hub"
      description := (r.text? "description").getD "" }
  if let some vpcId := r.text? "vpc_id" then
    ensureInVpc pageSize table vpcId
  let entry ← Network.createRoute pageSize table spec
  return RouteEntryId.text ⟨entry, table⟩

def readRouteEntry (identifier : String) : Api (Option Attributes) := do
  let id ← RouteEntryId.ofText identifier
  match ← Network.findRouteTable pageSize id.routeTable with
  | none => return none
  | some table =>
    return (table.entry? id.entry).map (Network.Route.attributes id.routeTable table.vpcId)

def deleteRouteEntry (identifier : String) : Api Unit := do
  let id ← RouteEntryId.ofText identifier
  match ← readRouteEntry pageSize identifier with
  | none => return ()
  | some _ => Api.acceptGone .vpc (Network.deleteRoute id)

/-- **Route entries.** No attribute of an entry can change, so an update has nothing to do. -/
def routeEntry : Lifecycle where
  check := checkRouteEntry
  create := createRouteEntry pageSize
  read := readRouteEntry pageSize
  update _ _ _ := return ()
  delete := deleteRouteEntry pageSize

end CloudProvider.Lifecycle
