import RoutingPlane.Value.Conversion

/-!
Settings of the graph: vendor conventions that a snapshot may override. The
settings of a snapshot are taken as they are; a setting of an unsuitable kind
matters only where it is used.
-/

namespace RoutingPlane

structure Options where
  /-- The cost of interfaces of virtual networks that have none. -/
  vlanCost : Value := .int 1
  /-- How the names of interfaces of virtual networks begin, in any case. -/
  vlanNameStart : Value := .text "vlan"
  /-- The next hop of routes that discard traffic. -/
  discardInterface : Value := .text "null_interface"
  /-- A part of the name of the policy for all sessions. -/
  commonPolicyName : Value := .text "BGP_COMMON_EXPORT_POLICY"
  /-- How the names of interfaces made up for sessions begin. -/
  sessionNameStart : Value := .text "iBGP-"
  /-- The vendor of end hosts. -/
  hostVendor : Value := .text "host"
  deriving Repr

inductive OptionsFault where
  /-- There are no settings of some names, given as they are shown. -/
  | unknown (names : String)
  | value (fault : ValueFault)
  deriving Repr

namespace Options

def names : List String :=
  ["bgp_common_policy_name", "host_vendor", "ibgp_interface_prefix", "null_interface_name",
    "vlan_interface_prefix", "vlan_ospf_cost"]

/-- The settings that the entries of a mapping give; the others keep their
defaults. -/
def ofEntries (entries : List (Value × Value)) : Options :=
  let setting (name : String) (standard : Value) := (Value.fieldIn? name entries).getD standard
  { vlanCost := setting "vlan_ospf_cost" (.int 1)
    vlanNameStart := setting "vlan_interface_prefix" (.text "vlan")
    discardInterface := setting "null_interface_name" (.text "null_interface")
    commonPolicyName := setting "bgp_common_policy_name" (.text "BGP_COMMON_EXPORT_POLICY")
    sessionNameStart := setting "ibgp_interface_prefix" (.text "iBGP-")
    hostVendor := setting "host_vendor" (.text "host") }

def distinctValues (values : List Value) : List Value :=
  values.foldl (fun kept value =>
    if kept.any fun other => other.same value then kept else kept ++ [value]) []

def unknownNames (data : Value) : Except ValueFault (List Value) := do
  let elements ← data.elements
  if elements.all Value.isKey then
    Value.sorted ((distinctValues elements).filter fun element =>
      !names.any fun name => element.isText name)
  else .error (.wrongKind .key)

/-- Reads settings; nothing and all that is empty leaves the defaults. -/
def read (data : Value) : Except OptionsFault Options :=
  if !data.truthy then .ok {}
  else
    match unknownNames data with
    | .error fault => .error (.value fault)
    | .ok [] =>
        match data.opened with
        | .map entries => .ok (ofEntries entries)
        | _ => .error (.value (.wrongKind .lookup))
    | .ok unknown =>
        match (Value.list unknown).toText with
        | .ok names => .error (.unknown names)
        | .error fault => .error (.value fault)

def overridden? (data : Value) : Option (List Value) :=
  if data.truthy then
    match unknownNames data, data.elements with
    | .ok [], .ok elements => (Value.sorted elements).toOption
    | _, _ => none
  else none

end Options

end RoutingPlane
