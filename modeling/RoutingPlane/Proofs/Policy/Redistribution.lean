import RoutingPlane.Policy.Origination
import RoutingPlane.Proofs.Policy.Visits
import RoutingPlane.Proofs.Sequence

/-!
The networks that a device injects into BGP. They are those that some condition redistributes,
at any depth, in the policy for all sessions or in a policy that is reached from it through
calls. Calls may lead back to a policy: each policy is walked over once, and no network is listed
twice.
-/

namespace RoutingPlane

/-! ## The policy for all sessions -/

theorem Text.occursAmong_iff {part text : List Char} :
    Text.occursAmong part text = true ↔ part <:+: text := by
  induction text with
  | nil => rw [occursAmong, List.isEmpty_iff, List.infix_nil]
  | cons letter rest inductionHypothesis =>
      rw [occursAmong, Bool.or_eq_true, List.isPrefixOf_iff_prefix, inductionHypothesis,
        List.infix_cons_iff]

theorem Text.occurs_iff {part text : String} :
    Text.occurs part text = true ↔ part.toList <:+: text.toList :=
  occursAmong_iff

/-- A policy is the first one of a device whose name holds a part. -/
def Device.IsFirstPolicyWith (device : Device) (part : String) (policy : RoutingPolicy) : Prop :=
  ∃ name, IsFirst (fun entry => part.toList <:+: entry.1.toList) device.policies.entries
    (name, policy)

theorem Device.policyWith?_eq_some_iff {device : Device} {part : String}
    {policy : RoutingPolicy} :
    device.policyWith? part = some policy ↔ device.IsFirstPolicyWith part policy := by
  simp only [policyWith?, Option.map_eq_some_iff, Prod.exists, exists_eq_right,
    IsFirstPolicyWith]
  refine exists_congr fun name => find?_eq_some_iff_isFirst fun entry _ => ?_
  exact Text.occurs_iff

/-! ## What a condition redistributes -/

/-- A condition demands that the destination lies in one of some ranges, one of which is of a
network, and next that the route was not learned from BGP. -/
def Condition.Redistributes (condition : Condition) (network : Network) : Prop :=
  ∃ ranges rest, condition = .all (.within (.ranges ranges) :: .not (.learnedFrom .bgp) :: rest) ∧
    ∃ range ∈ ranges, range.network = network

/-- The networks that are taken from a condition are those that it redistributes. -/
theorem Condition.mem_redistributed_iff {condition : Condition} {network : Network} :
    network ∈ condition.redistributed ↔ condition.Redistributes network := by
  rw [redistributed.eq_def, Redistributes]
  split
  case h_1 ranges rest =>
    rw [List.mem_map]
    constructor
    · intro isRange
      exact ⟨ranges, rest, rfl, isRange⟩
    · intro redistributes
      obtain ⟨_, _, same, isRange⟩ := redistributes
      cases same
      exact isRange
  case h_2 otherShape =>
    constructor
    · intro isListed
      cases isListed
    · intro redistributes
      obtain ⟨ranges, rest, isConjunction, _⟩ := redistributes
      exact absurd isConjunction (otherShape ranges rest)

/-- What a walk redistributes is what the conditions that it met redistribute. -/
theorem mem_redistributedBy_iff {nodes : List PolicyNode} {network : Network} :
    network ∈ redistributedBy nodes ↔
      ∃ condition, .condition condition ∈ nodes ∧ condition.Redistributes network := by
  rw [redistributedBy, List.mem_flatMap]
  constructor
  · intro fromNode
    obtain ⟨node, isNode, isListed⟩ := fromNode
    cases node with
    | statement statement => cases isListed
    | condition condition => exact ⟨condition, isNode, Condition.mem_redistributed_iff.1 isListed⟩
  · intro fromCondition
    obtain ⟨condition, isNode, redistributes⟩ := fromCondition
    exact ⟨_, isNode, Condition.mem_redistributed_iff.2 redistributes⟩

/-! ## What a policy redistributes -/

namespace Device

variable {device : Device} {visits : List (List Statement)} {source : StatementSource}
  {place : StatementSource × PolicyNode.Place} {first second : PolicyNode} {network : Network}

theorem WalksOver.unique {statements others : List Statement}
    (goesOver : device.WalksOver visits source statements)
    (goesOverOthers : device.WalksOver visits source others) : statements = others := by
  cases goesOver with
  | visit isVisit =>
      cases goesOverOthers with
      | visit isOther => exact Option.some.inj (isVisit.symm.trans isOther)
  | policy reached isPolicy =>
      cases goesOverOthers with
      | policy _ isOther => rw [Option.some.inj (isPolicy.symm.trans isOther)]

theorem StandsAt.unique (stands : device.StandsAt visits place first)
    (standsToo : device.StandsAt visits place second) : first = second := by
  obtain ⟨statements, goesOver, isThere⟩ := stands
  obtain ⟨others, goesOverOthers, isThereToo⟩ := standsToo
  rw [goesOver.unique goesOverOthers] at isThere
  exact Option.some.inj (isThere.symm.trans isThereToo)

/-- A walk meets what stands in its statements and in the policies that are reached. -/
theorem mem_nodes_walk_iff {statements : List Statement} {node : PolicyNode} :
    node ∈ (device.walk [] statements).nodes ↔
      ∃ place, device.StandsAt [statements] place node := by
  obtain ⟨newCalls, accounts⟩ :=
    Walk.exists_accounts device.policies [] (Statement.listNodes statements)
  rw [← List.flatMap_singleton Statement.listNodes statements] at accounts
  obtain ⟨places, enumerates⟩ := exists_enumerates_standsAt accounts
  rw [List.flatMap_singleton] at enumerates
  exact enumerates.mem_iff fun place item second => StandsAt.unique

/-- In the body of a policy, or of a policy that is reached from it through calls, a condition
redistributes a network. -/
def Redistributes (device : Device) (policy : RoutingPolicy) (network : Network) : Prop :=
  ∃ place condition, device.StandsAt [policy.statements] place (.condition condition) ∧
    condition.Redistributes network

theorem mem_redistributedBy_walk_iff {policy : RoutingPolicy} :
    network ∈ redistributedBy (device.walk [] policy.statements).nodes ↔
      device.Redistributes policy network := by
  simp only [mem_redistributedBy_iff, mem_nodes_walk_iff, Redistributes]
  constructor
  · intro isMet
    obtain ⟨condition, ⟨place, stands⟩, redistributes⟩ := isMet
    exact ⟨place, condition, stands, redistributes⟩
  · intro isThere
    obtain ⟨place, condition, stands, redistributes⟩ := isThere
    exact ⟨condition, ⟨place, stands⟩, redistributes⟩

/-- What a device injects into BGP can be told. It is what the first policy redistributes whose
name holds the given part, each network once; without such a policy it is nothing. -/
theorem originated_bgp_listsRedistributed (device : Device) {options : Options} {part : String}
    (isPart : options.commonPolicyName = .text part) :
    ∃ origination, device.originated .bgp options = .ok origination ∧
      origination.networks.Nodup ∧
      (∀ network, network ∈ origination.networks ↔
        ∃ policy, device.IsFirstPolicyWith part policy ∧ device.Redistributes policy network) ∧
      ((∀ name ∈ device.policies.keys, ¬part.toList <:+: name.toList) →
        origination.networks = []) := by
  have isCommon : device.commonBgpPolicy? options = .ok (device.policyWith? part) := by
    rw [commonBgpPolicy?, isPart]
  simp only [originated, isCommon, ← policyWith?_eq_some_iff]
  cases found : device.policyWith? part with
  | none =>
      refine ⟨{ networks := [] }, rfl, List.nodup_nil, ?_, fun _ => rfl⟩
      intro network
      constructor
      · intro isListed
        cases isListed
      · intro fromPolicy
        obtain ⟨policy, isFirst, _⟩ := fromPolicy
        cases isFirst
  | some policy =>
      refine ⟨_, rfl, nodup_eraseDups _, ?_, ?_⟩
      · intro network
        rw [List.mem_eraseDups, mem_redistributedBy_walk_iff]
        simp only [Option.some.injEq, exists_eq_left']
      · intro noName
        obtain ⟨name, holds, before, after, isSplit, _⟩ := policyWith?_eq_some_iff.1 found
        have isKey : name ∈ device.policies.keys := by
          rw [Table.keys, isSplit]
          simp
        exact absurd holds (noName name isKey)

def redistributing (network : Network) : Condition :=
  .all [.within (.ranges [.exact network]), .not (.learnedFrom .bgp)]

def redistributedNetwork : Network where
  base := .v4 0xAC100000
  length := 12
  length_le := by decide
  aligned := by decide

/-- The policy for all sessions, which calls another one in a negated condition. -/
def callingPolicy : RoutingPolicy where
  name := "BGP_COMMON_EXPORT_POLICY:default"
  statements := [.branch (.not (.call "called")) [.act .accept] []]

/-- A policy that calls the one by which it is called, and redistributes a network inside a
negated condition of a statement that is carried out if the call fails. -/
def calledPolicy : RoutingPolicy where
  name := "called"
  statements := [.branch (.any [.call callingPolicy.name]) []
    [.branch (.not (redistributing redistributedNetwork)) [] []]]

def mutualPolicies : Device where
  name := "r1"
  policies := Table.ofList
    ([calledPolicy, callingPolicy].map fun policy => (policy.name, policy))

theorem originated_bgp_listsRedistributed_mutualPolicies :
    ({} : Options).commonPolicyName = .text "BGP_COMMON_EXPORT_POLICY" ∧
      ∃ origination, mutualPolicies.originated .bgp {} = .ok origination ∧
        origination.networks.Nodup ∧ redistributedNetwork ∈ origination.networks ∧
        ∀ network, network ∈ origination.networks ↔
          ∃ policy, mutualPolicies.IsFirstPolicyWith "BGP_COMMON_EXPORT_POLICY" policy ∧
            mutualPolicies.Redistributes policy network := by
  have isPart : ({} : Options).commonPolicyName = .text "BGP_COMMON_EXPORT_POLICY" := rfl
  obtain ⟨origination, succeeds, distinct, lists, _⟩ :=
    originated_bgp_listsRedistributed mutualPolicies isPart
  have isFirst : mutualPolicies.IsFirstPolicyWith "BGP_COMMON_EXPORT_POLICY" callingPolicy :=
    policyWith?_eq_some_iff.1 rfl
  have reached : mutualPolicies.Reaches [callingPolicy.statements] "called" :=
    .given List.mem_cons_self ⟨(0, [0, 0]), .condition (.call "called"), rfl, rfl⟩
  have stands : mutualPolicies.StandsAt [callingPolicy.statements] (.policy "called", 0, [1, 0, 0])
      (.condition (redistributing redistributedNetwork)) :=
    ⟨calledPolicy.statements, .policy reached rfl, rfl⟩
  have redistributes : (redistributing redistributedNetwork).Redistributes redistributedNetwork :=
    ⟨[.exact redistributedNetwork], [], rfl, .exact redistributedNetwork, List.mem_cons_self, rfl⟩
  have isListed : redistributedNetwork ∈ origination.networks :=
    (lists redistributedNetwork).2 ⟨callingPolicy, isFirst, _, _, stands, redistributes⟩
  exact ⟨isPart, origination, succeeds, distinct, isListed, lists⟩

end Device

end RoutingPlane
