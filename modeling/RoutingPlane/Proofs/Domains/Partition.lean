import RoutingPlane.Proofs.Domains.Connection
import RoutingPlane.Proofs.Table.Lookup

/-!
The partition into domains. Every device has exactly one number, the numbers are
those of the domains from zero on, and a device has the number of the earliest
device from which it is reached inside the boundaries of autonomous systems.
-/

namespace RoutingPlane

/-! ## Numbers of groups without common members -/

theorem keys_domainNumbers (domains : List (List String)) :
    (domains.zipIdx.flatMap fun numbered =>
      numbered.1.map fun device => (device, numbered.2)).map Prod.fst =
        domains.flatten := by
  rw [List.map_flatMap]
  simp only [List.map_map, Function.comp_def, List.map_id']
  rw [List.flatMap_def, ← List.zipIdx_map_fst 0 domains]
  simp

/-- A device has the number of the domain that it is in, if no device is in two domains. -/
theorem get?_domainNumbers {domains : List (List String)} (once : domains.flatten.Nodup)
    {device : String} {number : Nat} :
    (domainNumbers domains).get? device = some number ↔
      ∃ members, domains[number]? = some members ∧ device ∈ members := by
  have keysNodup := once
  rw [← keys_domainNumbers] at keysNodup
  rw [domainNumbers, Table.get?_ofList_eq_some_iff keysNodup, List.mem_flatMap]
  constructor
  · intro fromNumbered
    obtain ⟨⟨members, place⟩, isNumbered, isEntry⟩ := fromNumbered
    rw [List.mem_map] at isEntry
    obtain ⟨member, isMember, sameEntry⟩ := isEntry
    obtain ⟨rfl, rfl⟩ := Prod.mk.inj sameEntry
    exact ⟨members, List.mem_zipIdx_iff_getElem?.1 isNumbered, isMember⟩
  · intro inDomain
    obtain ⟨members, found, isMember⟩ := inDomain
    exact ⟨(members, number), List.mem_zipIdx_iff_getElem?.2 found,
      List.mem_map.2 ⟨device, isMember, rfl⟩⟩

theorem mem_iff_get?_domainNumbers {domains : List (List String)}
    (once : domains.flatten.Nodup) {number : Nat} {members : List String}
    (found : domains[number]? = some members) {device : String} :
    device ∈ members ↔ (domainNumbers domains).get? device = some number := by
  rw [get?_domainNumbers once]
  constructor
  · intro isMember
    exact ⟨members, found, isMember⟩
  · intro inDomain
    obtain ⟨others, alsoFound, isMember⟩ := inDomain
    exact Option.some.inj (alsoFound.symm.trans found) ▸ isMember

theorem exists_number_iff_mem_flatten {domains : List (List String)}
    (once : domains.flatten.Nodup) {device : String} :
    (∃ number, (domainNumbers domains).get? device = some number) ↔
      device ∈ domains.flatten := by
  rw [List.mem_flatten]
  constructor
  · intro hasNumber
    obtain ⟨number, isNumber⟩ := hasNumber
    obtain ⟨members, found, isMember⟩ := (get?_domainNumbers once).1 isNumber
    exact ⟨members, List.mem_of_getElem? found, isMember⟩
  · intro inDomain
    obtain ⟨members, isDomain, isMember⟩ := inDomain
    obtain ⟨number, found⟩ := List.getElem?_of_mem isDomain
    exact ⟨number, (get?_domainNumbers once).2 ⟨members, found, isMember⟩⟩

/-- The numbers of domains are dense, because no domain is empty. -/
theorem exists_device_iff_lt_length {domains : List (List String)}
    (once : domains.flatten.Nodup) (inhabited : ∀ members ∈ domains, members ≠ [])
    {number : Nat} :
    (∃ device, (domainNumbers domains).get? device = some number) ↔
      number < domains.length := by
  constructor
  · intro hasNumber
    obtain ⟨device, isNumber⟩ := hasNumber
    obtain ⟨members, found, _⟩ := (get?_domainNumbers once).1 isNumber
    exact (List.getElem?_eq_some_iff.1 found).1
  · intro inRange
    obtain ⟨device, isMember⟩ :=
      List.exists_mem_of_ne_nil _ (inhabited _ (List.getElem_mem inRange))
    exact ⟨device,
      (get?_domainNumbers once).2 ⟨_, List.getElem?_eq_getElem inRange, isMember⟩⟩

/-- The number of a device is the place of the domain that holds it. -/
theorem findIdx?_contains_eq_some_iff {domains : List (List String)}
    (once : domains.flatten.Nodup) {device : String} {number : Nat} :
    domains.findIdx? (fun domain => domain.contains device) = some number ↔
      (domainNumbers domains).get? device = some number := by
  have placeIsNumber : ∀ place,
      domains.findIdx? (fun domain => domain.contains device) = some place →
        (domainNumbers domains).get? device = some place := by
    intro place found
    obtain ⟨inRange, holds, _⟩ := List.findIdx?_eq_some_iff_getElem.1 found
    exact (get?_domainNumbers once).2
      ⟨_, List.getElem?_eq_getElem inRange, List.contains_iff_mem.1 holds⟩
  refine ⟨placeIsNumber number, fun isNumber => ?_⟩
  obtain ⟨members, found, isMember⟩ := (get?_domainNumbers once).1 isNumber
  have isFound : (domains.findIdx? fun domain => domain.contains device).isSome := by
    rw [List.findIdx?_isSome, List.any_eq_true]
    exact ⟨members, List.mem_of_getElem? found, List.contains_iff_mem.2 isMember⟩
  obtain ⟨place, isPlace⟩ := Option.isSome_iff_exists.1 isFound
  rw [isPlace, ← placeIsNumber place isPlace, isNumber]

/-! ## Steps inside a domain -/

section Partition

variable {α : Type} (devices : List String) (edges : Table String (List Edge))
  (reverse : EdgeMap Edge) (external : EdgeMap α)

/-- A listed edge leads from a device to a listed peer, and neither the edge nor
its registered opposite is a session between autonomous systems. -/
def InnerStep (here there : String) : Prop :=
  there ∈ devices ∧
    ∃ edge ∈ (edges.get? here).getD [],
      edge.peer = some there ∧
      external.contains edge.key = false ∧
      ∀ opposite, reverse.get? edge.key = some opposite →
        external.contains opposite.key = false

theorem crossesBoundary_eq_false_iff {key : EdgeKey} :
    crossesBoundary reverse external key = false ↔
      external.contains key = false ∧
        ∀ opposite, reverse.get? key = some opposite →
          external.contains opposite.key = false := by
  unfold crossesBoundary
  cases reverse.get? key with
  | none => simp
  | some opposite => simp

def domainLinks : DomainLinks where
  devices := devices
  onward := innerPeers edges reverse external

/-- Domains grow along the listed edges that no session between systems crosses. -/
theorem leadsTo_domainLinks :
    (domainLinks devices edges reverse external).LeadsTo =
      InnerStep devices edges reverse external := by
  funext here there
  apply propext
  simp only [DomainLinks.LeadsTo, domainLinks, innerPeers, List.mem_filterMap,
    List.mem_filter, Bool.not_eq_eq_eq_not, Bool.not_true, InnerStep,
    crossesBoundary_eq_false_iff]
  constructor
  · intro isLink
    obtain ⟨⟨edge, ⟨isListed, inside⟩, leads⟩, isDevice⟩ := isLink
    exact ⟨isDevice, edge, isListed, leads, inside⟩
  · intro isStep
    obtain ⟨isDevice, edge, isListed, leads, inside⟩ := isStep
    exact ⟨⟨edge, ⟨isListed, inside⟩, leads⟩, isDevice⟩

/-- Every domain has a source, and holds the devices of which it is the first. -/
theorem exists_source_of_getElem? {number : Nat} {members : List String}
    (found : (partitionDomains devices edges reverse external)[number]? = some members) :
    ∃ source, (domainLinks devices edges reverse external).sources[number]? = some source ∧
      ∀ device, device ∈ members ↔
        IsFirstSource (InnerStep devices edges reverse external) devices source device := by
  have pointwise := (domainLinks devices edges reverse external).domains_forall₂
  rw [leadsTo_domainLinks] at pointwise
  obtain ⟨inRange, rfl⟩ := List.getElem?_eq_some_iff.1 found
  have inSources :
      number < (domainLinks devices edges reverse external).sources.length := by
    rw [pointwise.length_eq]
    exact inRange
  exact ⟨_, List.getElem?_eq_getElem inSources, pointwise.get inSources inRange⟩

theorem mem_flatten_partitionDomains {device : String} :
    device ∈ (partitionDomains devices edges reverse external).flatten ↔
      device ∈ devices :=
  DomainLinks.mem_flatten_domains

theorem nodup_flatten_partitionDomains :
    (partitionDomains devices edges reverse external).flatten.Nodup := by
  rw [List.nodup_flatten]
  constructor
  · intro members isDomain
    exact DomainLinks.nodup_of_mem_domains isDomain
  · rw [List.pairwise_iff_getElem]
    intro earlier later earlierInRange laterInRange isEarlier device inEarlier inLater
    obtain ⟨source, isSource, inEarlierIff⟩ := exists_source_of_getElem? devices edges
      reverse external (List.getElem?_eq_getElem earlierInRange)
    obtain ⟨other, isOther, inLaterIff⟩ := exists_source_of_getElem? devices edges
      reverse external (List.getElem?_eq_getElem laterInRange)
    have sameSource : source = other :=
      ((inEarlierIff device).1 inEarlier).unique ((inLaterIff device).1 inLater)
    have before := (DomainLinks.idxOf_lt_idxOf_iff isSource isOther).2 isEarlier
    rw [sameSource] at before
    exact Nat.lt_irrefl _ before

/-- The number of a device is the place of its first source. -/
theorem get?_domainNumbers_partitionDomains {device : String} {number : Nat} :
    (domainNumbers (partitionDomains devices edges reverse external)).get? device =
        some number ↔
      ∃ source, (domainLinks devices edges reverse external).sources[number]? = some source ∧
        IsFirstSource (InnerStep devices edges reverse external) devices source device := by
  rw [get?_domainNumbers (nodup_flatten_partitionDomains devices edges reverse external)]
  constructor
  · intro inDomain
    obtain ⟨members, found, isMember⟩ := inDomain
    obtain ⟨source, isSource, inMembersIff⟩ :=
      exists_source_of_getElem? devices edges reverse external found
    exact ⟨source, isSource, (inMembersIff device).1 isMember⟩
  · intro hasSource
    obtain ⟨source, isSource, isFirst⟩ := hasSource
    have inRange :
        number < (partitionDomains devices edges reverse external).length := by
      have sameLength := (domainLinks devices edges reverse external).domains_forall₂.length_eq
      have sourceInRange := (List.getElem?_eq_some_iff.1 isSource).1
      exact sameLength ▸ sourceInRange
    obtain ⟨other, isOther, inMembersIff⟩ := exists_source_of_getElem? devices edges
      reverse external (List.getElem?_eq_getElem inRange)
    have sameSource : other = source :=
      Option.some.inj (isOther.symm.trans isSource)
    exact ⟨_, List.getElem?_eq_getElem inRange,
      (inMembersIff device).2 (sameSource ▸ isFirst)⟩

theorem exists_number_of_mem {device : String} (isListed : device ∈ devices) :
    ∃ number, (domainNumbers (partitionDomains devices edges reverse external)).get? device =
      some number := by
  rw [exists_number_iff_mem_flatten
    (nodup_flatten_partitionDomains devices edges reverse external)]
  exact (mem_flatten_partitionDomains devices edges reverse external).2 isListed

/-- A device alone is a domain. -/
theorem partitionDomains_singleton (device : String) :
    partitionDomains [device] edges reverse external = [[device]] := by
  have noNewcomers :
      (domainLinks [device] edges reverse external).newcomers [device] device = [] := by
    rw [List.eq_nil_iff_forall_not_mem]
    intro next isNew
    obtain ⟨_, isDevice, isUnassigned⟩ := DomainLinks.mem_newcomers.1 isNew
    exact isUnassigned isDevice
  have grown : (domainLinks [device] edges reverse external).grow [device] [device] =
      [device] := by
    rw [DomainLinks.grow, noNewcomers, List.append_nil, List.append_nil, DomainLinks.grow]
  have grownFrom : (domainLinks [device] edges reverse external).domainsFrom [] [device] =
      [[device]] := by
    simp only [DomainLinks.domainsFrom, List.not_mem_nil, if_false, List.nil_append, grown]
  exact grownFrom

theorem exists_firstSource_of_mem {device : String} (isListed : device ∈ devices) :
    ∃ source, IsFirstSource (InnerStep devices edges reverse external) devices source device ∧
      (domainNumbers (partitionDomains devices edges reverse external)).get? device =
        (domainNumbers (partitionDomains devices edges reverse external)).get? source := by
  obtain ⟨number, isNumber⟩ :=
    exists_number_of_mem devices edges reverse external isListed
  obtain ⟨source, isSource, isFirst⟩ :=
    (get?_domainNumbers_partitionDomains devices edges reverse external).1 isNumber
  have sourceNumber := (get?_domainNumbers_partitionDomains devices edges reverse external).2
    ⟨source, isSource, isFirst.self⟩
  exact ⟨source, isFirst, isNumber.trans sourceNumber.symm⟩

/-- Domains are numbered in the order in which their sources are listed. -/
theorem number_lt_number_iff {left right leftSource rightSource : String}
    {leftNumber rightNumber : Nat}
    (leftFirst : IsFirstSource (InnerStep devices edges reverse external) devices
      leftSource left)
    (rightFirst : IsFirstSource (InnerStep devices edges reverse external) devices
      rightSource right)
    (isLeftNumber : (domainNumbers (partitionDomains devices edges reverse external)).get? left =
      some leftNumber)
    (isRightNumber : (domainNumbers (partitionDomains devices edges reverse external)).get? right =
      some rightNumber) :
    leftNumber < rightNumber ↔ devices.idxOf leftSource < devices.idxOf rightSource := by
  obtain ⟨source, isSource, isFirst⟩ :=
    (get?_domainNumbers_partitionDomains devices edges reverse external).1 isLeftNumber
  obtain ⟨other, isOther, isOtherFirst⟩ :=
    (get?_domainNumbers_partitionDomains devices edges reverse external).1 isRightNumber
  rw [leftFirst.unique isFirst, rightFirst.unique isOtherFirst]
  exact (DomainLinks.idxOf_lt_idxOf_iff isSource isOther).symm

/-- Two devices have one number exactly if they are reached first from the same device, which is
reached first from itself. -/
theorem exists_number_iff_shareSource {left right : String} :
    (∃ number,
      (domainNumbers (partitionDomains devices edges reverse external)).get? left =
        some number ∧
      (domainNumbers (partitionDomains devices edges reverse external)).get? right =
        some number) ↔
      ShareSource (InnerStep devices edges reverse external) devices left right := by
  constructor
  · intro sameNumber
    obtain ⟨number, isLeftNumber, isRightNumber⟩ := sameNumber
    rw [get?_domainNumbers_partitionDomains] at isLeftNumber isRightNumber
    obtain ⟨source, isSource, isLeft⟩ := isLeftNumber
    obtain ⟨other, isOther, isRight⟩ := isRightNumber
    have sameSource : other = source := Option.some.inj (isOther.symm.trans isSource)
    exact ⟨source, isLeft, sameSource ▸ isRight⟩
  · intro share
    obtain ⟨source, isLeft, isRight⟩ := share
    obtain ⟨number, isNumber⟩ :=
      exists_number_of_mem devices edges reverse external isLeft.listed
    rw [get?_domainNumbers_partitionDomains] at isNumber
    obtain ⟨other, isOther, isFirst⟩ := isNumber
    have sameSource : other = source := isFirst.unique isLeft.self
    subst sameSource
    simp only [get?_domainNumbers_partitionDomains]
    exact ⟨number, ⟨other, isOther, isLeft⟩, ⟨other, isOther, isRight⟩⟩

end Partition

/-- What it means that numbers of devices and groups of devices are the partition
of a list of devices by the earliest device from which each one is reached. -/
structure IsPartitionBySource (step : String → String → Prop) (devices : List String)
    (numbers : Table String Nat) (domains : List (List String)) : Prop where
  /-- The numbers in use are those from zero to below the number of domains. -/
  inUse : ∀ number, (∃ device, numbers.get? device = some number) ↔ number < domains.length
  /-- Exactly the listed devices have a number. -/
  numbered : ∀ device, (∃ number, numbers.get? device = some number) ↔ device ∈ devices
  /-- A domain holds exactly the devices with its number. -/
  members : ∀ number domain, domains[number]? = some domain →
    ∀ device, device ∈ domain ↔ numbers.get? device = some number
  /-- No device stands twice, in one domain or in two. -/
  once : domains.flatten.Nodup
  /-- A device has the number of the earliest device that reaches it. -/
  ofSource : ∀ device ∈ devices, ∃ source, IsFirstSource step devices source device ∧
    numbers.get? device = numbers.get? source
  /-- Numbers follow the places of these earliest devices in the list. -/
  ordered : ∀ left right leftSource rightSource leftNumber rightNumber,
    IsFirstSource step devices leftSource left →
    IsFirstSource step devices rightSource right →
    numbers.get? left = some leftNumber →
    numbers.get? right = some rightNumber →
    (leftNumber < rightNumber ↔ devices.idxOf leftSource < devices.idxOf rightSource)

/-- The partition into domains: each domain is what the earliest of its devices
reaches without crossing a boundary and no earlier device reaches. -/
theorem partitionDomains_isPartitionBySource {α : Type} (devices : List String)
    (edges : Table String (List Edge)) (reverse : EdgeMap Edge) (external : EdgeMap α) :
    IsPartitionBySource (InnerStep devices edges reverse external) devices
      (domainNumbers (partitionDomains devices edges reverse external))
      (partitionDomains devices edges reverse external) := by
  have once := nodup_flatten_partitionDomains devices edges reverse external
  refine ⟨fun number => ?_, fun device => ?_, fun number domain found device => ?_, once,
    fun device isListed => ?_, fun left right leftSource rightSource leftNumber rightNumber
      leftFirst rightFirst isLeftNumber isRightNumber => ?_⟩
  · exact exists_device_iff_lt_length once fun members isDomain =>
      DomainLinks.ne_nil_of_mem_domains isDomain
  · rw [exists_number_iff_mem_flatten once, mem_flatten_partitionDomains]
  · exact mem_iff_get?_domainNumbers once found
  · exact exists_firstSource_of_mem devices edges reverse external isListed
  · exact number_lt_number_iff devices edges reverse external leftFirst rightFirst
      isLeftNumber isRightNumber

end RoutingPlane
