import Mathlib.Data.List.Perm.Basic
import RoutingPlane.Proofs.Domains.Growth

/-!
Which device each domain comes from. The domains of a list of devices grow from
sources, taken from the list in its order; the domain of a source holds the
devices for which the source is the earliest device that reaches them.
-/

namespace RoutingPlane

/-- `source` is the earliest device of a list from which a device is reached. -/
structure IsFirstSource (step : String → String → Prop) (devices : List String)
    (source device : String) : Prop where
  listed : source ∈ devices
  reaches : Relation.ReflTransGen step source device
  earliest : ∀ other ∈ devices, Relation.ReflTransGen step other device →
    devices.idxOf source ≤ devices.idxOf other

theorem IsFirstSource.unique {step : String → String → Prop} {devices : List String}
    {left right device : String} (isLeft : IsFirstSource step devices left device)
    (isRight : IsFirstSource step devices right device) : left = right := by
  have samePlace : devices.idxOf left = devices.idxOf right :=
    Nat.le_antisymm
      (isLeft.earliest right isRight.listed isRight.reaches)
      (isRight.earliest left isLeft.listed isLeft.reaches)
  exact (List.idxOf_inj isLeft.listed).1 samePlace

/-- A first source is reached by no earlier device itself. -/
theorem IsFirstSource.self {step : String → String → Prop} {devices : List String}
    {source device : String} (isFirst : IsFirstSource step devices source device) :
    IsFirstSource step devices source source where
  listed := isFirst.listed
  reaches := .refl
  earliest other isListed reached :=
    isFirst.earliest other isListed (reached.trans isFirst.reaches)

theorem idxOf_append_cons_self {before after : List String} {device : String}
    (isNew : device ∉ before) :
    (before ++ device :: after).idxOf device = before.length := by
  rw [List.idxOf_append_of_notMem isNew, List.idxOf_cons_self, Nat.add_zero]

theorem length_le_idxOf_append {before after : List String} {device : String}
    (isNew : device ∉ before) :
    before.length ≤ (before ++ after).idxOf device := by
  rw [List.idxOf_append_of_notMem isNew]
  exact Nat.le_add_right _ _

namespace DomainLinks

variable {links : DomainLinks} {assigned before rest : List String}

/-- The devices from which the domains of a list of devices grow when some are
assigned already. -/
def sourcesFrom (links : DomainLinks) (assigned : List String) :
    List String → List String
  | [] => []
  | device :: rest =>
      if device ∈ assigned then links.sourcesFrom assigned rest
      else device :: links.sourcesFrom (assigned ++ links.domainOf assigned device) rest

def sources (links : DomainLinks) : List String :=
  links.sourcesFrom [] links.devices

/-- The assigned devices are those that are reached from a list of devices. -/
def Covers (links : DomainLinks) (before assigned : List String) : Prop :=
  ∀ device, device ∈ assigned ↔ ∃ source ∈ before, links.Reaches source device

theorem covers_nil : links.Covers [] [] := by
  intro device
  simp

theorem Covers.closed (covers : links.Covers before assigned) :
    links.Closed assigned := by
  intro here member there step
  obtain ⟨source, isBefore, reached⟩ := (covers here).1 member
  exact (covers there).2 ⟨source, isBefore, reached.tail step⟩

theorem Covers.mem_of_mem (covers : links.Covers before assigned) {device : String}
    (isBefore : device ∈ before) : device ∈ assigned :=
  (covers device).2 ⟨device, isBefore, .refl⟩

theorem Covers.skip (covers : links.Covers before assigned) {device : String}
    (isAssigned : device ∈ assigned) : links.Covers (before ++ [device]) assigned := by
  intro member
  rw [covers member]
  constructor
  · intro isReached
    obtain ⟨source, isBefore, reached⟩ := isReached
    exact ⟨source, List.mem_append_left _ isBefore, reached⟩
  · intro isReached
    obtain ⟨source, isMember, reached⟩ := isReached
    rcases List.mem_append.1 isMember with isBefore | isDevice
    · exact ⟨source, isBefore, reached⟩
    · rw [List.mem_singleton] at isDevice
      exact (covers member).1
        (covers.closed.mem_of_reaches (isDevice ▸ isAssigned) reached)

/-- After a domain has grown, all that the devices passed so far reach is assigned. -/
theorem Covers.grow (covers : links.Covers before assigned) {device : String}
    (notAssigned : device ∉ assigned) :
    links.Covers (before ++ [device]) (assigned ++ links.domainOf assigned device) := by
  intro member
  rw [List.mem_append, mem_domainOf covers.closed notAssigned]
  constructor
  · intro isHeld
    rcases isHeld with old | ⟨reached, _⟩
    · obtain ⟨source, isBefore, reached⟩ := (covers member).1 old
      exact ⟨source, List.mem_append_left _ isBefore, reached⟩
    · exact ⟨device, List.mem_append_right _ List.mem_cons_self, reached⟩
  · intro isReached
    obtain ⟨source, isMember, reached⟩ := isReached
    by_cases old : member ∈ assigned
    · exact .inl old
    · rcases List.mem_append.1 isMember with isBefore | isDevice
      · exact absurd ((covers member).2 ⟨source, isBefore, reached⟩) old
      · rw [List.mem_singleton] at isDevice
        exact .inr ⟨isDevice ▸ reached, old⟩

/-- A domain holds the devices of which its source is the first. -/
theorem mem_domainOf_iff_isFirstSource {device member : String}
    (covers : links.Covers before assigned)
    (wholeList : links.devices = before ++ device :: rest)
    (notAssigned : device ∉ assigned) :
    member ∈ links.domainOf assigned device ↔
      IsFirstSource links.LeadsTo links.devices device member := by
  have notBefore : device ∉ before := fun isBefore =>
    notAssigned (covers.mem_of_mem isBefore)
  have place : links.devices.idxOf device = before.length := by
    rw [wholeList, idxOf_append_cons_self notBefore]
  rw [mem_domainOf covers.closed notAssigned]
  constructor
  · intro isReached
    obtain ⟨reached, memberNotAssigned⟩ := isReached
    refine ⟨by simp [wholeList], reached, fun other _ otherReaches => ?_⟩
    have otherNotBefore : other ∉ before := fun isBefore =>
      memberNotAssigned ((covers member).2 ⟨other, isBefore, otherReaches⟩)
    rw [place, wholeList]
    exact length_le_idxOf_append otherNotBefore
  · intro isFirst
    refine ⟨isFirst.reaches, fun old => ?_⟩
    obtain ⟨source, isBefore, reached⟩ := (covers member).1 old
    have sourceListed : source ∈ links.devices := by
      rw [wholeList]
      exact List.mem_append_left _ isBefore
    have sourcePlace : links.devices.idxOf source < before.length := by
      rw [wholeList, List.idxOf_append_of_mem isBefore]
      exact List.idxOf_lt_length_of_mem isBefore
    have notEarlier := isFirst.earliest source sourceListed reached
    omega

/-- The list of devices is gone through from some point on: each device is skipped
if it is assigned, else its domain joins the assigned devices. All the way, these are
what the devices before the point reach. -/
@[elab_as_elim]
theorem coverInduction (links : DomainLinks)
    {motive : List String → List String → List String → Prop}
    (done : ∀ before assigned, motive before assigned [])
    (skip : ∀ before assigned device rest, device ∈ assigned →
      motive (before ++ [device]) assigned rest → motive before assigned (device :: rest))
    (enter : ∀ before assigned device rest, links.Covers before assigned →
      links.devices = before ++ device :: rest → device ∉ assigned →
      links.Covers (before ++ [device]) (assigned ++ links.domainOf assigned device) →
      links.devices = (before ++ [device]) ++ rest →
      motive (before ++ [device]) (assigned ++ links.domainOf assigned device) rest →
        motive before assigned (device :: rest))
    (before assigned rest : List String) (covers : links.Covers before assigned)
    (wholeList : links.devices = before ++ rest) : motive before assigned rest := by
  induction rest generalizing assigned before with
  | nil =>
      exact done before assigned
  | cons device rest inductionHypothesis =>
      have wholeListNext : links.devices = (before ++ [device]) ++ rest := by
        simpa using wholeList
      by_cases isAssigned : device ∈ assigned
      · exact skip before assigned device rest isAssigned
          (inductionHypothesis _ _ (covers.skip isAssigned) wholeListNext)
      · have coversNext := covers.grow isAssigned
        exact enter before assigned device rest covers wholeList isAssigned coversNext
          wholeListNext (inductionHypothesis _ _ coversNext wholeListNext)

/-- Each domain holds the devices whose first source it grew from. -/
theorem forall₂_sourcesFrom (covers : links.Covers before assigned)
    (wholeList : links.devices = before ++ rest) :
    List.Forall₂
      (fun source domain => ∀ member, member ∈ domain ↔
        IsFirstSource links.LeadsTo links.devices source member)
      (links.sourcesFrom assigned rest) (links.domainsFrom assigned rest) := by
  refine coverInduction links ?done ?skip ?enter before assigned rest covers wholeList
  case done =>
      intro before assigned
      exact List.Forall₂.nil
  case skip =>
      intro before assigned device rest isAssigned inductionHypothesis
      simp only [sourcesFrom, domainsFrom, isAssigned, if_true]
      exact inductionHypothesis
  case enter =>
      intro before assigned device rest covers wholeList notAssigned _ _ inductionHypothesis
      simp only [sourcesFrom, domainsFrom, notAssigned, if_false]
      exact List.Forall₂.cons
        (fun member => mem_domainOf_iff_isFirstSource covers wholeList notAssigned)
        inductionHypothesis

/-- Every source comes later in the list than all that were passed before it. -/
theorem length_le_idxOf_of_mem_sourcesFrom {source : String}
    (covers : links.Covers before assigned)
    (wholeList : links.devices = before ++ rest)
    (isSource : source ∈ links.sourcesFrom assigned rest) :
    before.length ≤ links.devices.idxOf source := by
  revert isSource
  refine coverInduction links ?done ?skip ?enter before assigned rest covers wholeList
  case done =>
      intro before assigned isSource
      simp [sourcesFrom] at isSource
  case skip =>
      intro before assigned device rest isAssigned inductionHypothesis isSource
      simp only [sourcesFrom, isAssigned, if_true] at isSource
      have later := inductionHypothesis isSource
      rw [List.length_append] at later
      omega
  case enter =>
      intro before assigned device rest covers wholeList notAssigned _ _ inductionHypothesis
        isSource
      simp only [sourcesFrom, notAssigned, if_false, List.mem_cons] at isSource
      rcases isSource with atHead | inTail
      · have notBefore : device ∉ before := fun isBefore =>
          notAssigned (covers.mem_of_mem isBefore)
        rw [atHead, wholeList]
        exact length_le_idxOf_append notBefore
      · have later := inductionHypothesis inTail
        rw [List.length_append] at later
        omega

/-- Sources come in the order in which they are listed. -/
theorem pairwise_sourcesFrom (covers : links.Covers before assigned)
    (wholeList : links.devices = before ++ rest) :
    (links.sourcesFrom assigned rest).Pairwise fun earlier later =>
      links.devices.idxOf earlier < links.devices.idxOf later := by
  refine coverInduction links ?done ?skip ?enter before assigned rest covers wholeList
  case done =>
      intro before assigned
      exact List.Pairwise.nil
  case skip =>
      intro before assigned device rest isAssigned inductionHypothesis
      simp only [sourcesFrom, isAssigned, if_true]
      exact inductionHypothesis
  case enter =>
      intro before assigned device rest covers wholeList notAssigned coversNext wholeListNext
        inductionHypothesis
      simp only [sourcesFrom, notAssigned, if_false, List.pairwise_cons]
      refine ⟨fun later isLater => ?_, inductionHypothesis⟩
      have notBefore : device ∉ before := fun isBefore =>
        notAssigned (covers.mem_of_mem isBefore)
      have place : links.devices.idxOf device = before.length := by
        rw [wholeList, idxOf_append_cons_self notBefore]
      have laterPlace := length_le_idxOf_of_mem_sourcesFrom coversNext wholeListNext isLater
      rw [List.length_append, List.length_singleton] at laterPlace
      omega

/-- All that the remaining devices reach and that is not assigned yet is in a domain. -/
theorem mem_flatten_domainsFrom {member : String}
    (covers : links.Covers before assigned) :
    member ∈ (links.domainsFrom assigned rest).flatten ↔
      member ∉ assigned ∧ ∃ source ∈ rest, links.Reaches source member := by
  induction rest generalizing assigned before with
  | nil =>
      simp [domainsFrom]
  | cons device rest inductionHypothesis =>
      by_cases isAssigned : device ∈ assigned
      · simp only [domainsFrom, isAssigned, if_true]
        rw [inductionHypothesis (covers.skip isAssigned)]
        refine and_congr_right fun notAssigned => ?_
        have notFromDevice : ¬ links.Reaches device member := fun reached =>
          notAssigned (covers.closed.mem_of_reaches isAssigned reached)
        simp [notFromDevice]
      · simp only [domainsFrom, isAssigned, if_false, List.flatten_cons]
        rw [List.mem_append, inductionHypothesis (covers.grow isAssigned),
          List.mem_append, mem_domainOf covers.closed isAssigned]
        by_cases old : member ∈ assigned
        · simp [old]
        · by_cases fromDevice : links.Reaches device member
          · simp [old, fromDevice]
          · simp [old, fromDevice]

theorem exists_of_mem_domainsFrom {domain : List String}
    (isDomain : domain ∈ links.domainsFrom assigned rest) :
    ∃ earlier device, domain = links.domainOf earlier device := by
  induction rest generalizing assigned with
  | nil =>
      simp [domainsFrom] at isDomain
  | cons device rest inductionHypothesis =>
      by_cases isAssigned : device ∈ assigned
      · simp only [domainsFrom, isAssigned, if_true] at isDomain
        exact inductionHypothesis isDomain
      · simp only [domainsFrom, isAssigned, if_false, List.mem_cons] at isDomain
        rcases isDomain with atHead | inTail
        · exact ⟨assigned, device, atHead⟩
        · exact inductionHypothesis inTail

/-! ## All domains -/

theorem nodup_of_mem_domains {domain : List String} (isDomain : domain ∈ links.domains) :
    domain.Nodup := by
  obtain ⟨earlier, device, rfl⟩ := exists_of_mem_domainsFrom isDomain
  exact nodup_domainOf links earlier device

theorem ne_nil_of_mem_domains {domain : List String} (isDomain : domain ∈ links.domains) :
    domain ≠ [] := by
  obtain ⟨earlier, device, rfl⟩ := exists_of_mem_domainsFrom isDomain
  exact List.ne_nil_of_mem (waiting_subset_grow links _ _ List.mem_cons_self)

theorem domains_forall₂ (links : DomainLinks) :
    List.Forall₂
      (fun source domain => ∀ member, member ∈ domain ↔
        IsFirstSource links.LeadsTo links.devices source member)
      links.sources links.domains :=
  forall₂_sourcesFrom covers_nil rfl

theorem sources_pairwise (links : DomainLinks) :
    links.sources.Pairwise fun earlier later =>
      links.devices.idxOf earlier < links.devices.idxOf later :=
  pairwise_sourcesFrom covers_nil rfl

/-- The place of a source among the sources tells its place in the list. -/
theorem idxOf_lt_idxOf_iff {earlier later : Nat} {left right : String}
    (isLeft : links.sources[earlier]? = some left)
    (isRight : links.sources[later]? = some right) :
    links.devices.idxOf left < links.devices.idxOf right ↔ earlier < later := by
  obtain ⟨leftInRange, rfl⟩ := List.getElem?_eq_some_iff.1 isLeft
  obtain ⟨rightInRange, rfl⟩ := List.getElem?_eq_some_iff.1 isRight
  have ordered := List.pairwise_iff_getElem.1 links.sources_pairwise
  constructor
  · intro before
    rcases Nat.lt_trichotomy earlier later with less | same | greater
    · exact less
    · subst same
      exact absurd before (Nat.lt_irrefl _)
    · have after := ordered later earlier rightInRange leftInRange greater
      omega
  · exact ordered earlier later leftInRange rightInRange

theorem mem_devices_of_reaches {here there : String} (isListed : here ∈ links.devices)
    (reached : links.Reaches here there) : there ∈ links.devices := by
  induction reached with
  | refl =>
      exact isListed
  | tail _ lastStep _ =>
      exact lastStep.2

theorem mem_flatten_domains {member : String} :
    member ∈ links.domains.flatten ↔ member ∈ links.devices := by
  rw [domains, mem_flatten_domainsFrom covers_nil]
  constructor
  · intro isReached
    obtain ⟨_, source, isListed, reached⟩ := isReached
    exact mem_devices_of_reaches isListed reached
  · intro isListed
    exact ⟨List.not_mem_nil, member, isListed, .refl⟩

end DomainLinks

end RoutingPlane
