import RoutingPlane.Proofs.Policy.Places

/-!
Walks over policies, one after the other. Together they meet every node of the lists
they are given, and every node of each defined policy that can be reached from these
lists through calls, each exactly once; and every reachable name without a policy is
noted once. A call that is passed over is of a policy whose nodes are met elsewhere,
on the same walk or on an earlier one.
-/

namespace RoutingPlane

def bodyNodes (policies : Table String RoutingPolicy) (name : String) : List PolicyNode :=
  match policies.get? name with
  | some policy => Statement.listNodes policy.statements
  | none => []

/-- Some nodes call a policy. -/
def CalledFrom (nodes : List PolicyNode) (name : String) : Prop :=
  ∃ node ∈ nodes, node.called? = some name

def Walk.undefined (walk : Walk) : List String :=
  walk.events.filterMap fun event =>
    match event with
    | .met _ => none
    | .undefined policy => some policy

theorem Walk.notes_eq (walk : Walk) (device : Device) :
    walk.notes device = walk.undefined.map (Note.undefinedPolicy device.name) := by
  rw [notes, undefined, List.map_filterMap]
  apply List.filterMap_congr
  intro event _
  cases event <;> rfl

namespace Walk

variable {policies : Table String RoutingPolicy} {called newCalls : List String}
  {pending rest : List PolicyNode} {node : PolicyNode} {walk : Walk} {name : String}

/-- What a walk over pending nodes has done when the policies in a list were called on
it for the first time. -/
structure Accounts (policies : Table String RoutingPolicy) (called : List String)
    (pending : List PolicyNode) (newCalls : List String) (walk : Walk) : Prop where
  calls : walk.called = newCalls ++ called
  distinct : newCalls.Nodup
  new : ∀ name ∈ newCalls, name ∉ called
  met : walk.nodes.Perm (pending ++ newCalls.flatMap (bodyNodes policies))
  unknown : walk.undefined.Perm (newCalls.filter fun name => (policies.get? name).isNone)
  closed : ∀ name, CalledFrom walk.nodes name → name ∈ walk.called
  /-- Whatever holds of the calls of the pending nodes and is handed on by calls holds of
  the policies that were called. -/
  least : ∀ holds : String → Prop, (∀ name, CalledFrom pending name → holds name) →
    (∀ caller name, holds caller → CalledFrom (bodyNodes policies caller) name → holds name) →
      ∀ name ∈ newCalls, holds name

/-- What happens where a policy is called for the first time. -/
def callEvents (policies : Table String RoutingPolicy) (node : PolicyNode) (name : String) :
    List WalkEvent :=
  match policies.get? name with
  | some _ => [.met node]
  | none => [.met node, .undefined name]

theorem calledFrom_cons_iff {nodes : List PolicyNode} :
    CalledFrom (node :: nodes) name ↔ node.called? = some name ∨ CalledFrom nodes name := by
  simp only [CalledFrom, List.mem_cons, exists_eq_or_imp]

theorem calledFrom_append_iff {left right : List PolicyNode} :
    CalledFrom (left ++ right) name ↔ CalledFrom left name ∨ CalledFrom right name := by
  simp only [CalledFrom, List.mem_append, or_and_right, exists_or]

theorem nodes_after_events (first second : Walk) :
    (after first.events second).nodes = first.nodes ++ second.nodes := by
  simp only [nodes, after, List.filterMap_append]

theorem undefined_after_events (first second : Walk) :
    (after first.events second).undefined = first.undefined ++ second.undefined := by
  simp only [Walk.undefined, after, List.filterMap_append]

theorem nodes_after_callEvents (policies : Table String RoutingPolicy) (node : PolicyNode)
    (name : String) (walk : Walk) :
    (after (callEvents policies node name) walk).nodes = node :: walk.nodes := by
  cases found : policies.get? name <;> simp [callEvents, found, nodes, after]

theorem undefined_after_callEvents (policies : Table String RoutingPolicy) (node : PolicyNode)
    (name : String) (walk : Walk) :
    (after (callEvents policies node name) walk).undefined =
      ([name].filter fun name => (policies.get? name).isNone) ++ walk.undefined := by
  cases found : policies.get? name <;> simp [callEvents, found, Walk.undefined, after]

/-! ## One step of a walk -/

theorem Accounts.nil (policies : Table String RoutingPolicy) (called : List String) :
    Accounts policies called [] [] ⟨[], called⟩ where
  calls := rfl
  distinct := List.nodup_nil
  new := by simp
  met := .nil
  unknown := .nil
  closed := by
    rintro name ⟨node, isNode, _⟩
    cases isNode
  least := by simp

/-- A node that calls nothing new is met and passed. -/
theorem Accounts.pass (accounts : Accounts policies called rest newCalls walk)
    (nothingNew : ∀ name, node.called? = some name → name ∈ called) :
    Accounts policies called (node :: rest) newCalls (after [.met node] walk) where
  calls := accounts.calls
  distinct := accounts.distinct
  new := accounts.new
  met := accounts.met.cons node
  unknown := accounts.unknown
  closed := by
    intro name isCalled
    rcases calledFrom_cons_iff.1 isCalled with byNode | later
    · have earlier : name ∈ newCalls ++ called :=
        List.mem_append_right _ (nothingNew name byNode)
      rw [← accounts.calls] at earlier
      exact earlier
    · exact accounts.closed name later
  least := by
    intro holds ofPending handedOn
    refine accounts.least holds (fun name isCalled => ?_) handedOn
    exact ofPending name (calledFrom_cons_iff.2 (.inr isCalled))

/-- A policy that is called for the first time is entered right after the call. The walk goes
through its body before the rest, and the account lists the body after the rest. -/
theorem Accounts.call
    (accounts : Accounts policies (name :: called) (bodyNodes policies name ++ rest) newCalls walk)
    (isCall : node.called? = some name) (isNew : name ∉ called) :
    Accounts policies called (node :: rest) (newCalls ++ [name])
      (after (callEvents policies node name) walk) where
  calls := by
    rw [List.append_assoc, List.singleton_append]
    exact accounts.calls
  distinct := by
    have notAgain : name ∉ newCalls := fun again =>
      accounts.new name again List.mem_cons_self
    rw [List.nodup_append]
    refine ⟨accounts.distinct, List.nodup_singleton name, ?_⟩
    rintro other isOther _ isName rfl
    exact notAgain (List.mem_singleton.1 isName ▸ isOther)
  new := by
    intro other isOther
    rcases List.mem_append.1 isOther with later | isName
    · exact fun earlier => accounts.new other later (List.mem_cons_of_mem _ earlier)
    · exact List.mem_singleton.1 isName ▸ isNew
  met := by
    rw [nodes_after_callEvents, List.flatMap_append, List.flatMap_singleton, List.cons_append]
    refine List.Perm.cons node (accounts.met.trans ?_)
    rw [List.append_assoc, ← List.append_assoc rest]
    exact List.perm_append_comm
  unknown := by
    rw [undefined_after_callEvents, List.filter_append]
    exact (accounts.unknown.append_left _).trans List.perm_append_comm
  closed := by
    intro other isCalled
    rw [nodes_after_callEvents, calledFrom_cons_iff] at isCalled
    rcases isCalled with byNode | later
    · have isSame : name = other := Option.some.inj (isCall.symm.trans byNode)
      have isCalledNow : other ∈ newCalls ++ name :: called := by simp [isSame]
      rw [← accounts.calls] at isCalledNow
      exact isCalledNow
    · exact accounts.closed other later
  least := by
    intro holds ofPending handedOn other isOther
    have ofName : holds name := ofPending name (calledFrom_cons_iff.2 (.inl isCall))
    rcases List.mem_append.1 isOther with later | isName
    · refine accounts.least holds (fun inner isCalled => ?_) handedOn other later
      rcases calledFrom_append_iff.1 isCalled with inBody | inRest
      · exact handedOn name inner ofName inBody
      · exact ofPending inner (calledFrom_cons_iff.2 (.inr inRest))
    · exact List.mem_singleton.1 isName ▸ ofName

/-! ## Whole walks -/

/-- Every walk has an account: whether nothing is pending, or the next node makes no call, one that
was made before, one of no policy or one of a defined policy. -/
theorem exists_accounts (policies : Table String RoutingPolicy) (called : List String)
    (pending : List PolicyNode) :
    ∃ newCalls, Accounts policies called pending newCalls (through policies called pending) := by
  fun_induction through policies called pending with
  | case1 called => exact ⟨[], .nil policies called⟩
  | case2 called node rest quiet inductionHypothesis =>
      obtain ⟨newCalls, accounts⟩ := inductionHypothesis
      refine ⟨newCalls, accounts.pass fun name isCall => ?_⟩
      rw [quiet] at isCall
      cases isCall
  | case3 called node rest name isCall isCalled inductionHypothesis =>
      obtain ⟨newCalls, accounts⟩ := inductionHypothesis
      refine ⟨newCalls, accounts.pass fun other isOther => ?_⟩
      exact Option.some.inj (isCall.symm.trans isOther) ▸ isCalled
  | case4 called node rest name isCall isNew notDefined inductionHypothesis =>
      obtain ⟨newCalls, accounts⟩ := inductionHypothesis
      have noBody : bodyNodes policies name = [] := by rw [bodyNodes, notDefined]
      have events : callEvents policies node name = [.met node, .undefined name] := by
        rw [callEvents, notDefined]
      rw [← events]
      exact ⟨_, Accounts.call (by rw [noBody]; exact accounts) isCall isNew⟩
  | case5 called node rest name isCall isNew policy isPolicy inductionHypothesis =>
      obtain ⟨newCalls, accounts⟩ := inductionHypothesis
      have body : bodyNodes policies name = Statement.listNodes policy.statements := by
        rw [bodyNodes, isPolicy]
      have events : callEvents policies node name = [.met node] := by
        rw [callEvents, isPolicy]
      rw [← events]
      exact ⟨_, Accounts.call (by rw [body]; exact accounts) isCall isNew⟩

/-- Two walks in a row, the second one with what was called on the first. -/
theorem Accounts.followedBy {later : List PolicyNode} {laterCalls : List String} {second : Walk}
    (accounts : Accounts policies called pending newCalls walk)
    (next : Accounts policies walk.called later laterCalls second) :
    Accounts policies called (pending ++ later) (laterCalls ++ newCalls)
      (after walk.events second) where
  calls := by
    rw [List.append_assoc, ← accounts.calls]
    exact next.calls
  distinct := by
    rw [List.nodup_append]
    refine ⟨next.distinct, accounts.distinct, ?_⟩
    rintro name isLater _ isEarlier rfl
    exact next.new name isLater (accounts.calls ▸ List.mem_append_left _ isEarlier)
  new := by
    intro name isNew
    rcases List.mem_append.1 isNew with isLater | isEarlier
    · intro before
      exact next.new name isLater (accounts.calls ▸ List.mem_append_right _ before)
    · exact accounts.new name isEarlier
  met := by
    rw [nodes_after_events, List.flatMap_append]
    have together := accounts.met.append next.met
    have regrouped : ((pending ++ newCalls.flatMap (bodyNodes policies)) ++
        (later ++ laterCalls.flatMap (bodyNodes policies))).Perm
          ((pending ++ later) ++ (laterCalls.flatMap (bodyNodes policies) ++
            newCalls.flatMap (bodyNodes policies))) := by
      rw [List.append_assoc, List.append_assoc, ← List.append_assoc later]
      exact List.perm_append_comm.append_left pending
    exact together.trans regrouped
  unknown := by
    rw [undefined_after_events, List.filter_append]
    exact (accounts.unknown.append next.unknown).trans List.perm_append_comm
  closed := by
    intro name isCalled
    rw [nodes_after_events, calledFrom_append_iff] at isCalled
    rcases isCalled with earlier | isLater
    · have isKept : name ∈ laterCalls ++ walk.called :=
        List.mem_append_right _ (accounts.closed name earlier)
      rw [← next.calls] at isKept
      exact isKept
    · exact next.closed name isLater
  least := by
    intro holds ofPending handedOn name isNew
    rcases List.mem_append.1 isNew with isLater | isEarlier
    · refine next.least holds (fun inner isCalled => ?_) handedOn name isLater
      exact ofPending inner (calledFrom_append_iff.2 (.inr isCalled))
    · refine accounts.least holds (fun inner isCalled => ?_) handedOn name isEarlier
      exact ofPending inner (calledFrom_append_iff.2 (.inl isCalled))

theorem length_walks (device : Device) (called : List String) (visits : List (List Statement)) :
    (device.walks called visits).length = visits.length := by
  induction visits generalizing called with
  | nil => rfl
  | cons statements rest inductionHypothesis =>
      rw [Device.walks, List.length_cons, List.length_cons, inductionHypothesis]

/-- Walks one after the other account for all that they were given, as one walk does. -/
theorem exists_accounts_walks (device : Device) (called : List String)
    (visits : List (List Statement)) :
    ∃ newCalls total, Accounts device.policies called (visits.flatMap Statement.listNodes)
      newCalls total ∧ total.events = (device.walks called visits).flatMap Walk.events := by
  induction visits generalizing called with
  | nil => exact ⟨[], ⟨[], called⟩, .nil device.policies called, rfl⟩
  | cons statements rest inductionHypothesis =>
      obtain ⟨firstCalls, first⟩ :=
        exists_accounts device.policies called (Statement.listNodes statements)
      obtain ⟨laterCalls, later, following, sameEvents⟩ :=
        inductionHypothesis (device.walk called statements).called
      refine ⟨_, _, first.followedBy following, ?_⟩
      rw [Device.walks, List.flatMap_cons, ← sameEvents]
      rfl

end Walk

/-! ## What walks can reach -/

/-- A call of a policy stands at a place in some statements. -/
def Calls (statements : List Statement) (name : String) : Prop :=
  ∃ place node, PolicyNode.at? statements place = some node ∧ node.called? = some name

/-- A name is called in given lists of statements, or in the body of a defined policy
that is reached from them. -/
inductive Device.Reaches (device : Device) (visits : List (List Statement)) : String → Prop
  | given {statements : List Statement} {name : String} (isGiven : statements ∈ visits)
      (isCalled : Calls statements name) : device.Reaches visits name
  | onward {caller name : String} {policy : RoutingPolicy} (reached : device.Reaches visits caller)
      (isPolicy : device.policies.get? caller = some policy)
      (isCalled : Calls policy.statements name) : device.Reaches visits name

/-- Where a list of statements that is walked over comes from. -/
inductive StatementSource where
  /-- It was given, as the one of this number. -/
  | visit (number : Nat)
  /-- It is the body of a policy. -/
  | policy (name : String)
  deriving DecidableEq, Repr

/-- The lists of statements that walks go over: the given ones, and the bodies of the
defined policies that are reached. -/
inductive Device.WalksOver (device : Device) (visits : List (List Statement)) :
    StatementSource → List Statement → Prop
  | visit {number : Nat} {statements : List Statement} (isVisit : visits[number]? = some statements) :
      device.WalksOver visits (.visit number) statements
  | policy {name : String} {policy : RoutingPolicy} (reached : device.Reaches visits name)
      (isPolicy : device.policies.get? name = some policy) :
      device.WalksOver visits (.policy name) policy.statements

/-- A node stands at a place in a list of statements that walks go over. -/
def Device.StandsAt (device : Device) (visits : List (List Statement))
    (place : StatementSource × PolicyNode.Place) (node : PolicyNode) : Prop :=
  ∃ statements, device.WalksOver visits place.1 statements ∧
    PolicyNode.at? statements place.2 = some node

theorem calls_iff {statements : List Statement} {name : String} :
    Calls statements name ↔ CalledFrom (Statement.listNodes statements) name := by
  simp only [Calls, CalledFrom, PolicyNode.mem_listNodes_iff]
  constructor
  · rintro ⟨place, node, stands, isCall⟩
    exact ⟨node, ⟨place, stands⟩, isCall⟩
  · rintro ⟨node, ⟨place, stands⟩, isCall⟩
    exact ⟨place, node, stands, isCall⟩

theorem calledFrom_bodyNodes_iff {policies : Table String RoutingPolicy} {caller name : String} :
    CalledFrom (bodyNodes policies caller) name ↔
      ∃ policy, policies.get? caller = some policy ∧ Calls policy.statements name := by
  rw [bodyNodes]
  cases policies.get? caller with
  | none => simp [CalledFrom]
  | some policy => simp [calls_iff]

theorem calledFrom_given_iff {visits : List (List Statement)} {name : String} :
    CalledFrom (visits.flatMap Statement.listNodes) name ↔
      ∃ statements ∈ visits, Calls statements name := by
  simp only [CalledFrom, List.mem_flatMap, calls_iff]
  constructor
  · rintro ⟨node, ⟨statements, isGiven, isNode⟩, isCall⟩
    exact ⟨statements, isGiven, node, isNode, isCall⟩
  · rintro ⟨statements, isGiven, node, isNode, isCall⟩
    exact ⟨node, ⟨statements, isGiven, isNode⟩, isCall⟩

namespace Device

variable {device : Device} {visits : List (List Statement)} {newCalls : List String}
  {total : Walk} {name : String}

/-- On walks before which nothing was called, the policies called are all that can be reached: each
node that was met has its call among them, and whoever calls a name that is reached was met, in a
list that was given or in the body of a policy that was called. -/
theorem mem_newCalls_iff_reaches
    (accounts : Walk.Accounts device.policies [] (visits.flatMap Statement.listNodes) newCalls total) :
    name ∈ newCalls ↔ device.Reaches visits name := by
  have closed : ∀ name, CalledFrom total.nodes name → name ∈ newCalls := by
    intro name isCalled
    have isKept := accounts.closed name isCalled
    rw [accounts.calls, List.append_nil] at isKept
    exact isKept
  constructor
  · refine accounts.least (device.Reaches visits) (fun name isCalled => ?_)
      (fun caller name reached isCalled => ?_) name
    · obtain ⟨statements, isGiven, isCalled⟩ := calledFrom_given_iff.1 isCalled
      exact .given isGiven isCalled
    · obtain ⟨policy, isPolicy, isCalled⟩ := calledFrom_bodyNodes_iff.1 isCalled
      exact .onward reached isPolicy isCalled
  · intro reached
    induction reached with
    | given isGiven isCalled =>
        obtain ⟨node, isNode, isCall⟩ := calledFrom_given_iff.2 ⟨_, isGiven, isCalled⟩
        exact closed _ ⟨node, accounts.met.mem_iff.2 (List.mem_append_left _ isNode), isCall⟩
    | @onward caller _ _ _ isPolicy isCalled inductionHypothesis =>
        obtain ⟨node, isNode, isCall⟩ := calledFrom_bodyNodes_iff.2 ⟨_, isPolicy, isCalled⟩
        have inBodies : node ∈ newCalls.flatMap (bodyNodes device.policies) :=
          List.mem_flatMap.2 ⟨caller, inductionHypothesis, isNode⟩
        exact closed _ ⟨node, accounts.met.mem_iff.2 (List.mem_append_right _ inBodies), isCall⟩

/-- The lists of statements that walks go over if some policies are called on them. -/
def sources (device : Device) (visits : List (List Statement)) (newCalls : List String) :
    List (StatementSource × List Statement) :=
  (visits.zipIdx.map fun entry => (.visit entry.2, entry.1)) ++
    newCalls.filterMap fun name => (device.policies.get? name).map fun policy =>
      (.policy name, policy.statements)

/-- The lists that a walk went over are those that were given and the bodies of the policies that it
reached. -/
theorem mem_sources_iff (called : ∀ name, name ∈ newCalls ↔ device.Reaches visits name)
    {source : StatementSource} {statements : List Statement} :
    (source, statements) ∈ device.sources visits newCalls ↔
      device.WalksOver visits source statements := by
  simp only [sources, List.mem_append, List.mem_map, List.mem_filterMap, Option.map_eq_some_iff,
    Prod.mk.injEq, Prod.exists, List.mem_zipIdx_iff_getElem?]
  constructor
  · rintro (⟨_, number, isVisit, rfl, rfl⟩ | ⟨name, isCalled, policy, isPolicy, rfl, rfl⟩)
    · exact .visit isVisit
    · exact .policy ((called name).1 isCalled) isPolicy
  · rintro (isVisit | ⟨reached, isPolicy⟩)
    · exact .inl ⟨_, _, isVisit, rfl, rfl⟩
    · exact .inr ⟨_, (called _).2 reached, _, isPolicy, rfl, rfl⟩

/-- No list is gone over twice. -/
theorem nodup_sources (device : Device) (visits : List (List Statement))
    (distinct : newCalls.Nodup) : ((device.sources visits newCalls).map Prod.fst).Nodup := by
  have numbers : (visits.zipIdx.map fun entry => StatementSource.visit entry.2).Nodup := by
    have numbered : (visits.zipIdx.map Prod.snd).Nodup := by
      rw [List.zipIdx_map_snd]
      exact List.nodup_range'
    have sources := numbered.map fun _ _ same => StatementSource.visit.inj same
    rw [List.map_map] at sources
    exact sources
  have names : (newCalls.filterMap fun name => (device.policies.get? name).map fun _ =>
      StatementSource.policy name).Nodup := by
    refine distinct.filterMap fun name other source isSource isOther => ?_
    obtain ⟨_, _, rfl⟩ := Option.map_eq_some_iff.1 isSource
    obtain ⟨_, _, same⟩ := Option.map_eq_some_iff.1 isOther
    exact (StatementSource.policy.inj same).symm
  simp only [sources, List.map_append, List.map_map, List.map_filterMap, Option.map_map]
  refine List.nodup_append.2 ⟨numbers, names, ?_⟩
  rintro source isVisit _ isPolicy rfl
  obtain ⟨_, _, rfl⟩ := List.mem_map.1 isVisit
  obtain ⟨_, _, same⟩ := List.mem_filterMap.1 isPolicy
  obtain ⟨_, _, different⟩ := Option.map_eq_some_iff.1 same
  cases different

/-- The nodes of all lists that a walk goes over are those that it has to account for. -/
theorem flatMap_sources (device : Device) (visits : List (List Statement))
    (newCalls : List String) :
    ((device.sources visits newCalls).flatMap fun source => Statement.listNodes source.2) =
      visits.flatMap Statement.listNodes ++ newCalls.flatMap (bodyNodes device.policies) := by
  have given : ((visits.zipIdx.map fun entry => (StatementSource.visit entry.2, entry.1)).flatMap
      fun source => Statement.listNodes source.2) = visits.flatMap Statement.listNodes := by
    rw [List.flatMap_map, ← List.flatMap_map Prod.fst Statement.listNodes, List.zipIdx_map_fst]
  rw [sources, List.flatMap_append, given]
  congr 1
  induction newCalls with
  | nil => rfl
  | cons name rest inductionHypothesis =>
      rw [List.flatMap_cons, ← inductionHypothesis, bodyNodes]
      cases isPolicy : device.policies.get? name with
      | none => simp [isPolicy]
      | some policy => simp [isPolicy]

/-- What walks meet are the nodes at all places of the lists they go over. -/
theorem exists_enumerates_standsAt
    (accounts : Walk.Accounts device.policies [] (visits.flatMap Statement.listNodes) newCalls total) :
    ∃ places, Enumerates (device.StandsAt visits) places total.nodes := by
  choose placesOf enumerates using PolicyNode.exists_enumerates_at
  have grouped := Enumerates.groups (device.sources visits newCalls) Prod.fst
    (fun source place node => PolicyNode.at? source.2 place = some node)
    (fun source => placesOf source.2) (fun source => Statement.listNodes source.2)
    (nodup_sources device visits accounts.distinct) fun source _ => enumerates source.2
  rw [flatMap_sources] at grouped
  have called : ∀ name, name ∈ newCalls ↔ device.Reaches visits name :=
    fun name => mem_newCalls_iff_reaches accounts
  refine (grouped.congr fun place node => ?_).exists_of_perm accounts.met.symm
  constructor
  · rintro ⟨⟨_, statements⟩, isSource, rfl, stands⟩
    exact ⟨statements, (mem_sources_iff called).1 isSource, stands⟩
  · rintro ⟨statements, goesOver, stands⟩
    exact ⟨(place.1, statements), (mem_sources_iff called).2 goesOver, rfl, stands⟩

end Device

/-- One walk after the other ends. Together the walks meet every node at a place of the
given lists and of the defined policies that are reached from them through calls, each
place once, and nothing else; and every name that is reached and not defined is noted
once. -/
theorem Device.walks_meet_each_place_once (device : Device) (visits : List (List Statement)) :
    (device.walks [] visits).length = visits.length ∧
      (∃ places, Enumerates (device.StandsAt visits) places
        ((device.walks [] visits).flatMap Walk.nodes)) ∧
      ∃ names : List String, names.Nodup ∧
        (∀ name, name ∈ names ↔ device.Reaches visits name ∧ device.policies.get? name = none) ∧
        (device.walks [] visits).flatMap (fun walk => walk.notes device) =
          names.map fun name => .undefinedPolicy device.name name := by
  obtain ⟨newCalls, total, accounts, sameEvents⟩ := Walk.exists_accounts_walks device [] visits
  have called : ∀ name, name ∈ newCalls ↔ device.Reaches visits name :=
    fun name => mem_newCalls_iff_reaches accounts
  have sameNodes : total.nodes = (device.walks [] visits).flatMap Walk.nodes := by
    rw [Walk.nodes, sameEvents, List.filterMap_flatMap]
    rfl
  have sameNotes : (device.walks [] visits).flatMap (fun walk => walk.notes device) =
      total.undefined.map (Note.undefinedPolicy device.name) := by
    rw [← Walk.notes_eq, Walk.notes, sameEvents, List.filterMap_flatMap]
    rfl
  refine ⟨Walk.length_walks device [] visits, ?_, total.undefined, ?_, ?_, sameNotes⟩
  · rw [← sameNodes]
    exact exists_enumerates_standsAt accounts
  · exact accounts.unknown.nodup_iff.2 (accounts.distinct.filter _)
  · intro name
    rw [accounts.unknown.mem_iff, List.mem_filter, called, Option.isNone_iff_eq_none]

end RoutingPlane
