import Rossoctl.Cards.Reconcile
import Rossoctl.LastWrite

/-!
# The NetworkPolicy controller

The model of `internal/controller/agentcard_networkpolicy_controller.go`. For every card
the controller writes a policy for the pods of its workload: a permissive one if the
card is verified, else a restrictive one. The policy is found by the *name* of the
workload (`Rossoctl.Cards.policyName`), so that cards whose workloads have the same name
write to the same object, and a card that is deleted takes it away.

So what a workload ends up with depends on the order. It does not, and unverified
workloads are safe, exactly if the cards are separated
(`Rossoctl.Cards.Separated`, `Rossoctl.Cards.restricted_iff_separated`).
-/

namespace Rossoctl.Cards

open Kube LastWrite List Option GoMap

/-! ### Policies -/

/-- A peer of a rule. -/
structure NetworkPolicyPeer where
  namespaceSelector : Option StringMap := none
  podSelector : Option StringMap := none
  ipBlock : Option String := none

/-- A rule for outgoing traffic: ports, with their protocol, and peers. Without
either it allows everything. -/
structure EgressRule where
  ports : List (String × ℕ) := []
  peers : List NetworkPolicyPeer := []

/-- A policy for the pods that a selector matches; `ingress` lists the peers of each
rule for incoming traffic. -/
structure NetworkPolicySpec where
  podSelector : StringMap
  policyTypes : List String
  ingress : List (List NetworkPolicyPeer)
  egress : List EgressRule

/-- A NetworkPolicy that the controller has written. -/
structure NetworkPolicy where
  labels : StringMap
  /-- The card in the owner reference, which is written and never read: the garbage collector
  of the API server is no part of this model. -/
  owner : String
  spec : NetworkPolicySpec

/-- All outgoing traffic is allowed. -/
def NetworkPolicySpec.permissive (spec : NetworkPolicySpec) : Bool :=
  spec.egress.any fun rule => rule.ports.isEmpty && rule.peers.isEmpty

/-- Not all outgoing traffic is allowed, and incoming traffic only by namespace. -/
def NetworkPolicySpec.restrictive (spec : NetworkPolicySpec) : Bool :=
  !spec.permissive && spec.ingress.all fun peers =>
    !peers.isEmpty && peers.all fun peer =>
      peer.namespaceSelector.isSome && peer.podSelector.isNone

/-- The pods with these labels are matched by a selector. -/
def Selects (selector labels : StringMap) : Prop :=
  ∀ e ∈ selector.entries, labels.lookup e.1 = some e.2

instance (selector labels : StringMap) : Decidable (Selects selector labels) :=
  inferInstanceAs (Decidable (∀ _ ∈ _, _))

/-- The settings of the reconciler. -/
structure NetworkPolicyReconciler where
  enforceNetworkPolicies : Bool := true
  operatorNamespace : String
  clusterDefaultsNamespace : String
  kubeAPIServerCIDRs : List String := []

variable (r : NetworkPolicyReconciler)

/-- A namespace, by its name. -/
def namespacePeer (ns : String) : NetworkPolicyPeer where
  namespaceSelector := some ((∅ : StringMap).insert "kubernetes.io/metadata.name" ns)

/-- The operator gets in, and so do the cluster defaults. -/
def NetworkPolicyReconciler.operatorIngressRule : List NetworkPolicyPeer :=
  namespacePeer r.operatorNamespace ::
    if r.operatorNamespace ≠ r.clusterDefaultsNamespace then
      [namespacePeer r.clusterDefaultsNamespace]
    else []

/-- The API server can be reached, at the addresses that were discovered. -/
def NetworkPolicyReconciler.kubeAPIEgressRules : List EgressRule :=
  if r.kubeAPIServerCIDRs.isEmpty then []
  else
    [{ ports := [("TCP", 6443)],
       peers := r.kubeAPIServerCIDRs.map fun cidr => { ipBlock := some cidr } }]

/-- The policy of `createPermissivePolicy`. -/
def NetworkPolicyReconciler.permissiveSpec (podSelectorLabels : StringMap) : NetworkPolicySpec where
  podSelector := podSelectorLabels
  policyTypes := ["Ingress", "Egress"]
  ingress := [r.operatorIngressRule ++
    [{ podSelector := some ((∅ : StringMap).insert labelSignatureVerified "true") }]]
  egress := [{}]

/-- The policy of `createRestrictivePolicy`. -/
def NetworkPolicyReconciler.restrictiveSpec (podSelectorLabels : StringMap) :
    NetworkPolicySpec where
  podSelector := podSelectorLabels
  policyTypes := ["Ingress", "Egress"]
  ingress := [r.operatorIngressRule]
  egress := r.kubeAPIEgressRules

/-- The policy for a verdict. -/
def NetworkPolicyReconciler.policySpec (verified : Bool) (podSelectorLabels : StringMap) :
    NetworkPolicySpec :=
  if verified then r.permissiveSpec podSelectorLabels else r.restrictiveSpec podSelectorLabels

variable (verified : Bool) (labels : StringMap) {i : Intent}

theorem podSelector_policySpec : (r.policySpec verified labels).podSelector = labels := by
  cases verified <;> rfl

theorem permissive_policySpec : (r.policySpec verified labels).permissive = verified := by
  cases verified with
  | true => rfl
  | false =>
    show (r.kubeAPIEgressRules.any fun rule => rule.ports.isEmpty && rule.peers.isEmpty) = false
    rw [NetworkPolicyReconciler.kubeAPIEgressRules]
    split
    · rfl
    · rfl

theorem restrictive_policySpec : (r.policySpec verified labels).restrictive = !verified := by
  rw [NetworkPolicySpec.restrictive, permissive_policySpec]
  cases verified with
  | true => rfl
  | false =>
    show ([r.operatorIngressRule].all fun peers => !peers.isEmpty && peers.all fun peer =>
      peer.namespaceSelector.isSome && peer.podSelector.isNone) = true
    rw [NetworkPolicyReconciler.operatorIngressRule]
    split
    · rfl
    · rfl

/-! ### The controller -/

def networkPolicyFinalizer : String := "agentcard.rossoctl.dev/network-policy"

/-- The name of the policy for a workload. -/
def policyName (workloadName : String) : String := workloadName ++ "-signature-policy"

/-- The cards, the workloads and the policies. -/
structure PolicyState where
  cards : GoMap NamespacedName AgentCard := ∅
  workloads : Workloads := ∅
  policies : GoMap NamespacedName NetworkPolicy := ∅

/-- The errors of the API calls of a Reconcile. -/
structure PolicyInput where
  getCard : Option String := none
  addFinalizer : Option String := none
  getWorkload : Option String := none
  getPolicy : Option String := none
  writePolicy : Option String := none
  deletePolicy : Option String := none
  removeFinalizer : Option String := none

/-- `getPodTemplateLabels`, if all goes well: for a kind whose pod template is not
accessible the labels are made up. -/
def getPodTemplateLabels (workloads : Workloads) (ns : String) (ref : TargetRef) :
    Option StringMap :=
  match podTemplateKey ref.kind ⟨ns, ref.name⟩ with
  | some k => (workloads.lookup k).map Workload.templateLabels
  | none => some (((∅ : StringMap).insert labelAgentType labelValueAgent).insert "app" ref.name)

/-- `resolveWorkload`; only a kind with an accessible pod template takes a call. -/
def resolveWorkload (workloads : Workloads) (ns : String) (card : AgentCard)
    (fault : Option String) : Option (String × StringMap) :=
  match card.targetRef with
  | none => none
  | some ref =>
    if fault.isSome && (podTemplateKey ref.kind ⟨ns, ref.name⟩).isSome then none
    else (getPodTemplateLabels workloads ns ref).map fun labels => (ref.name, labels)

/-- `upsertNetworkPolicy`: a policy that is there keeps its labels. -/
def upsertNetworkPolicy (policies : GoMap NamespacedName NetworkPolicy) (key : NamespacedName)
    (name : String) (spec : NetworkPolicySpec) : GoMap NamespacedName NetworkPolicy :=
  match policies.lookup ⟨key.ns, name⟩ with
  | none => policies.insert ⟨key.ns, name⟩
      { labels := (((∅ : StringMap).insert "managed-by" "rossoctl-operator").insert
          "rossoctl.dev/agentcard" key.name).insert "rossoctl.dev/policy-type"
          "identity-verification",
        owner := key.name, spec := spec }
  | some existing => policies.insert ⟨key.ns, name⟩
      { existing with owner := key.name, spec := spec }

/-- The workload whose policy a deleted card takes away. -/
def deletedWorkloadName (key : NamespacedName) (card : AgentCard) : String :=
  match card.targetRef, card.status.targetRef with
  | some ref, _ => ref.name
  | none, some ref => ref.name
  | none, none => key.name

/-- The policy that goes with a card. -/
def deletedPolicy (key : NamespacedName) (card : AgentCard) : NamespacedName :=
  ⟨key.ns, policyName (deletedWorkloadName key card)⟩

/-- `handleDeletion`. Only a policy that is there takes a call to delete it. The policy goes by
its name, whichever card its owner reference has. -/
def PolicyState.handleDeletion (st : PolicyState) (key : NamespacedName) (card : AgentCard)
    (inp : PolicyInput) : PolicyState × Result :=
  if networkPolicyFinalizer ∈ card.finalizers then
    match inp.getPolicy.orElse fun _ =>
        (st.policies.lookup (deletedPolicy key card)).bind fun _ => inp.deletePolicy with
    | some e => (st, .error e)
    | none =>
      let st := { st with policies := st.policies.erase (deletedPolicy key card) }
      match inp.removeFinalizer with
      | some e => (st, .error e)
      | none =>
        let finalizers := card.finalizers.filter fun f => f ≠ networkPolicyFinalizer
        let kept := retained card.deleting finalizers { card with finalizers := finalizers }
        ({ st with cards := put st.cards key kept }, .done)
  else (st, .done)

/-- **`Reconcile`** of the NetworkPolicy controller. -/
def NetworkPolicyReconciler.reconcile (st : PolicyState) (key : NamespacedName)
    (inp : PolicyInput) : PolicyState × Result :=
  if !r.enforceNetworkPolicies then (st, .done)
  else
    match inp.getCard, st.cards.lookup key with
    | some e, _ => (st, .error e)
    | none, none => (st, .done)
    | none, some card =>
      if card.deleting then st.handleDeletion key card inp
      else if networkPolicyFinalizer ∈ card.finalizers then
        match resolveWorkload st.workloads key.ns card inp.getWorkload with
        | none => (st, .done)
        | some (workloadName, labels) =>
          match inp.getPolicy.orElse fun _ => inp.writePolicy with
          | some e => (st, .error e)
          | none =>
            let spec := r.policySpec card.status.verified labels
            ({ st with
                policies := upsertNetworkPolicy st.policies key (policyName workloadName) spec },
              .done)
      else
        match inp.addFinalizer with
        | some e => (st, .error e)
        | none =>
          let card := { card with finalizers := card.finalizers ++ [networkPolicyFinalizer] }
          ({ st with cards := st.cards.insert key card }, .done)

/-- The cards are reconciled one after another, and all calls succeed. -/
def NetworkPolicyReconciler.reconcileAll (st : PolicyState) (order : List NamespacedName) :
    PolicyState :=
  order.foldl (fun st key => (r.reconcile st key {}).1) st

/-! ### What the cards write -/

/-- What a card has to write: which policy, with which verdict and for which pods. -/
structure Intent where
  policy : NamespacedName
  verified : Bool
  labels : StringMap

/-- **The intent of a card**, if it has a workload. -/
def PolicyState.intent (st : PolicyState) (key : NamespacedName) : Option Intent :=
  (st.cards.lookup key).bind fun card => card.targetRef.bind fun ref =>
    (getPodTemplateLabels st.workloads key.ns ref).map fun labels =>
      ⟨⟨key.ns, policyName ref.name⟩, card.status.verified, labels⟩

/-- The policy under a name. -/
def PolicyState.specAt (st : PolicyState) (q : NamespacedName) : Option NetworkPolicySpec :=
  (st.policies.lookup q).map NetworkPolicy.spec

/-- The write of a card. -/
def NetworkPolicyReconciler.written (st : PolicyState) (key : NamespacedName) :
    Option (NamespacedName × NetworkPolicySpec) :=
  (st.intent key).map fun i => (i.policy, r.policySpec i.verified i.labels)

/-- A card that is not being deleted and has the finalizer. -/
def PolicyState.Ready (st : PolicyState) (key : NamespacedName) : Prop :=
  ∃ card, st.cards.lookup key = some card ∧ card.deleting = false ∧
    networkPolicyFinalizer ∈ card.finalizers

variable {r} {st : PolicyState} {key : NamespacedName}

theorem map_spec_upsert (policies : GoMap NamespacedName NetworkPolicy) (key : NamespacedName)
    (name : String) (spec : NetworkPolicySpec) (q : NamespacedName) :
    ((upsertNetworkPolicy policies key name spec).lookup q).map NetworkPolicy.spec =
      if q = ⟨key.ns, name⟩ then some spec else (policies.lookup q).map NetworkPolicy.spec := by
  rw [upsertNetworkPolicy]
  split
  · rw [lookup_insert_ite]
    split
    · rfl
    · rfl
  · rw [lookup_insert_ite]
    split
    · rfl
    · rfl

theorem resolveWorkload_none (workloads : Workloads) (ns : String) (card : AgentCard) :
    resolveWorkload workloads ns card none = card.targetRef.bind fun ref =>
      (getPodTemplateLabels workloads ns ref).map fun labels => (ref.name, labels) := by
  cases hcard : card.targetRef with
  | none => simp [resolveWorkload, hcard]
  | some ref => simp [resolveWorkload, hcard]

variable {card : AgentCard} {order : List NamespacedName} {inp : PolicyInput}

theorem written_eq (hcard : st.cards.lookup key = some card) :
    r.written st key = (resolveWorkload st.workloads key.ns card none).map fun p =>
      (⟨key.ns, policyName p.1⟩, r.policySpec card.status.verified p.2) := by
  rw [NetworkPolicyReconciler.written, PolicyState.intent, hcard, resolveWorkload_none, bind_some]
  cases card.targetRef with
  | none => rfl
  | some ref =>
    rw [Option.bind_some, Option.bind_some, Option.map_map, Option.map_map]
    rfl

/-- **A Reconcile of a card that is ready writes its intent**, and nothing else. -/
theorem reconcile_of_ready (hr : r.enforceNetworkPolicies = true) (h : st.Ready key) :
    (r.reconcile st key {}).1.cards = st.cards ∧
    (r.reconcile st key {}).1.workloads = st.workloads ∧
    (r.reconcile st key {}).1.specAt = writeOne (r.written st) st.specAt key := by
  obtain ⟨card, hcard, hlive, hfin⟩ := h
  have hwrite := written_eq (r := r) hcard
  simp only [NetworkPolicyReconciler.reconcile, hr, hcard, hlive, if_pos hfin, Bool.not_true,
    Bool.false_eq_true, if_false, orElse_none]
  cases hres : resolveWorkload st.workloads key.ns card none with
  | none =>
    rw [hres] at hwrite
    exact ⟨rfl, rfl, (writeOne_none hwrite).symm⟩
  | some p =>
    rw [hres] at hwrite
    refine ⟨rfl, rfl, funext fun q => ?_⟩
    rw [writeOne_some hwrite, Function.update_apply]
    exact map_spec_upsert _ _ _ _ _

/-- The cards that are reconciled have their say, one after another. -/
theorem reconcileAll_of_ready (hr : r.enforceNetworkPolicies = true)
    (h : ∀ key ∈ order, st.Ready key) :
    (r.reconcileAll st order).cards = st.cards ∧
    (r.reconcileAll st order).workloads = st.workloads ∧
    (r.reconcileAll st order).specAt = writeAll (r.written st) st.specAt order := by
  induction order generalizing st with
  | nil => exact ⟨rfl, rfl, rfl⟩
  | cons key order ih =>
    obtain ⟨hkey, horder⟩ := forall_mem_cons.mp h
    obtain ⟨hcards, hworkloads, hspec⟩ := reconcile_of_ready hr hkey
    have hready : ∀ key' ∈ order, (r.reconcile st key {}).1.Ready key' := fun key' hkey' => by
      rw [PolicyState.Ready, hcards]
      exact horder key' hkey'
    obtain ⟨hcards', hworkloads', hspec'⟩ := ih hready
    have hwritten : r.written (r.reconcile st key {}).1 = r.written st := by
      funext key'
      rw [NetworkPolicyReconciler.written, PolicyState.intent, hcards, hworkloads]
      rfl
    refine ⟨hcards'.trans hcards, hworkloads'.trans hworkloads, ?_⟩
    rw [hwritten, hspec] at hspec'
    exact hspec'

/-! ### Unverified workloads -/

/-- A workload that a card of the namespace targets without being verified. -/
def PolicyState.Unverified (st : PolicyState) (ns : String) (w : Workload) : Prop :=
  ∃ key card k, st.cards.lookup key = some card ∧ key.ns = ns ∧ card.status.verified = false ∧
    card.target ns = some k ∧ st.workloads.lookup k = some w

/-- **Unverified workloads are restricted**: a restrictive policy of the namespace
selects them, and no permissive one does. -/
def PolicyState.Restricted (st : PolicyState) (ns : String) : Prop :=
  ∀ w, st.Unverified ns w →
    (∃ q spec, q.ns = ns ∧ st.specAt q = some spec ∧ spec.restrictive = true ∧
      Selects spec.podSelector w.templateLabels) ∧
    ∀ q spec, q.ns = ns → st.specAt q = some spec → spec.permissive = true →
      ¬ Selects spec.podSelector w.templateLabels

/-- **The cards are separated**: for every workload that a card targets without being
verified there is a policy that only unverified cards write, and those for pods
like its own; and no verified card writes a policy for such pods. -/
def Separated (st : PolicyState) (keys : List NamespacedName) (ns : String) : Prop :=
  ∀ w, st.Unverified ns w → (∃ q, (∃ key ∈ keys, ∃ i, st.intent key = some i ∧ i.policy = q) ∧
      ∀ key ∈ keys, ∀ i, st.intent key = some i → i.policy = q →
        i.verified = false ∧ Selects i.labels w.templateLabels) ∧
    ∀ key ∈ keys, ∀ i, st.intent key = some i → i.verified = true →
      ¬ Selects i.labels w.templateLabels

theorem written_eq_some {q : NamespacedName} {spec : NetworkPolicySpec}
    (h : r.written st key = some (q, spec)) :
    ∃ i, st.intent key = some i ∧ i.policy = q ∧ spec = r.policySpec i.verified i.labels := by
  obtain ⟨i, hi, heq⟩ := map_eq_some_iff.mp h
  obtain ⟨rfl, rfl⟩ := Prod.mk.injEq .. ▸ heq
  exact ⟨i, hi, rfl, rfl⟩

theorem written_of_intent (h : st.intent key = some i) :
    r.written st key = some (i.policy, r.policySpec i.verified i.labels) := by
  rw [NetworkPolicyReconciler.written, h, map_some]

theorem intent_ns (h : st.intent key = some i) : i.policy.ns = key.ns := by
  obtain ⟨card, -, h⟩ := bind_eq_some_iff.mp h
  obtain ⟨ref, -, h⟩ := bind_eq_some_iff.mp h
  obtain ⟨labels, -, rfl⟩ := map_eq_some_iff.mp h
  rfl

section Orders

variable {ns : String} {keys : List NamespacedName}

/-- The policies of a namespace after an order, where there was none before. -/
theorem specAt_writeAll {q : NamespacedName} {spec : NetworkPolicySpec}
    (hempty : st.specAt q = none) (h : writeAll (r.written st) st.specAt order q = some spec) :
    ∃ key ∈ order, ∃ i, st.intent key = some i ∧ i.policy = q ∧
      spec = r.policySpec i.verified i.labels := by
  rcases writer_of_eq_some h with ⟨key, hkey, hw⟩ | hbefore
  · exact ⟨key, hkey, written_eq_some hw⟩
  · exact absurd (hempty.symm.trans hbefore) (by simp)

/-- Separated cards restrict the unverified workloads, in every order. -/
theorem restricted_of_separated (hempty : ∀ q, q.ns = ns → st.specAt q = none)
    (hsep : Separated st keys ns) (hperm : order.Perm keys) (hns : ∀ key ∈ keys, key.ns = ns)
    {w : Workload} (hw : st.Unverified ns w) :
    (∃ q spec, q.ns = ns ∧ writeAll (r.written st) st.specAt order q = some spec ∧
      spec.restrictive = true ∧ Selects spec.podSelector w.templateLabels) ∧
    ∀ q spec, q.ns = ns → writeAll (r.written st) st.specAt order q = some spec →
      spec.permissive = true → ¬ Selects spec.podSelector w.templateLabels := by
  obtain ⟨⟨q, ⟨key, hkey, i, hi, rfl⟩, hall⟩, hnone⟩ := hsep w hw
  constructor
  · obtain ⟨key', hkey', spec, hw', hval⟩ := exists_writer (f := st.specAt)
      (hperm.mem_iff.mpr hkey) (written_of_intent (r := r) hi)
    obtain ⟨i', hi', hpolicy, rfl⟩ := written_eq_some hw'
    obtain ⟨hver, hsel⟩ := hall key' (hperm.mem_iff.mp hkey') i' hi' hpolicy
    refine ⟨i.policy, _, (intent_ns hi).trans (hns key hkey), hval, ?_, ?_⟩
    · rw [restrictive_policySpec, hver]
      rfl
    · rwa [podSelector_policySpec]
  · intro q spec hq hval hperm'
    obtain ⟨key', hkey', i', hi', -, rfl⟩ := specAt_writeAll (hempty q hq) hval
    rw [permissive_policySpec] at hperm'
    rw [podSelector_policySpec]
    exact hnone key' (hperm.mem_iff.mp hkey') i' hi' hperm'

/-- **If every order restricts the unverified workloads, the cards are separated.** -/
theorem separated_of_restricted (h : ∀ order, order.Perm keys → ∀ w, st.Unverified ns w →
      (∃ q spec, q.ns = ns ∧ writeAll (r.written st) st.specAt order q = some spec ∧
        spec.restrictive = true ∧ Selects spec.podSelector w.templateLabels) ∧
      ∀ q spec, q.ns = ns → writeAll (r.written st) st.specAt order q = some spec →
        spec.permissive = true → ¬ Selects spec.podSelector w.templateLabels)
    (hempty : ∀ q, q.ns = ns → st.specAt q = none) (hns : ∀ key ∈ keys, key.ns = ns) :
    Separated st keys ns := by
  intro w hw
  constructor
  · -- let the cards that spoil a policy for the workload go last
    by_contra hnot
    let good : NamespacedName → Bool := fun key =>
      decide (∀ i, st.intent key = some i → i.verified = false ∧ Selects i.labels w.templateLabels)
    obtain ⟨⟨q, spec, hq, hval, hres, hsel⟩, -⟩ := h _ (filter_append_perm good keys) w hw
    have hgood : ∀ i : Intent, spec = r.policySpec i.verified i.labels →
        i.verified = false ∧ Selects i.labels w.templateLabels := by
      rintro i rfl
      rw [restrictive_policySpec, Bool.not_eq_true'] at hres
      rw [podSelector_policySpec] at hsel
      exact ⟨hres, hsel⟩
    refine hnot ⟨q, ?_, fun key hkey i hi hpolicy => ?_⟩
    · obtain ⟨key, hkey, i, hi, hpolicy, -⟩ := specAt_writeAll (hempty q hq) hval
      exact ⟨key, (filter_append_perm good keys).mem_iff.mp hkey, i, hi, hpolicy⟩
    · by_contra hbad
      have hmem : key ∈ keys.filter fun key => !good key := by
        refine mem_filter.mpr ⟨hkey, ?_⟩
        rw [Bool.not_eq_true', decide_eq_false_iff_not]
        exact fun hall => hbad (hall i hi)
      rw [writeAll_append] at hval
      obtain ⟨key', hkey', spec', hw', hval'⟩ := exists_writer
        (f := writeAll (r.written st) st.specAt (keys.filter good)) hmem
        (hpolicy ▸ written_of_intent (r := r) hi)
      obtain ⟨i', hi', -, hspec⟩ := written_eq_some hw'
      have hbad' := (mem_filter.mp hkey').2
      rw [Bool.not_eq_true', decide_eq_false_iff_not] at hbad'
      refine hbad' fun i'' hi'' => ?_
      cases hi'.symm.trans hi''
      exact hgood i' (some.inj (hval.symm.trans hval') ▸ hspec)
  · intro key hkey i hi hver hsel
    have hperm : (keys.erase key ++ [key]).Perm keys :=
      (perm_append_singleton key _).trans (perm_cons_erase hkey).symm
    have hval := writeAll_concat (f := st.specAt) (written_of_intent (r := r) hi) (keys.erase key)
    refine (h _ hperm w hw).2 i.policy _ ((intent_ns hi).trans (hns key hkey)) hval ?_ ?_
    · rw [permissive_policySpec, hver]
    · rwa [podSelector_policySpec]

end Orders

/-! ### Deletions -/

/-- **The policies of other cards' workloads are kept**: a policy that selects the
workload of another card is afterwards what it was. -/
def PolicyState.KeepsOthers (st st' : PolicyState) (key : NamespacedName) : Prop :=
  ∀ key' card k w, key' ≠ key → st.cards.lookup key' = some card →
    card.target key'.ns = some k → st.workloads.lookup k = some w →
    ∀ q policy, q.ns = key'.ns → st.policies.lookup q = some policy →
      Selects policy.spec.podSelector w.templateLabels → st'.policies.lookup q = some policy

/-- The policy that goes with a card, if it is there, selects no workload of another
card. -/
def PolicyState.Exclusive (st : PolicyState) (key : NamespacedName) (card : AgentCard) : Prop :=
  ∀ policy, st.policies.lookup (deletedPolicy key card) = some policy →
    ∀ key' card' k w, key' ≠ key → key'.ns = key.ns → st.cards.lookup key' = some card' →
      card'.target key'.ns = some k → st.workloads.lookup k = some w →
      ¬ Selects policy.spec.podSelector w.templateLabels

/-- The handling of the deletion gets past the policy. -/
def PolicyInput.Passes (inp : PolicyInput) (card : AgentCard) : Prop :=
  inp.getCard = none ∧ networkPolicyFinalizer ∈ card.finalizers ∧ inp.getPolicy = none ∧
    inp.deletePolicy = none

theorem reconcile_of_deleting (hr : r.enforceNetworkPolicies = true)
    (hcard : st.cards.lookup key = some card) (hdel : card.deleting = true)
    (hget : inp.getCard = none) : r.reconcile st key inp = st.handleDeletion key card inp := by
  simp only [NetworkPolicyReconciler.reconcile, hr, hget, hcard, hdel, Bool.not_true,
    Bool.false_eq_true, if_false, if_true]

theorem policies_of_passes (hr : r.enforceNetworkPolicies = true)
    (hcard : st.cards.lookup key = some card) (hdel : card.deleting = true) (h : inp.Passes card) :
    (r.reconcile st key inp).1.policies = st.policies.erase (deletedPolicy key card) := by
  obtain ⟨hget, hfin, hpolicy, hdelete⟩ := h
  have hnone : (st.policies.lookup (deletedPolicy key card)).bind (fun _ => inp.deletePolicy) =
      none := by
    rw [hdelete, bind_fun_none]
  rw [reconcile_of_deleting hr hcard hdel hget, PolicyState.handleDeletion, if_pos hfin, hpolicy,
    orElse_none, hnone]
  dsimp only
  split <;> rfl

/-- A deletion that does not get past the policy leaves all policies alone. -/
theorem policies_of_not_passes (hr : r.enforceNetworkPolicies = true)
    (hcard : st.cards.lookup key = some card) (hdel : card.deleting = true)
    (h : ¬ inp.Passes card) (q : NamespacedName) :
    (r.reconcile st key inp).1.policies.lookup q = st.policies.lookup q := by
  cases hget : inp.getCard with
  | some e => simp only [NetworkPolicyReconciler.reconcile, hr, hget, Bool.not_true,
      Bool.false_eq_true, if_false]
  | none =>
    rw [reconcile_of_deleting hr hcard hdel hget, PolicyState.handleDeletion]
    split
    · rename_i hfin
      split
      · rfl
      · rename_i hnone
        -- the policy was not there
        have hmissing : st.policies.lookup (deletedPolicy key card) = none := by
          by_contra hsome
          obtain ⟨policy, hp⟩ := ne_none_iff_exists'.mp hsome
          cases hpolicy : inp.getPolicy with
          | some e =>
            rw [hpolicy] at hnone
            cases hnone
          | none =>
            rw [hpolicy, orElse_none, hp, bind_some] at hnone
            exact h ⟨hget, hfin, hpolicy, hnone⟩
        have herase : (st.policies.erase (deletedPolicy key card)).lookup q =
            st.policies.lookup q := by
          rw [lookup_erase_ite]
          split
          · rename_i hq
            rw [hq, hmissing]
          · rfl
        split <;> exact herase
    · rfl

/-- A deletion keeps the policies of other cards' workloads exactly if it does not get
past its policy, or none of these workloads is selected by it. -/
theorem keepsOthers_iff (hr : r.enforceNetworkPolicies = true)
    (hcard : st.cards.lookup key = some card) (hdel : card.deleting = true) (inp : PolicyInput) :
    st.KeepsOthers (r.reconcile st key inp).1 key ↔ (inp.Passes card → st.Exclusive key card) := by
  constructor
  · intro hkeeps hpass policy hpolicy key' card' k w hne hns hcard' htarget hw hsel
    have hstill := hkeeps key' card' k w hne hcard' htarget hw (deletedPolicy key card) policy
      hns.symm hpolicy hsel
    rw [policies_of_passes hr hcard hdel hpass, AList.lookup_erase] at hstill
    cases hstill
  · intro hexcl key' card' k w hne hcard' htarget hw q policy hq hpolicy hsel
    by_cases hpass : inp.Passes card
    · rw [policies_of_passes hr hcard hdel hpass, lookup_erase_ite, if_neg]
      · exact hpolicy
      · rintro rfl
        exact hexcl hpass policy hpolicy key' card' k w hne hq.symm hcard' htarget hw hsel
    · rw [policies_of_not_passes hr hcard hdel hpass, hpolicy]

/-! ### The statement -/

/-- The cards of a namespace. -/
def PolicyState.cardKeys (st : PolicyState) (ns : String) : List NamespacedName :=
  st.cards.keys.filter fun key => key.ns = ns

/-- **Unverified workloads are restricted in every order exactly if the cards of the
namespace are separated; and a deletion keeps the policies of other cards' workloads
exactly if they do not share the one it takes away.** -/
theorem restricted_iff_separated (r : NetworkPolicyReconciler)
    (hr : r.enforceNetworkPolicies = true) :
    (∀ (st : PolicyState) (ns : String), (∀ key ∈ st.cardKeys ns, st.Ready key) →
      (∀ q : NamespacedName, q.ns = ns → st.policies.lookup q = none) →
      ((∀ order, order.Perm (st.cardKeys ns) → (r.reconcileAll st order).Restricted ns) ↔
        Separated st (st.cardKeys ns) ns)) ∧
    ∀ (st : PolicyState) (key : NamespacedName) (card : AgentCard) (inp : PolicyInput),
      st.cards.lookup key = some card → card.deleting = true →
      (st.KeepsOthers (r.reconcile st key inp).1 key ↔
        (inp.Passes card → st.Exclusive key card)) := by
  refine ⟨fun st ns hready hempty => ?_, fun st key card inp hcard hdel =>
    keepsOthers_iff hr hcard hdel inp⟩
  have hspec : ∀ q : NamespacedName, q.ns = ns → st.specAt q = none := fun q hq => by
    rw [PolicyState.specAt, hempty q hq, map_none]
  have hns : ∀ key ∈ st.cardKeys ns, key.ns = ns := fun key hkey =>
    of_decide_eq_true (mem_filter.mp hkey).2
  have hall : ∀ order, order.Perm (st.cardKeys ns) →
      ((r.reconcileAll st order).Restricted ns ↔ ∀ w, st.Unverified ns w →
        (∃ q spec, q.ns = ns ∧ writeAll (r.written st) st.specAt order q = some spec ∧
          spec.restrictive = true ∧ Selects spec.podSelector w.templateLabels) ∧
        ∀ q spec, q.ns = ns → writeAll (r.written st) st.specAt order q = some spec →
          spec.permissive = true → ¬ Selects spec.podSelector w.templateLabels) := by
    intro order hperm
    obtain ⟨hcards, hworkloads, hwritten⟩ := reconcileAll_of_ready hr
      fun key (hkey : key ∈ order) => hready key (hperm.mem_iff.mp hkey)
    simp only [PolicyState.Restricted, PolicyState.Unverified, hcards, hworkloads, hwritten]
  constructor
  · intro h
    exact separated_of_restricted (fun order hperm => (hall order hperm).mp (h order hperm))
      hspec hns
  · intro hsep order hperm
    exact (hall order hperm).mpr fun w hw => restricted_of_separated hspec hsep hperm hns hw

/-! ### Two clusters -/

def policyReconciler : NetworkPolicyReconciler where
  operatorNamespace := "rossoctl-system"
  clusterDefaultsNamespace := "rossoctl-system"

/-- A card for a Deployment, with the finalizer. -/
def agentCard (apiVersion name : String) (conditions : Conditions) : AgentCard where
  finalizers := [networkPolicyFinalizer]
  targetRef := some ⟨apiVersion, "Deployment", name⟩
  status := { conditions := conditions }

/-- The verdict of a card that is verified. -/
def positive : Conditions :=
  (∅ : Conditions).insert conditionVerified ⟨.conditionTrue, "mTLSVerified", ""⟩

def deploymentKey (name : String) : WorkloadKey := ⟨"apps", "Deployment", ⟨"team", name⟩⟩

def deployment (name : String) : Workload where
  templateLabels := (∅ : StringMap).insert "app" name

/-- One card, which is not verified. -/
def singleCard : PolicyState where
  cards := (∅ : GoMap NamespacedName AgentCard).insert ⟨"team", "a"⟩ (agentCard "apps/v1" "agent" ∅)
  workloads := (∅ : Workloads).insert (deploymentKey "agent") (deployment "agent")

/-- A second card, which is, for a Deployment of its own. -/
def separateDeployments : PolicyState where
  cards := singleCard.cards.insert ⟨"team", "b"⟩ (agentCard "apps/v1" "climate" positive)
  workloads := singleCard.workloads.insert (deploymentKey "climate") (deployment "climate")

/-- A second card for the same Deployment, with another version of the API. -/
def sharedDeployment : PolicyState where
  cards := singleCard.cards.insert ⟨"team", "b"⟩ (agentCard "apps/v1beta2" "agent" positive)
  workloads := singleCard.workloads

/-- Both cards have been reconciled, the one that is not verified last, and the other
one is being deleted. -/
def deletingSecond (st : PolicyState) (apiVersion name : String) : PolicyState :=
  { policyReconciler.reconcileAll st [⟨"team", "b"⟩, ⟨"team", "a"⟩] with
    cards := st.cards.insert ⟨"team", "b"⟩
      { agentCard apiVersion name ∅ with deleting := true } }

theorem card_separateDeployments {key : NamespacedName} {card : AgentCard}
    (h : separateDeployments.cards.lookup key = some card) :
    key = ⟨"team", "b"⟩ ∧ card = agentCard "apps/v1" "climate" positive ∨
      key = ⟨"team", "a"⟩ ∧ card = agentCard "apps/v1" "agent" ∅ := by
  rw [separateDeployments, lookup_insert_ite] at h
  split at h
  · rename_i hkey
    exact .inl ⟨hkey, (Option.some.inj h).symm⟩
  · rw [singleCard, lookup_insert_ite] at h
    split at h
    · rename_i hkey
      exact .inr ⟨hkey, (Option.some.inj h).symm⟩
    · cases h

theorem separated_separateDeployments :
    Separated separateDeployments (separateDeployments.cardKeys "team") "team" := by
  rintro w ⟨key, card, k, hcard, -, hver, htarget, hw⟩
  obtain ⟨rfl, rfl⟩ | ⟨rfl, rfl⟩ := card_separateDeployments hcard
  · cases hver
  cases htarget
  cases hw
  have hkeys : ∀ key ∈ separateDeployments.cardKeys "team",
      key = ⟨"team", "b"⟩ ∨ key = ⟨"team", "a"⟩ := fun key hkey => mem_pair.mp hkey
  refine ⟨⟨⟨"team", "agent-signature-policy"⟩, ⟨⟨"team", "a"⟩, by decide, _, rfl, rfl⟩, ?_⟩, ?_⟩
  · intro key' hkey' i hi hpolicy
    obtain rfl | rfl := hkeys key' hkey'
    · cases hi
      exact absurd hpolicy (by decide)
    · cases hi
      decide
  · intro key' hkey' i hi hver'
    obtain rfl | rfl := hkeys key' hkey'
    · cases hi
      decide
    · cases hi
      cases hver'

/-- **Cards with Deployments of their own**: the one that is not verified is restricted, and
remains so when the other card is deleted. -/
theorem restricted_separateDeployments :
    (policyReconciler.reconcileAll separateDeployments
        [⟨"team", "b"⟩, ⟨"team", "a"⟩]).Restricted "team" ∧
      (deletingSecond separateDeployments "apps/v1" "climate").KeepsOthers
        (policyReconciler.reconcile (deletingSecond separateDeployments "apps/v1" "climate")
          ⟨"team", "b"⟩ {}).1 ⟨"team", "b"⟩ := by
  obtain ⟨hrestricted, hkeeps⟩ := restricted_iff_separated policyReconciler rfl
  refine ⟨(hrestricted separateDeployments "team" (fun key hkey => ?_) fun q _ => rfl).mpr
    separated_separateDeployments _ (by decide), ?_⟩
  · obtain rfl | rfl := mem_pair.mp hkey
    · exact ⟨_, rfl, rfl, mem_singleton_self _⟩
    · exact ⟨_, rfl, rfl, mem_singleton_self _⟩
  · refine (hkeeps _ ⟨"team", "b"⟩ _ {} rfl rfl).mpr fun _ policy hpolicy key' card' k w hne _
      hcard' htarget hw => ?_
    cases hpolicy
    rw [deletingSecond, lookup_insert_ite, if_neg hne] at hcard'
    obtain ⟨rfl, -⟩ | ⟨rfl, rfl⟩ := card_separateDeployments hcard'
    · exact absurd rfl hne
    · cases htarget
      cases hw
      decide

/-- **The last card wins, and the first to go takes the policy with it**: with a second
card that is verified, the workload of the first can end up with a permissive
policy; and when the second card is deleted, it is left with none. -/
theorem shared_policy_loosened :
    [⟨"team", "a"⟩, ⟨"team", "b"⟩].Perm (sharedDeployment.cardKeys "team") ∧
    (∀ key ∈ sharedDeployment.cardKeys "team", sharedDeployment.Ready key) ∧
    ¬ (policyReconciler.reconcileAll sharedDeployment
      [⟨"team", "a"⟩, ⟨"team", "b"⟩]).Restricted "team" ∧
    ¬ (deletingSecond sharedDeployment "apps/v1beta2" "agent").KeepsOthers
      (policyReconciler.reconcile (deletingSecond sharedDeployment "apps/v1beta2" "agent")
        ⟨"team", "b"⟩ {}).1 ⟨"team", "b"⟩ := by
  refine ⟨by decide, fun key hkey => ?_, fun h => ?_, fun h => ?_⟩
  · have hkeys : key ∈ [(⟨"team", "b"⟩ : NamespacedName), ⟨"team", "a"⟩] := hkey
    rcases mem_pair.mp hkeys with rfl | rfl
    · exact ⟨_, rfl, rfl, mem_singleton_self _⟩
    · exact ⟨_, rfl, rfl, mem_singleton_self _⟩
  · have hw : (policyReconciler.reconcileAll sharedDeployment
        [⟨"team", "a"⟩, ⟨"team", "b"⟩]).Unverified "team" (deployment "agent") :=
      ⟨⟨"team", "a"⟩, _, _, rfl, rfl, rfl, rfl, rfl⟩
    exact (h _ hw).2 ⟨"team", "agent-signature-policy"⟩ _ rfl rfl rfl (by decide)
  · have hgone := h ⟨"team", "a"⟩ _ _ (deployment "agent") (by decide) rfl rfl rfl
      ⟨"team", "agent-signature-policy"⟩ _ rfl rfl (by decide)
    have hnone : (policyReconciler.reconcile (deletingSecond sharedDeployment "apps/v1beta2"
        "agent") ⟨"team", "b"⟩ {}).1.policies.lookup ⟨"team", "agent-signature-policy"⟩ = none := rfl
    exact absurd (hnone.symm.trans hgone) (by simp)

end Rossoctl.Cards
