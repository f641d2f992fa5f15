import Rossoctl.Cards.NetworkPolicy
import Rossoctl.Cidr

/-!
# What a restrictive policy lets out

The pods of an unverified agent may talk to the API servers and to nobody else. Their addresses are
read once from the Endpoints of the `kubernetes` Service (`DiscoverKubeAPIServerCIDRs`), and go into
the policy as blocks (`kubeAPIEgressRules`), each with `/32`.

For addresses of the first family this is what it should be. A block of the second family with 32
bits is the network of a whole provider: `Rossoctl.Cards.egress_exact_iff` says that the policy is
exact just if, with one address of such a block, all of them are API servers.
-/

namespace Rossoctl.Cards

open Kube Cidr List

/-- An Endpoints object: for each subset the texts of its addresses. -/
structure Endpoints where
  subsets : List (List String)

/-- The texts of all the addresses. -/
def Endpoints.ips (ep : Endpoints) : List String := ep.subsets.flatten

/-- **`DiscoverKubeAPIServerCIDRs`**, with the answer to the request for the Endpoints. -/
def NetworkPolicyReconciler.discoverKubeAPIServerCIDRs (r : NetworkPolicyReconciler) :
    Except String Endpoints → NetworkPolicyReconciler
  | .error _ => r
  | .ok ep =>
    { r with
      kubeAPIServerCIDRs := ep.subsets.flatMap fun addresses => addresses.map (· ++ "/32") }

/-! ### The meaning of a policy -/

variable (T : AddressText)

/-- A peer is a block with this address. Selectors match pods, not addresses. -/
def NetworkPolicyPeer.matchesAddress (peer : NetworkPolicyPeer) (a : Address) : Bool :=
  peer.ipBlock.any fun cidr => (T.parseCIDR cidr).any (·.contains a)

/-- A rule admits traffic to one of its ports at one of its peers. -/
def EgressRule.admits (rule : EgressRule) (a : Address) (protocol : String) (port : ℕ) : Bool :=
  (rule.ports.isEmpty || rule.ports.contains (protocol, port)) &&
    (rule.peers.isEmpty || rule.peers.any (·.matchesAddress T a))

/-- **A policy permits traffic to an address**: one of its rules does, or the policy is not about
outgoing traffic. -/
def NetworkPolicySpec.permitsEgress (spec : NetworkPolicySpec) (a : Address) (protocol : String)
    (port : ℕ) : Bool :=
  !spec.policyTypes.contains "Egress" || spec.egress.any (·.admits T a protocol port)

/-- An address is listed. -/
def Endpoints.Lists (ep : Endpoints) (a : Address) : Prop := ∃ ip ∈ ep.ips, T.parseAddr ip = some a

instance (ep : Endpoints) (a : Address) : Decidable (ep.Lists T a) :=
  inferInstanceAs (Decidable (∃ ip ∈ ep.ips, T.parseAddr ip = some a))

/-! ### The blocks of the API servers -/

variable {T} {ep : Endpoints} {a : Address}

theorem cidrs_discover (r : NetworkPolicyReconciler) (ep : Endpoints) :
    (r.discoverKubeAPIServerCIDRs (.ok ep)).kubeAPIServerCIDRs = ep.ips.map (· ++ "/32") := by
  rw [NetworkPolicyReconciler.discoverKubeAPIServerCIDRs, Endpoints.ips, map_flatten]
  exact flatMap_def

theorem exists_block_iff : (∃ ip ∈ ep.ips, (T.parseCIDR (ip ++ "/32")).any (·.contains a) = true) ↔
      ep.Lists T a ∨ ∃ x y, a = .v6 y ∧ ep.Lists T (.v6 x) ∧ y >>> 96 = x >>> 96 := by
  constructor
  · rintro ⟨ip, hip, h⟩
    rw [parseCIDR_append, Option.any_map, Option.any_eq_true] at h
    obtain ⟨b, hb, hcontains⟩ := h
    cases b with
    | v4 x =>
      rw [(contains_v4 x a).mp hcontains]
      exact .inl ⟨ip, hip, hb⟩
    | v6 x =>
      obtain ⟨y, rfl, hy⟩ := (contains_v6 x a).mp hcontains
      exact .inr ⟨x, y, rfl, ⟨ip, hip, hb⟩, hy⟩
  · have hblock {b : Address} (hlists : ep.Lists T b)
        (hcontains : (Block.mk b 32 (bitLen_ge b)).contains a = true) :
        ∃ ip ∈ ep.ips, (T.parseCIDR (ip ++ "/32")).any (·.contains a) = true := by
      obtain ⟨ip, hip, hb⟩ := hlists
      refine ⟨ip, hip, ?_⟩
      rw [parseCIDR_append, hb]
      exact hcontains
    rintro (hlists | ⟨x, y, rfl, hlists, hy⟩)
    · refine hblock hlists ?_
      cases a with
      | v4 x => exact (contains_v4 x _).mpr rfl
      | v6 x => exact (contains_v6 x _).mpr ⟨x, rfl, rfl⟩
    · exact hblock hlists ((contains_v6 x _).mpr ⟨y, rfl, hy⟩)

/-- **What the restrictive policy permits.** -/
theorem permitsEgress_iff (r : NetworkPolicyReconciler) (labels : StringMap) {protocol : String}
    {port : ℕ} :
    ((r.discoverKubeAPIServerCIDRs (.ok ep)).restrictiveSpec labels).permitsEgress T a protocol
        port = true ↔
      (protocol = "TCP" ∧ port = 6443) ∧
        ∃ ip ∈ ep.ips, (T.parseCIDR (ip ++ "/32")).any (·.contains a) = true := by
  have htypes : (["Ingress", "Egress"] : List String).contains "Egress" = true := by decide
  rw [NetworkPolicySpec.permitsEgress, NetworkPolicyReconciler.restrictiveSpec, htypes,
    Bool.not_true, Bool.false_or, NetworkPolicyReconciler.kubeAPIEgressRules, cidrs_discover]
  by_cases hips : ep.ips = []
  · rw [hips]
    refine iff_of_false Bool.false_ne_true ?_
    rintro ⟨_, ip, hip, _⟩
    exact absurd hip not_mem_nil
  · have hempty : (ep.ips.map (· ++ "/32")).isEmpty = false := by simpa using hips
    rw [hempty, if_neg Bool.false_ne_true, any_cons, any_nil, Bool.or_false,
      EgressRule.admits, Bool.and_eq_true]
    refine and_congr ?_ ?_
    · simp [Prod.ext_iff]
    · rw [isEmpty_map, hempty, Bool.false_or, any_map, any_map, any_eq_true]
      rfl

/-- **The egress of a restrictive policy is exact** – TCP to port 6443 of the listed addresses, and
nothing else – just if, with a listed address of the second family, all the addresses that have its
first 32 bits are listed too. This takes a list of at least `2 ^ 96` addresses; in a shorter one it
says that all are of the first family. Without addresses nothing is permitted. -/
theorem egress_exact_iff (T : AddressText) (r : NetworkPolicyReconciler) (ep : Endpoints)
    (labels : StringMap) :
    ((∀ a protocol port,
        ((r.discoverKubeAPIServerCIDRs (.ok ep)).restrictiveSpec labels).permitsEgress T a protocol
            port = true ↔ (protocol = "TCP" ∧ port = 6443) ∧ ep.Lists T a) ↔
      ∀ x, ep.Lists T (.v6 x) → ∀ y : BitVec 128, y >>> 96 = x >>> 96 → ep.Lists T (.v6 y)) ∧
    (ep.ips.length < 2 ^ 96 →
      ((∀ x, ep.Lists T (.v6 x) → ∀ y : BitVec 128, y >>> 96 = x >>> 96 → ep.Lists T (.v6 y)) ↔
        ∀ x, ¬ ep.Lists T (.v6 x))) ∧
    (ep.ips = [] → ∀ a protocol port,
      ((r.discoverKubeAPIServerCIDRs (.ok ep)).restrictiveSpec labels).permitsEgress T a protocol
        port = false) := by
  refine ⟨⟨fun h x hx y hy => ?_, fun h a protocol port => ?_⟩, fun hlength => ⟨fun h x hx => ?_,
    fun h x hx => absurd hx (h x)⟩, fun hnone a protocol port => ?_⟩
  · have hpermits := (permitsEgress_iff r labels).mpr
      ⟨⟨rfl, rfl⟩, exists_block_iff.mpr (.inr ⟨x, y, rfl, hx, hy⟩)⟩
    exact ((h (.v6 y) "TCP" 6443).mp hpermits).2
  · rw [permitsEgress_iff, exists_block_iff]
    refine and_congr_right fun _ => ⟨?_, .inl⟩
    rintro (hlists | ⟨x, y, rfl, hx, hy⟩)
    · exact hlists
    · exact h x hx y hy
  · -- The listed addresses are at most as many as the texts.
    have hall : ∀ y : BitVec 128, y >>> 96 = x >>> 96 →
        Address.v6 y ∈ ep.ips.filterMap T.parseAddr := fun y hy =>
      mem_filterMap.mpr (h x hx y hy)
    exact absurd ((two_pow_le_length hall).trans (length_filterMap_le _ _)) (not_le.mpr hlength)
  · refine Bool.eq_false_iff.mpr fun h => ?_
    obtain ⟨-, ip, hip, -⟩ := (permitsEgress_iff r labels).mp h
    rw [hnone] at hip
    cases hip

/-- Two addresses, one of each family. -/
def twoAddresses : AddressText where
  parseAddr s :=
    if s = "10.0.0.1" then some (.v4 0x0a000001)
    else if s = "2001:db8::1" then some (.v6 0x20010db8000000000000000000000001)
    else none
  no_slash s a h := by
    split at h
    · rename_i hs
      subst hs
      decide
    · split at h
      · rename_i hs
        subst hs
        decide
      · cases h

/-- **A policy that lets out too much**: the only API server is `2001:db8::1`, and the policy
permits traffic to `2001:db8:5::7`, which is not listed. -/
theorem egress_too_wide :
    let r : NetworkPolicyReconciler :=
      { operatorNamespace := "rossoctl-system", clusterDefaultsNamespace := "rossoctl-system" }
    let ep : Endpoints := ⟨[["2001:db8::1"]]⟩
    let other : Address := .v6 0x20010db8000500000000000000000007
    ((r.discoverKubeAPIServerCIDRs (.ok ep)).restrictiveSpec ∅).permitsEgress twoAddresses other
      "TCP" 6443 = true ∧ ¬ ep.Lists twoAddresses other := by
  decide +kernel

end Rossoctl.Cards
