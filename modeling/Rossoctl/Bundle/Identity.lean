import Mathlib.Data.List.TakeWhile
import Rossoctl.Bundle.Provider

/-!
# The identity in a request

A client names itself by its SPIFFE path, `trust-domain/ns/namespace/sa/name`, and
`internal/bundleservice/spiffeid` takes the path apart
(`Rossoctl.Bundle.SpiffeID.parse`): what stands before the first slash is the trust
domain, and the rest is split at every slash. Written forwards the path is
`Rossoctl.Bundle.SpiffeID.text`, and parsing is its exact inverse, on the identities
whose three parts are not empty and hold no slash.

So the namespace of a client has no slash in it, which is what `ClientIdentity`
carries, and the key of its caches is the key under which the watcher looks its
object up and empties the caches.
-/

namespace Rossoctl.Bundle

open List

/-- `spiffeid.Identity`. -/
structure SpiffeID where
  trustDomain : String
  ns : String
  name : String
  deriving DecidableEq

namespace SpiffeID

/-- `strings.Split(s, "/")`. -/
def split (s : List Char) : List String := (s.splitOn '/').map String.ofList

/-- **`spiffeid.Parse`**, with the quoting of `%q` as `quote`. -/
def parse (quote : String → String) (raw : String) : Except String SpiffeID :=
  match raw.toList.dropWhile (· ≠ '/') with
  | [] => .error ("SPIFFE ID missing path: " ++ quote raw)
  | _ :: path =>
    let trustDomain := String.ofList (raw.toList.takeWhile (· ≠ '/'))
    let mismatch := "SPIFFE ID path must be ns/\x7bnamespace\x7d/sa/\x7bname\x7d, got " ++
      quote (String.ofList path)
    if trustDomain = "" then .error ("SPIFFE ID has empty trust domain: " ++ quote raw)
    else match split path with
      | [part0, ns, part2, name] =>
        if part0 ≠ "ns" ∨ part2 ≠ "sa" then .error mismatch
        else if ns = "" ∨ name = "" then
          .error ("SPIFFE ID has empty namespace or name: " ++ quote raw)
        else .ok { trustDomain, ns, name }
      | _ => .error mismatch

/-- The path of an identity. -/
def text (id : SpiffeID) : String := id.trustDomain ++ "/ns/" ++ id.ns ++ "/sa/" ++ id.name

/-- A part of a path: something, with no slash in it. -/
def IsPart (s : String) : Prop := s ≠ "" ∧ NoSlash s

/-- The identities that a path can name. -/
structure WellFormed (id : SpiffeID) : Prop where
  trustDomain : IsPart id.trustDomain
  ns : IsPart id.ns
  name : IsPart id.name

variable {quote : String → String} {raw : String} {id : SpiffeID} {s : List Char}

theorem notMem_of_mem_splitOn {l : List Char} (h : l ∈ s.splitOn '/') : '/' ∉ l := by
  induction s generalizing l with
  | nil =>
    rw [splitOn_nil, mem_singleton] at h
    simp [h]
  | cons c s ih =>
    rw [splitOn_cons_eq_if_modifyHead] at h
    split at h
    · rcases mem_cons.mp h with rfl | h
      · exact not_mem_nil
      · exact ih h
    · obtain ⟨first, rest, hs⟩ := exists_cons_of_ne_nil (splitOn_ne_nil '/' s)
      rw [hs] at h ih
      rcases mem_cons.mp h with rfl | h
      · refine not_mem_cons_of_ne_of_not_mem (fun hc => ?_) (ih mem_cons_self)
        exact ‹¬ _› (beq_iff_eq.mpr hc.symm)
      · exact ih (mem_cons_of_mem _ h)

/-- **What splitting gives**: the slash-free texts that, joined by slashes, are the
text. -/
theorem split_eq_iff {parts : List String} (hne : parts ≠ []) :
    split s = parts ↔ (∀ part ∈ parts, NoSlash part) ∧
      s = ['/'].intercalate (parts.map String.toList) := by
  constructor
  · rintro rfl
    refine ⟨fun part hpart => ?_, ?_⟩
    · obtain ⟨l, hl, rfl⟩ := mem_map.mp hpart
      rw [NoSlash, String.toList_ofList]
      exact notMem_of_mem_splitOn hl
    · simp [split, Function.comp_def, intercalate_splitOn]
  · rintro ⟨hparts, rfl⟩
    rw [split, splitOn_intercalate '/' _ (by simpa using hne)]
    · simp [Function.comp_def]
    · intro l hl
      obtain ⟨part, hpart, rfl⟩ := mem_map.mp hl
      exact hparts part hpart

/-- Parsing, with the text cut at its first slash. -/
theorem parse_eq_ok_iff_of_cut {trustDomain path : List Char} (hnot : '/' ∉ trustDomain)
    (hraw : raw.toList = trustDomain ++ '/' :: path) :
    parse quote raw = .ok id ↔ id.trustDomain = String.ofList trustDomain ∧
      id.trustDomain ≠ "" ∧ split path = ["ns", id.ns, "sa", id.name] ∧
      id.ns ≠ "" ∧ id.name ≠ "" := by
  have hall : ∀ c ∈ trustDomain, decide (c ≠ '/') = true := by
    intro c hc
    simpa using ne_of_mem_of_not_mem hc hnot
  obtain ⟨td, ns, name⟩ := id
  rw [parse, hraw, dropWhile_append_of_pos hall, takeWhile_append_of_pos hall]
  simp only [ne_eq, not_true, decide_false, dropWhile_cons, takeWhile_cons,
    Bool.false_eq_true, if_false, append_nil]
  grind

/-- **Parsing inverts writing**: the identity that is read from a text is the one
whose path the text is. -/
theorem parse_eq_ok_iff : parse quote raw = .ok id ↔ id.WellFormed ∧ raw = id.text := by
  have htext : id.text.toList = id.trustDomain.toList ++ '/' ::
      ['/'].intercalate (["ns", id.ns, "sa", id.name].map String.toList) := by
    simp [text, intercalate]
  constructor
  · intro h
    by_cases hslash : '/' ∈ raw.toList
    · obtain ⟨trustDomain, path, hraw, hnot⟩ := eq_append_cons_of_mem hslash
      obtain ⟨htrust, hne, hparts, hns, hname⟩ := (parse_eq_ok_iff_of_cut hnot hraw).mp h
      obtain ⟨hno, hpath⟩ := (split_eq_iff (by simp)).mp hparts
      refine ⟨⟨⟨hne, by rwa [NoSlash, htrust, String.toList_ofList]⟩,
        ⟨hns, hno _ (by simp)⟩, hname, hno _ (by simp)⟩, ?_⟩
      rw [← String.toList_inj, hraw, htext, htrust, hpath, String.toList_ofList]
    · have hdrop : raw.toList.dropWhile (· ≠ '/') = [] := by
        rw [dropWhile_eq_nil_iff]
        intro c hc
        simpa using ne_of_mem_of_not_mem hc hslash
      rw [parse, hdrop] at h
      cases h
  · rintro ⟨hid, rfl⟩
    have hno : ∀ part ∈ ["ns", id.ns, "sa", id.name], NoSlash part := by
      simp [hid.ns.2, hid.name.2, show NoSlash "ns" by decide, show NoSlash "sa" by decide]
    exact (parse_eq_ok_iff_of_cut hid.trustDomain.2 htext).mpr
      ⟨String.ofList_toList.symm, hid.trustDomain.1,
        (split_eq_iff (by simp)).mpr ⟨hno, rfl⟩, hid.ns.1, hid.name.1⟩

end SpiffeID

/-- `identity.FromRequest`, given the value of the query parameter `spiffe`. -/
def fromRequest (quote : String → String) (spiffe : String) : Except String ClientIdentity :=
  if spiffe = "" then .error "missing client identity query parameter"
  else match h : SpiffeID.parse quote spiffe with
    | .error e => .error e
    | .ok id => .ok ⟨id.ns, id.name, (SpiffeID.parse_eq_ok_iff.mp h).1.ns.2⟩

/-- **Identities are read exactly, and their keys do not collide**: a text is read
as the one identity that it is the path of; the clients of two requests with
different names have different keys; and the key of a client is the one under which
the watcher finds its object, and the one it empties when the object of a client
changes. -/
theorem identity_exact (quote : String → String) :
    (∀ raw id, SpiffeID.parse quote raw = .ok id ↔ id.WellFormed ∧ raw = id.text) ∧
      ∀ raw raw' id id', fromRequest quote raw = .ok id → fromRequest quote raw' = .ok id' →
        ((id.ns, id.name) ≠ (id'.ns, id'.name) → id.cacheKey ≠ id'.cacheKey) ∧
        (∀ s, Watcher.getPolicy s id.name id.ns = s.objects.lookup id.cacheKey) ∧
        ∀ (w : Watcher) (u : AuthorizationPolicy), u.effectiveScope = .client →
          ((u.ns, u.name) = (id.ns, id.name) ↔
            w.invalidate u = [.invalidateETag id.cacheKey, .invalidateBundle id.cacheKey]) := by
  refine ⟨fun raw id => SpiffeID.parse_eq_ok_iff, fun raw raw' id id' _ _ => ⟨?_, ?_, ?_⟩⟩
  · intro hne hkey
    exact hne (by rw [ClientIdentity.cacheKey_inj hkey])
  · exact fun s => rfl
  · intro w u hu
    simp only [Watcher.invalidate, hu, cons.injEq, CacheOp.invalidateETag.injEq,
      CacheOp.invalidateBundle.injEq, and_true, and_self, Prod.mk.injEq]
    exact ⟨fun h => congrArg₂ objectKey h.1 h.2, objectKey_inj u.ns_noSlash id.ns_noSlash⟩

end Rossoctl.Bundle
