import Rossoctl.GoMap

/-!
# Objects of a Kubernetes API server

The parts of the API conventions that controllers share: namespaced names,
status conditions – a map from the type of a condition to its status, reason and
message –, the parsing of an `apiVersion`, and the finalizers of an object, of
which the API server lets go only when it is being deleted and has none left.
-/

namespace Rossoctl.Kube

open List

/-- The name of a namespaced object. -/
structure NamespacedName where
  ns : String
  name : String
  deriving DecidableEq

/-- A map of labels or annotations. -/
abbrev StringMap := GoMap String String

/-! ### Texts -/

/-- The escapes of Go that have a letter of their own. -/
def goEscapes : List (Char × Char) :=
  [('"', '"'), ('\\', '\\'), ('\x07', 'a'), ('\x08', 'b'), ('\x0c', 'f'), ('\n', 'n'), ('\r', 'r'),
    ('\t', 't'), ('\x0b', 'v')]

/-- A text as the verb `%q` of `fmt` prints it; characters beyond ASCII are taken to be
printable. -/
def quoted (s : String) : String :=
  "\"" ++ String.ofList (s.toList.flatMap fun c =>
    match goEscapes.lookup c with
    | some e => ['\\', e]
    | none =>
      if c.toNat < 32 ∨ c.toNat = 127 then
        ['\\', 'x', Nat.digitChar (c.toNat / 16), Nat.digitChar (c.toNat % 16)]
      else [c]) ++ "\""

/-! ### Strings with a given beginning -/

/-- `strings.HasPrefix`. -/
def hasPrefix (s start : String) : Bool := start.toList.isPrefixOf s.toList

theorem hasPrefix_iff {s start : String} : hasPrefix s start = true ↔ ∃ t, s = start ++ t := by
  rw [hasPrefix, isPrefixOf_iff_prefix]
  constructor
  · rintro ⟨t, ht⟩
    refine ⟨String.ofList t, String.toList_inj.mp ?_⟩
    rw [String.toList_append, String.toList_ofList, ht]
  · rintro ⟨t, rfl⟩
    exact ⟨t.toList, by rw [String.toList_append]⟩

theorem hasPrefix_append (start t : String) : hasPrefix (start ++ t) start = true :=
  hasPrefix_iff.mpr ⟨t, rfl⟩

variable {α : Type*} {a : α} {deleting : Bool} {finalizers : List String}

/-- Cutting a list before the last occurrence of an item, from behind. -/
theorem dropWhile_reverse_append_cons [DecidableEq α] (l : List α)
    {m : List α} (h : a ∉ m) : (l ++ a :: m).reverse.dropWhile (· ≠ a) = a :: l.reverse := by
  have hm : ∀ b ∈ m.reverse, decide (b ≠ a) = true := by
    intro b hb
    rw [decide_eq_true_eq]
    rintro rfl
    exact h (mem_reverse.mp hb)
  rw [reverse_append, reverse_cons, append_assoc, singleton_append,
    dropWhile_append_of_pos hm, dropWhile_cons_of_neg (by simp)]

/-- **A text up to its first separator** and the rest are determined by the whole. -/
theorem append_cons_inj {l l' m m' : List α} (hl : a ∉ l) (hl' : a ∉ l')
    (h : l ++ a :: m = l' ++ a :: m') : l = l' ∧ m = m' := by
  induction l generalizing l' with
  | nil =>
    cases l' with
    | nil => exact ⟨rfl, (List.cons.inj h).2⟩
    | cons c l' =>
      obtain rfl := (List.cons.inj h).1
      exact absurd mem_cons_self hl'
  | cons c l ih =>
    cases l' with
    | nil =>
      obtain rfl := (List.cons.inj h).1
      exact absurd mem_cons_self hl
    | cons c' l' =>
      obtain ⟨rfl, htail⟩ := List.cons.inj h
      obtain ⟨rfl, rfl⟩ := ih (fun hc => hl (mem_cons_of_mem _ hc))
        (fun hc => hl' (mem_cons_of_mem _ hc)) htail
      exact ⟨rfl, rfl⟩

/-! ### Conditions -/

/-- The status of a condition. -/
inductive ConditionStatus where
  | conditionTrue
  | conditionFalse
  | conditionUnknown
  deriving DecidableEq

/-- A condition, without its type. -/
structure Condition where
  status : ConditionStatus
  reason : String
  message : String
  deriving DecidableEq

/-- The conditions of an object, by type. -/
abbrev Conditions := GoMap String Condition

/-- A condition is there and is true. -/
def isStatusConditionTrue (conditions : Conditions) (type : String) : Bool :=
  (conditions.lookup type).any fun c => c.status = .conditionTrue

theorem isStatusConditionTrue_congr {cs cs' : Conditions} {type : String}
    (h : cs.lookup type = cs'.lookup type) :
    isStatusConditionTrue cs type = isStatusConditionTrue cs' type := by
  rw [isStatusConditionTrue, h, isStatusConditionTrue]

/-! ### Group and version -/

/-- `schema.ParseGroupVersion`: the group and the version of an `apiVersion`. -/
def parseGroupVersion (gv : String) : Except String (String × String) :=
  match gv.toList.splitOn '/' with
  | [version] => .ok ("", String.ofList version)
  | [group, version] => .ok (String.ofList group, String.ofList version)
  | _ => .error ("unexpected GroupVersion string: " ++ gv)

/-! ### Finalizers -/

/-- What the API server keeps of an object with these finalizers: an object that is
being deleted goes away with its last finalizer. -/
def retained {α : Type} (deleting : Bool) (finalizers : List String) (object : α) : Option α :=
  if deleting && finalizers.isEmpty then none else some object

theorem retained_of_mem {α : Type} {f : String}
    (h : f ∈ finalizers) (object : α) : retained deleting finalizers object = some object := by
  rw [retained, isEmpty_eq_false_iff.mpr (ne_nil_of_mem h), Bool.and_false,
    if_neg Bool.false_ne_true]

theorem eq_of_retained {α : Type} {object o : α}
    (h : retained deleting finalizers object = some o) : o = object := by
  rw [retained] at h
  split at h
  · cases h
  · exact (Option.some.inj h).symm

/-- Put an object into a map, or take it out. -/
def put {K V : Type} [DecidableEq K] (m : GoMap K V) (k : K) : Option V → GoMap K V
  | none => m.erase k
  | some v => m.insert k v

theorem lookup_put {K V : Type} [DecidableEq K] (m : GoMap K V) (k k' : K) (v : Option V) :
    (put m k v).lookup k' = if k' = k then v else m.lookup k' := by
  cases v with
  | none => exact GoMap.lookup_erase_ite m k k'
  | some v => exact GoMap.lookup_insert_ite m k k' v

end Rossoctl.Kube
