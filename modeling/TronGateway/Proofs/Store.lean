import TronGateway.Store
set_option autoImplicit false

/-!
# What a store holds

A text that was put under a key is found there, and the texts under the other keys stay.
-/

namespace TronGateway.Store

theorem lookup_putEntry (key value : String) (entries : List (String × String)) :
    (putEntry key value entries).lookup key = some value := by
  induction entries with
  | nil => exact List.lookup_cons_self
  | cons entry rest ih =>
      rw [putEntry]
      by_cases same : entry.1 = key
      · rw [if_pos same]
        exact List.lookup_cons_self
      · rw [if_neg same, List.lookup_cons, beq_eq_false_iff_ne.mpr (Ne.symm same)]
        exact ih

theorem lookup_putEntry_other {key other : String} (different : other ≠ key) (value : String)
    (entries : List (String × String)) :
    (putEntry key value entries).lookup other = entries.lookup other := by
  have missed : (other == key) = false := beq_eq_false_iff_ne.mpr different
  induction entries with
  | nil =>
      rw [putEntry, List.lookup_cons, missed]
  | cons entry rest ih =>
      rw [putEntry]
      by_cases same : entry.1 = key
      · rw [if_pos same, List.lookup_cons, List.lookup_cons, same, missed]
      · rw [if_neg same, List.lookup_cons, List.lookup_cons, ih]

theorem get?_put (store : Store) (key value : String) :
    (store.put key value).get? key = some value :=
  lookup_putEntry key value store.entries

theorem get?_put_other (store : Store) {key other : String} (different : other ≠ key)
    (value : String) : (store.put key value).get? other = store.get? other :=
  lookup_putEntry_other different value store.entries

theorem get?_put_named {key : String → String}
    (injective : ∀ {first second : String}, key first = key second → first = second)
    (store : Store) (name other value : String) :
    (store.put (key name) value).get? (key other) =
      (if name = other then some value else none).or (store.get? (key other)) := by
  by_cases same : name = other
  · rw [if_pos same, same, get?_put, Option.some_or]
  · have different : key other ≠ key name := fun keys => same (injective keys).symm
    rw [if_neg same, get?_put_other _ different, Option.none_or]

end TronGateway.Store
