import Mathlib.Data.List.AList
import Mathlib.Data.List.Dedup
import MGMDB.Foundation

/-!
# Dictionaries

The dictionary a row method fills, column by column.  A later column of the same
name replaces an earlier one.
-/

namespace MGMDB

/-- A dictionary with strings as keys. -/
abbrev NSDictionary := AList fun _ : NSString => Obj

/-- `setObject:forKey:` for each pair in turn. -/
def setObjects : List NSString → List Obj → NSDictionary → NSDictionary
  | key :: keys, o :: os, d => setObjects keys os (d.insert key o)
  | _, _, d => d

/-- Other names leave an entry alone. -/
theorem lookup_setObjects_of_not_mem {key : NSString} :
    ∀ (keys : List NSString) (os : List Obj) (d : NSDictionary), key ∉ keys →
      (setObjects keys os d).lookup key = d.lookup key := by
  intro keys os d h
  induction keys generalizing os d with
  | nil => simp [setObjects]
  | cons k keys ih =>
      cases os with
      | nil => simp [setObjects]
      | cons o os =>
          rw [List.mem_cons, not_or] at h
          rw [setObjects, ih os _ h.2, AList.lookup_insert_ne h.1]

/-- The entry of the last column of a name is the object of that column. -/
theorem lookup_setObjects {key : NSString} :
    ∀ (keys : List NSString) (os : List Obj) (d : NSDictionary) (i : Nat) {o : Obj},
      keys[i]? = some key → os[i]? = some o → (∀ j, i < j → keys[j]? ≠ some key) →
      (setObjects keys os d).lookup key = some o := by
  intro keys os d i o hk ho hlast
  induction keys generalizing os d i with
  | nil => simp at hk
  | cons k keys ih =>
      cases os with
      | nil => simp at ho
      | cons p os =>
          cases i with
          | zero =>
              simp only [List.getElem?_cons_zero, Option.some.injEq] at hk ho
              subst hk ho
              have hmem : k ∉ keys := by
                intro hm
                obtain ⟨j, hj⟩ := List.mem_iff_getElem?.mp hm
                exact hlast (j + 1) (Nat.succ_pos j) (by simpa using hj)
              rw [setObjects, lookup_setObjects_of_not_mem keys os _ hmem, AList.lookup_insert]
          | succ i =>
              simp only [List.getElem?_cons_succ] at hk ho
              rw [setObjects]
              refine ih os _ i hk ho ?_
              intro j hj
              simpa using hlast (j + 1) (Nat.succ_lt_succ hj)

theorem mem_setObjects {key : NSString} :
    ∀ {keys : List NSString} {os : List Obj} (d : NSDictionary), keys.length = os.length →
      (key ∈ setObjects keys os d ↔ key ∈ keys ∨ key ∈ d) := by
  intro keys os d h
  induction keys generalizing os d with
  | nil => simp [setObjects]
  | cons k keys ih =>
      cases os with
      | nil => simp at h
      | cons o os =>
          have hlen : keys.length = os.length := Nat.succ_inj.mp h
          rw [setObjects, ih _ hlen, AList.mem_insert, List.mem_cons]
          tauto

/-! ## Rows as dictionaries -/

/-- The dictionary of a row: the names of the columns are its keys, and under a
name stands the object of the last column of that name. -/
structure LastOfEachName (names : List NSString) (os : List Obj) (d : NSDictionary) : Prop where
  mem_iff : ∀ key, key ∈ d ↔ key ∈ names
  lookup : ∀ (i : Nat) (key : NSString), names[i]? = some key →
    (∀ j, i < j → names[j]? ≠ some key) → d.lookup key = os[i]?

/-- A dictionary with one entry for each column, which is the object of that
column. -/
structure OneOfEachColumn (names : List NSString) (os : List Obj) (d : NSDictionary) : Prop where
  length_keys : d.keys.length = names.length
  lookup : ∀ (i : Nat) (key : NSString), names[i]? = some key → d.lookup key = os[i]?

section
variable {names : List NSString} {os : List Obj} {d : NSDictionary}

theorem lastOfEachName_setObjects (hlen : names.length = os.length) :
    LastOfEachName names os (setObjects names os ∅) where
  mem_iff key := by simp [mem_setObjects _ hlen]
  lookup i key hkey hlast := by
    have hi : i < os.length := by
      obtain ⟨h, -⟩ := List.getElem?_eq_some_iff.mp hkey
      omega
    rw [List.getElem?_eq_getElem hi]
    exact lookup_setObjects _ _ _ i hkey (List.getElem?_eq_getElem hi) hlast

/-- There are as many entries as different names. -/
theorem LastOfEachName.length_keys (h : LastOfEachName names os d) :
    d.keys.length = names.dedup.length := by
  refine List.Perm.length_eq ?_
  refine (List.perm_ext_iff_of_nodup d.nodupKeys (List.nodup_dedup names)).mpr ?_
  intro key
  rw [List.mem_dedup]
  exact h.mem_iff key

theorem LastOfEachName.oneOfEachColumn_iff (h : LastOfEachName names os d) :
    OneOfEachColumn names os d ↔ names.Nodup := by
  constructor
  · intro hone
    have hlen := h.length_keys.symm.trans hone.length_keys
    exact List.dedup_eq_self.mp ((List.dedup_sublist names).eq_of_length hlen)
  · intro hnodup
    refine ⟨?_, ?_⟩
    · rw [h.length_keys, List.dedup_eq_self.mpr hnodup]
    · intro i key hkey
      refine h.lookup i key hkey ?_
      intro j hij hj
      -- no other column has the name
      obtain ⟨hi, -⟩ := List.getElem?_eq_some_iff.mp hkey
      exact absurd ((List.getElem?_inj hi hnodup).mp (hkey.trans hj.symm)) (by omega)

end

end MGMDB
