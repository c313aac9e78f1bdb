import Mathlib
import TableDiff.Column

/-!
# Lists by keys

Columns and tables are paired by sorting two lists by key and going through them side by side.
Where no key comes twice, the order by key is determined, and the partner of an element is the one
element of the other list that has its key.
-/

namespace TableDiff

variable {α : Type} {key : α → String}

/-- `sorted` has the elements of `xs`, and its keys increase from each element to the next. -/
structure InKeyOrder (key : α → String) (xs sorted : List α) : Prop where
  perm : sorted.Perm xs
  increasing : sorted.Pairwise fun a b => key a < key b

theorem key_le_total (a b : α) : (decide (key a ≤ key b) || decide (key b ≤ key a)) = true := by
  simpa using le_total (key a) (key b)

theorem key_le_trans (a b c : α) (hab : decide (key a ≤ key b) = true)
    (hbc : decide (key b ≤ key c) = true) : decide (key a ≤ key c) = true :=
  decide_eq_true (le_trans (of_decide_eq_true hab) (of_decide_eq_true hbc))

theorem pairwise_key_mergeSort (xs : List α) :
    (xs.mergeSort fun a b => decide (key a ≤ key b)).Pairwise fun a b => key a ≤ key b := by
  simpa using List.pairwise_mergeSort key_le_trans key_le_total xs

/-- Two lists have the same keys among the elements that are kept, once sorted, if they had them in
any order. -/
theorem map_key_filter_mergeSort_eq_iff {p : α → Bool} {es as : List α} :
    ((es.mergeSort fun a b => decide (key a ≤ key b)).filter p).map key =
        ((as.mergeSort fun a b => decide (key a ≤ key b)).filter p).map key ↔
      ((es.filter p).map key).Perm ((as.filter p).map key) := by
  have hperm : ∀ xs : List α,
      (((xs.mergeSort fun a b => decide (key a ≤ key b)).filter p).map key).Perm
        ((xs.filter p).map key) := fun xs => ((List.mergeSort_perm xs _).filter p).map key
  have hsorted : ∀ xs : List α,
      (((xs.mergeSort fun a b => decide (key a ≤ key b)).filter p).map key).Pairwise (· ≤ ·) :=
    fun xs => List.pairwise_map.mpr ((pairwise_key_mergeSort xs).filter p)
  constructor
  · intro h
    exact (hperm es).symm.trans (h ▸ hperm as)
  · intro h
    exact List.Perm.eq_of_pairwise (fun _ _ _ _ => le_antisymm) (hsorted es) (hsorted as)
      ((hperm es).trans (h.trans (hperm as).symm))

theorem map_key_mergeSort_eq_iff {es as : List α} :
    (es.mergeSort fun a b => decide (key a ≤ key b)).map key =
        (as.mergeSort fun a b => decide (key a ≤ key b)).map key ↔
      (es.map key).Perm (as.map key) := by
  simpa using @map_key_filter_mergeSort_eq_iff α key (fun _ => true) es as

/-- Without repeated keys a stable sort by key gives the order by key. -/
theorem inKeyOrder_mergeSort {xs : List α} (hnodup : (xs.map key).Nodup) :
    InKeyOrder key xs (xs.mergeSort fun a b => decide (key a ≤ key b)) := by
  have hperm := List.mergeSort_perm xs fun a b => decide (key a ≤ key b)
  -- Equal keys would have to come from one element.
  have hne : (xs.mergeSort fun a b => decide (key a ≤ key b)).Pairwise fun a b => key a ≠ key b :=
    List.pairwise_map.mp ((hperm.map key).nodup_iff.mpr hnodup)
  exact ⟨hperm, (pairwise_key_mergeSort xs).imp₂ (fun a b h h' => lt_of_le_of_ne h h') hne⟩

/-- With distinct keys the element of a key is the one that is found. -/
theorem find?_key_of_nodup {xs : List α} {x : α} (hnodup : (xs.map key).Nodup) (hx : x ∈ xs) :
    xs.find? (key · == key x) = some x := by
  induction xs with
  | nil => cases hx
  | cons y xs ih =>
    rw [List.map_cons, List.nodup_cons] at hnodup
    rcases List.mem_cons.mp hx with rfl | hrest
    · rw [List.find?_cons_of_pos (by simp)]
    · have hne : key y ≠ key x := fun h => hnodup.1 (h ▸ List.mem_map_of_mem hrest)
      rw [List.find?_cons_of_neg (by simpa using hne)]
      exact ih hnodup.2 hrest

/-- A stable sort by key does not change which element of a key is the first. -/
theorem find?_mergeSort_key (xs : List α) (k : String) :
    (xs.mergeSort fun a b => decide (key a ≤ key b)).find? (key · == k) =
      xs.find? (key · == k) := by
  have hsame : (xs.filter (key · == k)).Pairwise fun a b => decide (key a ≤ key b) = true := by
    refine List.Pairwise.imp_of_mem (R := fun _ _ => True) (fun {a b} ha hb _ => ?_)
      (List.pairwise_of_forall fun _ _ => trivial)
    have hak : key a = k := by simpa using (List.mem_filter.mp ha).2
    have hbk : key b = k := by simpa using (List.mem_filter.mp hb).2
    exact decide_eq_true (le_of_eq (hak.trans hbk.symm))
  -- The elements of the key are in order already, so they stay as they are.
  have hkept : (xs.filter (key · == k)).Sublist
      ((xs.mergeSort fun a b => decide (key a ≤ key b)).filter (key · == k)) := by
    have hsublist := (List.sublist_mergeSort key_le_trans key_le_total hsame
      List.filter_sublist).filter (key · == k)
    rwa [List.filter_filter, funext fun a => Bool.and_self _] at hsublist
  have hlength : (xs.filter (key · == k)).length =
      ((xs.mergeSort fun a b => decide (key a ≤ key b)).filter (key · == k)).length :=
    ((List.mergeSort_perm xs _).filter _).length_eq.symm
  rw [← List.head?_filter, ← List.head?_filter, hkept.eq_of_length hlength]

/-- Without repeated keys the order by key does not depend on the order before. -/
theorem mergeSort_key_eq_of_perm {xs ys : List α} (hnodup : (xs.map key).Nodup)
    (hperm : ys.Perm xs) :
    (ys.mergeSort fun a b => decide (key a ≤ key b)) =
      xs.mergeSort fun a b => decide (key a ≤ key b) := by
  have hys := inKeyOrder_mergeSort (((hperm.map key).nodup_iff).mpr hnodup)
  have hxs := inKeyOrder_mergeSort hnodup
  exact List.Perm.eq_of_pairwise (fun a b _ _ hab hba => absurd hab (lt_asymm hba))
    hys.increasing hxs.increasing (hys.perm.trans (hperm.trans hxs.perm.symm))

/-- Nor does the element that is found by a key. -/
theorem find?_key_eq_of_perm {xs ys : List α} (hnodup : (xs.map key).Nodup) (hperm : ys.Perm xs)
    (k : String) : ys.find? (key · == k) = xs.find? (key · == k) := by
  rw [← find?_mergeSort_key ys, mergeSort_key_eq_of_perm hnodup hperm, find?_mergeSort_key]

/-- Lists of the same keys side by side pair elements of one key. -/
theorem key_eq_of_mem_zip {es as : List α} (hkeys : es.map key = as.map key) {p : α × α}
    (hp : p ∈ es.zip as) : key p.1 = key p.2 := by
  induction es generalizing as with
  | nil => simp at hp
  | cons e es ih =>
    cases as with
    | nil => simp at hp
    | cons a as =>
      simp only [List.map_cons, List.cons.injEq] at hkeys
      rcases List.mem_cons.mp hp with rfl | hrest
      · exact hkeys.1
      · exact ih hkeys.2 hrest

/-- Where no key comes twice, the partner is the only element of the key. -/
theorem zip_eq_filterMap_find? {es as bs : List α} (hkeys : es.map key = as.map key)
    (hsub : ∀ a ∈ as, a ∈ bs) (hnodup : (bs.map key).Nodup) :
    es.zip as = es.filterMap fun e => (bs.find? (key · == key e)).map (e, ·) := by
  induction es generalizing as with
  | nil => simp
  | cons e es ih =>
    cases as with
    | nil => simp at hkeys
    | cons a as =>
      simp only [List.map_cons, List.cons.injEq] at hkeys
      obtain ⟨hkey, hrest⟩ := hkeys
      -- The head of the other list has the key, and nothing else in `bs` has it.
      have hfind : bs.find? (key · == key e) = some a := by
        rw [hkey]
        exact find?_key_of_nodup hnodup (hsub a List.mem_cons_self)
      rw [List.zip_cons_cons, List.filterMap_cons, hfind,
        ih hrest fun b hb => hsub b (List.mem_cons_of_mem a hb)]
      rfl

/-- A filter by key keeps lists of the same keys in step. -/
theorem map_key_filter_eq {p : α → Bool} {es as : List α}
    (hp : ∀ a b, key a = key b → p a = p b) (hkeys : es.map key = as.map key) :
    (es.filter p).map key = (as.filter p).map key := by
  induction es generalizing as with
  | nil =>
    cases as with
    | nil => rfl
    | cons a as => simp at hkeys
  | cons e es ih =>
    cases as with
    | nil => simp at hkeys
    | cons a as =>
      simp only [List.map_cons, List.cons.injEq] at hkeys
      obtain ⟨hkey, hrest⟩ := hkeys
      rw [List.filter_cons, List.filter_cons, hp e a hkey]
      split
      · rw [List.map_cons, List.map_cons, hkey, ih hrest]
      · exact ih hrest

end TableDiff
