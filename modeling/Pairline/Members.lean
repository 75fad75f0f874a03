/-
**Lists of named members.**

A list of names with values, such as an object of JSON, is read by name; of two members with one name
the last one counts.  Two lists are the same when they are read alike, whatever the order of their
members.

Main definitions:

* `Members.get`, `Members.set` — reading a member, and writing or removing one;
* `Members.assign` — writing the members of one list into another, one by one;
* `Members.Same` — **two lists are read alike**;
* `Members.listed` — all the values that are listed with a name;
* `Members.given` — the members for which a value is given;
* `Members.sorted` — each name once, with its value, in order.

Main results:

* `Members.get_assign` — what is read after writing;
* `Members.same_of_perm` — the order of members with different names makes no difference;
* `Members.same_assign_given` — **writing the new values gives the list in which they stand**;
* `Members.eq_of_same` — two sorted lists that are read alike are the same list.
-/

import Mathlib.Data.List.Dedup
import Mathlib.Data.List.Nodup
import Mathlib.Data.List.Perm.Basic
import Mathlib.Data.List.Sort

set_option relaxedAutoImplicit false
set_option autoImplicit false

namespace Members

variable {κ α β : Type*} [BEq κ] [LawfulBEq κ]

/-! ### Reading and writing -/

/-- **Reading a member.** -/
def get (l : List (κ × α)) (k : κ) : Option α := l.reverse.lookup k

/-- A member is written, or removed. -/
def set (l : List (κ × α)) (k : κ) (v : Option α) : List (κ × α) :=
  l.filter (fun e => e.1 != k) ++ (v.map fun v => (k, v)).toList

/-- The members of a list are written one by one. -/
def assign (l members : List (κ × α)) : List (κ × α) :=
  members.foldl (fun l e => set l e.1 (some e.2)) l

omit [LawfulBEq κ] in
@[simp] theorem get_nil (k : κ) : get ([] : List (κ × α)) k = none := rfl

omit [LawfulBEq κ] in
theorem get_append (l l' : List (κ × α)) (k : κ) : get (l ++ l') k = (get l' k).or (get l k) := by
  rw [get, List.reverse_append, List.lookup_append]
  rfl

theorem get_singleton_self (k : κ) (v : α) : get [(k, v)] k = some v := by simp [get]

theorem get_singleton_of_ne {k k' : κ} (h : k' ≠ k) (v : α) : get [(k, v)] k' = none := by
  simp [get, h]

theorem get_cons_self (l : List (κ × α)) (k : κ) (v : α) :
    get ((k, v) :: l) k = (get l k).or (some v) := by
  have hcons : (k, v) :: l = [(k, v)] ++ l := rfl
  rw [hcons, get_append, get_singleton_self]

theorem get_cons_of_ne {k k' : κ} (h : k' ≠ k) (l : List (κ × α)) (v : α) :
    get ((k, v) :: l) k' = get l k' := by
  have hcons : (k, v) :: l = [(k, v)] ++ l := rfl
  rw [hcons, get_append, get_singleton_of_ne h, Option.or_none]

theorem get_filter_self (l : List (κ × α)) (k : κ) : get (l.filter fun e => e.1 != k) k = none := by
  rw [get, List.lookup_eq_none_iff]
  intro e he
  have hne := (List.mem_filter.1 (List.mem_reverse.1 he)).2
  simpa [bne_comm] using hne

theorem get_filter_of_ne {k k' : κ} (h : k' ≠ k) (l : List (κ × α)) :
    get (l.filter fun e => e.1 != k) k' = get l k' := by
  induction l with
  | nil => rfl
  | cons e l ih =>
      obtain ⟨name, v⟩ := e
      by_cases hname : name = k
      · rw [List.filter_cons_of_neg (by simp [hname]), ih, get_cons_of_ne (by rwa [hname])]
      · rw [List.filter_cons_of_pos (by simpa using hname)]
        by_cases heq : k' = name
        · rw [heq, get_cons_self, get_cons_self, ← heq, ih]
        · rw [get_cons_of_ne heq, get_cons_of_ne heq, ih]

/-- The members with some of the names. -/
theorem get_filter_name (p : κ → Bool) (l : List (κ × α)) (k : κ) :
    get (l.filter fun e => p e.1) k = if p k then get l k else none := by
  induction l with
  | nil => simp
  | cons e l ih =>
      obtain ⟨name, v⟩ := e
      by_cases hname : k = name
      · subst hname
        cases hp : p k with
        | false => simp [hp, ih]
        | true => simp [hp, ih, get_cons_self]
      · cases hp : p name with
        | false => simp [hp, ih, get_cons_of_ne hname]
        | true => simp [hp, ih, get_cons_of_ne hname]

@[simp] theorem get_set_self (l : List (κ × α)) (k : κ) (v : Option α) : get (set l k v) k = v := by
  rw [set, get_append, get_filter_self, Option.or_none]
  cases v with
  | none => rfl
  | some v => exact get_singleton_self k v

theorem get_set_of_ne {k k' : κ} (h : k' ≠ k) (l : List (κ × α)) (v : Option α) :
    get (set l k v) k' = get l k' := by
  rw [set, get_append, get_filter_of_ne h]
  cases v with
  | none => rfl
  | some v => rw [Option.map_some, Option.toList_some, get_singleton_of_ne h, Option.none_or]

/-- **What is read after writing**: the last value that was written, or else the old one. -/
theorem get_assign (l members : List (κ × α)) (k : κ) :
    get (assign l members) k = (get members k).or (get l k) := by
  induction members generalizing l with
  | nil => rfl
  | cons e members ih =>
      obtain ⟨name, v⟩ := e
      have hassign : assign l ((name, v) :: members) = assign (set l name (some v)) members := rfl
      rw [hassign, ih]
      by_cases h : k = name
      · rw [h, get_set_self, get_cons_self, Option.or_assoc, Option.some_or]
      · rw [get_set_of_ne h, get_cons_of_ne h]

/-- Every value is replaced by another. -/
theorem get_map (f : α → β) (l : List (κ × α)) (k : κ) :
    get (l.map fun e => (e.1, f e.2)) k = (get l k).map f := by
  induction l with
  | nil => rfl
  | cons e l ih =>
      obtain ⟨name, v⟩ := e
      rw [List.map_cons]
      by_cases h : k = name
      · rw [h, get_cons_self, get_cons_self, ← h, ih]
        cases get l k <;> rfl
      · rw [get_cons_of_ne h, get_cons_of_ne h, ih]

theorem get_eq_none_of_not_mem {l : List (κ × α)} {k : κ} (h : k ∉ l.map Prod.fst) :
    get l k = none := by
  rw [get, List.lookup_eq_none_iff]
  intro e he
  have hne : k ≠ e.1 := by
    rintro rfl
    exact h (List.mem_map_of_mem (List.mem_reverse.1 he))
  simpa using hne

theorem mem_of_get {l : List (κ × α)} {k : κ} {v : α} (h : get l k = some v) : (k, v) ∈ l := by
  induction l with
  | nil => cases h
  | cons e l ih =>
      obtain ⟨name, w⟩ := e
      by_cases hname : k = name
      · subst hname
        rw [get_cons_self] at h
        cases hrest : get l k with
        | none =>
            rw [hrest, Option.none_or] at h
            cases h
            exact List.mem_cons_self
        | some u =>
            rw [hrest, Option.some_or] at h
            exact List.mem_cons_of_mem _ (ih (hrest.trans h))
      · rw [get_cons_of_ne hname] at h
        exact List.mem_cons_of_mem _ (ih h)

/-- Of different names, each has the value that is listed with it. -/
theorem get_eq_some_iff {l : List (κ × α)} (hnodup : (l.map Prod.fst).Nodup) {k : κ} {v : α} :
    get l k = some v ↔ (k, v) ∈ l := by
  induction l with
  | nil => simp
  | cons e l ih =>
      obtain ⟨name, w⟩ := e
      obtain ⟨hname, hrest⟩ := List.nodup_cons.1 hnodup
      by_cases h : k = name
      · subst h
        rw [get_cons_self, get_eq_none_of_not_mem hname, Option.none_or, List.mem_cons]
        constructor
        · rintro ⟨⟩
          exact .inl rfl
        · rintro (heq | hmem)
          · cases heq
            rfl
          · exact absurd (List.mem_map_of_mem hmem) hname
      · rw [get_cons_of_ne h, ih hrest, List.mem_cons]
        refine (or_iff_right ?_).symm
        rintro heq
        cases heq
        exact h rfl

/-! ### Lists that are read alike -/

section Same

/-- **Two lists are read alike.** -/
def Same (l l' : List (κ × α)) : Prop := ∀ k, get l k = get l' k

omit [LawfulBEq κ] in
theorem Same.trans {l l' l'' : List (κ × α)} (h : Same l l') (h' : Same l' l'') : Same l l'' :=
  fun k => (h k).trans (h' k)

theorem Same.set {l l' : List (κ × α)} (h : Same l l') (k : κ) (v : Option α) :
    Same (set l k v) (set l' k v) := by
  intro k'
  by_cases hk : k' = k
  · rw [hk, get_set_self, get_set_self]
  · rw [get_set_of_ne hk, get_set_of_ne hk, h]

/-- **The order of members with different names makes no difference.** -/
theorem same_of_perm {l l' : List (κ × α)} (h : l.Perm l') (hnodup : (l'.map Prod.fst).Nodup) :
    Same l l' := by
  intro k
  have hnodup' : (l.map Prod.fst).Nodup := (h.map Prod.fst).nodup_iff.2 hnodup
  refine Option.ext fun v => ?_
  rw [get_eq_some_iff hnodup', get_eq_some_iff hnodup, h.mem_iff]

theorem Same.assign {l l' members members' : List (κ × α)} (h : Same l l')
    (hmembers : Same members members') : Same (assign l members) (assign l' members') := by
  intro k
  rw [get_assign, get_assign, h, hmembers]

end Same

/-! ### Members with new values -/

section Given

/-- The members for which a value is given. -/
def given (members : List (κ × Option α)) : List (κ × α) :=
  members.filterMap fun e => e.2.map fun v => (e.1, v)

omit [BEq κ] [LawfulBEq κ] in
theorem map_fst_given_sublist (members : List (κ × Option α)) :
    ((given members).map Prod.fst).Sublist (members.map Prod.fst) := by
  induction members with
  | nil => exact List.Sublist.refl _
  | cons e members ih =>
      obtain ⟨name, value⟩ := e
      cases value with
      | none => exact ih.cons _
      | some v => exact ih.cons_cons _

omit [BEq κ] [LawfulBEq κ] in
theorem forall_mem_given {members : List (κ × Option α)} {p : α → Prop}
    (h : ∀ e ∈ members, ∀ v ∈ e.2, p v) : ∀ e ∈ given members, p e.2 := by
  intro e he
  obtain ⟨e', hmem, hvalue⟩ := List.mem_filterMap.1 he
  obtain ⟨v, hv, rfl⟩ := Option.map_eq_some_iff.1 hvalue
  exact h e' hmem v hv

/-- A member that is given, of members with different names. -/
theorem get_given {members : List (κ × Option α)} (hnodup : (members.map Prod.fst).Nodup) (k : κ) :
    get (given members) k = (get members k).join := by
  induction members with
  | nil => rfl
  | cons e members ih =>
      obtain ⟨name, value⟩ := e
      obtain ⟨hname, hrest⟩ := List.nodup_cons.1 hnodup
      have hcons : given ((name, value) :: members) =
          (value.map fun v => (name, v)).toList ++ given members := by
        cases value <;> rfl
      rw [hcons, get_append, ih hrest]
      by_cases h : k = name
      · subst h
        rw [get_cons_self, get_eq_none_of_not_mem hname, Option.none_or]
        cases value with
        | none => rfl
        | some v => exact get_singleton_self k v
      · rw [get_cons_of_ne h]
        cases value with
        | none => exact Option.or_none
        | some v => rw [Option.map_some, Option.toList_some, get_singleton_of_ne h, Option.or_none]

/-- **Writing the new values gives the list in which they stand.** -/
theorem same_assign_given {rows : List (κ × Option α × α)} (hnodup : (rows.map Prod.fst).Nodup) :
    Same (assign (rows.map fun row => (row.1, row.2.2)) (given (rows.map fun row => (row.1, row.2.1))))
      (rows.map fun row => (row.1, row.2.1.getD row.2.2)) := by
  intro k
  rw [get_assign]
  induction rows with
  | nil => rfl
  | cons row rows ih =>
      obtain ⟨name, new, old⟩ := row
      obtain ⟨hname, hrest⟩ := List.nodup_cons.1 hnodup
      have hrows := ih hrest
      have hcons : given (((name, new, old) :: rows).map fun row => (row.1, row.2.1)) =
          (new.map fun v => (name, v)).toList ++ given (rows.map fun row => (row.1, row.2.1)) := by
        cases new <;> rfl
      rw [hcons, get_append, List.map_cons, List.map_cons]
      by_cases h : k = name
      · subst h
        have hold : get (rows.map fun row => (row.1, row.2.2)) k = none :=
          get_eq_none_of_not_mem (by simpa using hname)
        have hnew : get (given (rows.map fun row => (row.1, row.2.1))) k = none := by
          refine get_eq_none_of_not_mem fun hmem => hname ?_
          simpa using (map_fst_given_sublist _).subset hmem
        have hboth : get (rows.map fun row => (row.1, row.2.1.getD row.2.2)) k = none :=
          get_eq_none_of_not_mem (by simpa using hname)
        rw [get_cons_self, get_cons_self, hold, hnew, hboth]
        cases new with
        | none => rfl
        | some v => rw [Option.map_some, Option.toList_some, get_singleton_self]; rfl
      · have hnew : get ((new.map fun v => (name, v)).toList) k = none := by
          cases new with
          | none => rfl
          | some v => exact get_singleton_of_ne h v
        rw [get_cons_of_ne h, get_cons_of_ne h, ← hrows, hnew, Option.or_none]

end Given

/-! ### All values of a name -/

section Listed

/-- **All the values that are listed with a name**, in order. -/
def listed (l : List (κ × α)) (k : κ) : List α := (l.filter fun e => e.1 == k).map Prod.snd

theorem mem_listed {l : List (κ × α)} {k : κ} {v : α} : v ∈ listed l k ↔ (k, v) ∈ l := by
  simp [listed]

theorem get_eq_getLast_listed (l : List (κ × α)) (k : κ) : get l k = (listed l k).getLast? := by
  induction l with
  | nil => rfl
  | cons e l ih =>
      obtain ⟨name, v⟩ := e
      by_cases h : k = name
      · subst h
        have hcons : listed ((k, v) :: l) k = v :: listed l k := by simp [listed]
        rw [get_cons_self, hcons, List.getLast?_cons, ih]
        cases (listed l k).getLast? <;> rfl
      · have hcons : listed ((name, v) :: l) k = listed l k := by simp [listed, Ne.symm h]
        rw [get_cons_of_ne h, hcons, ih]

end Listed

/-! ### Sorted lists -/

section Sorted

variable {κ α : Type*} [LinearOrder κ]

/-- **Each name once, with its value, in the order of the names.** -/
def sorted (l : List (κ × α)) : List (κ × α) :=
  ((l.map Prod.fst).dedup.insertionSort (· ≤ ·)).filterMap fun k => (get l k).map fun v => (k, v)

/-- The names increase. -/
def Increasing (l : List (κ × α)) : Prop := (l.map Prod.fst).Pairwise (· < ·)

theorem Increasing.nodup {l : List (κ × α)} (h : Increasing l) : (l.map Prod.fst).Nodup :=
  h.imp fun hlt => hlt.ne

theorem Increasing.filter {l : List (κ × α)} (h : Increasing l) (p : κ × α → Bool) :
    Increasing (l.filter p) :=
  List.Pairwise.sublist (List.filter_sublist.map Prod.fst) h

/-- **Two sorted lists that are read alike are the same list.** -/
theorem eq_of_same {l l' : List (κ × α)} (h : Increasing l) (h' : Increasing l')
    (hsame : Same l l') : l = l' := by
  have hnodup {l : List (κ × α)} (h : Increasing l) : l.Nodup := h.nodup.of_map
  have hperm : l.Perm l' := by
    refine (List.perm_ext_iff_of_nodup (hnodup h) (hnodup h')).2 fun e => ?_
    obtain ⟨k, v⟩ := e
    rw [← get_eq_some_iff h.nodup, ← get_eq_some_iff h'.nodup, hsame]
  have hpairwise {l : List (κ × α)} (h : Increasing l) : l.Pairwise fun e e' => e.1 < e'.1 :=
    List.pairwise_map.1 h
  refine hperm.eq_of_pairwise ?_ (hpairwise h) (hpairwise h')
  intro e e' _ _ hlt hlt'
  exact absurd hlt' hlt.asymm

theorem get_sorted (l : List (κ × α)) (k : κ) : get (sorted l) k = get l k := by
  have hnames : ∀ names : List κ, get (names.filterMap fun k => (get l k).map fun v => (k, v)) k =
      if k ∈ names then get l k else none := by
    intro names
    induction names with
    | nil => rfl
    | cons name names ih =>
        rw [List.filterMap_cons]
        by_cases h : k = name
        · subst h
          cases hget : get l k with
          | none => simpa [hget] using ih
          | some v =>
              rw [hget] at ih
              simp only [Option.map_some, get_cons_self, ih]
              split_ifs <;> simp_all
        · cases hget : get l name with
          | none => simpa [h] using ih
          | some v => simpa [h, get_cons_of_ne h] using ih
  rw [sorted, hnames]
  split_ifs with h
  · rfl
  · refine (get_eq_none_of_not_mem fun hmem => h ?_).symm
    simpa using hmem

theorem increasing_sorted (l : List (κ × α)) : Increasing (sorted l) := by
  have hnames : ((l.map Prod.fst).dedup.insertionSort (· ≤ ·)).Pairwise (· < ·) := by
    have hle := List.pairwise_insertionSort (· ≤ ·) (l.map Prod.fst).dedup
    have hne : ((l.map Prod.fst).dedup.insertionSort (· ≤ ·)).Nodup :=
      (List.perm_insertionSort (· ≤ ·) _).nodup_iff.2 (List.nodup_dedup _)
    exact (hle.and hne).imp fun h => lt_of_le_of_ne h.1 h.2
  refine List.Pairwise.sublist ?_ hnames
  rw [sorted]
  generalize (l.map Prod.fst).dedup.insertionSort (· ≤ ·) = names
  induction names with
  | nil => exact List.Sublist.refl _
  | cons k names ih =>
      rw [List.filterMap_cons]
      cases get l k with
      | none => exact ih.cons _
      | some v => exact ih.cons_cons _

/-- Only what is read matters. -/
theorem sorted_congr {l l' : List (κ × α)} (h : Same l l') : sorted l = sorted l' := by
  refine eq_of_same (increasing_sorted l) (increasing_sorted l') fun k => ?_
  rw [get_sorted, get_sorted, h]

end Sorted

end Members
