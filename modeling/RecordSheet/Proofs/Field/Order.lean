import Mathlib.Data.List.Induction
import RecordSheet.Field

/-!
# Proofs/Field/Order — values in order, and the sets that are kept so

The order of values puts kinds first, then the numbers that stand for a single value, then the
elements of a sequence (`Value.order_eq`).  It is a total preorder (`Std.TransCmp Value.order`).  A
set that is kept in this order — of values, or of things with a value each — is increasing, and has
each of the given things or one of the same value (`increasing_distinctBy`,
`exists_mem_distinctBy`); its elements in any sequence make the same set again
(`distinctBy_of_perm`).
-/

namespace RecordSheet

open Std (OrientedCmp TransCmp)
open scoped List

namespace Value

/-! ## The order of values -/

/-- The elements of a sequence; any other value has none. -/
def items : Value → List Value
  | .seq vs => vs
  | _ => []

mutual

/-- **Induction on values:** what holds of a value if it holds of its elements holds of all values.
-/
theorem induct {P : Value → Prop} (h : ∀ v, (∀ u ∈ v.items, P u) → P v) : ∀ v, P v
  | .seq vs => h _ (induct_items h vs)
  | .null | .bool _ | .int _ | .uint _ | .float _ | .char _ | .str _ | .date _ | .time _
  | .dateTime _
  | .uuid _ | .enumeration _ => h _ fun _ hu => absurd hu List.not_mem_nil

theorem induct_items {P : Value → Prop} (h : ∀ v, (∀ u ∈ v.items, P u) → P v) :
    ∀ (vs : List Value), ∀ u ∈ vs, P u
  | [] => fun _ hu => absurd hu List.not_mem_nil
  | v :: vs => List.forall_mem_cons.2 ⟨induct h v, induct_items h vs⟩

end

/-- The order of values without the elements of sequences. -/
def front : Value → Value → Ordering :=
  compareLex (compareOn rank) (compareOn sortKey)

instance : TransCmp front :=
  inferInstanceAs (TransCmp (compareLex _ _))

theorem compareLists_eq (ms ns : List Int) : compareLists ms ns = compare ms ns := by
  induction ms generalizing ns with
  | nil => cases ns <;> rfl
  | cons m ms ih =>
    cases ns with
    | nil => rfl
    | cons n ns => rw [compareLists, List.compare_cons_cons, ih]

theorem orderList_eq (vs ws : List Value) : orderList vs ws = List.compareLex order vs ws := by
  induction vs generalizing ws with
  | nil => cases ws <;> rfl
  | cons v vs ih =>
    cases ws with
    | nil => rfl
    | cons w ws => rw [orderList, List.compareLex_cons_cons, ih]

/-- **The order of values** by kind, key and elements. -/
theorem order_eq (v w : Value) :
    v.order w = (front v w).then (List.compareLex order v.items w.items) := by
  rw [← orderList_eq, front, compareLex, compareOn, compareOn, ← compareLists_eq]
  cases v with
  | seq vs => cases w <;> rfl
  | _ =>
    cases w with
    | seq ws => rfl
    | _ => exact Ordering.then_eq.symm

theorem compareLex_swap {α : Type} {cmp : α → α → Ordering} {as : List α}
    (h : ∀ a ∈ as, ∀ b, cmp a b = (cmp b a).swap) (bs : List α) :
    List.compareLex cmp as bs = (List.compareLex cmp bs as).swap := by
  induction as generalizing bs with
  | nil => cases bs <;> rfl
  | cons a as ih =>
    cases bs with
    | nil => rfl
    | cons b bs =>
      obtain ⟨ha, has⟩ := List.forall_mem_cons.1 h
      rw [List.compareLex_cons_cons, List.compareLex_cons_cons, Ordering.swap_then, ha, ih has]

theorem order_swap (v w : Value) : v.order w = (w.order v).swap := by
  induction v using induct generalizing w with
  | h v ih =>
    rw [order_eq v w, order_eq w v, Ordering.swap_then, compareLex_swap ih,
      @OrientedCmp.eq_swap _ front]

instance : OrientedCmp order where
  eq_swap := order_swap _ _

/-! ## Transitivity -/

/-- The outcomes of comparing the first with the second, the second with the third and the first
with the third of three things in a transitive order. -/
def Linked (o p q : Ordering) : Prop :=
  o.isLE = true → p.isLE = true → q.isLE = true ∧ (q = .eq → o = .eq ∧ p = .eq)

theorem linked_of_transCmp {α : Type} (cmp : α → α → Ordering) [TransCmp cmp] (a b c : α) :
    Linked (cmp a b) (cmp b c) (cmp a c) := by
  intro hab hbc
  refine ⟨TransCmp.isLE_trans hab hbc, fun hac => ?_⟩
  have hca : (cmp c a).isLE := Ordering.isLE_of_eq_eq (OrientedCmp.eq_symm hac)
  exact ⟨OrientedCmp.isLE_antisymm hab (TransCmp.isLE_trans hbc hca),
    OrientedCmp.isLE_antisymm hbc (TransCmp.isLE_trans hca hab)⟩

/-- **What decides when the first comparison is undecided** is linked with it. -/
theorem Linked.then {o p q o' p' q' : Ordering} (h : Linked o p q) (h' : Linked o' p' q') :
    Linked (o.then o') (p.then p') (q.then q') := by
  intro hop hpq
  obtain ⟨ho, ho'⟩ := Ordering.isLE_then_iff_and.1 hop
  obtain ⟨hp, hp'⟩ := Ordering.isLE_then_iff_and.1 hpq
  obtain ⟨hq, heq⟩ := h ho hp
  cases q with
  | lt => exact ⟨rfl, nofun⟩
  | gt => cases hq
  | eq =>
    obtain ⟨rfl, rfl⟩ := heq rfl
    exact h' (ho'.resolve_left nofun) (hp'.resolve_left nofun)

theorem linked_compareLex {α : Type} {cmp : α → α → Ordering} {as : List α}
    (h : ∀ a ∈ as, ∀ b c, Linked (cmp a b) (cmp b c) (cmp a c)) (bs cs : List α) :
    Linked (List.compareLex cmp as bs) (List.compareLex cmp bs cs) (List.compareLex cmp as cs) := by
  induction as generalizing bs cs with
  | nil =>
    cases cs with
    | nil =>
      cases bs with
      | nil => exact fun _ _ => ⟨rfl, fun _ => ⟨rfl, rfl⟩⟩
      | cons b bs => exact fun _ => nofun
    | cons c cs => exact fun _ _ => ⟨rfl, nofun⟩
  | cons a as ih =>
    obtain ⟨ha, has⟩ := List.forall_mem_cons.1 h
    cases bs with
    | nil => exact nofun
    | cons b bs =>
      cases cs with
      | nil => exact fun _ => nofun
      | cons c cs =>
        simp only [List.compareLex_cons_cons]
        exact (ha b c).then (ih has bs cs)

theorem linked_order (u v w : Value) : Linked (u.order v) (v.order w) (u.order w) := by
  induction u using induct generalizing v w with
  | h u ih =>
    rw [order_eq u v, order_eq v w, order_eq u w]
    exact (linked_of_transCmp front u v w).then (linked_compareLex ih _ _)

instance : TransCmp order where
  isLE_trans huv hvw := (linked_order _ _ _ huv hvw).1

/-! ## Values of one place -/

/-- Values of one place are of one kind and key, and have elements of the same places. -/
theorem parts_of_order_eq {v w : Value} (h : v.order w = .eq) :
    v.rank = w.rank ∧ v.sortKey = w.sortKey ∧ List.compareLex order v.items w.items = .eq := by
  rw [order_eq, Ordering.then_eq_eq, front, compareLex, Ordering.then_eq_eq] at h
  exact ⟨Std.LawfulEqCmp.eq_of_compare h.1.1, Std.LawfulEqCmp.eq_of_compare h.1.2, h.2⟩

theorem eq_of_codes_eq {s t : String}
    (h : s.toList.map (fun c => (c.toNat : Int)) = t.toList.map fun c => (c.toNat : Int)) :
    s = t := by
  have hcodes := (List.map_inj_right fun c d hcd => Char.toNat_inj.1 (Int.ofNat_inj.1 hcd)).1 h
  exact String.toList_injective hcodes

/-- **A single value is the one of its kind and key,** but for floating-point numbers, which have no
order. -/
theorem eq_of_sortKey {v w : Value} (hrank : v.rank = w.rank) (hkey : v.sortKey = w.sortKey)
    (hfloat : ∀ x, v ≠ .float x) (hseq : ∀ vs, v ≠ .seq vs) : v = w := by
  cases v with
  | null =>
    cases w with
    | null => rfl
    | _ => cases hrank
  | bool a =>
    cases w with
    | bool b => cases a <;> cases b <;> first | rfl | cases hkey
    | _ => cases hrank
  | int m =>
    cases w with
    | int n => rw [Int64.toInt_inj.1 (List.head_eq_of_cons_eq hkey)]
    | _ => cases hrank
  | uint m =>
    cases w with
    | uint n => rw [UInt64.toNat_inj.1 (Int.ofNat_inj.1 (List.head_eq_of_cons_eq hkey))]
    | _ => cases hrank
  | float x => exact absurd rfl (hfloat x)
  | char c =>
    cases w with
    | char d => rw [Char.toNat_inj.1 (Int.ofNat_inj.1 (List.head_eq_of_cons_eq hkey))]
    | _ => cases hrank
  | str s =>
    cases w with
    | str t => rw [eq_of_codes_eq hkey]
    | _ => cases hrank
  | date d =>
    cases w with
    | date e =>
      obtain ⟨y, m, n, _⟩ := d
      obtain ⟨y', m', n', _⟩ := e
      simp only [sortKey, List.cons.injEq, Int.ofNat_inj, and_true] at hkey
      obtain ⟨rfl, rfl, rfl⟩ := hkey
      rfl
    | _ => cases hrank
  | time s =>
    cases w with
    | time t =>
      obtain ⟨a, b, c, n, _⟩ := s
      obtain ⟨a', b', c', n', _⟩ := t
      simp only [sortKey, List.cons.injEq, Int.ofNat_inj, and_true] at hkey
      obtain ⟨rfl, rfl, rfl, rfl⟩ := hkey
      rfl
    | _ => cases hrank
  | dateTime s =>
    cases w with
    | dateTime t =>
      obtain ⟨⟨y, m, d, _⟩, ⟨a, b, c, n, _⟩⟩ := s
      obtain ⟨⟨y', m', d', _⟩, ⟨a', b', c', n', _⟩⟩ := t
      simp only [sortKey, List.cons.injEq, Int.ofNat_inj, and_true] at hkey
      obtain ⟨rfl, rfl, rfl, rfl, rfl, rfl, rfl⟩ := hkey
      rfl
    | _ => cases hrank
  | uuid u =>
    cases w with
    | uuid u' =>
      obtain ⟨ds, _⟩ := u
      obtain ⟨ds', _⟩ := u'
      obtain rfl : ds = ds' :=
        (List.map_inj_right fun c d hcd => Fin.ext (Int.ofNat_inj.1 hcd)).1 hkey
      rfl
    | _ => cases hrank
  | enumeration s =>
    cases w with
    | enumeration t => rw [eq_of_codes_eq hkey]
    | _ => cases hrank
  | seq vs => exact absurd rfl (hseq vs)

end Value

/-! ## Sets in order -/

namespace FieldType

variable {α : Type} {key : α → Value} {a b : α} {as bs : List α}

/-- Puts a thing at its place in a list in the order of the things' values, unless one of the same
value is there. -/
def insertBy (key : α → Value) (a : α) : List α → List α
  | [] => [a]
  | b :: bs =>
    match (key a).order (key b) with
    | .lt => a :: b :: bs
    | .eq => b :: bs
    | .gt => b :: insertBy key a bs

/-- The things of a list in the order of their values, one for each value. -/
def distinctBy (key : α → Value) (as : List α) : List α :=
  as.foldl (fun bs a => insertBy key a bs) []

/-- The values of the things become greater along the list. -/
def Increasing (key : α → Value) (as : List α) : Prop :=
  as.Pairwise fun a b => (key a).order (key b) = .lt

theorem map_insertBy (key : α → Value) (a : α) (bs : List α) :
    (insertBy key a bs).map key = insertOrdered (key a) (bs.map key) := by
  induction bs with
  | nil => rfl
  | cons b bs ih =>
    rw [List.map_cons, insertBy, insertOrdered]
    cases (key a).order (key b) with
    | lt | eq => rfl
    | gt => exact congrArg (key b :: ·) ih

theorem distinctBy_concat (key : α → Value) (as : List α) (a : α) :
    distinctBy key (as ++ [a]) = insertBy key a (distinctBy key as) :=
  List.foldl_append

/-- **The values of the set** are the set of the values. -/
theorem map_distinctBy (key : α → Value) (as : List α) :
    (distinctBy key as).map key = distinct (as.map key) := by
  induction as using List.reverseRecOn with
  | nil => rfl
  | append_singleton as a ih =>
    rw [distinctBy_concat, map_insertBy, ih, List.map_append, distinct, distinct, List.foldl_append]
    rfl

theorem mem_of_mem_insertBy (h : b ∈ insertBy key a bs) : b = a ∨ b ∈ bs := by
  induction bs with
  | nil => exact .inl (List.mem_singleton.1 h)
  | cons c bs ih =>
    rw [insertBy] at h
    cases hac : (key a).order (key c) with
    | lt =>
      rw [hac] at h
      exact List.mem_cons.1 h
    | eq =>
      rw [hac] at h
      exact .inr h
    | gt =>
      rw [hac] at h
      obtain rfl | h := List.mem_cons.1 h
      · exact .inr List.mem_cons_self
      · exact (ih h).imp_right (List.mem_cons_of_mem c)

theorem subset_insertBy (key : α → Value) (a : α) (bs : List α) : bs ⊆ insertBy key a bs := by
  induction bs with
  | nil => exact List.nil_subset _
  | cons c bs ih =>
    rw [insertBy]
    cases (key a).order (key c) with
    | lt => exact List.subset_cons_self a _
    | eq => exact List.Subset.refl _
    | gt => exact List.cons_subset_cons c ih

theorem exists_mem_insertBy (key : α → Value) (a : α) (bs : List α) :
    ∃ b ∈ insertBy key a bs, (key a).order (key b) = .eq := by
  induction bs with
  | nil => exact ⟨a, List.mem_singleton_self a, Std.ReflCmp.compare_self⟩
  | cons c bs ih =>
    rw [insertBy]
    cases hac : (key a).order (key c) with
    | lt => exact ⟨a, List.mem_cons_self, Std.ReflCmp.compare_self⟩
    | eq => exact ⟨c, List.mem_cons_self, hac⟩
    | gt =>
      obtain ⟨b, hb, h⟩ := ih
      exact ⟨b, List.mem_cons_of_mem c hb, h⟩

theorem increasing_insertBy (h : Increasing key bs) : Increasing key (insertBy key a bs) := by
  induction bs with
  | nil => exact List.pairwise_singleton _ a
  | cons c bs ih =>
    obtain ⟨hc, hbs⟩ := List.pairwise_cons.1 h
    rw [insertBy]
    cases hac : (key a).order (key c) with
    | lt =>
      refine List.pairwise_cons.2 ⟨List.forall_mem_cons.2 ⟨hac, fun b hb => ?_⟩, h⟩
      exact TransCmp.lt_trans hac (hc b hb)
    | eq => exact h
    | gt =>
      refine List.pairwise_cons.2 ⟨fun b hb => ?_, ih hbs⟩
      obtain rfl | hb := mem_of_mem_insertBy hb
      · exact OrientedCmp.lt_of_gt hac
      · exact hc b hb

/-- Next to things of other values a new one is put. -/
theorem perm_insertBy (h : ∀ b ∈ bs, (key a).order (key b) ≠ .eq) :
    insertBy key a bs ~ a :: bs := by
  induction bs with
  | nil => exact .refl _
  | cons c bs ih =>
    obtain ⟨hc, hbs⟩ := List.forall_mem_cons.1 h
    rw [insertBy]
    cases hac : (key a).order (key c) with
    | lt => exact .refl _
    | eq => exact absurd hac hc
    | gt => exact ((ih hbs).cons c).trans (.swap a c bs)

/-- **A set is increasing.** -/
theorem increasing_distinctBy (key : α → Value) (as : List α) :
    Increasing key (distinctBy key as) := by
  induction as using List.reverseRecOn with
  | nil => exact .nil
  | append_singleton as a ih =>
    rw [distinctBy_concat]
    exact increasing_insertBy ih

theorem mem_of_mem_distinctBy (h : b ∈ distinctBy key as) : b ∈ as := by
  induction as using List.reverseRecOn with
  | nil => exact h
  | append_singleton as a ih =>
    rw [distinctBy_concat] at h
    obtain rfl | h := mem_of_mem_insertBy h
    · exact List.mem_append_right _ (List.mem_singleton_self b)
    · exact List.mem_append_left _ (ih h)

/-- **A set has each of the things,** or one of the same value. -/
theorem exists_mem_distinctBy (key : α → Value) (h : a ∈ as) :
    ∃ b ∈ distinctBy key as, (key a).order (key b) = .eq := by
  induction as using List.reverseRecOn with
  | nil => exact absurd h List.not_mem_nil
  | append_singleton as c ih =>
    rw [distinctBy_concat]
    obtain h | h := List.mem_append.1 h
    · obtain ⟨b, hb, hab⟩ := ih h
      exact ⟨b, subset_insertBy key c _ hb, hab⟩
    · obtain rfl := List.mem_singleton.1 h
      exact exists_mem_insertBy key a _

/-- Of things of different values all are in the set. -/
theorem perm_distinctBy (h : as.Pairwise fun a b => (key a).order (key b) ≠ .eq) :
    distinctBy key as ~ as := by
  induction as using List.reverseRecOn with
  | nil => exact .refl _
  | append_singleton as a ih =>
    obtain ⟨has, -, hne⟩ := List.pairwise_append.1 h
    rw [distinctBy_concat]
    have hfresh : ∀ b ∈ distinctBy key as, (key a).order (key b) ≠ .eq := fun b hb hab =>
      hne b (mem_of_mem_distinctBy hb) a (List.mem_singleton_self a) (OrientedCmp.eq_symm hab)
    exact ((perm_insertBy hfresh).trans ((ih has).cons a)).trans
      (List.perm_append_singleton a as).symm

/-- **An increasing list is the one of its members.** -/
theorem Increasing.eq_of_mem_iff (has : Increasing key as) (hbs : Increasing key bs)
    (h : ∀ a, a ∈ as ↔ a ∈ bs) : as = bs := by
  have hnodup : ∀ {cs : List α}, Increasing key cs → cs.Nodup := by
    refine fun hcs => hcs.imp ?_
    rintro a _ hab rfl
    exact OrientedCmp.not_lt_of_lt hab hab
  refine List.Perm.eq_of_pairwise (fun a b _ _ hab hba => ?_) has hbs
    ((List.perm_ext_iff_of_nodup (hnodup has) (hnodup hbs)).2 h)
  exact absurd hba (OrientedCmp.not_lt_of_lt hab)

/-- **The elements of a set, in any sequence,** make the same set. -/
theorem distinctBy_of_perm (h : as ~ distinctBy key bs) :
    distinctBy key as = distinctBy key bs := by
  have hdistinct : (distinctBy key bs).Pairwise fun a b => (key a).order (key b) ≠ .eq :=
    (increasing_distinctBy key bs).imp fun hab => by rw [hab]; exact nofun
  have has : as.Pairwise fun a b => (key a).order (key b) ≠ .eq :=
    (h.pairwise_iff fun hab hba => hab (OrientedCmp.eq_symm hba)).2 hdistinct
  refine List.Perm.eq_of_pairwise (fun a b _ _ hab hba => ?_) (increasing_distinctBy key as)
    (increasing_distinctBy key bs) ((perm_distinctBy has).trans h)
  exact absurd hba (OrientedCmp.not_lt_of_lt hab)

end FieldType

end RecordSheet
