import RecordSheet.Proofs.Field.Order
import RecordSheet.Proofs.Handler.Integers

/-!
# Proofs/Field/Content — what a field holds, and the value it shows

A field takes a value by making a content of its own type of it (`FieldType.fromValue`), and shows
that content as a value again (`FieldType.intoValue`).  What it shows after a value was assigned to
it is `FieldType.accept` (`accept_eq`).  A number, a text or a sequence is told from its absence
only where the type has an optional part, and there the absent value is never a content of the inner
type; so a value that a field shows makes the content it came from (`into_back`).
-/

namespace RecordSheet

open Number (Binary)
open Calendar (Date Time DateTime)
open Outcome

namespace FieldType

/-! ## Contents -/

/-- **What a field of the type holds.**  A set is the list of its elements in order. -/
def Content : FieldType → Type
  | .signed w => { n : Int // w.signedMin ≤ n ∧ n ≤ w.signedMax }
  | .unsigned w => { n : Int // 0 ≤ n ∧ n ≤ w.unsignedMax }
  | .float _ => Binary
  | .bool => Bool
  | .char => Char
  | .string => String
  | .date => Date
  | .time => Time
  | .dateTime => DateTime
  | .uuid => Uuid
  | .any => Value
  | .option t => Option t.Content
  | .list t | .orderedSet t | .unorderedSet t => List t.Content

/-- **The value that shows a content.**  A set without an order of its own shows its elements in the
order of their texts. -/
def intoValue : (t : FieldType) → t.Content → Value
  | .signed _, n => .int (Int64.ofInt n.val)
  | .unsigned _, n => .uint (UInt64.ofNat n.val.toNat)
  | .float .double, x => .float x
  | .float .single, x => .float (Binary.convert .double x)
  | .bool, b => .bool b
  | .char, c => .char c
  | .string, s => .str s
  | .date, d => .date d
  | .time, t => .time t
  | .dateTime, t => .dateTime t
  | .uuid, u => .uuid u
  | .any, v => v
  | .option _, none => .null
  | .option t, some c => t.intoValue c
  | .list t, cs | .orderedSet t, cs => .seq (List.map t.intoValue cs)
  | .unorderedSet t, cs => .seq (sortByText (List.map t.intoValue cs))

/-- A number between the bounds of a type, with its bounds. -/
def between (type : String) (low high n : Int) :
    Except FieldFault { n : Int // low ≤ n ∧ n ≤ high } :=
  if h : low ≤ n ∧ n ≤ high then .ok ⟨n, h⟩ else .error (.outOfRange n type)

/-- **The content that a value makes,** if the field takes it. -/
def fromValue : (t : FieldType) → Value → Except FieldFault t.Content
  | .signed w, v =>
    wholeNumber (ScalarType.signed w).name v >>=
      between (ScalarType.signed w).name w.signedMin w.signedMax
  | .unsigned w, v =>
    wholeNumber (ScalarType.unsigned w).name v >>=
      between (ScalarType.unsigned w).name 0 w.unsignedMax
  | .float .double, v => floatingNumber v
  | .float .single, v => Binary.convert .single <$> floatingNumber v
  | .bool, v =>
    match v with
    | .null => .ok false
    | .bool b => .ok b
    | v => .error (.mismatch "bool" v.kind)
  | .char, v =>
    match v with
    | .null => .ok (Char.ofNat 0)
    | .char c => .ok c
    | v => .error (.mismatch "char" v.kind)
  | .string, v =>
    match v with
    | .null => .ok ""
    | .str s => .ok s
    | .enumeration s => .ok s
    | v => .error (.mismatch "string" v.kind)
  | .date, v =>
    match v with
    | .date d => .ok d
    | v => .error (.mismatch "NaiveDate" v.kind)
  | .time, v =>
    match v with
    | .time t => .ok t
    | v => .error (.mismatch "NaiveTime" v.kind)
  | .dateTime, v =>
    match v with
    | .dateTime t => .ok t
    | v => .error (.mismatch "NaiveDateTime" v.kind)
  | .uuid, v =>
    match v with
    | .uuid u => .ok u
    | v => .error (.mismatch "Uuid" v.kind)
  | .any, v => .ok v
  | .option t, v => if v.isNull then .ok none else some <$> t.fromValue v
  | .list t, v => elements v >>= List.mapM t.fromValue
  | .orderedSet t, v | .unorderedSet t, v =>
    distinctBy t.intoValue <$> (elements v >>= List.mapM t.fromValue)

/-- **A value that may show the content:** a set without an order of its own may show its elements
in any sequence. -/
def Into : (t : FieldType) → t.Content → Value → Prop
  | .option _, none, v => v = .null
  | .option t, some c, v => t.Into c v
  | .list t, cs, v | .orderedSet t, cs, v => ∃ vs, v = .seq vs ∧ List.Forall₂ t.Into cs vs
  | .unorderedSet t, cs, v =>
    ∃ (ds : List t.Content) (vs : List Value), ds.Perm cs ∧ v = .seq vs ∧ List.Forall₂ t.Into ds vs
  | t, c, v => v = t.intoValue c

variable {t : FieldType} {v u : Value} {type : String} {low high n : Int}

/-! ## What a field shows -/

theorem between_eq_ok_iff {x : { n : Int // low ≤ n ∧ n ≤ high }} :
    between type low high n = .ok x ↔ x.val = n := by
  rw [between]
  split
  · next h => exact ⟨fun hx => by cases hx; rfl, by rintro rfl; rfl⟩
  · next h => exact ⟨nofun, fun hx => absurd (hx ▸ x.property) h⟩

theorem inRange_eq (type : String) (low high n : Int) :
    inRange type low high n = Subtype.val <$> between type low high n := by
  rw [inRange, between]
  split <;> rfl

theorem mapM_accept (h : ∀ v, t.accept v = t.intoValue <$> t.fromValue v) (vs : List Value) :
    vs.mapM t.accept = List.map t.intoValue <$> vs.mapM t.fromValue := by
  rw [funext h]
  exact mapM_map _ _ _

/-- **What a field shows after an assignment** is the content that the value makes. -/
theorem accept_eq (t : FieldType) (v : Value) : t.accept v = t.intoValue <$> t.fromValue v := by
  induction t generalizing v with
  | signed w =>
    rw [accept, fromValue]
    cases wholeNumber (ScalarType.signed w).name v with
    | error e => rfl
    | ok n =>
      change (inRange (ScalarType.signed w).name w.signedMin w.signedMax n >>= fun n =>
        .ok (.int (Int64.ofInt n))) = (signed w).intoValue <$>
          between (ScalarType.signed w).name w.signedMin w.signedMax n
      rw [inRange_eq]
      cases between (ScalarType.signed w).name w.signedMin w.signedMax n <;> rfl
  | unsigned w =>
    rw [accept, fromValue]
    cases wholeNumber (ScalarType.unsigned w).name v with
    | error e => rfl
    | ok n =>
      change (inRange (ScalarType.unsigned w).name 0 w.unsignedMax n >>= fun n =>
        .ok (.uint (UInt64.ofNat n.toNat))) = (unsigned w).intoValue <$>
          between (ScalarType.unsigned w).name 0 w.unsignedMax n
      rw [inRange_eq]
      cases between (ScalarType.unsigned w).name 0 w.unsignedMax n <;> rfl
  | float w =>
    cases w with
    | single =>
      rw [accept, fromValue]
      cases floatingNumber v <;> rfl
    | double => rfl
  | bool | char | string | date | time | dateTime | uuid => cases v <;> rfl
  | any => rfl
  | option t ih =>
    rw [accept, fromValue, ih]
    cases v.isNull with
    | true => rfl
    | false => cases t.fromValue v <;> rfl
  | list t ih =>
    rw [accept, fromValue]
    cases elements v with
    | error e => rfl
    | ok vs =>
      change (vs.mapM t.accept >>= fun us => .ok (.seq us)) =
        (list t).intoValue <$> vs.mapM t.fromValue
      rw [mapM_accept ih]
      cases vs.mapM t.fromValue <;> rfl
  | orderedSet t ih =>
    rw [accept, fromValue]
    cases elements v with
    | error e => rfl
    | ok vs =>
      change (vs.mapM t.accept >>= fun us => .ok (.seq (distinct us))) =
        (orderedSet t).intoValue <$> distinctBy t.intoValue <$> vs.mapM t.fromValue
      rw [mapM_accept ih]
      cases vs.mapM t.fromValue with
      | error e => rfl
      | ok xs =>
        exact congrArg (fun us => Except.ok (Value.seq us)) (map_distinctBy t.intoValue xs).symm
  | unorderedSet t ih =>
    rw [accept, fromValue]
    cases elements v with
    | error e => rfl
    | ok vs =>
      change (vs.mapM t.accept >>= fun us => .ok (.seq (sortByText (distinct us)))) =
        (unorderedSet t).intoValue <$> distinctBy t.intoValue <$> vs.mapM t.fromValue
      rw [mapM_accept ih]
      cases vs.mapM t.fromValue with
      | error e => rfl
      | ok xs =>
        exact congrArg (fun us => Except.ok (Value.seq (sortByText us)))
          (map_distinctBy t.intoValue xs).symm

/-- A field shows its content in one of the ways it may. -/
theorem into_intoValue (t : FieldType) (x : t.Content) : t.Into x (t.intoValue x) := by
  have hlist : ∀ {t : FieldType}, (∀ c, t.Into c (t.intoValue c)) → ∀ cs : List t.Content,
      List.Forall₂ t.Into cs (cs.map t.intoValue) := fun h cs => by
    rw [List.forall₂_map_right_iff, List.forall₂_same]
    exact fun c _ => h c
  induction t with
  | option t ih =>
    cases x with
    | none => rfl
    | some c => exact ih c
  | list t ih | orderedSet t ih => exact ⟨_, rfl, hlist ih x⟩
  | unorderedSet t ih =>
    let before (c d : t.Content) : Bool := decide ((t.intoValue c).toText ≤ (t.intoValue d).toText)
    refine ⟨List.mergeSort x before, _, List.mergeSort_perm _ _, rfl, ?_⟩
    have hsorted : sortByText (List.map t.intoValue x) =
        (List.mergeSort x before).map t.intoValue :=
      (List.map_mergeSort (r := before) (f := t.intoValue) fun _ _ _ _ => rfl).symm
    rw [hsorted]
    exact hlist ih _
  | _ => rfl

/-! ## Whole numbers -/

/-- The least and the greatest number that a field of whole numbers holds. -/
def bounds? : FieldType → Option (Int × Int)
  | .signed w => some (w.signedMin, w.signedMax)
  | .unsigned w => some (0, w.unsignedMax)
  | _ => none

theorem wholeNumber_of_integer? (hv : v.integer? = some n) (type : String) :
    wholeNumber type v = .ok n := by
  cases v with
  | int m | uint m =>
    obtain rfl := Option.some.inj hv
    rfl
  | _ => cases hv

/-- **The content of a whole number** is that number. -/
theorem wholeNumber_between_eq_ok_iff (hv : v.integer? = some n)
    {x : { n : Int // low ≤ n ∧ n ≤ high }} :
    (wholeNumber type v >>= between type low high) = .ok x ↔ x.val = n := by
  rw [wholeNumber_of_integer? hv]
  exact between_eq_ok_iff

theorem exists_wholeNumber_between_iff (hv : v.integer? = some n) :
    (∃ x, (wholeNumber type v >>= between type low high) = .ok x) ↔ low ≤ n ∧ n ≤ high := by
  simp only [wholeNumber_between_eq_ok_iff hv]
  constructor
  · rintro ⟨x, rfl⟩
    exact x.property
  · exact fun hn => ⟨⟨n, hn⟩, rfl⟩

/-- **A field of whole numbers takes the numbers between its bounds,** and keeps them. -/
theorem fromValue_integer (ht : t.bounds? = some (low, high)) (hv : v.integer? = some n) :
    ((∃ x, t.fromValue v = .ok x) ↔ low ≤ n ∧ n ≤ high) ∧
      ∀ x, t.fromValue v = .ok x → (t.intoValue x).integer? = some n := by
  cases t with
  | signed w =>
    obtain ⟨rfl, rfl⟩ := Prod.mk.inj (Option.some.inj ht)
    refine ⟨exists_wholeNumber_between_iff hv, fun x hx => ?_⟩
    obtain rfl := (wholeNumber_between_eq_ok_iff hv).1 hx
    exact congrArg some (w.toInt_ofInt x.property)
  | unsigned w =>
    obtain ⟨rfl, rfl⟩ := Prod.mk.inj (Option.some.inj ht)
    refine ⟨exists_wholeNumber_between_iff hv, fun x hx => ?_⟩
    obtain rfl := (wholeNumber_between_eq_ok_iff hv).1 hx
    exact congrArg some (w.toNat_ofNat x.property)
  | _ => cases ht

/-! ## What comes back -/

/-- A content that an assignment can make. -/
def Reached (t : FieldType) (x : t.Content) : Prop :=
  ∃ v, t.fromValue v = .ok x

theorem reached_of_forall₂ {vs : List Value} {xs : List t.Content}
    (h : List.Forall₂ (fun v x => t.fromValue v = .ok x) vs xs) : ∀ x ∈ xs, t.Reached x := by
  intro x hx
  obtain ⟨v, -, hv⟩ := exists_of_forall₂ h hx
  exact ⟨v, hv⟩

/-- Elements that each come back do so together. -/
theorem mapM_of_into
    (h : ∀ {v x}, t.fromValue v = .ok x → ∀ {u}, t.Into x u → t.fromValue u = .ok x)
    {xs : List t.Content} (hxs : ∀ x ∈ xs, t.Reached x) {us : List Value}
    (hus : List.Forall₂ t.Into xs us) :
    us.mapM t.fromValue = .ok xs := by
  rw [mapM_eq_ok_iff]
  induction hus with
  | nil => exact .nil
  | cons hu _ ih =>
    obtain ⟨⟨v, hv⟩, hxs⟩ := List.forall_mem_cons.1 hxs
    exact .cons (h hv hu) (ih hxs)

/-- **A value that shows the content of a field makes that content,** and is absent only if the
value was that the content was made of. -/
theorem into_back {x : t.Content} (h : t.fromValue v = .ok x) (hu : t.Into x u) :
    t.fromValue u = .ok x ∧ (v ≠ .null → u ≠ .null) := by
  induction t generalizing v u with
  | signed w =>
    obtain rfl : u = .int (Int64.ofInt x.val) := hu
    exact ⟨(wholeNumber_between_eq_ok_iff rfl).2 (w.toInt_ofInt x.property).symm, fun _ => nofun⟩
  | unsigned w =>
    obtain rfl : u = .uint (UInt64.ofNat x.val.toNat) := hu
    exact ⟨(wholeNumber_between_eq_ok_iff rfl).2 (w.toNat_ofNat x.property).symm, fun _ => nofun⟩
  | float w =>
    cases w with
    | double =>
      obtain rfl : u = .float x := hu
      exact ⟨rfl, fun _ => nofun⟩
    | single =>
      obtain rfl : u = .float (Binary.convert .double x) := hu
      obtain ⟨y, -, rfl⟩ := map_eq_ok_iff.1 h
      exact ⟨congrArg Except.ok y.convert_convert_single, fun _ => nofun⟩
  | bool | char | string | date | time | dateTime | uuid =>
    obtain rfl : u = intoValue _ x := hu
    exact ⟨rfl, fun _ => nofun⟩
  | any =>
    obtain rfl : u = x := hu
    obtain rfl : v = u := Except.ok.inj h
    exact ⟨rfl, id⟩
  | option t ih =>
    by_cases hv : v = .null
    · subst hv
      obtain rfl : none = x := Except.ok.inj h
      obtain rfl : u = .null := hu
      exact ⟨rfl, fun hnull => absurd rfl hnull⟩
    · -- The content is there, and so is the value that shows it.
      have hfrom : ∀ {v : Value}, v ≠ .null → (option t).fromValue v = some <$> t.fromValue v :=
        fun hv => if_neg (by rw [Value.isNull_eq_false_iff.2 hv]; exact Bool.false_ne_true)
      rw [hfrom hv] at h
      obtain ⟨c, hc, rfl⟩ := map_eq_ok_iff.1 h
      obtain ⟨hback, hnull⟩ := ih hc hu
      rw [hfrom (hnull hv)]
      exact ⟨map_eq_ok_iff.2 ⟨c, hback, rfl⟩, fun _ => hnull hv⟩
  | list t ih =>
    obtain ⟨us, rfl, hus⟩ := hu
    obtain ⟨vs, -, hvs⟩ := bind_eq_ok_iff.1 h
    have hreached := reached_of_forall₂ (mapM_eq_ok_iff.1 hvs)
    exact ⟨mapM_of_into (fun hv _ hu => (ih hv hu).1) hreached hus,
      fun _ => nofun⟩
  | orderedSet t ih =>
    obtain ⟨us, rfl, hus⟩ := hu
    obtain ⟨ys, hys, rfl⟩ := map_eq_ok_iff.1 h
    obtain ⟨vs, -, hvs⟩ := bind_eq_ok_iff.1 hys
    have hreached := reached_of_forall₂ (mapM_eq_ok_iff.1 hvs)
    have hback := mapM_of_into (fun hv _ hu => (ih hv hu).1)
      (fun x hx => hreached x (mem_of_mem_distinctBy hx)) hus
    exact ⟨map_eq_ok_iff.2 ⟨_, hback, distinctBy_of_perm (.refl _)⟩, fun _ => nofun⟩
  | unorderedSet t ih =>
    obtain ⟨ds, us, hperm, rfl, hus⟩ := hu
    obtain ⟨ys, hys, rfl⟩ := map_eq_ok_iff.1 h
    obtain ⟨vs, -, hvs⟩ := bind_eq_ok_iff.1 hys
    have hreached := reached_of_forall₂ (mapM_eq_ok_iff.1 hvs)
    have hback := mapM_of_into (fun hv _ hu => (ih hv hu).1)
      (fun x hx => hreached x (mem_of_mem_distinctBy (hperm.subset hx))) hus
    exact ⟨map_eq_ok_iff.2 ⟨_, hback, distinctBy_of_perm hperm⟩, fun _ => nofun⟩

/-! ## Sets -/

/-- Whether the contents of the type have an order, as the elements of a set must. -/
def IsOrdered : FieldType → Bool
  | .signed _ | .unsigned _ | .bool | .char | .string | .date | .time | .dateTime | .uuid => true
  | .option t | .list t | .orderedSet t => t.IsOrdered
  | .float _ | .any | .unorderedSet _ => false

theorem eq_of_compareLex (h : ∀ a b, t.Reached a → t.Reached b →
      (t.intoValue a).order (t.intoValue b) = .eq → a = b) {as bs : List t.Content}
    (has : ∀ a ∈ as, t.Reached a) (hbs : ∀ b ∈ bs, t.Reached b)
    (heq : List.compareLex Value.order (as.map t.intoValue) (bs.map t.intoValue) = .eq) :
    as = bs := by
  induction as generalizing bs with
  | nil =>
    cases bs with
    | nil => rfl
    | cons b bs => cases heq
  | cons a as ih =>
    cases bs with
    | nil => cases heq
    | cons b bs =>
      obtain ⟨ha, has⟩ := List.forall_mem_cons.1 has
      obtain ⟨hb, hbs⟩ := List.forall_mem_cons.1 hbs
      rw [List.map_cons, List.map_cons, List.compareLex_cons_cons, Ordering.then_eq_eq] at heq
      rw [h a b ha hb heq.1, ih has hbs heq.2]

theorem Reached.elements {x : List t.Content} (h : (list t).Reached x) : ∀ c ∈ x, t.Reached c := by
  obtain ⟨v, hv⟩ := h
  obtain ⟨vs, -, hvs⟩ := bind_eq_ok_iff.1 hv
  exact reached_of_forall₂ (mapM_eq_ok_iff.1 hvs)

theorem Reached.members {x : List t.Content} (h : (orderedSet t).Reached x) :
    ∀ c ∈ x, t.Reached c := by
  obtain ⟨v, hv⟩ := h
  obtain ⟨ys, hys, rfl⟩ := map_eq_ok_iff.1 hv
  obtain ⟨vs, -, hvs⟩ := bind_eq_ok_iff.1 hys
  exact fun c hc => reached_of_forall₂ (mapM_eq_ok_iff.1 hvs) c (mem_of_mem_distinctBy hc)

/-- A content that is there is shown by a value that is there. -/
theorem Reached.some {c : t.Content} (h : (option t).Reached (some c)) :
    t.Reached c ∧ t.intoValue c ≠ .null := by
  obtain ⟨v, hv⟩ := h
  by_cases hnull : v.isNull = true
  · cases (if_pos hnull).symm.trans hv
  · obtain ⟨d, hd, hsome⟩ := map_eq_ok_iff.1 ((if_neg hnull).symm.trans hv)
    obtain rfl : d = c := Option.some.inj hsome
    have hv : v ≠ .null := Value.isNull_eq_false_iff.1 (Bool.not_eq_true _ ▸ hnull)
    exact ⟨⟨v, hd⟩, (into_back hd (into_intoValue t d)).2 hv⟩

/-- **Contents of one place in the order are one content,** if an assignment can make them. -/
theorem eq_of_order_eq (ht : t.IsOrdered = true) {a b : t.Content} (ha : t.Reached a)
    (hb : t.Reached b) (h : (t.intoValue a).order (t.intoValue b) = .eq) : a = b := by
  obtain ⟨hrank, hkey, hitems⟩ := Value.parts_of_order_eq h
  induction t with
  | signed w =>
    have hkey := List.head_eq_of_cons_eq hkey
    rw [w.toInt_ofInt a.property, w.toInt_ofInt b.property] at hkey
    exact Subtype.ext hkey
  | unsigned w =>
    have hkey := List.head_eq_of_cons_eq hkey
    rw [w.toNat_ofNat a.property, w.toNat_ofNat b.property] at hkey
    exact Subtype.ext hkey
  | bool => exact Value.bool.inj (Value.eq_of_sortKey hrank hkey nofun nofun)
  | char => exact Value.char.inj (Value.eq_of_sortKey hrank hkey nofun nofun)
  | string => exact Value.str.inj (Value.eq_of_sortKey hrank hkey nofun nofun)
  | date => exact Value.date.inj (Value.eq_of_sortKey hrank hkey nofun nofun)
  | time => exact Value.time.inj (Value.eq_of_sortKey hrank hkey nofun nofun)
  | dateTime => exact Value.dateTime.inj (Value.eq_of_sortKey hrank hkey nofun nofun)
  | uuid => exact Value.uuid.inj (Value.eq_of_sortKey hrank hkey nofun nofun)
  | option t ih =>
    cases a with
    | none =>
      cases b with
      | none => rfl
      | some d => exact absurd (Value.eq_of_sortKey hrank hkey nofun nofun).symm hb.some.2
    | some c =>
      cases b with
      | none => exact absurd (Value.eq_of_sortKey hrank.symm hkey.symm nofun nofun).symm ha.some.2
      | some d => rw [ih ht ha.some.1 hb.some.1 h hrank hkey hitems]
  | list t ih =>
    refine eq_of_compareLex (fun c d hc hd hcd => ?_) ha.elements hb.elements hitems
    obtain ⟨hrank, hkey, hitems⟩ := Value.parts_of_order_eq hcd
    exact ih ht hc hd hcd hrank hkey hitems
  | orderedSet t ih =>
    refine eq_of_compareLex (fun c d hc hd hcd => ?_) ha.members hb.members hitems
    obtain ⟨hrank, hkey, hitems⟩ := Value.parts_of_order_eq hcd
    exact ih ht hc hd hcd hrank hkey hitems
  | float _ | any | unorderedSet _ => cases ht

theorem mem_distinctBy_iff (ht : t.IsOrdered = true) {ys : List t.Content}
    (hys : ∀ y ∈ ys, t.Reached y) {x : t.Content} : x ∈ distinctBy t.intoValue ys ↔ x ∈ ys := by
  refine ⟨mem_of_mem_distinctBy, fun hx => ?_⟩
  obtain ⟨y, hy, hxy⟩ := exists_mem_distinctBy t.intoValue hx
  rwa [eq_of_order_eq ht (hys x hx) (hys y (mem_of_mem_distinctBy hy)) hxy]

/-- **An ordered set** of a sequence of values has the contents of the values, each once, and in
order; there is one such list. -/
theorem fromValue_orderedSet_iff (ht : t.IsOrdered = true) {vs : List Value} {xs : List t.Content} :
    (orderedSet t).fromValue (.seq vs) = .ok xs ↔
      ∃ ys, List.Forall₂ (fun v y => t.fromValue v = .ok y) vs ys ∧ Increasing t.intoValue xs ∧
        ∀ x, x ∈ xs ↔ x ∈ ys := by
  have hset : (orderedSet t).fromValue (.seq vs) = .ok xs ↔
      ∃ ys, vs.mapM t.fromValue = .ok ys ∧ distinctBy t.intoValue ys = xs := map_eq_ok_iff
  rw [hset]
  refine exists_congr fun ys => ?_
  rw [mapM_eq_ok_iff]
  refine and_congr_right fun hys => ?_
  have hmem := @mem_distinctBy_iff t ht ys (reached_of_forall₂ hys)
  constructor
  · rintro rfl
    exact ⟨increasing_distinctBy _ _, fun x => hmem⟩
  · rintro ⟨hincreasing, hxs⟩
    exact (increasing_distinctBy _ _).eq_of_mem_iff hincreasing fun x => hmem.trans (hxs x).symm

/-! ## Refusals -/

/-- The type of the elements of a container. -/
def element? : FieldType → Option FieldType
  | .list t | .orderedSet t | .unorderedSet t => some t
  | _ => none

/-- **A container refuses a sequence as its first refused element is refused.** -/
theorem fromValue_seq_eq_error_iff {c : FieldType} (hc : c.element? = some t) {vs : List Value}
    {e : FieldFault} :
    c.fromValue (.seq vs) = .error e ↔
      ∃ front v back, vs = front ++ v :: back ∧ (∀ u ∈ front, ∃ x, t.fromValue u = .ok x) ∧
        t.fromValue v = .error e := by
  cases c with
  | list s =>
    obtain rfl := Option.some.inj hc
    exact mapM_eq_error_iff
  | orderedSet s | unorderedSet s =>
    obtain rfl := Option.some.inj hc
    exact map_eq_error_iff.trans mapM_eq_error_iff
  | _ => cases hc

/-! ## Exact fields -/

/-- **A field is exact.**  What it shows is the content that the assigned value made, and any value
that shows the content makes it again.  A field of whole numbers takes the numbers between its
bounds and keeps them; a list keeps the contents of its elements in their sequence, and an ordered
set the distinct ones in order; a container refuses a sequence as its first refused element is
refused. -/
theorem fromValue_exact :
    (∀ (t : FieldType) (v : Value), t.accept v = t.intoValue <$> t.fromValue v) ∧
    (∀ (t : FieldType) (v : Value) (x : t.Content), t.fromValue v = .ok x →
      t.Into x (t.intoValue x) ∧ ∀ u, t.Into x u → t.fromValue u = .ok x) ∧
    (∀ (t : FieldType) (low high : Int), t.bounds? = some (low, high) →
      ∀ (v : Value) (n : Int), v.integer? = some n →
        ((∃ x, t.fromValue v = .ok x) ↔ low ≤ n ∧ n ≤ high) ∧
        ∀ x, t.fromValue v = .ok x → (t.intoValue x).integer? = some n) ∧
    (∀ (t : FieldType) (vs : List Value) (xs : List t.Content),
      (list t).fromValue (.seq vs) = .ok xs ↔
        List.Forall₂ (fun v x => t.fromValue v = .ok x) vs xs) ∧
    (∀ t : FieldType, t.IsOrdered = true → ∀ (vs : List Value) (xs : List t.Content),
      (orderedSet t).fromValue (.seq vs) = .ok xs ↔
        ∃ ys, List.Forall₂ (fun v y => t.fromValue v = .ok y) vs ys ∧ Increasing t.intoValue xs ∧
          ∀ x, x ∈ xs ↔ x ∈ ys) ∧
    (∀ c t : FieldType, c.element? = some t → ∀ (vs : List Value) (e : FieldFault),
      c.fromValue (.seq vs) = .error e ↔
        ∃ front v back, vs = front ++ v :: back ∧ (∀ u ∈ front, ∃ x, t.fromValue u = .ok x) ∧
          t.fromValue v = .error e) :=
  ⟨accept_eq, fun t _ x h => ⟨into_intoValue t x, fun _ hu => (into_back h hu).1⟩,
    fun _ _ _ ht _ _ hv => fromValue_integer ht hv, fun _ _ _ => mapM_eq_ok_iff,
    fun _ ht _ _ => fromValue_orderedSet_iff ht, fun _ _ hc _ _ => fromValue_seq_eq_error_iff hc⟩

/-- A set of optional numbers: the absent one is first, and a number that was given twice is there
once. -/
theorem fromValue_exact_optional :
    ∃ xs : List (option (signed .w8)).Content,
      (orderedSet (option (signed .w8))).fromValue (.seq [.int 3, .null, .uint 1, .int 3]) =
        .ok xs ∧
      (orderedSet (option (signed .w8))).intoValue xs = .seq [.null, .int 1, .int 3] ∧
      (orderedSet (option (signed .w8))).fromValue (.seq [.null, .int 1, .int 3]) = .ok xs ∧
      Increasing (option (signed .w8)).intoValue xs := by
  obtain ⟨-, hback, -, -, hset, -⟩ := fromValue_exact
  have h : (orderedSet (option (signed .w8))).fromValue (.seq [.int 3, .null, .uint 1, .int 3]) =
      .ok [none, some ⟨1, by decide⟩, some ⟨3, by decide⟩] := rfl
  obtain ⟨hinto, hsame⟩ := hback _ _ _ h
  obtain ⟨-, -, hincreasing, -⟩ := (hset _ rfl _ _).1 h
  exact ⟨_, h, rfl, hsame _ hinto, hincreasing⟩

end FieldType

end RecordSheet
