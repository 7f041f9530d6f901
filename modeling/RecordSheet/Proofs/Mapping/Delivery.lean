import RecordSheet.Proofs.Mapping.Failures
import RecordSheet.Record.Slots

/-!
# Proofs/Mapping/Delivery — how the values of a row reach its record

The values of a row reach the record in two ways: as **arguments** of the creator, one for each of
its parameters, and by **assignments** afterwards, one for each attribute that no parameter takes.
A row that is converted is delivered so (`exists_delivered`): the record is what the creator and
then the setters make of these values, and each attribute is served exactly once.
-/

namespace RecordSheet

variable {ρ : Type}

/-! ## Arguments and assignments -/

/-- The value that a parameter gets. -/
structure Argument where
  binding : ParameterBinding
  value : Value

/-- The position of the attribute whose value the parameter gets. -/
def Argument.position (a : Argument) : Nat :=
  a.binding.source.index

/-- The call of the setter of the attribute at a position. -/
structure Assignment (ρ : Type) where
  position : Nat
  set : Setter ρ
  value : Value

/-- The setters are called in order, each on the record that the one before it left. -/
inductive Assigned : ρ → List (Assignment ρ) → ρ → Prop where
  | nil (x : ρ) : Assigned x [] x
  | cons {x y z : ρ} {a : Assignment ρ} {rest : List (Assignment ρ)} :
      a.set x a.value = .ok y → Assigned y rest z → Assigned x (a :: rest) z

namespace Reader

variable {s : Schema ρ} {registry : Registry} {o : Options} {r : Reader ρ} {row : Scope String}

/-- The arguments that the creator of a reader gets from the values of all attributes. -/
def argumentsOf (r : Reader ρ) (values : List Value) : List Argument :=
  r.creation.bindings.filterMap fun b => values[b.source.index]?.map (Argument.mk b)

/-- The assignments of the columns from position `index` on. -/
def assignmentsFrom (r : Reader ρ) (index : Nat) : List (ReadColumn ρ × Value) → List (Assignment ρ)
  | [] => []
  | (column, v) :: rest =>
    (if r.creation.isBound index then []
      else column.set.toList.map fun set => ⟨index, set, v⟩) ++ assignmentsFrom r (index + 1) rest

/-- **Assigning values is calling setters in order.** -/
theorem assigned_of_assignAll {record y : ρ} {index : Nat} {columns : List (ReadColumn ρ × Value)}
    (h : r.assignAll row record index columns = .ok y) :
    Assigned record (r.assignmentsFrom index columns) y := by
  induction columns generalizing record index with
  | nil =>
    obtain rfl := Except.ok.inj h
    exact .nil record
  | cons e rest ih =>
    obtain ⟨next, hnext, hrest⟩ := Outcome.bind_eq_ok_iff.1 h
    have hcalls := ih hrest
    rw [assign_eq_ok_iff, store] at hnext
    rw [assignmentsFrom]
    split at hnext
    · rename_i hbound
      obtain rfl := Except.ok.inj hnext
      rw [if_pos hbound]
      exact hcalls
    · rename_i hfree
      rw [if_neg hfree]
      split at hnext
      · rename_i hset
        obtain rfl := Except.ok.inj hnext
        rw [hset]
        exact hcalls
      · rename_i set hset
        rw [hset]
        exact .cons hnext hcalls

/-- The columns from a position on have a setter each, unless the creator takes their value. -/
def Assignable (r : Reader ρ) (index : Nat) (columns : List (ReadColumn ρ × Value)) : Prop :=
  ∀ i e, columns[i]? = some e → r.creation.isBound (index + i) = true ∨ e.1.set.isSome

/-- **An assignment is made for each attribute that the creator does not take,** in order. -/
theorem map_position_assignmentsFrom {index : Nat} {columns : List (ReadColumn ρ × Value)}
    (h : r.Assignable index columns) :
    (r.assignmentsFrom index columns).map Assignment.position =
      (List.range' index columns.length).filter fun i => !r.creation.isBound i := by
  induction columns generalizing index with
  | nil => rfl
  | cons e rest ih =>
    have hrest : r.Assignable (index + 1) rest := fun i e' he' => by
      have hnext := h (i + 1) e' he'
      rwa [← Nat.add_assoc, Nat.add_right_comm] at hnext
    rw [assignmentsFrom, List.map_append, ih hrest, List.length_cons, List.range'_succ]
    rcases h 0 e rfl with hbound | hset
    · rw [Nat.add_zero] at hbound
      rw [if_pos hbound, List.filter_cons_of_neg (by rw [hbound]; exact Bool.false_ne_true)]
      rfl
    · obtain ⟨set, hset⟩ := Option.isSome_iff_exists.1 hset
      cases hbound : r.creation.isBound index with
      | true =>
        rw [if_pos rfl, List.filter_cons_of_neg (by rw [hbound]; exact Bool.false_ne_true)]
        rfl
      | false =>
        rw [if_neg Bool.false_ne_true, List.filter_cons_of_pos (by rw [hbound]; rfl), hset]
        rfl

/-- An assignment calls the setter of a column with the value of its attribute. -/
theorem exists_of_mem_assignmentsFrom {index : Nat} {columns : List (ReadColumn ρ × Value)}
    {a : Assignment ρ} (ha : a ∈ r.assignmentsFrom index columns) :
    ∃ i column, a.position = index + i ∧ columns[i]? = some (column, a.value) ∧
      column.set = some a.set := by
  induction columns generalizing index with
  | nil => cases ha
  | cons e rest ih =>
    rw [assignmentsFrom, List.mem_append] at ha
    rcases ha with ha | ha
    · split at ha
      · cases ha
      · obtain ⟨set, hset, rfl⟩ := List.mem_map.1 ha
        exact ⟨0, e.1, rfl, rfl, Option.mem_toList.1 hset⟩
    · obtain ⟨i, column, hpos, hget, hset⟩ := ih ha
      exact ⟨i + 1, column, by rw [hpos, Nat.add_assoc, Nat.add_comm 1], hget, hset⟩

/-- **The creator gets one argument for each parameter,** in order. -/
theorem map_binding_argumentsOf {values : List Value}
    (h : ∃ arguments, r.creation.arguments values = .ok arguments) :
    (r.argumentsOf values).map Argument.binding = r.creation.bindings ∧
      r.creation.arguments values = .ok ((r.argumentsOf values).map Argument.value) := by
  obtain ⟨arguments, harguments⟩ := h
  rw [harguments, argumentsOf]
  rw [Creation.arguments_eq_ok_iff] at harguments
  generalize r.creation.bindings = bindings at harguments
  induction harguments with
  | nil => exact ⟨rfl, rfl⟩
  | @cons b v bindings arguments hb _ ih =>
    rw [List.filterMap_cons, hb]
    exact ⟨congrArg _ ih.1, congrArg _ (congrArg _ (Except.ok.inj ih.2))⟩

theorem value_of_mem_argumentsOf {values : List Value} {a : Argument}
    (ha : a ∈ r.argumentsOf values) :
    a.binding ∈ r.creation.bindings ∧ values[a.position]? = some a.value := by
  obtain ⟨b, hb, heq⟩ := List.mem_filterMap.1 ha
  obtain ⟨v, hv, rfl⟩ := Option.map_eq_some_iff.1 heq
  exact ⟨hb, hv⟩

end Reader

/-! ## Rows -/

/-- **The values of a row are delivered to its record,** each exactly once. -/
structure Delivered (s : Schema ρ) (o : Options) (r : Reader ρ) (values : List Value)
    (arguments : List Argument) (assignments : List (Assignment ρ)) (y : ρ) : Prop where
  /-- The creator runs on the arguments; then the setters are called. -/
  made : ∃ x, r.creation.creator.run (.ofList (arguments.map Argument.value)) = .ok x ∧
    Assigned x assignments y
  /-- The arguments are those of the parameters, in order. -/
  bindings : arguments.map Argument.binding = r.creation.bindings
  parameters : r.creation.bindings.map ParameterBinding.parameter = r.creation.creator.parameters
  /-- A parameter gets the value of an attribute of its type. -/
  argument : ∀ a ∈ arguments, values[a.position]? = some a.value ∧
    ∃ owner, s.attributes[a.position]? = some owner ∧ owner.type = a.binding.parameter.type
  /-- The setters are called in the order of the attributes. -/
  order : assignments.Pairwise fun a b => a.position < b.position
  /-- The setter that is called is the one chosen for the attribute. -/
  assignment : ∀ a ∈ assignments, values[a.position]? = some a.value ∧
    ∃ owner, s.attributes[a.position]? = some owner ∧ owner.setter? o = some a.set
  /-- Arguments and assignments together serve each attribute once. -/
  once : (arguments.map Argument.position ++ assignments.map Assignment.position).Perm
    (List.range s.attributes.length)

namespace Reader

variable {s : Schema ρ} {registry : Registry} {o : Options} {r : Reader ρ} {row : Scope String}

/-- The columns of a reader with their values are assignable. -/
theorem assignable_zip (hr : Reader.make s registry o = .ok r) (values : List Value) :
    r.Assignable 0 (r.columns.zip values) := by
  obtain ⟨-, -, -, hassign⟩ := make_eq_ok hr
  intro i e he
  rw [Nat.zero_add]
  exact hassign (e.1, i) (List.mk_mem_zipIdx_iff_getElem?.2 (List.getElem?_zip_eq_some.1 he).1)

/-- **Arguments and assignments serve each attribute once:** the bound ones, and all others. -/
theorem perm_positions (hr : Reader.make s registry o = .ok r) {values : List Value}
    (hlength : values.length = s.attributes.length) :
    ((r.argumentsOf values).map Argument.position ++
      (r.assignmentsFrom 0 (r.columns.zip values)).map Assignment.position).Perm
      (List.range s.attributes.length) := by
  obtain ⟨hcolumns, -, hcreation, -⟩ := make_eq_ok hr
  have hsound := Schema.sound_creation hcreation
  have hzip : (r.columns.zip values).length = s.attributes.length := by
    have hcols := congrArg List.length (Schema.map_descriptor_readColumns hcolumns)
    rw [List.length_map, s.length_descriptors] at hcols
    rw [List.length_zip, hcols, hlength, Nat.min_self]
  have harguments : (r.argumentsOf values).map Argument.position =
      r.creation.bindings.map fun b => b.source.index := by
    rw [← (map_binding_argumentsOf (hsound.exists_arguments hlength)).1, List.map_map]
    rfl
  rw [map_position_assignmentsFrom (assignable_zip hr values), hzip, harguments,
    ← List.range_eq_range']
  refine (List.perm_ext_iff_of_nodup ?_ List.nodup_range).2 fun i => ?_
  · refine List.nodup_append.2 ⟨hsound.distinct, List.nodup_range.filter _, ?_⟩
    rintro i hi _ hj rfl
    obtain ⟨b, hb, rfl⟩ := List.mem_map.1 hi
    have hbound := Creation.isBound_iff.2 ⟨b, hb, rfl⟩
    simp [hbound] at hj
  · have hbound : i ∈ (r.creation.bindings.map fun b => b.source.index) ↔
        r.creation.isBound i = true := by
      rw [Creation.isBound_iff, List.mem_map]
    have hlt : r.creation.isBound i = true → i < s.attributes.length := fun hi => by
      obtain ⟨b, hb, rfl⟩ := Creation.isBound_iff.1 hi
      obtain ⟨a, ha, -⟩ := hsound.sources b hb
      exact (List.getElem?_eq_some_iff.1 ha).1
    rw [List.mem_append, hbound, List.mem_filter, List.mem_range]
    cases hi : r.creation.isBound i with
    | true => simp [hlt hi]
    | false => simp

/-- Rows of two texts, of which their creator takes the second and a setter the first. -/
def addressRows : Schema SlotRecord :=
  ⟨"Row", none,
    [⟨"city", .scalar .string, none, some (SlotRecord.setter "city" .any), none, none, {}⟩,
    ⟨"name", .scalar .string, none, none, none, none, {}⟩],
    [⟨"make", false, true, [⟨some "name", .scalar .string, false⟩],
      SlotRecord.create [⟨0, .any, "name"⟩] none⟩], rfl⟩

/-- **Every value reaches the record once.**  Where a row is converted, the creator gets the values
of the attributes bound to its parameters, and then the setter of each other attribute is called
with its value, in order. -/
theorem exists_delivered (hr : Reader.make s registry o = .ok r) {y : ρ}
    (h : r.convert row = .ok y) :
    ∃ values arguments assignments, r.values row = .ok values ∧
      Delivered s o r values arguments assignments y := by
  obtain ⟨hcolumns, -, hcreation, -⟩ := make_eq_ok hr
  have hsound := Schema.sound_creation hcreation
  obtain ⟨values, hvalues, h⟩ := Outcome.bind_eq_ok_iff.1 h
  obtain ⟨x, hx, hassign⟩ := Outcome.bind_eq_ok_iff.1 h
  have hlength := length_values hr hvalues
  obtain ⟨hbindings, harguments⟩ := map_binding_argumentsOf (hsound.exists_arguments hlength)
  refine ⟨values, r.argumentsOf values, r.assignmentsFrom 0 (r.columns.zip values), hvalues,
    ⟨x, ?_, assigned_of_assignAll hassign⟩, hbindings, hsound.parameters, fun a ha => ?_, ?_,
    fun a ha => ?_, perm_positions hr hlength⟩
  · obtain ⟨vs, hvs, hrun⟩ := Outcome.bind_eq_ok_iff.1 (Outcome.mapError_eq_ok_iff.1 hx)
    obtain rfl := Except.ok.inj (harguments.symm.trans hvs)
    exact Outcome.mapError_eq_ok_iff.1 hrun
  · obtain ⟨hmem, hvalue⟩ := value_of_mem_argumentsOf ha
    exact ⟨hvalue, hsound.sources a.binding hmem⟩
  · rw [← List.pairwise_map, map_position_assignmentsFrom (assignable_zip hr values)]
    exact (List.pairwise_lt_range' ..).filter _
  · obtain ⟨i, column, hpos, hget, hset⟩ := exists_of_mem_assignmentsFrom ha
    rw [Nat.zero_add] at hpos
    obtain ⟨hcolumn, hvalue⟩ := List.getElem?_zip_eq_some.1 hget
    obtain ⟨owner, howner, hread⟩ := Schema.exists_attribute_of_readColumns hcolumns hcolumn
    obtain ⟨-, -, -, -, hreach⟩ := Attribute.readColumn_eq_ok hread
    exact ⟨hpos ▸ hvalue, owner, hpos ▸ howner, hreach.symm.trans hset⟩

/-- A row of both texts. -/
theorem exists_delivered_address :
    ∃ r, make addressRows .builtin {} = .ok r ∧
      r.convert (.ofList [("city", "Paris"), ("name", "Ada")]) =
        .ok (.ofList [("name", .str "Ada"), ("city", .str "Paris")]) ∧
      ∃ values arguments assignments,
        r.values (.ofList [("city", "Paris"), ("name", "Ada")]) = .ok values ∧
        Delivered addressRows {} r values arguments assignments
          (.ofList [("name", .str "Ada"), ("city", .str "Paris")]) := by
  refine ⟨_, rfl, rfl, ?_⟩
  exact exists_delivered rfl rfl

end Reader

end RecordSheet
