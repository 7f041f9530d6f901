import Mathlib.Data.List.Nodup
import RecordSheet.Handler.Registry

/-!
# Proofs/Handler/Registration — the handlers of a table are those registered last

A table comes about by calls: it starts without handlers, with the built-in ones or with those of a
registry, and then handlers are registered one by one or merged from a registry, which is itself a
table that came about in this way and was closed (`Origin`).  Each way to enter a handler keeps one
entry for a type and none for a blank name (`Sound`); only registering by hand checks the name, so
the built-in and the merged entries bring this along.  What such a table finds is what was said last
of the type (`Origin.get?_table`), and a sound table that is reopened is the same table
(`reopen_eq`).
-/

namespace RecordSheet

namespace HandlerTable

/-! ## Sound tables -/

/-- **One entry for each type,** and none for a type with a blank name. -/
structure Sound (t : HandlerTable) : Prop where
  distinct : (t.entries.map Prod.fst).Nodup
  named : ∀ type ∈ t.entries.map Prod.fst, type.isAbsent = false

variable {t u : HandlerTable}

theorem sound_empty : empty.Sound :=
  ⟨.nil, nofun⟩

theorem Sound.insert (h : t.Sound) {type : ScalarType} (htype : type.isAbsent = false)
    (handler : Handler) : (t.insert type handler).Sound := by
  have hkeys := Entries.map_fst_put type handler t.entries
  split_ifs at hkeys with hmem
  · exact ⟨hkeys ▸ h.distinct, hkeys ▸ h.named⟩
  · refine ⟨hkeys ▸ ?_, hkeys ▸ ?_⟩
    · exact h.distinct.append (List.nodup_singleton type) (List.disjoint_singleton.2 hmem)
    · exact List.forall_mem_append.2 ⟨h.named, List.forall_mem_singleton.2 htype⟩

/-- **Entries of named types** may be put in one after the other. -/
theorem Sound.foldl_insert (h : t.Sound) {es : List (ScalarType × Handler)}
    (hes : ∀ type ∈ es.map Prod.fst, type.isAbsent = false) :
    (es.foldl (fun t e => t.insert e.1 e.2) t).Sound := by
  induction es generalizing t with
  | nil => exact h
  | cons e es ih =>
    rw [List.map_cons, List.forall_mem_cons] at hes
    exact ih (h.insert hes.1 e.2) hes.2

theorem Sound.merge (h : t.Sound) (hu : u.Sound) : (t.merge u).Sound :=
  h.foldl_insert hu.named

/-- The built-in handlers under the types that they name. -/
def builtinEntries : List (ScalarType × Handler) :=
  builtinHandlers.map fun h => (h.handledType, h)

theorem builtin_eq : builtin = builtinEntries.foldl (fun t e => t.insert e.1 e.2) empty := by
  rw [builtin, builtinEntries, List.foldl_map]

theorem sound_builtin : builtin.Sound := by
  rw [builtin_eq]
  exact sound_empty.foldl_insert (by decide)

end HandlerTable

/-- Whether the type is neither an enumeration nor a named class. -/
def ScalarType.isBuiltin : ScalarType → Bool
  | .enumeration _ | .named _ => false
  | _ => true

namespace HandlerTable

/-- **The built-in table serves every type but enumerations and named classes,** each by a handler
that names it. -/
theorem map_handledType_get?_builtin (type : ScalarType) :
    (builtin.get? type).map Handler.handledType = if type.isBuiltin then some type else none := by
  cases type with
  | signed w | unsigned w | float w => cases w <;> rfl
  | _ => rfl

variable {t u : HandlerTable}

/-! ## What a table finds -/

/-- The entries that were put in last come first. -/
theorem get?_foldl_insert (es : List (ScalarType × Handler)) (t : HandlerTable)
    (type : ScalarType) :
    (es.foldl (fun t e => t.insert e.1 e.2) t).get? type =
      (es.reverse.lookup type).or (t.get? type) :=
  Entries.lookup_foldl get?_insert es t type

/-- **The entries of a merged table** count more than those that were there. -/
theorem get?_merge (t : HandlerTable) (hu : u.Sound) (type : ScalarType) :
    (t.merge u).get? type = (u.get? type).or (t.get? type) := by
  have hreverse : u.entries.reverse.lookup type = u.entries.lookup type := by
    refine Option.ext fun handler => ?_
    rw [Entries.lookup_eq_some_iff hu.distinct, Entries.lookup_eq_some_iff, List.mem_reverse]
    rw [List.map_reverse]
    exact List.nodup_reverse.2 hu.distinct
  rw [merge, get?_foldl_insert, hreverse]
  rfl

/-- **A type is listed** exactly when it has a handler. -/
theorem mem_types_iff {type : ScalarType} : type ∈ t.types ↔ t.contains type = true := by
  rw [types, List.mem_mergeSort, contains, get?, List.lookup_isSome_iff, List.mem_map]
  exact exists_congr fun e => and_congr_right fun _ => by rw [beq_iff_eq, eq_comm]

theorem Sound.nodup_types (h : t.Sound) : t.types.Nodup :=
  (List.mergeSort_perm _ _).nodup_iff.2 h.distinct

/-- **No type with a blank name** has a handler. -/
theorem Sound.contains_eq_false (h : t.Sound) {type : ScalarType} (htype : type.isAbsent = true) :
    t.contains type = false := by
  by_contra hcontains
  rw [Bool.not_eq_false, ← mem_types_iff, types, List.mem_mergeSort] at hcontains
  rw [h.named type hcontains] at htype
  cases htype

/-- Entries of types that are new and distinct are added in order. -/
theorem foldl_insert_of_nodup {es : List (ScalarType × Handler)}
    (h : ((t.entries ++ es).map Prod.fst).Nodup) :
    es.foldl (fun t e => t.insert e.1 e.2) t = ⟨t.entries ++ es⟩ := by
  induction es generalizing t with
  | nil => rw [List.foldl_nil, List.append_nil]
  | cons e es ih =>
    have hinsert : t.insert e.1 e.2 = ⟨t.entries ++ [e]⟩ := by
      rw [insert, Entries.put_of_notMem]
      rw [List.map_append, List.map_cons, List.nodup_append] at h
      exact fun hmem => h.2.2 _ hmem _ List.mem_cons_self rfl
    rw [List.append_cons] at h
    rw [List.foldl_cons, hinsert, ih h, List.append_assoc, List.singleton_append]

/-- **A sound table that is closed and reopened** is the same table. -/
theorem Sound.reopen_eq (h : t.Sound) : (Registry.mk t).reopen = t :=
  foldl_insert_of_nodup (t := empty) h.distinct

/-! ## How a table comes about -/

/-- **How a table came about:** where it started, and the calls made to it since.  A registry is a
table that was closed, so it has an origin too. -/
inductive Origin where
  | new
  | builtin
  | add (o : Origin) (handler : Handler)
  | addFor (o : Origin) (type : ScalarType) (handler : Handler)
  | addAll (o : Origin) (registry : Origin)
  | reopened (registry : Origin)

namespace Origin

/-- The table after a registration, which may have been refused. -/
def kept (t : HandlerTable) : Except SetupFault (HandlerTable × Bool) → HandlerTable
  | .ok (u, _) => u
  | .error _ => t

/-- The table that came about. -/
def table : Origin → HandlerTable
  | .new => .empty
  | .builtin => .builtin
  | .add o handler => kept o.table (o.table.add handler)
  | .addFor o type handler => kept o.table (o.table.addFor type handler)
  | .addAll o registry => o.table.merge (Registry.mk registry.table).table
  | .reopened registry => (Registry.mk registry.table).reopen

/-- The table closed for registration. -/
def registry (o : Origin) : Registry :=
  ⟨o.table⟩

/-- What registering a handler says of types: nothing when the type has a blank name. -/
def registered (type : ScalarType) (handler : Handler) : List (ScalarType × Handler) :=
  if type.isAbsent then [] else [(type, handler)]

/-- **The handlers that were said to serve types,** in order.  Merging a registry says again what
was said of its table. -/
def said : Origin → List (ScalarType × Handler)
  | .new => []
  | .builtin => builtinEntries
  | .add o handler => o.said ++ registered handler.handledType handler
  | .addFor o type handler => o.said ++ registered type handler
  | .addAll o registry => o.said ++ registry.said
  | .reopened registry => registry.said

/-- What was said last of a type. -/
def latest (o : Origin) (type : ScalarType) : Option Handler :=
  o.said.reverse.lookup type

theorem kept_addFor (t : HandlerTable) (type : ScalarType) (handler : Handler) :
    kept t (t.addFor type handler) = if type.isAbsent then t else t.insert type handler := by
  rw [HandlerTable.addFor]
  split <;> rfl

/-- **Every table is sound,** however it came about. -/
theorem sound_table (o : Origin) : o.table.Sound := by
  have hregister : ∀ {t : HandlerTable}, t.Sound → ∀ type handler,
      (kept t (t.addFor type handler)).Sound := fun {t} ht type handler => by
    rw [kept_addFor]
    split_ifs with htype
    · exact ht
    · exact ht.insert (Bool.not_eq_true _ ▸ htype) handler
  induction o with
  | new => exact sound_empty
  | builtin => exact sound_builtin
  | add o handler ih => exact hregister ih _ handler
  | addFor o type handler ih => exact hregister ih type handler
  | addAll o registry ih ihr => exact ih.merge ihr
  | reopened registry ih => exact sound_empty.merge ih

/-- One registration finds the handler under its type. -/
theorem get?_kept_addFor (t : HandlerTable) (registered : ScalarType) (handler : Handler)
    (type : ScalarType) :
    (kept t (t.addFor registered handler)).get? type =
      ((Origin.registered registered handler).reverse.lookup type).or (t.get? type) := by
  rw [kept_addFor, Origin.registered]
  split_ifs with htype
  · rfl
  · rw [get?_insert, List.reverse_singleton, Entries.lookup_cons, List.lookup_nil]
    split <;> rfl

/-- **The handler found for a type** is the one that was said last to serve it. -/
theorem get?_table (o : Origin) (type : ScalarType) : o.table.get? type = o.latest type := by
  induction o with
  | new => rfl
  | builtin =>
    rw [table, builtin_eq, get?_foldl_insert]
    exact Option.or_none
  | add o handler ih =>
    rw [table, HandlerTable.add, get?_kept_addFor, ih, latest, latest, said, List.reverse_append,
      List.lookup_append]
  | addFor o registered handler ih =>
    rw [table, get?_kept_addFor, ih, latest, latest, said, List.reverse_append, List.lookup_append]
  | addAll o registry ih ihr =>
    rw [table, get?_merge _ registry.sound_table, ih, ihr, latest, latest, latest, said,
      List.reverse_append, List.lookup_append]
  | reopened registry ih =>
    rw [table, registry.sound_table.reopen_eq, ih]
    rfl

/-! ## The laws of registration -/

/-- What serves a type without a handler of its own in a registry. -/
def standIn? : ScalarType → Option Handler
  | .enumeration _ => some .enumeration
  | _ => none

theorem get?_registry (o : Origin) (type : ScalarType) :
    o.registry.get? type = (o.latest type).or (standIn? type) := by
  rw [← get?_table]
  unfold registry Registry.get?
  cases o.table.get? type with
  | some handler => rfl
  | none => cases type <;> rfl

/-- **The last registration counts, and no type without a name is registered.**  However a table
came about, by registering handlers and by merging and reopening registries that came about in the
same way: neither it nor its registry has a handler for a type with a blank name; both list exactly
the types that have one, each once; the handler of a type is the one said last to serve it, and only
a registry lets the handler of all enumerations stand in for one without its own; a registration
says whether the type was not listed, and is refused, without a change, exactly for a blank name;
and a registry that is reopened and closed again answers as before. -/
theorem registration_laws (o : Origin) :
    (∀ type, type.isAbsent = true →
      o.table.contains type = false ∧ o.registry.contains type = false) ∧
    ((o.table.types.Nodup ∧ ∀ type, type ∈ o.table.types ↔ o.table.contains type = true) ∧
      o.registry.types.Nodup ∧ ∀ type, type ∈ o.registry.types ↔ o.registry.contains type = true) ∧
    (∀ type, o.table.get? type = o.latest type ∧
      o.registry.get? type = (o.latest type).or (standIn? type)) ∧
    (∀ type handler,
      (type.isAbsent = true ∧ o.table.addFor type handler = .error .absentType ∧
        (o.addFor type handler).table = o.table) ∨
      (type.isAbsent = false ∧ ∃ first, (first = true ↔ type ∉ o.table.types) ∧
        o.table.addFor type handler = .ok ((o.addFor type handler).table, first))) ∧
    ∀ type, (Registry.mk o.registry.reopen).get? type = o.registry.get? type ∧
      (Registry.mk o.registry.reopen).contains type = o.registry.contains type := by
  have ho := o.sound_table
  have hlisted : o.table.types.Nodup ∧
      ∀ type, type ∈ o.table.types ↔ o.table.contains type = true :=
    ⟨ho.nodup_types, fun type => mem_types_iff⟩
  refine ⟨fun type htype => ?_, ⟨hlisted, hlisted⟩,
    fun type => ⟨o.get?_table type, o.get?_registry type⟩, fun type handler => ?_, fun type => ?_⟩
  · exact ⟨ho.contains_eq_false htype, ho.contains_eq_false htype⟩
  · rw [table, kept_addFor, HandlerTable.addFor]
    cases htype : type.isAbsent with
    | true => exact .inl ⟨rfl, rfl, rfl⟩
    | false =>
      refine .inr ⟨rfl, _, ?_, rfl⟩
      rw [mem_types_iff, Bool.not_eq_true, Bool.not_eq_true']
  · rw [registry, ho.reopen_eq]
    exact ⟨rfl, rfl⟩

/-- A class served by the handler of texts, and then by the one of characters that another registry
brings along. -/
theorem registration_laws_money :
    let money : ScalarType := .named "Money"
    let color : ScalarType := .enumeration ⟨"Color", ["RED"]⟩
    let o : Origin := .addAll (.addFor .builtin money .string) (.addFor .new money .char)
    o.table.get? money = some .char ∧ o.registry.get? color = some .enumeration ∧
      o.table.get? color = none ∧ o.table.addFor (.named " ") .string = .error .absentType ∧
      ∃ t, o.table.addFor money .bool = .ok (t, false) ∧ t.get? money = some .bool := by
  intro money color o
  obtain ⟨-, -, hget, hadd, -⟩ := registration_laws o
  obtain ⟨-, habsent, -⟩ | ⟨⟨⟩, -⟩ := hadd (.named " ") .string
  obtain ⟨⟨⟩, -⟩ | ⟨-, first, hfirst, hmoney⟩ := hadd money .bool
  have hlisted : money ∈ o.table.types := mem_types_iff.2 (congrArg Option.isSome (hget money).1)
  obtain rfl : first = false := by simpa [hlisted] using hfirst
  exact ⟨(hget money).1, (hget color).2, (hget color).1, habsent, _, hmoney,
    (o.addFor money .bool).get?_table money⟩

end Origin

end HandlerTable

end RecordSheet
