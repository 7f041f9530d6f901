import RecordSheet.Mapping.Route
import RecordSheet.Proofs.Handler.Typing
import RecordSheet.Proofs.Mapping.Columns

/-!
# Proofs/Mapping/Typing — what is read from a cell fits the field

A value has a shape when it is a sequence at each container level and a value of the scalar type
under them (`Shape.Holds`).  With the built-in handlers each value that is read along a shape has
it, by induction over the shape (`Plan.holds_of_decode`), and then a field with a list for each
container takes it (`Shape.Holds.exists_accept`).
-/

namespace RecordSheet

open Outcome

namespace Shape

/-- **The value has the shape:** a sequence at each container level, and under them values of the
scalar type. -/
def Holds : Shape → Value → Prop
  | .scalar t, v => v.Typed t
  | .array s, v | .iterable s, v => ∃ items, v = .seq items ∧ ∀ item ∈ items, s.Holds item

/-- The field for the values of a shape: a list for each container. -/
def field : Shape → FieldType
  | .scalar t => t.field
  | .array s | .iterable s => .list s.field

variable {s : Shape} {v : Value}

/-- The value of a blank cell has the shape. -/
theorem holds_neutral (s : Shape) : s.Holds (.neutral s) := by
  cases s with
  | scalar t => exact Value.typed_zero t
  | array s | iterable s => exact ⟨[], rfl, List.forall_mem_nil _⟩

/-- A list takes the elements that its field takes. -/
theorem exists_accept_list {t : FieldType} {items : List Value}
    (h : ∀ item ∈ items, ∃ held, t.accept item = .ok held) :
    ∃ held, (FieldType.list t).accept (.seq items) = .ok held := by
  obtain ⟨helds, hall⟩ := exists_forall₂ h
  exact ⟨.seq helds, bind_eq_ok_iff.2 ⟨items, rfl,
    bind_eq_ok_iff.2 ⟨helds, mapM_eq_ok_iff.2 hall, rfl⟩⟩⟩

/-- **A field of a shape takes its values.** -/
theorem Holds.exists_accept (h : s.Holds v) : ∃ held, s.field.accept v = .ok held := by
  induction s generalizing v with
  | scalar t => exact Value.Typed.exists_accept h
  | array s ih | iterable s ih =>
    obtain ⟨items, rfl, hitems⟩ := h
    exact exists_accept_list fun item hi => ih (hitems item hi)

end Shape

namespace Plan

variable {p : Plan} {c : SequenceCodec} {s : Shape} {text : String} {v : Value}

/-- An element is neutral or read from its token. -/
theorem holds_of_decodeElement {one : String → Except Failure Value}
    (hone : ∀ {token v}, one token = .ok v → s.Holds v) {token : String}
    (h : p.decodeElement s one text token = .ok v) : s.Holds v := by
  rw [decodeElement] at h
  split at h
  · split at h
    · cases h
    · obtain rfl := Except.ok.inj h
      exact s.holds_neutral
  · exact hone h

/-- **One level:** the elements of a sequence have the shape one level down. -/
theorem holds_of_decodeSequence {one : String → Except Failure Value}
    (hone : ∀ {token v}, one token = .ok v → s.Holds v)
    (h : p.decodeSequence c s one text = .ok v) :
    ∃ items, v = .seq items ∧ ∀ item ∈ items, s.Holds item := by
  obtain ⟨tokens, -, h⟩ := bind_eq_ok_iff.1 h
  obtain ⟨items, hitems, h⟩ := bind_eq_ok_iff.1 h
  refine ⟨items, (Except.ok.inj h).symm, fun item hi => ?_⟩
  obtain ⟨token, -, hitem⟩ := exists_of_forall₂ (mapM_eq_ok_iff.1 hitems) hi
  exact holds_of_decodeElement hone hitem

/-- **What the built-in handlers read has the shape,** by induction over the shape; the handler is
that of its scalar type at every level. -/
theorem holds_of_decode (hhandler : p.handler = Registry.builtin.get? p.shape.leaf)
    (hs : s.leaf = p.shape.leaf) (h : p.decode c s text = .ok v) : s.Holds v := by
  induction s generalizing text v with
  | scalar t =>
    obtain rfl : t = p.shape.leaf := hs
    rw [decode] at h
    split at h
    · obtain rfl := Except.ok.inj h
      exact Value.typed_zero _
    · next handler hp =>
      exact Handler.typed_of_decode (hhandler.symm.trans hp) (fun _ _ => rfl)
        (mapError_eq_ok_iff.1 h)
  | array s ih | iterable s ih => exact holds_of_decodeSequence (ih hs) h

/-- A blank cell holds the fallback or the neutral value, and any other what is read from it. -/
theorem holds_of_readText (hhandler : p.handler = Registry.builtin.get? p.shape.leaf)
    (h : p.readText c text = .ok v) : p.shape.Holds v := by
  rw [readText] at h
  split at h
  · split at h
    · exact holds_of_decode hhandler rfl h
    · obtain rfl := Except.ok.inj h
      exact p.shape.holds_neutral
  · obtain ⟨_, -, h⟩ := bind_eq_ok_iff.1 h
    exact holds_of_decode hhandler rfl h

end Plan

/-- **What is read from a cell fits the declared type.**  With the built-in handlers a value has the
shape of the type that its attribute declares, whatever the fallback, and the field of that shape
takes it. -/
theorem holds_and_accepted_of_readText {ρ : Type} {a : Attribute ρ} {d : Descriptor}
    {inherited : Option String} {o : Options} {accessor : Bool} {p : Plan}
    (hp : a.plan d inherited .builtin o .read accessor = .ok p) {c : SequenceCodec} {text : String}
    {v : Value} (h : p.readText c text = .ok v) :
    ∃ shape, d.type.shape = .ok shape ∧ shape.Holds v ∧
      ∃ held, shape.field.accept v = .ok held := by
  obtain ⟨shape, hshape, -, rfl⟩ := Attribute.plan_eq_ok_iff.1 hp
  have hholds : shape.Holds v := Plan.holds_of_readText rfl h
  exact ⟨shape, hshape, hholds, hholds.exists_accept⟩

/-- An attribute of lists of lists of bytes. -/
def byteLists : Attribute Unit where
  name := "lists"
  type := .array (.array (.scalar (.unsigned .w8)))

/-- The plan to read lists of lists of bytes. -/
def byteListsPlan : Plan :=
  byteLists.planOf ⟨"lists", "Row", byteLists.type, 0⟩ none .builtin {} .read false
    (.array (.array (.scalar (.unsigned .w8))))

/-- Lists of bytes are read from a nested sequence. -/
theorem holds_and_accepted_of_readText_byteLists :
    byteListsPlan.readText {} "[[1, 255], [7]]" =
      .ok (.seq [.seq [.uint 1, .uint 255], .seq [.uint 7]]) ∧
      ∃ shape, byteLists.type.shape = .ok shape ∧
        shape.Holds (.seq [.seq [.uint 1, .uint 255], .seq [.uint 7]]) ∧
        ∃ held, shape.field.accept (.seq [.seq [.uint 1, .uint 255], .seq [.uint 7]]) =
          .ok held := by
  have h : byteListsPlan.readText {} "[[1, 255], [7]]" =
      .ok (.seq [.seq [.uint 1, .uint 255], .seq [.uint 7]]) := by decide +kernel
  have hp : byteLists.plan ⟨"lists", "Row", byteLists.type, 0⟩ none .builtin {} .read false =
      .ok byteListsPlan := rfl
  exact ⟨h, holds_and_accepted_of_readText hp h⟩

end RecordSheet
