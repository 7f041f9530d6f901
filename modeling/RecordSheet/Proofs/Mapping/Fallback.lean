import RecordSheet.Proofs.Mapping.Rewriting
import RecordSheet.Proofs.Mapping.Route

/-!
# Proofs/Mapping/Fallback — an absent value and a blank cell

Where there is no text to write, the fallback is: read, and written again.  A text is **stable**
when this gives nothing, so that the text itself stands, or a text that is read as the same value
(`Plan.Stable`).  Then an absent value is written as what a blank cell is read as
(`reads_of_stable`), and only where there is no fallback either is the cell left blank.
-/

namespace RecordSheet

open Outcome

namespace Plan

variable {p q : Plan} {o : Options} {c : SequenceCodec} {text d : String} {v : Value}
  {scope : Scope Value}

/-- An absent value has no text. -/
theorem encode_null (p : Plan) (c : SequenceCodec) (s : Shape) : p.encode c s .null = .ok none := by
  cases s with
  | scalar _ | array _ | iterable _ => rfl

/-! ## Stable texts -/

/-- **What is read from the text** is written as nothing, or as a text that is read the same. -/
def Stable (p : Plan) (c : SequenceCodec) (text : String) : Prop :=
  ∀ v, p.decode c p.shape text = .ok v →
    ∃ written, p.encode c p.shape v = .ok written ∧ ∀ s ∈ written, p.decode c p.shape s = .ok v

/-- **The scalars of the plan are discrete:** they are served by the built-in handler of a discrete
type, and a blank element is a zero of that type or absent, as when it is their own type; or the
plan is for a scalar that no handler serves. -/
inductive Discrete (p : Plan) : Prop
  | served {u : ScalarType} (hhandler : p.handler = Registry.builtin.get? u)
    (hu : u.isDiscrete = true)
    (hzero : p.shape.isContainer = true →
      Value.zero p.shape.leaf = .null ∨ Value.zero p.shape.leaf = .zero u) : Discrete p
  | unserved (hhandler : p.handler = none) (hscalar : p.shape.isContainer = false) : Discrete p

/-- **Texts of discrete scalars are stable,** unless a sequence of one absent element is read from
them. -/
theorem Discrete.stable (h : p.Discrete)
    (hlone : ∀ v, p.decode {} p.shape text = .ok v → ¬ v.HasLoneNull) : p.Stable {} text := by
  intro v hv
  have hlone := hlone v hv
  cases h with
  | served hhandler hu hzero =>
    by_cases hnull : v = .null
    · exact ⟨none, hnull ▸ encode_null p {} p.shape, nofun⟩
    · obtain ⟨written, hencode, hdecode, -⟩ :
          ∃ written, p.encode {} p.shape v = .ok (some written) ∧
          p.decode {} p.shape written = .ok v ∧
          (SequenceCodec.Legible {} text → SequenceCodec.Legible {} written) := by
        cases hshape : p.shape with
        | scalar t => exact exists_rewritten_scalar hhandler hu (hshape ▸ hv) hnull
        | array s | iterable s =>
          rw [hshape] at hv hzero
          exact exists_rewritten hhandler hu (hzero rfl) hv hnull hlone
      refine ⟨some written, hencode, ?_⟩
      rintro _ ⟨⟩
      exact hdecode
  | unserved hhandler hscalar =>
    refine ⟨none, ?_, nofun⟩
    cases hshape : p.shape with
    | array _ | iterable _ => rw [hshape] at hscalar; cases hscalar
    | scalar _ => rw [encode, hhandler, ite_self]

/-- **An absent value is written as the fallback reads,** or fails as the fallback does. -/
theorem reads_of_stable (ha : p.Agrees q) (hq : q.validators = []) (hd : p.fallbackText? = some d)
    (hstable : p.Stable c d) (scope : Scope Value) :
    (∀ v, q.readText c "" = .ok v → ∃ text, p.writeBy c .null scope .handler = .ok (some text) ∧
      q.readText c text = .ok v) ∧
    ∀ f, q.readText c "" = .error f → p.writeBy c .null scope .handler = .error f := by
  have hdecode : ∀ text, q.decode c q.shape text = p.decode c p.shape text := fun text => by
    rw [ha.shape, decode_congr ha.handler ha.context]
  have hd' : q.fallbackText? = some d := by rw [fallbackText?, ← ha.fallback]; exact hd
  have hblank : ∀ {s : String}, Text.isBlank s = true → q.readText c s = p.decode c p.shape d :=
    fun hs => (readText_of_blank hd' hs).trans (hdecode d)
  have hwrite : p.writeBy c .null scope .handler = p.withFallback c none := by
    rw [writeBy, encode_null]
    rfl
  rw [hblank Text.isBlank_empty, hwrite, withFallback_none_of_some hd]
  constructor
  · intro v hv
    obtain ⟨written, hwritten, hsame⟩ := hstable v hv
    refine ⟨_, bind_eq_ok_iff.2 ⟨v, hv, bind_eq_ok_iff.2 ⟨written, hwritten, rfl⟩⟩, ?_⟩
    -- The text that stands is what was written again, or the fallback itself.
    have hstands : p.decode c p.shape ((written.filter fun s => !s.isEmpty).getD d) = .ok v := by
      cases hfilter : written.filter fun s => !s.isEmpty with
      | none => exact hv
      | some s => exact hsame s (Option.filter_eq_some_iff.1 hfilter).1
    cases hb : Text.isBlank ((written.filter fun s => !s.isEmpty).getD d) with
    | true => exact (hblank hb).trans hv
    | false => exact ((readText_of_visible hq hb).trans (hdecode _)).trans hstands
  · intro f hf
    rw [hf]
    rfl

/-- **An absent value is read back as a blank cell is.**  The plans write and read an attribute of
discrete scalars with a fallback and without validators, and what is read from the fallback holds no
sequence of one absent element: if a blank cell has a value, then an absent value is written as a
text of that value, and otherwise writing fails as reading does. -/
theorem readText_of_write_null (h : p.Discrete) (ha : p.Agrees q) (hq : q.validators = [])
    (hd : p.fallbackText? = some d)
    (hlone : ∀ v, p.decode {} p.shape d = .ok v → ¬ v.HasLoneNull) (scope : Scope Value) :
    (∀ v, q.readText {} "" = .ok v → ∃ text, p.writeBy {} .null scope .handler = .ok (some text) ∧
      q.readText {} text = .ok v) ∧
    ∀ f, q.readText {} "" = .error f → p.writeBy {} .null scope .handler = .error f :=
  reads_of_stable ha hq hd (h.stable hlone) scope

/-- Whole numbers that fall back on a text with a blank element and a leading zero. -/
def numberList : Plan :=
  ⟨⟨"ns", "Row", .array (.scalar (.signed .w32)), 0⟩, .write, {}, some ⟨"[ 1, , 07]", .attribute⟩,
    some (.signed .w32), [], .array (.scalar (.signed .w32)), none, none, "ns"⟩

/-- The fallback is written without its white space and leading zero, and reads the same. -/
theorem readText_of_write_null_numbers :
    let v : Value := .seq [.int 1, .int 0, .int 7]
    numberList.readText {} "" = .ok v ∧
      ∃ text, numberList.writeBy {} .null .empty .handler = .ok (some text) ∧
        numberList.readText {} text = .ok v := by
  intro v
  have hread : numberList.readText {} "" = .ok v := by decide +kernel
  have hlone : ∀ w, numberList.decode {} numberList.shape "[ 1, , 07]" = .ok w →
      ¬ w.HasLoneNull := by
    intro w hw
    obtain rfl := Except.ok.inj (hread.symm.trans hw)
    change ¬ Value.HasLoneNull (.seq [.int 1, .int 0, .int 7])
    rintro (_ | ⟨hi, h⟩)
    simp only [List.mem_cons, List.not_mem_nil, or_false] at hi
    obtain rfl | rfl | rfl := hi <;> cases h
  have hdiscrete : numberList.Discrete := .served (u := .signed .w32) rfl rfl fun _ => .inr rfl
  exact ⟨hread, (readText_of_write_null hdiscrete
    ⟨rfl, rfl, rfl, rfl⟩ rfl rfl hlone .empty).1 v hread⟩

/-! ## Cells left blank -/

/-- **A cell is left blank in one way only.**  What is written is not an empty text; a text that a
way gives for the value is written as it is, unless it is empty; and nothing is written exactly when
there is no text or an empty one, and no fallback or a blank one. -/
theorem write_text_or_blank (p : Plan) (o : Options) (v : Value) (scope : Scope Value) :
    (∀ text, p.write o v scope = .ok (some text) → text ≠ "") ∧
      (∀ text, text ≠ "" → p.ownText o v scope = .ok (some text) →
        p.write o v scope = .ok (some text)) ∧
      (p.write o v scope = .ok none ↔
        (∃ own, p.ownText o v scope = .ok own ∧ own.getD "" = "") ∧
          ∀ d ∈ p.fallback, Text.isBlank d.text = true) := by
  refine ⟨fun text => write_ne_empty, fun text hne hown => ?_, ?_⟩
  · rw [write_eq_bind, hown]
    exact withFallback_some hne
  · rw [write_eq_bind, bind_eq_ok_iff, ← fallbackText?_eq_none_iff]
    constructor
    · rintro ⟨own, hown, h⟩
      obtain ⟨hempty, hf⟩ := withFallback_eq_none_iff.1 h
      exact ⟨⟨own, hown, hempty⟩, hf⟩
    · rintro ⟨⟨own, hown, hempty⟩, hf⟩
      exact ⟨own, hown, withFallback_eq_none_iff.2 ⟨hempty, hf⟩⟩

/-- A text that may be absent, with a blank fallback. -/
def blankText : Plan :=
  ⟨⟨"note", "Row", .scalar .string, 0⟩, .write, { handler := true }, some ⟨" ", .attribute⟩,
    some .string, [], .scalar .string, none, none, "note"⟩

/-- A space that an expression gives is a text, and stands against the fallback.  A handler writes a
text as it is, and an empty one not at all where the fallback is blank. -/
theorem write_text_or_blank_space :
    let p : Plan := { numberList with flags := { expression := true }, expression := some "space" }
    let o : Options := { evaluator := some fun _ _ => .ok (.str " ") }
    p.ownText o .null .empty = .ok (some " ") ∧ p.write o .null .empty = .ok (some " ") ∧
      blankText.ownText {} (.str "x") .empty = .ok (some "x") ∧
      blankText.write {} (.str "x") .empty = .ok (some "x") ∧
      blankText.write {} (.str "") .empty = .ok none := by
  intro p o
  have hspace := (write_text_or_blank p o .null .empty).2.1 " " (by decide) rfl
  have hown : blankText.ownText {} (.str "x") .empty = .ok (some "x") := by decide +kernel
  have htext := (write_text_or_blank blankText {} (.str "x") .empty).2.1 "x" (by decide) hown
  have hblank := (write_text_or_blank blankText {} (.str "") .empty).2.2.2
    ⟨⟨some "", by decide +kernel, rfl⟩, by rintro _ ⟨⟩; rfl⟩
  exact ⟨rfl, hspace, hown, htext, hblank⟩

end Plan

end RecordSheet
