import RecordSheet.Proofs.Handler.Rereading
import RecordSheet.Proofs.Mapping.CellText
import RecordSheet.Proofs.Sequence.Borders

/-!
# Proofs/Mapping/Rewriting — a cell that was read can be written again

The text of a cell is not kept: numbers lose their zeros and fractions, blank tokens become zeros or
absent elements, and a constant that does not exist is absent from then on.  What is written of the
value is read as that value again nevertheless (`decode_encode_of_decode`).

The tokens of a sequence that was read are legible, each one the reader did not take for blank; the
induction over the shape carries that a legible text is rewritten as a legible one, so that the new
tokens stay apart as the old ones did.  Only a sequence of one absent element is lost, as it is
written like an empty one (`Value.HasLoneNull`).
-/

namespace RecordSheet

open Outcome

/-- Somewhere in the value is a sequence of one absent element. -/
inductive Value.HasLoneNull : Value → Prop where
  | here : HasLoneNull (.seq [.null])
  | inside {items : List Value} {item : Value} (hi : item ∈ items) (h : HasLoneNull item) :
    HasLoneNull (.seq items)

theorem ScalarType.zero_eq_null_iff {t : ScalarType} :
    Value.zero t = .null ↔ t.isPrimitive = false := by
  refine ⟨fun h => ?_, Value.zero_of_not_isPrimitive⟩
  cases t <;> first | rfl | cases h

/-! ## Legible texts -/

namespace SequenceCodec

variable {c : SequenceCodec} {text : String}

/-- A plain text is legible unless it is blank. -/
theorem Plain.legible (hs : c.Sound) (h : c.Plain text.toList) (hv : Text.isBlank text = false) :
    c.Legible text :=
  ⟨hv, h.balanced hs, h.not_delimiterAfter⟩

/-- A word has neither a bracket of the ordinary codec nor its delimiter. -/
theorem plain_of_isWord (h : Text.IsWord text) : Plain {} text.toList where
  opener_notMem ho := (h.visible '[' ho).2.1 rfl
  closer_notMem hc := (h.visible ']' hc).2.2 rfl
  not_delimiter hd := nomatch (h.visible ' ' (hd.subset (by decide))).1

/-- **A word is legible** to the ordinary codec. -/
theorem legible_of_isWord (h : Text.IsWord text) : Legible {} text :=
  (plain_of_isWord h).legible nestable_default.toSound h.isBlank_eq_false

/-- **A legible text stays legible** without the white space around it: no bracket is dropped, and a
delimiter of what is left is one of the whole text. -/
theorem Nestable.legible_trim (hc : c.Nestable) (h : c.Legible text) :
    c.Legible (Text.trim text) := by
  have hs := hc.toSound
  obtain ⟨front, back, htext, hfront, hback⟩ := Text.exists_stripChars Text.isSpace text.toList
  have hplain : ∀ {x : Char}, Text.isSpace x = true → x ≠ c.opener ∧ x ≠ c.closer := by
    intro x hx
    constructor
    · rintro rfl
      exact nomatch hx.symm.trans hc.opener_visible
    · rintro rfl
      exact nomatch hx.symm.trans hc.closer_visible
  have hbalanced := balanced_of_forall_plain hs fun x hx => hplain (hfront x hx)
  have hmiddle : c.Balanced (Text.stripChars Text.isSpace text.toList ++ back) :=
    (hbalanced.append_iff hs).1 (htext ▸ h.balanced)
  refine ⟨(Text.isBlank_trim text).trans h.visible, ?_, fun part hd => ?_⟩
  · rw [Text.trim, String.toList_ofList]
    exact (balanced_append_plain_iff hs fun x hx => hplain (hback x hx)).1 hmiddle
  · rw [Text.trim, String.toList_ofList] at hd
    refine h.undelimited (front ++ part) ⟨(hbalanced.append_iff hs).2 hd.1, ?_⟩
    rw [htext, List.append_assoc, List.prefix_append_right_inj]
    exact hd.2.trans (List.prefix_append _ _)

end SequenceCodec

namespace Plan

variable {p : Plan} {c : SequenceCodec} {s : Shape} {text : String} {v : Value} {u : ScalarType}

/-! ## One level -/

/-- **The elements of a sequence that was read** are neutral or read from legible tokens. -/
theorem exists_items_of_decodeSequence (hs : c.Sound) {one : String → Except Failure Value}
    (h : p.decodeSequence c s one text = .ok v) :
    ∃ items, v = .seq items ∧ ∀ item ∈ items,
      s.isContainer = false ∧ item = .neutral s ∨
        ∃ token, c.Legible token ∧ one token = .ok item := by
  obtain ⟨tokens, htokens, h⟩ := bind_eq_ok_iff.1 h
  obtain ⟨items, hitems, h⟩ := bind_eq_ok_iff.1 h
  obtain ⟨-, -, hsep⟩ :=
    (SequenceCodec.split_eq_ok_iff hs).1 (SequenceCodec.parse_eq_ok_iff.1 htokens)
  refine ⟨items, (Except.ok.inj h).symm, fun item hi => ?_⟩
  obtain ⟨token, ht, hitem⟩ := exists_of_forall₂ (mapM_eq_ok_iff.1 hitems) hi
  have ht := List.mem_map_of_mem (f := String.toList) ht
  rw [decodeElement] at hitem
  split at hitem
  · split at hitem
    · cases hitem
    · next hcontainer =>
      exact .inl ⟨Bool.not_eq_true _ ▸ hcontainer, (Except.ok.inj hitem).symm⟩
  · next hblank =>
    exact .inr ⟨token, ⟨Bool.not_eq_true _ ▸ hblank, hsep.balanced _ ht,
      hsep.not_delimiterAfter hs ht⟩, hitem⟩

theorem encode_scalar_of_returns {h : Handler} {t : ScalarType} (hp : p.handler = some h)
    (hv : v ≠ .null) (hr : h.Returns p.context v text) :
    p.encode c (.scalar t) v = .ok (some text) ∧ p.decode c (.scalar t) text = .ok v := by
  constructor
  · rw [encode, Value.isNull_eq_false_iff.2 hv, hp]
    simp only [hr.encode]
    rfl
  · rw [decode, hp]
    simp only [hr.decode]
    rfl

/-! ## Every shape -/

section

variable (hhandler : p.handler = Registry.builtin.get? u) (hu : u.isDiscrete = true)
  (hzero : Value.zero s.leaf = .null ∨ Value.zero s.leaf = .zero u)

include hhandler hu

theorem exists_handler : ∃ h, p.handler = some h ∧ Registry.builtin.get? u = some h := by
  rw [hhandler]
  cases u with
  | signed w => exact ⟨_, Handler.get?_builtin_signed w, Handler.get?_builtin_signed w⟩
  | unsigned w => exact ⟨_, Handler.get?_builtin_unsigned w, Handler.get?_builtin_unsigned w⟩
  | bool | char | string | uuid | enumeration _ => exact ⟨_, rfl, rfl⟩
  | float _ | date | time | dateTime | named _ => cases hu

/-- **A scalar that was read comes back,** from a word or from the text that was read. -/
theorem exists_rewritten_scalar {t : ScalarType} (h : p.decode {} (.scalar t) text = .ok v)
    (hv : v ≠ .null) :
    ∃ text', p.encode {} (.scalar t) v = .ok (some text') ∧ p.decode {} (.scalar t) text' = .ok v ∧
      (SequenceCodec.Legible {} text → SequenceCodec.Legible {} text') := by
  obtain ⟨handler, hp, hget⟩ := exists_handler hhandler hu
  rw [decode, hp] at h
  obtain ⟨text', hreturns, hcases⟩ :=
    Handler.exists_returns_of_decode hget hu (mapError_eq_ok_iff.1 h) hv
  obtain ⟨hencode, hdecode⟩ := encode_scalar_of_returns hp hv hreturns
  refine ⟨text', hencode, hdecode, fun hlegible => ?_⟩
  obtain hword | rfl | rfl := hcases
  · exact SequenceCodec.legible_of_isWord hword
  · exact hlegible
  · exact SequenceCodec.nestable_default.legible_trim hlegible

include hzero

/-- **A neutral element** comes back, or is absent from the text. -/
theorem restores_neutral (hs : s.isContainer = false) :
    p.Restores {} s (.neutral s) ∨ s.Omits (.neutral s) := by
  obtain ⟨h, hp, hget⟩ := exists_handler hhandler hu
  cases s with
  | array _ | iterable _ => cases hs
  | scalar t =>
    by_cases hnull : Value.zero t = .null
    · exact .inr ⟨hnull, t, rfl, ScalarType.zero_eq_null_iff.1 hnull⟩
    · have hzero : Value.zero t = .zero u := hzero.resolve_left hnull
      have hprimitive : u.isPrimitive = true := by
        rw [hzero, ScalarType.zero_eq_null_iff, Bool.not_eq_false] at hnull
        exact hnull
      obtain ⟨text, hreturns, hword⟩ := Handler.exists_returns_zero hget hu hprimitive p.context
      rw [← hzero] at hreturns
      obtain ⟨hencode, hdecode⟩ := encode_scalar_of_returns hp hnull hreturns
      exact .inl ⟨text, hencode, SequenceCodec.legible_of_isWord hword, hdecode⟩

/-- **An element read as absent** is a scalar of a type without a zero. -/
theorem omits_of_decode (h : p.decode {} s text = .ok .null) : s.Omits .null := by
  obtain ⟨handler, hp, hget⟩ := exists_handler hhandler hu
  cases s with
  | array s | iterable s =>
    obtain ⟨items, heq, -⟩ :=
      exists_items_of_decodeSequence SequenceCodec.nestable_default.toSound h
    cases heq
  | scalar t =>
    rw [decode, hp] at h
    have hprimitive := Handler.isPrimitive_of_decode_null hget (mapError_eq_ok_iff.1 h)
    have hnull : Value.zero t = .null :=
      hzero.elim id fun heq => heq.trans (Value.zero_of_not_isPrimitive hprimitive)
    exact ⟨rfl, t, rfl, ScalarType.zero_eq_null_iff.1 hnull⟩

/-- **What was read comes back,** by induction over the shape, and from a legible text when the one
that was read is legible. -/
theorem exists_rewritten (h : p.decode {} s text = .ok v) (hv : v ≠ .null)
    (hlone : ¬ v.HasLoneNull) :
    ∃ text', p.encode {} s v = .ok (some text') ∧ p.decode {} s text' = .ok v ∧
      (SequenceCodec.Legible {} text → SequenceCodec.Legible {} text') := by
  induction s generalizing text v with
  | scalar t => exact exists_rewritten_scalar hhandler hu h hv
  | array s ih | iterable s ih =>
    obtain ⟨items, rfl, hitems⟩ :=
      exists_items_of_decodeSequence SequenceCodec.nestable_default.toSound h
    have hne : items ≠ [.null] := by
      rintro rfl
      exact hlone .here
    obtain ⟨text', hencode, hlegible, hdecode⟩ :=
      restores_sequence (p := p) (s := s) SequenceCodec.nestable_default hne fun item hi => by
        obtain ⟨hs, rfl⟩ | ⟨token, htoken, hitem⟩ := hitems item hi
        · exact restores_neutral hhandler hu hzero hs
        by_cases hnull : item = .null
        · subst hnull
          exact .inr (omits_of_decode hhandler hu hzero hitem)
        · obtain ⟨text', hencode, hdecode, hlegible⟩ :=
            ih hzero hitem hnull fun hlone' => hlone (.inside hi hlone')
          exact .inl ⟨text', hencode, hlegible htoken, hdecode⟩
    exact ⟨text', hencode, hdecode, fun _ => hlegible⟩

end

/-- **Rewriting a cell that was read does not change what it reads as.**  The handler is the
built-in one of a discrete type; the zero of the type under the containers, if it has one, is that
of the handler's type, as when the two are the same. -/
theorem decode_encode_of_decode (hhandler : p.handler = Registry.builtin.get? u)
    (hu : u.isDiscrete = true) (hzero : Value.zero s.leaf = .null ∨ Value.zero s.leaf = .zero u)
    (h : p.decode {} s text = .ok v) (hlone : ¬ v.HasLoneNull) (hv : v ≠ .null) :
    ∃ text', p.encode {} s v = .ok (some text') ∧ p.decode {} s text' = .ok v := by
  obtain ⟨text', hencode, hdecode, -⟩ := exists_rewritten hhandler hu hzero h hv hlone
  exact ⟨text', hencode, hdecode⟩

/-- Colors read from a text in which one has white space around it and one does not exist. -/
theorem decode_encode_of_decode_colors :
    let t : ScalarType := .enumeration ⟨"Color", ["red", "green"]⟩
    let s : Shape := .array (.scalar t)
    let p : Plan :=
      ⟨⟨"colors", "Row", .array (.scalar t), 0⟩, .read, {}, none, some .enumeration, [],
      s, none, none, "colors"⟩
    let v : Value := .seq [.enumeration "red", .null, .enumeration "green"]
    p.decode {} s "[ red , pink, green]" = .ok v ∧
      ∃ text', p.encode {} s v = .ok (some text') ∧ p.decode {} s text' = .ok v := by
  intro t s p v
  have hread : p.decode {} s "[ red , pink, green]" = .ok v := by decide +kernel
  have hlone : ¬ Value.HasLoneNull (.seq [.enumeration "red", .null, .enumeration "green"]) := by
    rintro (_ | ⟨hi, h⟩)
    simp only [List.mem_cons, List.not_mem_nil, or_false] at hi
    obtain rfl | rfl | rfl := hi <;> cases h
  exact ⟨hread, decode_encode_of_decode (u := t) rfl rfl (.inl rfl) hread hlone nofun⟩

end Plan

end RecordSheet
