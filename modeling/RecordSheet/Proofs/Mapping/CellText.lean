import RecordSheet.Mapping.CellText
import RecordSheet.Proofs.Sequence.Split

/-!
# Proofs/Mapping/CellText — nested values come back from their texts

A container hands the texts of its elements to the codec as tokens, and its own text is a token of
the level above.  The induction over the shape therefore carries more than the value: a text written
along a shape is **legible** — not blank, balanced, and without a delimiter outside of its brackets
— so that tokens stay apart at every level (`restores_sequence`).  An absent element is an empty
token, which is read as neutral.
-/

namespace RecordSheet

/-! ## Legible texts -/

namespace SequenceCodec

variable {c : SequenceCodec}

/-- A codec whose sequences can be elements of others: its brackets are visible, and no delimiter
overlaps another one. -/
structure Nestable (c : SequenceCodec) : Prop extends c.Sound where
  opener_visible : Text.isSpace c.opener = false
  closer_visible : Text.isSpace c.closer = false
  unbordered : c.Unbordered

/-- A text that can stand in a sequence and is not taken for an absent element. -/
structure Legible (c : SequenceCodec) (text : String) : Prop where
  visible : Text.isBlank text = false
  balanced : c.Balanced text.toList
  undelimited : ∀ front, ¬ c.DelimiterAfter text.toList front

instance (text : String) : Decidable (c.Legible text) :=
  decidable_of_iff
    (Text.isBlank text = false ∧ c.Balanced text.toList ∧
      ∀ front ∈ text.toList.inits, ¬ c.DelimiterAfter text.toList front)
    ⟨fun ⟨hv, hb, hu⟩ => ⟨hv, hb, fun front h => hu front ((List.mem_inits _ _).2 h.isPrefix) h⟩,
      fun ⟨hv, hb, hu⟩ => ⟨hv, hb, fun front _ => hu front⟩⟩

/-- The ordinary codec is nestable. -/
theorem nestable_default : Nestable {} :=
  ⟨validate_eq_ok_iff.1 (by decide), by decide, by decide, by decide⟩

/-- Nothing is found in an empty token. -/
theorem Sound.not_delimiterAfter_nil (hs : c.Sound) (front : List Char) :
    ¬ c.DelimiterAfter [] front := fun h =>
  hs.delimiter_ne_nil (List.append_eq_nil_iff.1 (List.prefix_nil.1 h.2)).2

/-- A whole group hides the delimiters inside of it. -/
theorem Sound.not_delimiterAfter_group (hs : c.Sound) {body : List Char} (hb : c.Balanced body)
    (front : List Char) : ¬ c.DelimiterAfter (c.opener :: (body ++ [c.closer])) front := by
  have hd : ¬ c.delimiter.toList <+: c.opener :: (body ++ [c.closer]) ++ [] := fun hp => by
    obtain ⟨x, xs, hx⟩ := List.exists_cons_of_ne_nil hs.delimiter_ne_nil
    rw [hx, List.append_nil, List.cons_prefix_cons] at hp
    exact hs.opener_notMem (hx ▸ hp.1 ▸ List.mem_cons_self)
  intro h
  rw [← List.append_nil (c.opener :: (body ++ [c.closer]))] at h
  obtain ⟨more, -, hm⟩ := h.of_prime hs (prime_group hs hb) hd
  exact hs.not_delimiterAfter_nil more hm

/-- **A written sequence is legible.** -/
theorem Nestable.legible_serialize (hc : c.Nestable) {tokens : List String}
    (h : c.Separable (tokens.map String.toList)) : c.Legible (c.serialize tokens) := by
  have hbody := h.balanced_join hc.toSound
  have henc := encloses_serialize (c := c) tokens
  refine ⟨Text.isBlank_of_head henc hc.opener_visible, ?_, fun front => ?_⟩
  · rw [henc]
    exact hbody.enclose hc.toSound
  · rw [henc]
    exact hc.toSound.not_delimiterAfter_group hbody front

/-- **A written sequence is read as its tokens,** also when it is trimmed first. -/
theorem Nestable.parse_trim_serialize (hc : c.Nestable) {tokens : List String}
    (hne : tokens ≠ [""]) (h : c.Separable (tokens.map String.toList)) :
    c.parse (Text.trim (c.serialize tokens)) = .ok tokens := by
  rw [Text.trim_of_ends (encloses_serialize tokens) hc.opener_visible hc.closer_visible,
    parse_eq_ok_iff, split_eq_ok_iff hc.toSound]
  exact ⟨rfl, hne, h⟩

end SequenceCodec

/-! ## Values that come back -/

/-- The value is an absent scalar of a type without a zero. -/
def Shape.Omits (s : Shape) (v : Value) : Prop :=
  v = .null ∧ ∃ t, s = .scalar t ∧ t.isPrimitive = false

/-- **The value has the shape,** and the handler can write each scalar in it so that it is read
back.  A scalar may be absent in a sequence if its type has no zero, but not alone. -/
def Handler.Fits (h : Handler) (x : HandlerContext) (c : SequenceCodec) : Shape → Value → Prop
  | .scalar _, v =>
    v ≠ .null ∧ ∃ text, h.encode v x = .ok text ∧ c.Legible text ∧ h.decode text x = .ok v
  | .array s, v | .iterable s, v =>
    ∃ items, v = .seq items ∧ items ≠ [.null] ∧ ∀ item ∈ items, h.Fits x c s item ∨ s.Omits item

/-- A legible text fits its handler. -/
theorem Handler.fits_string {x : HandlerContext} {c : SequenceCodec} {text : String}
    (h : c.Legible text) : Handler.string.Fits x c (.scalar .string) (.str text) :=
  ⟨nofun, text, rfl, h, rfl⟩

namespace Plan

variable {p : Plan} {c : SequenceCodec} {s : Shape}

/-- The value is written as a legible text that is read as the value. -/
def Restores (p : Plan) (c : SequenceCodec) (s : Shape) (v : Value) : Prop :=
  ∃ text, p.encode c s v = .ok (some text) ∧ c.Legible text ∧ p.decode c s text = .ok v

/-- What a sequence needs to know of the token of an element. -/
structure TokenOf (p : Plan) (c : SequenceCodec) (s : Shape) (v : Value) (token : String) :
    Prop where
  written : (·.getD "") <$> p.encode c s v = .ok token
  apart : c.Balanced token.toList ∧ ∀ front, ¬ c.DelimiterAfter token.toList front
  absent : token = "" → v = .null
  read : ∀ text, p.decodeElement s (p.decode c s) text token = .ok v

theorem Restores.exists_token {v : Value} (h : p.Restores c s v) :
    ∃ token, p.TokenOf c s v token := by
  obtain ⟨text, henc, hleg, hdec⟩ := h
  refine ⟨text, ?_, ⟨hleg.balanced, hleg.undelimited⟩, ?_, fun _ => ?_⟩
  · rw [henc]
    rfl
  · rintro rfl
    exact absurd hleg.visible (by simp [Text.isBlank_empty])
  · rw [decodeElement, hleg.visible]
    exact hdec

/-- An absent element is an empty token. -/
theorem tokenOf_of_omits (hs : c.Sound) {v : Value} (h : s.Omits v) : p.TokenOf c s v "" := by
  obtain ⟨rfl, t, rfl, ht⟩ := h
  refine ⟨rfl, ⟨SequenceCodec.balanced_nil, hs.not_delimiterAfter_nil⟩, fun _ => rfl, fun _ => ?_⟩
  rw [decodeElement, if_pos Text.isBlank_empty, ← Value.zero_of_not_isPrimitive ht]
  rfl

/-- **One level:** a sequence of elements that come back comes back. -/
theorem restores_sequence (hc : c.Nestable) {items : List Value} (hne : items ≠ [.null])
    (h : ∀ item ∈ items, p.Restores c s item ∨ s.Omits item) :
    ∃ text, p.encodeSequence c (p.encode c s) (.seq items) = .ok (some text) ∧ c.Legible text ∧
      p.decodeSequence c s (p.decode c s) text = .ok (.seq items) := by
  obtain ⟨tokens, htok⟩ := Outcome.exists_forall₂ (R := p.TokenOf c s) fun item hi =>
    (h item hi).elim Restores.exists_token fun ho => ⟨"", tokenOf_of_omits hc.toSound ho⟩
  have hsep : c.Separable (tokens.map String.toList) :=
    hc.unbordered.separable (List.forall_mem_map.2 fun token ht => by
      obtain ⟨item, -, hi⟩ := Outcome.exists_of_forall₂ htok ht
      exact hi.apart)
  have hone : tokens ≠ [""] := by
    rintro rfl
    obtain ⟨item, _, hi, hnil, rfl⟩ := List.forall₂_cons_right_iff.1 htok
    obtain rfl := List.forall₂_nil_right_iff.1 hnil
    exact hne (by rw [hi.absent rfl])
  refine ⟨c.serialize tokens, ?_, hc.legible_serialize hsep, ?_⟩
  · refine Outcome.bind_eq_ok_iff.2 ⟨tokens, Outcome.mapM_eq_ok_iff.2 ?_, rfl⟩
    exact htok.imp fun _ _ hi => hi.written
  · refine Outcome.bind_eq_ok_iff.2 ⟨tokens, hc.parse_trim_serialize hone hsep, ?_⟩
    refine Outcome.bind_eq_ok_iff.2 ⟨items, Outcome.mapM_eq_ok_iff.2 ?_, rfl⟩
    exact List.Forall₂.flip (htok.imp fun _ _ hi => hi.read _)

/-- **A value that fits comes back,** by induction over the shape. -/
theorem restores_of_fits (hc : c.Nestable) {h : Handler} (hp : p.handler = some h) {v : Value}
    (hv : h.Fits p.context c s v) : p.Restores c s v := by
  induction s generalizing v with
  | scalar t =>
    obtain ⟨hnull, text, henc, hleg, hdec⟩ := hv
    refine ⟨text, ?_, hleg, ?_⟩
    · rw [encode, Value.isNull_eq_false_iff.2 hnull, hp]
      simp only [henc]
      rfl
    · rw [decode, hp]
      simp only [hdec]
      rfl
  | array s ih | iterable s ih =>
    obtain ⟨items, rfl, hne, hitems⟩ := hv
    exact restores_sequence hc hne fun item hi => (hitems item hi).imp_left ih

/-- **Reading a nested value undoes writing it.**  Each of its levels is a sequence, and each scalar
in it is one that the handler writes legibly and reads back, or is absent. -/
theorem decode_encode_of_fits (hc : c.Nestable) {h : Handler} (hp : p.handler = some h) {v : Value}
    (hv : h.Fits p.context c s v) :
    ∃ text, p.encode c s v = .ok (some text) ∧ p.decode c s text = .ok v := by
  obtain ⟨text, henc, -, hdec⟩ := restores_of_fits hc hp hv
  exact ⟨text, henc, hdec⟩

/-- A sequence of two sequences comes back: one with an absent text, and one without elements. -/
theorem decode_encode_of_fits_absent :
    let s : Shape := .array (.iterable (.scalar .string))
    let p : Plan := ⟨⟨"tags", "Row", .array (.scalar .string), 0⟩, .write, {}, none,
      some .string, [], s, none, none, "tags"⟩
    let v : Value := .seq [.seq [.str "a[, ]", .null], .seq []]
    ∃ text, p.encode {} s v = .ok (some text) ∧ p.decode {} s text = .ok v := by
  refine decode_encode_of_fits SequenceCodec.nestable_default (h := .string) rfl
    ⟨_, rfl, by decide, List.forall_mem_cons.2 ⟨.inl ⟨_, rfl, by decide, ?_⟩,
      List.forall_mem_singleton.2 (.inl ⟨[], rfl, by decide, nofun⟩)⟩⟩
  exact List.forall_mem_cons.2 ⟨.inl (Handler.fits_string (by decide)),
    List.forall_mem_singleton.2 (.inr ⟨rfl, .string, rfl, rfl⟩)⟩

end Plan

end RecordSheet
