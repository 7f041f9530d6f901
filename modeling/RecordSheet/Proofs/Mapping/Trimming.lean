import RecordSheet.Proofs.Mapping.Rewriting
import RecordSheet.Proofs.Mapping.Typing

/-!
# Proofs/Mapping/Trimming — brackets that are trimmed away

A cell is trimmed before it is split, and so is each inner sequence.  That is harmless for what a
codec wrote as long as its brackets are visible.  A codec may also have white space for a bracket,
and then trimming takes it off: no text is a written sequence any more, whatever its elements are
(`decode_of_not_visible`).  For nested numbers nothing else is in the way
(`decode_encode_signed_iff`).
-/

namespace RecordSheet

open Outcome

/-! ## Brackets -/

namespace SequenceCodec

variable {c : SequenceCodec}

/-- Neither bracket is white space. -/
def Visible (c : SequenceCodec) : Prop :=
  Text.isSpace c.opener = false ∧ Text.isSpace c.closer = false

instance : Decidable c.Visible :=
  inferInstanceAs (Decidable (_ ∧ _))

/-- A text that was trimmed stands between brackets only if these are visible. -/
theorem visible_of_encloses_trim {text : String} {body : List Char}
    (h : c.Encloses (Text.trim text) body) : c.Visible := by
  have hchars : Text.stripChars Text.isSpace text.toList = c.opener :: (body ++ [c.closer]) := by
    rw [← h, Text.trim, String.toList_ofList]
  have hlast := congrArg List.getLast? hchars
  rw [← List.cons_append, List.getLast?_concat] at hlast
  exact ⟨Text.stripChars_head (congrArg List.head? hchars), Text.stripChars_getLast hlast⟩

/-- **Trimming keeps the brackets** of a written sequence exactly when they are visible. -/
theorem trim_serialize_eq_self_iff (tokens : List String) :
    Text.trim (c.serialize tokens) = c.serialize tokens ↔ c.Visible := by
  have hencloses := encloses_serialize (c := c) tokens
  constructor
  · intro h
    rw [← h] at hencloses
    exact visible_of_encloses_trim hencloses
  · rintro ⟨hopener, hcloser⟩
    exact Text.trim_of_ends hencloses hopener hcloser

/-- Without visible brackets no text that was trimmed is a written sequence. -/
theorem parse_trim_of_not_visible (h : ¬ c.Visible) (text : String) :
    c.parse (Text.trim text) =
      .error (.sequence (Text.trim text) (.notBracketed c.opener c.closer)) :=
  parse_eq_error_iff.2
    ⟨_, rfl, split_of_not_encloses fun _ hbody => h (visible_of_encloses_trim hbody)⟩

end SequenceCodec

/-! ## Nested numbers -/

/-- The number is somewhere in the value. -/
inductive Value.HasInt (n : Int64) : Value → Prop where
  | here : HasInt n (.int n)
  | inside {items : List Value} {item : Value} (hi : item ∈ items) (h : HasInt n item) :
    HasInt n (.seq items)

variable {c : SequenceCodec} {s : Shape} {v : Value} {w : Width}

theorem Value.Typed.exists_int (h : v.Typed (.signed w)) :
    ∃ n : Int64, v = .int n ∧ w.signedMin ≤ n.toInt ∧ n.toInt ≤ w.signedMax := by
  cases h with
  | signed hn => exact ⟨_, rfl, hn⟩
  | absent h => cases h

/-- Nothing is absent from nested numbers. -/
theorem Shape.Holds.ne_null (h : s.Holds v) (hs : s.leaf = .signed w) : v ≠ .null := by
  cases s with
  | scalar t =>
    obtain rfl : t = .signed w := hs
    obtain ⟨n, rfl, -⟩ := Value.Typed.exists_int h
    nofun
  | array s | iterable s =>
    obtain ⟨items, rfl, -⟩ := h
    nofun

/-- **Nested numbers fit their handler** when the text of each is plain. -/
theorem Shape.Holds.fits_signed (hc : c.Sound) {x : HandlerContext} (h : s.Holds v)
    (hs : s.leaf = .signed w) (hplain : ∀ n, v.HasInt n → c.Plain (Number.signed n.toInt)) :
    (Handler.signed w).Fits x c s v := by
  induction s generalizing v with
  | scalar t =>
    obtain rfl : t = .signed w := hs
    obtain ⟨n, rfl, hn⟩ := Value.Typed.exists_int h
    have hreturns := Handler.returns_signed (x := x) hn
    have htext := hplain n .here
    rw [← String.toList_ofList (l := Number.signed n.toInt)] at htext
    exact ⟨nofun, _, hreturns.encode,
      htext.legible hc (Text.isWord_signed n.toInt).isBlank_eq_false, hreturns.decode⟩
  | array s ih | iterable s ih =>
    obtain ⟨items, rfl, hitems⟩ := h
    refine ⟨items, rfl, ?_, fun item hi =>
      .inl (ih (hitems item hi) hs fun n hn => hplain n (.inside hi hn))⟩
    rintro rfl
    exact (hitems .null (List.mem_singleton_self _)).ne_null hs rfl

namespace Plan

variable {p : Plan}

/-- Without visible brackets every sequence is refused. -/
theorem decode_of_not_visible (hs : s.isContainer = true) (hc : ¬ c.Visible) (text : String) :
    p.decode c s text =
      .error (.sequence (Text.trim text) (.notBracketed c.opener c.closer)) := by
  have hparse := SequenceCodec.parse_trim_of_not_visible hc text
  cases s with
  | scalar t => cases hs
  | array s | iterable s =>
    rw [decode, decodeSequence, hparse]
    rfl

/-- **One level:** a sequence of elements that are written is a written sequence. -/
theorem exists_encodeSequence {one : Value → Except Failure (Option String)} {items : List Value}
    (h : ∀ item ∈ items, ∃ text, one item = .ok (some text)) :
    ∃ tokens, p.encodeSequence c one (.seq items) = .ok (some (c.serialize tokens)) := by
  obtain ⟨tokens, htokens⟩ := exists_forall₂ h
  refine ⟨tokens, bind_eq_ok_iff.2 ⟨tokens, mapM_eq_ok_iff.2 (htokens.imp fun _ _ hone => ?_), rfl⟩⟩
  rw [hone]
  rfl

/-- **Nested numbers are written,** by induction over the shape, whatever the codec. -/
theorem exists_encode_signed (hp : p.handler = some (.signed w)) (hs : s.leaf = .signed w)
    (h : s.Holds v) :
    ∃ text, p.encode c s v = .ok (some text) ∧
      (s.isContainer = true → ∃ tokens, text = c.serialize tokens) := by
  induction s generalizing v with
  | scalar t =>
    obtain rfl : t = .signed w := hs
    obtain ⟨n, rfl, hn⟩ := Value.Typed.exists_int h
    have hnull : Value.int n ≠ .null := nofun
    exact ⟨_, (encode_scalar_of_returns hp hnull (Handler.returns_signed hn)).1, nofun⟩
  | array s ih | iterable s ih =>
    obtain ⟨items, rfl, hitems⟩ := h
    obtain ⟨tokens, hencode⟩ := exists_encodeSequence (p := p) (c := c) fun item hi =>
      (ih hs (hitems item hi)).imp fun _ => And.left
    exact ⟨_, hencode, fun _ => ⟨tokens, rfl⟩⟩

/-- **Nested numbers come back exactly from between visible brackets.** -/
theorem decode_encode_signed_iff (hc : c.validate = .ok ()) (hu : c.Unbordered)
    (hhandler : p.handler = Registry.builtin.get? (.signed w)) (hs : s.leaf = .signed w)
    (hv : s.Holds v) (hplain : ∀ n, v.HasInt n → c.Plain (Number.signed n.toInt)) :
    ∃ text, p.encode c s v = .ok (some text) ∧
      (p.decode c s text = .ok v ↔ s.isContainer = true → c.Visible) ∧
      (s.isContainer = true → (Text.trim text = text ↔ c.Visible)) ∧
      (s.isContainer = true → ¬ c.Visible → p.decode c s text =
        .error (.sequence (Text.trim text) (.notBracketed c.opener c.closer))) := by
  have hsound := SequenceCodec.validate_eq_ok_iff.1 hc
  have hp := hhandler.trans (Handler.get?_builtin_signed w)
  obtain ⟨text, hencode, htext⟩ := exists_encode_signed (c := c) hp hs hv
  refine ⟨text, hencode, ⟨fun hdecode hcontainer => ?_, fun hvisible => ?_⟩, fun hcontainer => ?_,
    fun hcontainer hinvisible => decode_of_not_visible hcontainer hinvisible text⟩
  · by_contra hinvisible
    exact nomatch hdecode.symm.trans (decode_of_not_visible hcontainer hinvisible text)
  · cases s with
    | scalar t =>
      obtain ⟨hnull, text', hencode', -, hdecode⟩ :=
        hv.fits_signed hsound (x := p.context) hs hplain
      obtain ⟨hwrite, hread⟩ :=
        encode_scalar_of_returns (c := c) (t := t) hp hnull ⟨hencode', hdecode⟩
      obtain rfl := Option.some.inj (Except.ok.inj (hencode.symm.trans hwrite))
      exact hread
    | array s | iterable s =>
      obtain ⟨hopener, hcloser⟩ := hvisible rfl
      obtain ⟨text', hwrite, -, hread⟩ :=
        restores_of_fits ⟨hsound, hopener, hcloser, hu⟩ hp (hv.fits_signed hsound hs hplain)
      obtain rfl := Option.some.inj (Except.ok.inj (hencode.symm.trans hwrite))
      exact hread
  · obtain ⟨tokens, rfl⟩ := htext hcontainer
    exact SequenceCodec.trim_serialize_eq_self_iff tokens

/-- All nested numbers come back from between the ordinary brackets. -/
theorem decode_encode_signed_iff_default :
    let s : Shape := .array (.iterable (.scalar (.signed .w64)))
    let p : Plan := ⟨⟨"rows", "Row", .array (.scalar (.signed .w64)), 0⟩, .write, {}, none,
      some (.signed .w64), [], s, none, none, "rows"⟩
    let v : Value := .seq [.seq [.int 1, .int (-20)], .seq []]
    ∃ text, p.encode {} s v = .ok (some text) ∧ p.decode {} s text = .ok v := by
  intro s p v
  have hfirst : (Shape.iterable (.scalar (.signed .w64))).Holds (.seq [.int 1, .int (-20)]) :=
    ⟨_, rfl, List.forall_mem_cons.2
      ⟨.signed (by decide), List.forall_mem_singleton.2 (.signed (by decide))⟩⟩
  have hv : s.Holds v :=
    ⟨_, rfl, List.forall_mem_cons.2 ⟨hfirst, List.forall_mem_singleton.2 ⟨[], rfl, nofun⟩⟩⟩
  have hplain : ∀ n, v.HasInt n → SequenceCodec.Plain {} (Number.signed n.toInt) := fun n _ => by
    rw [← String.toList_ofList (l := Number.signed n.toInt)]
    exact SequenceCodec.plain_of_isWord (Text.isWord_signed n.toInt)
  obtain ⟨text, hencode, hdecode, -⟩ := decode_encode_signed_iff (p := p) (by decide) (by decide)
    (Handler.get?_builtin_signed .w64).symm rfl hv hplain
  exact ⟨text, hencode, hdecode.2 fun _ => by decide⟩

/-- **A blank as a bracket** is accepted, and what is written with it is not read back. -/
theorem exists_bracket_trimmed :
    ∃ (c : SequenceCodec) (p : Plan) (s : Shape) (v : Value) (text : String),
      c.validate = .ok () ∧ c.Unbordered ∧ p.handler = Registry.builtin.get? (.signed .w64) ∧
      s.leaf = .signed .w64 ∧ s.Holds v ∧
      (∀ n, v.HasInt n → c.Plain (Number.signed n.toInt)) ∧
      p.encode c s v = .ok (some text) ∧ Text.trim text ≠ text ∧ p.decode c s text ≠ .ok v := by
  let c : SequenceCodec := ⟨' ', ']', ","⟩
  let s : Shape := .iterable (.scalar (.signed .w64))
  let p : Plan := ⟨⟨"xs", "Row", .array (.scalar (.signed .w64)), 0⟩, .write, {}, none,
    some (.signed .w64), [], s, none, none, "xs"⟩
  have hplain : ∀ n, (Value.seq [.int 1, .int 2]).HasInt n → c.Plain (Number.signed n.toInt) := by
    rintro n (_ | ⟨hi, hn⟩)
    obtain rfl | rfl := List.mem_pair.1 hi
    all_goals
      cases hn
      decide
  refine ⟨c, p, s, .seq [.int 1, .int 2], " 1,2]", by decide, by decide,
    (Handler.get?_builtin_signed .w64).symm, rfl,
    ⟨_, rfl, List.forall_mem_cons.2
      ⟨.signed (by decide), List.forall_mem_singleton.2 (.signed (by decide))⟩⟩,
    hplain, by decide +kernel, by decide, ?_⟩
  rw [decode_of_not_visible rfl (by decide)]
  nofun

end Plan

end RecordSheet
