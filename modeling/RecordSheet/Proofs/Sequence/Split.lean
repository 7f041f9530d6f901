import RecordSheet.Proofs.Outcome
import RecordSheet.Proofs.Sequence.Tokens
import RecordSheet.Sequence.Parse

/-!
# Proofs/Sequence/Split — a written sequence and its tokens

`split` and `serialize` are compared on whole texts.

* `split_serialize_iff` — reading undoes writing exactly for tokens that stay apart;
* `parse_of_validate` — the texts that are read are the balanced ones between the brackets, nothing
  of them is lost, and any other text is refused at its first bracket without a partner.
-/

namespace RecordSheet

namespace SequenceCodec

variable {c : SequenceCodec}

/-! ## The text between the outer brackets -/

/-- The text is `body` between the brackets of the codec. -/
def Encloses (c : SequenceCodec) (text : String) (body : List Char) : Prop :=
  text.toList = c.opener :: (body ++ [c.closer])

theorem Encloses.unique {text : String} {a b : List Char} (ha : c.Encloses text a)
    (hb : c.Encloses text b) : a = b :=
  List.append_cancel_right (List.cons.inj (ha.symm.trans hb)).2

theorem body?_eq_some_iff {cs body : List Char} :
    c.body? cs = some body ↔ cs = c.opener :: (body ++ [c.closer]) := by
  cases cs with
  | nil => simp [body?]
  | cons x xs =>
    rw [body?]
    constructor
    · intro h
      split at h
      · rename_i hx
        obtain ⟨ys, rfl⟩ := List.getLast?_eq_some_iff.1 hx.2
        rw [List.dropLast_concat, Option.some.injEq] at h
        rw [hx.1, h]
      · cases h
    · intro h
      obtain ⟨rfl, rfl⟩ := List.cons.inj h
      rw [if_pos ⟨rfl, by simp⟩, List.dropLast_concat]

theorem encloses_serialize (tokens : List String) :
    c.Encloses (c.serialize tokens) (c.joinChars (tokens.map String.toList)) :=
  String.toList_ofList

/-- **A text is written from tokens** when their join is its body. -/
theorem serialize_eq_iff {text : String} {body : List Char} (h : c.Encloses text body)
    (tokens : List String) :
    c.serialize tokens = text ↔ c.joinChars (tokens.map String.toList) = body := by
  constructor
  · rintro rfl
    exact (encloses_serialize tokens).unique h
  · rintro rfl
    exact String.toList_injective ((encloses_serialize tokens).trans h.symm)

/-- Only no token and one empty token have an empty join. -/
theorem joinChars_eq_nil_iff (hs : c.Sound) {ts : List (List Char)} :
    c.joinChars ts = [] ↔ ts = [] ∨ ts = [[]] := by
  cases ts with
  | nil => simp [joinChars]
  | cons t us =>
    by_cases hus : us = []
    · subst hus
      simp
    · rw [joinChars_cons hus]
      simp [hs.delimiter_ne_nil, hus]

/-! ## Reading a text -/

theorem split_of_not_encloses {text : String} (h : ∀ body, ¬ c.Encloses text body) :
    c.split text = .error (.notBracketed c.opener c.closer) := by
  have hnone : c.body? text.toList = none :=
    Option.eq_none_iff_forall_ne_some.2 fun body hb => h body (body?_eq_some_iff.1 hb)
  rw [split, scan, hnone]
  rfl

theorem split_of_encloses_nil {text : String} (h : c.Encloses text []) : c.split text = .ok [] := by
  rw [split, scan, body?_eq_some_iff.2 h]
  rfl

theorem split_of_encloses {text : String} {body : List Char} (h : c.Encloses text body)
    (hne : body ≠ []) :
    c.split text = List.map String.ofList <$> c.tokens c.opener.utf8Size body := by
  obtain ⟨x, xs, rfl⟩ := List.exists_cons_of_ne_nil hne
  rw [split, scan, body?_eq_some_iff.2 h]

theorem map_toList_map_ofList (ts : List (List Char)) :
    (ts.map String.ofList).map String.toList = ts := by
  simp [Function.comp_def]

theorem map_ofList_map_toList (tokens : List String) :
    (tokens.map String.toList).map String.ofList = tokens := by
  simp [Function.comp_def]

/-- **The tokens of a text** are the ones it is written from that stay apart. -/
theorem split_eq_ok_iff (hs : c.Sound) {text : String} {tokens : List String} :
    c.split text = .ok tokens ↔
      c.serialize tokens = text ∧ tokens ≠ [""] ∧ c.Separable (tokens.map String.toList) := by
  have hone : tokens.map String.toList = [[]] ↔ tokens = [""] :=
    (List.map_injective_iff.2 fun _ _ => String.toList_injective).eq_iff (b := [""])
  by_cases hbody : ∃ body, c.Encloses text body
  · obtain ⟨body, h⟩ := hbody
    rw [serialize_eq_iff h]
    by_cases hne : body = []
    · subst hne
      rw [split_of_encloses_nil h, joinChars_eq_nil_iff hs, Except.ok.injEq, List.map_eq_nil_iff,
        hone]
      constructor
      · rintro rfl
        exact ⟨.inl rfl, by simp, separable_nil⟩
      · rintro ⟨rfl | rfl, h1, -⟩
        · rfl
        · exact absurd rfl h1
    · rw [split_of_encloses h hne, Outcome.map_eq_ok_iff]
      simp only [tokens_eq_ok_iff hs]
      constructor
      · rintro ⟨ts, ⟨hts, hjoin, hsep⟩, rfl⟩
        rw [map_toList_map_ofList, hjoin]
        refine ⟨rfl, fun h1 => hne ?_, hsep⟩
        rw [← hjoin, ← map_toList_map_ofList ts, h1]
        rfl
      · rintro ⟨hjoin, -, hsep⟩
        refine ⟨tokens.map String.toList, ⟨fun hnil => hne ?_, hjoin, hsep⟩,
          map_ofList_map_toList _⟩
        rw [← hjoin, hnil]
        rfl
  · rw [not_exists] at hbody
    rw [split_of_not_encloses hbody]
    constructor
    · intro h
      cases h
    · rintro ⟨rfl, -⟩
      exact absurd (encloses_serialize tokens) (hbody _)

/-- When tokens stay apart, said of texts. -/
theorem separable_map_toList_iff {tokens : List String} :
    c.Separable (tokens.map String.toList) ↔
      (∀ t ∈ tokens, c.Balanced t.toList) ∧
        (∀ t ∈ tokens.getLast?, ∀ front, ¬ c.DelimiterAfter t.toList front) ∧
        ∀ t ∈ tokens.dropLast,
          IsFirst (c.DelimiterAfter (t.toList ++ c.delimiter.toList)) t.toList := by
  have hlast : (∀ t ∈ (tokens.map String.toList).getLast?, ∀ front, ¬ c.DelimiterAfter t front) ↔
      ∀ t ∈ tokens.getLast?, ∀ front, ¬ c.DelimiterAfter t.toList front := by
    rw [List.getLast?_map]
    simp
  constructor
  · rintro ⟨hb, hl, ho⟩
    rw [← List.map_dropLast, List.forall_mem_map] at ho
    exact ⟨List.forall_mem_map.1 hb, hlast.1 hl, ho⟩
  · rintro ⟨hb, hl, ho⟩
    refine ⟨List.forall_mem_map.2 hb, hlast.2 hl, ?_⟩
    rw [← List.map_dropLast, List.forall_mem_map]
    exact ho

/-- **Reading undoes writing exactly for tokens that stay apart:** every token is balanced, the last
one has no delimiter outside of its brackets, and in any other the first such delimiter is the one
written behind it.  One empty token is written like none. -/
theorem split_serialize_iff (hc : c.validate = .ok ()) (tokens : List String) :
    c.split (c.serialize tokens) = .ok tokens ↔
      tokens ≠ [""] ∧ (∀ t ∈ tokens, c.Balanced t.toList) ∧
        (∀ t ∈ tokens.getLast?, ∀ front, ¬ c.DelimiterAfter t.toList front) ∧
        ∀ t ∈ tokens.dropLast,
          IsFirst (c.DelimiterAfter (t.toList ++ c.delimiter.toList)) t.toList := by
  rw [split_eq_ok_iff (validate_eq_ok_iff.1 hc), separable_map_toList_iff]
  exact and_iff_right rfl

/-- A delimiter that overlaps itself shows across the end of a token, and the tokens are not given
back. -/
theorem split_serialize_overlap :
    (⟨'[', ']', "aa"⟩ : SequenceCodec).validate = .ok () ∧
      (⟨'[', ']', "aa"⟩ : SequenceCodec).split
        ((⟨'[', ']', "aa"⟩ : SequenceCodec).serialize ["[aa]xa", "y"]) ≠ .ok ["[aa]xa", "y"] := by
  refine ⟨by decide, fun h => ?_⟩
  obtain ⟨-, -, -, hfirst⟩ := (split_serialize_iff (by decide) ["[aa]xa", "y"]).1 h
  have hle := (hfirst "[aa]xa" (by decide)).2 "[aa]x".toList ⟨by decide, by decide⟩
  exact absurd hle (by decide)

/-! ## Texts that are refused -/

/-- What a fault says about a text. -/
def Blames (c : SequenceCodec) (text : String) : SplitFault → Prop
  | .notBracketed opener closer =>
    opener = c.opener ∧ closer = c.closer ∧ ∀ body, ¬ c.Encloses text body
  | .unbalanced bracket offset =>
    bracket = c.closer ∧ ∃ body front, c.Encloses text body ∧ IsFirst (c.Unopened body) front ∧
      offset = Text.byteLength (c.opener :: front)
  | .unclosed bracket offset =>
    bracket = c.opener ∧ ∃ body front, c.Encloses text body ∧ (∀ other, ¬ c.Unopened body other) ∧
      IsFirst (c.Unclosed body) front ∧ offset = Text.byteLength (c.opener :: front)

/-- **A text has at most one fault.** -/
theorem Blames.unique {text : String} {f g : SplitFault} (hf : c.Blames text f)
    (hg : c.Blames text g) : f = g := by
  cases f with
  | notBracketed o cl =>
    obtain ⟨rfl, rfl, hno⟩ := hf
    cases g with
    | notBracketed => obtain ⟨rfl, rfl, -⟩ := hg; rfl
    | unbalanced => obtain ⟨-, body, -, henc, -⟩ := hg; exact absurd henc (hno body)
    | unclosed => obtain ⟨-, body, -, henc, -⟩ := hg; exact absurd henc (hno body)
  | unbalanced b n =>
    obtain ⟨rfl, body, front, henc, hfirst, rfl⟩ := hf
    cases g with
    | notBracketed => exact absurd henc (hg.2.2 body)
    | unbalanced =>
      obtain ⟨rfl, body', front', henc', hfirst', rfl⟩ := hg
      obtain rfl := henc.unique henc'
      rw [hfirst.unique (fun _ h => h.isPrefix) hfirst']
    | unclosed =>
      obtain ⟨-, body', -, henc', hno, -⟩ := hg
      obtain rfl := henc.unique henc'
      exact absurd hfirst.1 (hno front)
  | unclosed b n =>
    obtain ⟨rfl, body, front, henc, hno, hfirst, rfl⟩ := hf
    cases g with
    | notBracketed => exact absurd henc (hg.2.2 body)
    | unbalanced =>
      obtain ⟨-, body', front', henc', hfirst', -⟩ := hg
      obtain rfl := henc.unique henc'
      exact absurd hfirst'.1 (hno front')
    | unclosed =>
      obtain ⟨rfl, body', front', henc', -, hfirst', rfl⟩ := hg
      obtain rfl := henc.unique henc'
      rw [hfirst.unique (fun _ h => h.isPrefix) hfirst']

/-- A fault found in the body is one of the text, at the offset in the text. -/
theorem Reading.blames (hs : c.Sound) {text : String} {body : List Char} {f : SplitFault}
    (henc : c.Encloses text body) (h : c.Reading c.opener.utf8Size body (.error f)) :
    c.Blames text f := by
  cases h with
  | unbalanced hcs hb => exact ⟨rfl, body, _, henc, isFirst_unopened hs hcs hb, rfl⟩
  | unclosed hcs hb hrest =>
    obtain ⟨hno, hfirst⟩ := isFirst_unclosed hs hcs hb hrest
    exact ⟨rfl, body, _, henc, hno, hfirst, rfl⟩

/-- **A text with a fault is not balanced** between its brackets. -/
theorem Blames.not_balanced (hs : c.Sound) {text : String} {f : SplitFault} {body : List Char}
    (hf : c.Blames text f) (henc : c.Encloses text body) : ¬ c.Balanced body := by
  intro hb
  cases f with
  | notBracketed => exact hf.2.2 body henc
  | unbalanced =>
    obtain ⟨-, body', front, henc', hfirst, -⟩ := hf
    obtain rfl := henc.unique henc'
    exact hb.not_unopened hs front hfirst.1
  | unclosed =>
    obtain ⟨-, body', front, henc', -, hfirst, -⟩ := hf
    obtain rfl := henc.unique henc'
    exact hb.not_unclosed hs front hfirst.1

/-- **Each text is read, or refused for its fault.** -/
theorem split_cases (hs : c.Sound) (text : String) :
    (∃ tokens body, c.split text = .ok tokens ∧ c.Encloses text body ∧ c.Balanced body) ∨
      ∃ f, c.split text = .error f ∧ c.Blames text f := by
  by_cases hbody : ∃ body, c.Encloses text body
  · obtain ⟨body, henc⟩ := hbody
    by_cases hne : body = []
    · subst hne
      exact .inl ⟨[], [], split_of_encloses_nil henc, henc, balanced_nil⟩
    · have hr := reading_tokens hs c.opener.utf8Size body
      rw [split_of_encloses henc hne]
      cases htok : c.tokens c.opener.utf8Size body with
      | ok ts =>
        obtain ⟨-, hjoin, hsep⟩ := (tokens_eq_ok_iff hs).1 htok
        exact .inl ⟨ts.map String.ofList, body, rfl, henc, hjoin ▸ hsep.balanced_join hs⟩
      | error f =>
        rw [htok] at hr
        exact .inr ⟨f, rfl, hr.blames hs henc⟩
  · rw [not_exists] at hbody
    exact .inr ⟨_, split_of_not_encloses hbody, rfl, rfl, hbody⟩

/-- **The texts that are read** are the balanced ones between brackets. -/
theorem exists_split_eq_ok_iff (hs : c.Sound) {text : String} :
    (∃ tokens, c.split text = .ok tokens) ↔ ∃ body, c.Encloses text body ∧ c.Balanced body := by
  rcases split_cases hs text with ⟨tokens, body, hok, henc, hb⟩ | ⟨f, herr, hf⟩
  · exact iff_of_true ⟨tokens, hok⟩ ⟨body, henc, hb⟩
  · refine iff_of_false ?_ ?_
    · rintro ⟨tokens, hok⟩
      rw [hok] at herr
      cases herr
    · rintro ⟨body, henc, hb⟩
      exact hf.not_balanced hs henc hb

/-- **The fault of a text that is refused** is the one it has. -/
theorem split_eq_error_iff (hs : c.Sound) {text : String} {f : SplitFault} :
    c.split text = .error f ↔ c.Blames text f := by
  rcases split_cases hs text with ⟨tokens, body, hok, henc, hb⟩ | ⟨g, herr, hg⟩
  · rw [hok]
    exact iff_of_false nofun fun hf => hf.not_balanced hs henc hb
  · rw [herr, Except.error.injEq]
    exact ⟨fun h => h ▸ hg, fun hf => hg.unique hf⟩

/-! ## Failures of whole texts -/

theorem parse_eq_ok_iff {text : String} {tokens : List String} :
    c.parse text = .ok tokens ↔ c.split text = .ok tokens :=
  Outcome.mapError_eq_ok_iff

/-- A failure holds the whole text and the fault. -/
theorem parse_eq_error_iff {text : String} {failure : Failure} :
    c.parse text = .error failure ↔
      ∃ f, failure = .sequence text f ∧ c.split text = .error f := by
  rw [parse, Outcome.mapError_eq_error_iff]
  exact exists_congr fun f => and_comm.trans (and_congr_left fun _ => eq_comm)

/-- **The length** is that of the tokens. -/
theorem parseLength_eq_map (text : String) :
    c.parseLength text = List.length <$> c.parse text := by
  rw [parseLength, length, parse, split]
  cases c.scan text with
  | ok ts => exact congrArg Except.ok (List.length_map _).symm
  | error f => rfl

/-- **A text is read exactly when it is a balanced one between brackets,** and then nothing of it is
lost; any other text is refused whole, for its first bracket without a partner. -/
theorem parse_of_validate (hc : c.validate = .ok ()) (text : String) :
    ((∃ tokens, c.parse text = .ok tokens) ↔ ∃ body, c.Encloses text body ∧ c.Balanced body) ∧
      (∀ tokens, c.parse text = .ok tokens →
        c.serialize tokens = text ∧ c.parseLength text = .ok tokens.length ∧
          ∀ t ∈ tokens, c.Balanced t.toList ∧ ∀ front, ¬ c.DelimiterAfter t.toList front) ∧
      (∀ failure, c.parse text = .error failure ↔
        ∃ f, failure = .sequence text f ∧ c.Blames text f) ∧
      ∀ failure, c.parseLength text = .error failure ↔ c.parse text = .error failure := by
  have hs := validate_eq_ok_iff.1 hc
  refine ⟨?_, fun tokens h => ?_, fun failure => ?_, fun failure => ?_⟩
  · simp only [parse_eq_ok_iff]
    exact exists_split_eq_ok_iff hs
  · obtain ⟨hser, -, hsep⟩ := (split_eq_ok_iff hs).1 (parse_eq_ok_iff.1 h)
    refine ⟨hser, ?_, fun t ht => ?_⟩
    · rw [parseLength_eq_map, h]
      rfl
    · have hmem := List.mem_map_of_mem (f := String.toList) ht
      exact ⟨hsep.balanced _ hmem, hsep.not_delimiterAfter hs hmem⟩
  · rw [parse_eq_error_iff]
    simp only [split_eq_error_iff hs]
  · rw [parseLength_eq_map, Outcome.map_eq_error_iff]

/-- The first bracket that closes nothing is found behind a character of two bytes and a group. -/
theorem parse_of_validate_unbalanced :
    ({} : SequenceCodec).validate = .ok () ∧
      ({} : SequenceCodec).parse "[é, [x]], y]" =
        .error (.sequence "[é, [x]], y]" (.unbalanced ']' 8)) := by
  refine ⟨by decide, ?_⟩
  refine ((parse_of_validate (by decide) "[é, [x]], y]").2.2.1 _).2 ⟨_, rfl, rfl, ?_⟩
  exact ⟨"é, [x]], y".toList, "é, [x]".toList, rfl,
    isFirst_unopened (validate_eq_ok_iff.1 (by decide)) rfl (by decide), by decide⟩

end SequenceCodec

end RecordSheet
