import RecordSheet.Proofs.Sequence.Split

/-!
# Proofs/Sequence/Borders — delimiters that overlap themselves

A token is **plain** when it has neither a bracket nor the delimiter in it.  Plain tokens stay apart
unless the end of one and the delimiter behind it make a delimiter that comes too early, and that
takes a delimiter with a **border**, a proper front that is also its end.

A border cuts the delimiter in two ways, `front ++ border` and `border ++ back`.  So `front`
followed by the delimiter is the delimiter followed by `back`: the tokens `front`, `""` and the
tokens `""`, `back` are written alike (`exists_alike_of_border`), and no reader can tell them apart.
Hence the codecs that give back all plain tokens are those without a border, and so are the ones
that write no two lists of them alike (`split_serialize_plain_iff`).
-/

namespace RecordSheet

namespace SequenceCodec

variable {c : SequenceCodec}

/-! ## Plain tokens -/

/-- A token without a bracket and without the delimiter. -/
structure Plain (c : SequenceCodec) (t : List Char) : Prop where
  opener_notMem : c.opener ∉ t
  closer_notMem : c.closer ∉ t
  not_delimiter : ¬ c.delimiter.toList <:+: t

instance (t : List Char) : Decidable (c.Plain t) :=
  decidable_of_iff (c.opener ∉ t ∧ c.closer ∉ t ∧ ¬ c.delimiter.toList <:+: t)
    ⟨fun h => ⟨h.1, h.2.1, h.2.2⟩, fun h => ⟨h.1, h.2, h.3⟩⟩

/-- Plain tokens, but not a single empty one, which is written like none. -/
structure PlainTokens (c : SequenceCodec) (tokens : List String) : Prop where
  ne_singleton : tokens ≠ [""]
  plain : ∀ t ∈ tokens, c.Plain t.toList

instance (tokens : List String) : Decidable (c.PlainTokens tokens) :=
  decidable_of_iff (tokens ≠ [""] ∧ ∀ t ∈ tokens, c.Plain t.toList)
    ⟨fun h => ⟨h.1, h.2⟩, fun h => ⟨h.1, h.2⟩⟩

namespace Plain

variable {t : List Char}

theorem forall_plain (h : c.Plain t) : ∀ x ∈ t, x ≠ c.opener ∧ x ≠ c.closer :=
  fun _ hx => ⟨fun e => h.opener_notMem (e ▸ hx), fun e => h.closer_notMem (e ▸ hx)⟩

theorem balanced (hs : c.Sound) (h : c.Plain t) : c.Balanced t :=
  balanced_of_forall_plain hs h.forall_plain

theorem not_delimiterAfter (h : c.Plain t) (front : List Char) : ¬ c.DelimiterAfter t front := by
  rintro ⟨-, hp⟩
  exact h.not_delimiter ((List.suffix_append front _).isInfix.trans hp.isInfix)

/-- **Behind a plain token no bracket is in the way** of the delimiter. -/
theorem delimiterAfter_iff (hs : c.Sound) (h : c.Plain t) {front : List Char} :
    c.DelimiterAfter (t ++ c.delimiter.toList) front ↔
      front ++ c.delimiter.toList <+: t ++ c.delimiter.toList := by
  refine and_iff_right_of_imp fun hp => balanced_of_forall_plain hs fun x hx => ?_
  rcases List.mem_append.1 (hp.subset (List.mem_append_left _ hx)) with hx | hx
  · exact h.forall_plain x hx
  · exact ⟨fun e => hs.opener_notMem (e ▸ hx), fun e => hs.closer_notMem (e ▸ hx)⟩

end Plain

theorem plain_nil (hs : c.Sound) : c.Plain [] :=
  ⟨List.not_mem_nil, List.not_mem_nil, fun h => hs.delimiter_ne_nil (List.infix_nil.1 h)⟩

/-- **A proper part of the delimiter is plain,** as it is too short to have the delimiter in it. -/
theorem plain_of_isInfix (hs : c.Sound) {t : List Char} (h : t <:+: c.delimiter.toList)
    (hne : t ≠ c.delimiter.toList) : c.Plain t where
  opener_notMem hx := hs.opener_notMem (h.subset hx)
  closer_notMem hx := hs.closer_notMem (h.subset hx)
  not_delimiter hd := hne (h.eq_of_length (Nat.le_antisymm h.length_le hd.length_le))

/-! ## Reading plain tokens back -/

/-- **Plain tokens come back** when in each but the last the first delimiter is the one written
behind it. -/
theorem PlainTokens.split_eq_tokens_iff (hs : c.Sound) {tokens : List String}
    (h : c.PlainTokens tokens) :
    c.split (c.serialize tokens) = .ok tokens ↔
      ∀ t ∈ tokens.dropLast,
        IsFirst (fun front => front ++ c.delimiter.toList <+: t.toList ++ c.delimiter.toList)
          t.toList := by
  have hfirst : ∀ t ∈ tokens.dropLast,
      (IsFirst (c.DelimiterAfter (t.toList ++ c.delimiter.toList)) t.toList ↔
        IsFirst (fun front => front ++ c.delimiter.toList <+: t.toList ++ c.delimiter.toList)
          t.toList) := fun t ht => by
    simp only [IsFirst, (h.plain t (List.mem_of_mem_dropLast ht)).delimiterAfter_iff hs]
  rw [split_eq_ok_iff hs, separable_map_toList_iff]
  constructor
  · rintro ⟨-, -, -, -, ho⟩ t ht
    exact (hfirst t ht).1 (ho t ht)
  · intro ho
    refine ⟨rfl, h.ne_singleton, fun t ht => (h.plain t ht).balanced hs, fun t ht => ?_,
      fun t ht => (hfirst t ht).2 (ho t ht)⟩
    exact (h.plain t (List.mem_of_getLast? ht)).not_delimiterAfter

/-- **Without a border all plain tokens come back.** -/
theorem Unbordered.split_serialize (hs : c.Sound) (hu : c.Unbordered) {tokens : List String}
    (h : c.PlainTokens tokens) : c.split (c.serialize tokens) = .ok tokens := by
  refine (split_eq_ok_iff hs).2 ⟨rfl, h.ne_singleton, hu.separable (List.forall_mem_map.2 ?_)⟩
  exact fun t ht => ⟨(h.plain t ht).balanced hs, (h.plain t ht).not_delimiterAfter⟩

/-! ## What a border does -/

/-- **A border gives two lists of plain tokens that are written alike.** -/
theorem exists_alike_of_border (hs : c.Sound) (hu : ¬ c.Unbordered) :
    ∃ ts us, c.PlainTokens ts ∧ c.PlainTokens us ∧ c.serialize ts = c.serialize us ∧ ts ≠ us := by
  simp only [Unbordered, not_forall, not_or] at hu
  obtain ⟨border, ⟨back, hback⟩, ⟨front, hfront⟩, hnil, hne⟩ := hu
  have hfront' : c.Plain front := by
    refine plain_of_isInfix hs (hfront ▸ (List.prefix_append _ _).isInfix) fun heq => hnil ?_
    rw [heq] at hfront
    exact List.append_right_eq_self.1 hfront
  have hback' : c.Plain back := by
    refine plain_of_isInfix hs (hback ▸ (List.suffix_append _ _).isInfix) fun heq => hnil ?_
    rw [heq] at hback
    exact List.append_left_eq_self.1 hback
  -- `front` is not empty, as the border is not the whole delimiter.
  have hfront_ne : front ≠ [] := fun h => hne (by rwa [h, List.nil_append] at hfront)
  have hjoin : front ++ c.delimiter.toList = c.delimiter.toList ++ back := by
    rw [← hback, ← List.append_assoc, hfront, hback]
  refine ⟨[String.ofList front, ""], ["", String.ofList back], ⟨by simp, ?_⟩, ⟨by simp, ?_⟩, ?_, ?_⟩
  · simpa using ⟨hfront', plain_nil hs⟩
  · simpa using ⟨plain_nil hs, hback'⟩
  · refine (serialize_eq_iff (encloses_serialize _) _).2 ?_
    simpa [joinChars] using hjoin
  · intro h
    exact hfront_ne (String.ofList_eq_empty_iff.1 (List.cons.inj h).1)

/-- **The codecs that can be read back on plain tokens** are those whose delimiter has no border.
The brackets and the delimiter of a valid codec are told apart, but a delimiter may overlap itself:
then in some lists of plain tokens the end of a token makes a delimiter with the one behind it, and
two lists are written alike. -/
theorem split_serialize_plain_iff (hc : c.validate = .ok ()) :
    (∀ tokens, c.PlainTokens tokens → (c.split (c.serialize tokens) = .ok tokens ↔
      ∀ t ∈ tokens.dropLast,
        IsFirst (fun front => front ++ c.delimiter.toList <+: t.toList ++ c.delimiter.toList)
          t.toList)) ∧
      ((∀ tokens, c.PlainTokens tokens → c.split (c.serialize tokens) = .ok tokens) ↔
        c.Unbordered) ∧
      ((∀ ts us, c.PlainTokens ts → c.PlainTokens us → c.serialize ts = c.serialize us → ts = us) ↔
        c.Unbordered) := by
  have hs := validate_eq_ok_iff.1 hc
  have hreads : c.Unbordered → ∀ tokens, c.PlainTokens tokens →
      c.split (c.serialize tokens) = .ok tokens := fun hu _ h => hu.split_serialize hs h
  have hinj : (∀ tokens, c.PlainTokens tokens → c.split (c.serialize tokens) = .ok tokens) →
      ∀ ts us, c.PlainTokens ts → c.PlainTokens us → c.serialize ts = c.serialize us → ts = us := by
    intro h ts us hts hus heq
    have hread := h ts hts
    rw [heq, h us hus] at hread
    exact (Except.ok.inj hread).symm
  have hborder : (∀ ts us, c.PlainTokens ts → c.PlainTokens us → c.serialize ts = c.serialize us →
      ts = us) → c.Unbordered := by
    intro h
    by_contra hu
    obtain ⟨ts, us, hts, hus, heq, hne⟩ := exists_alike_of_border hs hu
    exact hne (h ts us hts hus heq)
  exact ⟨fun _ h => h.split_eq_tokens_iff hs, ⟨fun h => hborder (hinj h), hreads⟩,
    ⟨hborder, fun hu => hinj (hreads hu)⟩⟩

/-- A comma and a blank have no border: no two lists of plain tokens are written alike with them. -/
theorem split_serialize_plain_iff_default :
    ({} : SequenceCodec).validate = .ok () ∧ ∀ ts us, ({} : SequenceCodec).PlainTokens ts →
      ({} : SequenceCodec).PlainTokens us →
      ({} : SequenceCodec).serialize ts = ({} : SequenceCodec).serialize us → ts = us :=
  ⟨by decide, (split_serialize_plain_iff (by decide)).2.2.2 (by decide)⟩

/-- Two equal characters have a border: with them plain tokens come back as others, and two lists of
plain tokens are written alike. -/
theorem exists_plain_not_read_back :
    ∃ c : SequenceCodec, c.validate = .ok () ∧
      (∃ tokens, c.PlainTokens tokens ∧ c.split (c.serialize tokens) = .ok ["", "ab"] ∧
        tokens ≠ ["", "ab"]) ∧
      ∃ ts us, c.PlainTokens ts ∧ c.PlainTokens us ∧ c.serialize ts = c.serialize us ∧ ts ≠ us := by
  refine ⟨⟨'[', ']', "aa"⟩, by decide, ⟨["a", "b"], by decide, ?_, by decide⟩,
    ["a", ""], ["", "a"], by decide, by decide, by decide, by decide⟩
  decide +kernel

end SequenceCodec

end RecordSheet
