import RecordSheet.Proofs.Sequence.Balance

/-!
# Proofs/Sequence/Tokens — what the reader of a body finds

A body is read in **prime** steps: a plain character, or a whole group.  `Reading` says what each
outcome of `tokens` tells about the body — either the tokens are **separable** and make up the body,
or the fault stands behind a balanced front — and `reading_tokens` is one induction with a lemma for
each kind of step.  Separable tokens are the only ones of their join (`Separable.unique`), so
success is exactly a separable division of the body (`tokens_eq_ok_iff`).
-/

namespace RecordSheet

namespace SequenceCodec

variable {c : SequenceCodec}

/-! ## Delimiters outside of brackets -/

/-- The delimiter stands right behind `front`, outside of all brackets. -/
def DelimiterAfter (c : SequenceCodec) (cs front : List Char) : Prop :=
  c.Balanced front ∧ front ++ c.delimiter.toList <+: cs

instance (cs front : List Char) : Decidable (c.DelimiterAfter cs front) :=
  inferInstanceAs (Decidable (_ ∧ _))

theorem DelimiterAfter.isPrefix {cs front : List Char} (h : c.DelimiterAfter cs front) :
    front <+: cs :=
  (List.prefix_append _ _).trans h.2

/-- **Tokens that stay apart** when they are written with the delimiter between them: no delimiter
shows in one of them or across the end of one. -/
structure Separable (c : SequenceCodec) (ts : List (List Char)) : Prop where
  balanced : ∀ t ∈ ts, c.Balanced t
  last : ∀ t ∈ ts.getLast?, ∀ front, ¬ c.DelimiterAfter t front
  others : ∀ t ∈ ts.dropLast, IsFirst (c.DelimiterAfter (t ++ c.delimiter.toList)) t

theorem separable_nil : c.Separable [] :=
  ⟨by simp, by simp, by simp⟩

theorem separable_singleton {t : List Char} :
    c.Separable [t] ↔ c.Balanced t ∧ ∀ front, ¬ c.DelimiterAfter t front :=
  ⟨fun h => ⟨h.balanced t (by simp), h.last t (by simp)⟩,
    fun ⟨hb, hl⟩ => ⟨by simpa using hb, by simpa using hl, by simp⟩⟩

theorem separable_cons {t : List Char} {ts : List (List Char)} (hne : ts ≠ []) :
    c.Separable (t :: ts) ↔
      c.Balanced t ∧ IsFirst (c.DelimiterAfter (t ++ c.delimiter.toList)) t ∧ c.Separable ts := by
  obtain ⟨u, us, rfl⟩ := List.exists_cons_of_ne_nil hne
  constructor
  · rintro ⟨hb, hl, ho⟩
    rw [List.dropLast_cons_cons, List.forall_mem_cons] at ho
    rw [List.forall_mem_cons] at hb
    exact ⟨hb.1, ho.1, hb.2, by rwa [List.getLast?_cons_cons] at hl, ho.2⟩
  · rintro ⟨hb, hf, h⟩
    exact ⟨List.forall_mem_cons.2 ⟨hb, h.balanced⟩, by rw [List.getLast?_cons_cons]; exact h.last,
      by rw [List.dropLast_cons_cons]; exact List.forall_mem_cons.2 ⟨hf, h.others⟩⟩

@[simp] theorem joinChars_singleton (t : List Char) : c.joinChars [t] = t := rfl

theorem joinChars_cons {t : List Char} {ts : List (List Char)} (hne : ts ≠ []) :
    c.joinChars (t :: ts) = t ++ c.delimiter.toList ++ c.joinChars ts := by
  obtain ⟨u, us, rfl⟩ := List.exists_cons_of_ne_nil hne
  rfl

/-- A token that stays apart has no delimiter of its own. -/
theorem Separable.not_delimiterAfter (hs : c.Sound) {ts : List (List Char)} (h : c.Separable ts)
    {t : List Char} (ht : t ∈ ts) (front : List Char) : ¬ c.DelimiterAfter t front := by
  induction ts with
  | nil => simp at ht
  | cons u us ih =>
    by_cases hne : us = []
    · subst hne
      rw [List.mem_singleton.1 ht]
      exact (separable_singleton.1 h).2 front
    · obtain ⟨-, hf, hus⟩ := (separable_cons hne).1 h
      rcases List.mem_cons.1 ht with rfl | ht
      · rintro ⟨hb, hp⟩
        have hle := hf.2 front ⟨hb, hp.trans (List.prefix_append _ _)⟩
        have hlen := hp.length_le
        have hpos := List.length_pos_iff.2 hs.delimiter_ne_nil
        rw [List.length_append] at hlen
        omega
      · exact ih hus ht

/-- **The join of separable tokens is balanced.** -/
theorem Separable.balanced_join (hs : c.Sound) {ts : List (List Char)} (h : c.Separable ts) :
    c.Balanced (c.joinChars ts) := by
  induction ts with
  | nil => exact balanced_nil
  | cons t us ih =>
    by_cases hne : us = []
    · subst hne
      exact h.balanced t (by simp)
    · obtain ⟨hb, -, hus⟩ := (separable_cons hne).1 h
      rw [joinChars_cons hne, List.append_assoc, hb.append_iff hs,
        hs.balanced_delimiter.append_iff hs]
      exact ih hus

/-- The first delimiter behind one division is not before that of another. -/
theorem length_le_of_join_eq {t u : List Char} {ts us : List (List Char)} (hne : us ≠ [])
    (hb : c.Balanced u) (hf : IsFirst (c.DelimiterAfter (t ++ c.delimiter.toList)) t)
    (h : t ++ c.delimiter.toList ++ c.joinChars ts = c.joinChars (u :: us)) :
    t.length ≤ u.length := by
  rw [joinChars_cons hne] at h
  by_contra hlt
  refine hlt (hf.2 u ⟨hb, ?_⟩)
  have hu : u ++ c.delimiter.toList <+: t ++ c.delimiter.toList ++ c.joinChars ts :=
    h ▸ List.prefix_append _ _
  refine List.prefix_of_prefix_length_le hu (List.prefix_append _ _) ?_
  rw [List.length_append, List.length_append]
  omega

/-- **A text is divided into separable tokens in one way only.** -/
theorem Separable.unique {ts us : List (List Char)} (ht : c.Separable ts) (hu : c.Separable us)
    (hts : ts ≠ []) (hus : us ≠ []) (h : c.joinChars ts = c.joinChars us) : ts = us := by
  induction ts generalizing us with
  | nil => exact absurd rfl hts
  | cons t ts ih =>
    obtain ⟨u, us, rfl⟩ := List.exists_cons_of_ne_nil hus
    by_cases hts' : ts = [] <;> by_cases hus' : us = []
    · subst hts' hus'
      exact congrArg (fun t => [t]) h
    · subst hts'
      obtain ⟨hbu, -, -⟩ := (separable_cons hus').1 hu
      rw [joinChars_cons hus', joinChars_singleton] at h
      exact absurd ⟨hbu, h ▸ List.prefix_append _ _⟩ ((separable_singleton.1 ht).2 u)
    · subst hus'
      obtain ⟨hbt, -, -⟩ := (separable_cons hts').1 ht
      rw [joinChars_cons hts', joinChars_singleton] at h
      exact absurd ⟨hbt, h ▸ List.prefix_append _ _⟩ ((separable_singleton.1 hu).2 t)
    · obtain ⟨hbt, hft, hst⟩ := (separable_cons hts').1 ht
      obtain ⟨hbu, hfu, hsu⟩ := (separable_cons hus').1 hu
      have hle := length_le_of_join_eq hus' hbu hft (joinChars_cons hts' ▸ h)
      have hge := length_le_of_join_eq hts' hbt hfu (joinChars_cons hus' ▸ h.symm)
      rw [joinChars_cons hts', joinChars_cons hus', List.append_assoc, List.append_assoc] at h
      obtain ⟨rfl, hrest⟩ := List.append_inj h (Nat.le_antisymm hle hge)
      rw [ih hst hsu hts' hus' (List.append_cancel_left hrest)]

/-! ## Prime steps -/

/-- A balanced text of which no shorter front is balanced. -/
structure Prime (c : SequenceCodec) (g : List Char) : Prop where
  ne_nil : g ≠ []
  balanced : c.Balanced g
  eq_of_isPrefix : ∀ front, front <+: g → c.Balanced front → front ≠ [] → front = g

theorem prime_plain (hs : c.Sound) {x : Char} (ho : x ≠ c.opener) (hc : x ≠ c.closer) :
    c.Prime [x] := by
  refine ⟨by simp, balanced_of_forall_plain hs (by simp [ho, hc]), fun front hf _ hne => ?_⟩
  obtain ⟨y, ys, rfl⟩ := List.exists_cons_of_ne_nil hne
  simpa using hf

/-- **A group is prime:** inside of it a bracket is open. -/
theorem prime_group (hs : c.Sound) {inner : List Char} (h : c.Balanced inner) :
    c.Prime (c.opener :: (inner ++ [c.closer])) := by
  refine ⟨by simp, h.enclose hs, fun front hf hb hne => ?_⟩
  rcases List.prefix_cons_iff.1 hf with rfl | ⟨part, rfl, hp⟩
  · exact absurd rfl hne
  · rcases List.prefix_concat_iff.1 hp with rfl | hp
    · rfl
    · obtain ⟨k, hk⟩ := exists_depth_of_prefix ((balanced_iff_depth hs).1 h) hp
      have hopen := depth_add hk 1
      rw [balanced_iff_depth hs, depth_opener] at hb
      rw [hb] at hopen
      simp at hopen

/-- **A balanced front of a prime step and more** is empty or has the whole step. -/
theorem Prime.front_cases (hs : c.Sound) {g rest front : List Char} (hg : c.Prime g)
    (hf : front <+: g ++ rest) (hb : c.Balanced front) :
    front = [] ∨ ∃ more, front = g ++ more ∧ more <+: rest ∧ c.Balanced more := by
  rcases List.prefix_or_prefix_of_prefix hf (List.prefix_append g rest) with h | ⟨more, rfl⟩
  · by_cases hne : front = []
    · exact .inl hne
    · obtain rfl := hg.eq_of_isPrefix front h hb hne
      exact .inr ⟨[], (List.append_nil _).symm, List.nil_prefix, balanced_nil⟩
  · exact .inr ⟨more, rfl, (List.prefix_append_right_inj g).1 hf, (hg.balanced.append_iff hs).1 hb⟩

theorem joinChars_extend {ts : List (List Char)} (hne : ts ≠ []) (g : List Char) :
    c.joinChars (extend g ts) = g ++ c.joinChars ts := by
  obtain ⟨t, us, rfl⟩ := List.exists_cons_of_ne_nil hne
  by_cases hus : us = []
  · subst hus
    rfl
  · rw [extend, joinChars_cons hus, joinChars_cons hus]
    simp only [List.append_assoc]

/-- A delimiter found behind a prime step was there before. -/
theorem DelimiterAfter.of_prime (hs : c.Sound) {g cs front : List Char} (hg : c.Prime g)
    (hd : ¬ c.delimiter.toList <+: g ++ cs) (h : c.DelimiterAfter (g ++ cs) front) :
    ∃ more, front = g ++ more ∧ c.DelimiterAfter cs more := by
  obtain ⟨hb, hp⟩ := h
  rcases hg.front_cases hs ((List.prefix_append _ _).trans hp) hb with rfl | ⟨more, rfl, -, hm⟩
  · exact absurd hp hd
  · rw [List.append_assoc, List.prefix_append_right_inj] at hp
    exact ⟨more, rfl, hm, hp⟩

/-- **A prime step in front of the first token** keeps the tokens apart, unless a delimiter starts
with it. -/
theorem Separable.extend (hs : c.Sound) {g : List Char} {ts : List (List Char)} (hg : c.Prime g)
    (hne : ts ≠ []) (hd : ¬ c.delimiter.toList <+: g ++ c.joinChars ts) (h : c.Separable ts) :
    c.Separable (extend g ts) := by
  obtain ⟨t, us, rfl⟩ := List.exists_cons_of_ne_nil hne
  rw [SequenceCodec.extend]
  by_cases hus : us = []
  · subst hus
    obtain ⟨hb, hl⟩ := separable_singleton.1 h
    refine separable_singleton.2 ⟨(hg.balanced.append_iff hs).2 hb, fun front hf => ?_⟩
    obtain ⟨more, -, hm⟩ := hf.of_prime hs hg hd
    exact hl more hm
  · obtain ⟨hb, hf, hst⟩ := (separable_cons hus).1 h
    have hbg := (hg.balanced.append_iff hs).2 hb
    refine (separable_cons hus).2 ⟨hbg, ⟨⟨hbg, List.prefix_rfl⟩, fun front hfront => ?_⟩, hst⟩
    have hd' : ¬ c.delimiter.toList <+: g ++ (t ++ c.delimiter.toList) := fun hp =>
      hd (hp.trans (by
        rw [joinChars_cons hus, List.prefix_append_right_inj]
        exact List.prefix_append _ _))
    rw [List.append_assoc] at hfront
    obtain ⟨more, rfl, hm⟩ := hfront.of_prime hs hg hd'
    have := hf.2 more hm
    simp only [List.length_append]
    omega

/-! ## The reader of a body -/

/-- What an outcome of reading a body that starts at byte `offset` tells about the body. -/
inductive Reading (c : SequenceCodec) (offset : Nat) (cs : List Char) :
    Except SplitFault (List (List Char)) → Prop where
  | tokens {ts : List (List Char)} (hne : ts ≠ []) (hjoin : c.joinChars ts = cs)
      (h : c.Separable ts) : Reading c offset cs (.ok ts)
  | unbalanced {front rest : List Char} (hcs : cs = front ++ c.closer :: rest)
      (hb : c.Balanced front) :
      Reading c offset cs (.error (.unbalanced c.closer (offset + Text.byteLength front)))
  | unclosed {front rest : List Char} {m : Nat} (hcs : cs = front ++ c.opener :: rest)
      (hb : c.Balanced front) (hrest : c.depth 0 rest = some m) :
      Reading c offset cs (.error (.unclosed c.opener (offset + Text.byteLength front)))

/-- A fault stays where it is when a balanced text is put in front. -/
theorem Reading.error_behind (hs : c.Sound) {offset : Nat} {p cs : List Char} {f : SplitFault}
    (hp : c.Balanced p) (h : c.Reading (offset + Text.byteLength p) cs (.error f)) :
    c.Reading offset (p ++ cs) (.error f) := by
  cases h with
  | @unbalanced front rest hcs hb =>
    rw [Nat.add_assoc, ← Text.byteLength_append]
    exact .unbalanced (by rw [hcs, List.append_assoc]) ((hp.append_iff hs).2 hb)
  | @unclosed front rest m hcs hb hrest =>
    rw [Nat.add_assoc, ← Text.byteLength_append]
    exact .unclosed (by rw [hcs, List.append_assoc]) ((hp.append_iff hs).2 hb) hrest

/-- **A step that is a prime text** is put in front of the first token. -/
theorem Reading.extend (hs : c.Sound) {offset : Nat} {g cs : List Char}
    {r : Except SplitFault (List (List Char))} (hg : c.Prime g)
    (hd : ¬ c.delimiter.toList <+: g ++ cs) (h : c.Reading (offset + Text.byteLength g) cs r) :
    c.Reading offset (g ++ cs) (extend g <$> r) := by
  cases r with
  | error f => exact h.error_behind hs hg.balanced
  | ok ts =>
    obtain ⟨hne, rfl, hsep⟩ := h
    refine .tokens ?_ (joinChars_extend hne g) (hsep.extend hs hg hne hd)
    obtain ⟨t, us, rfl⟩ := List.exists_cons_of_ne_nil hne
    exact List.cons_ne_nil _ _

/-- **A delimiter** ends an empty first token. -/
theorem Reading.delimiter (hs : c.Sound) {offset : Nat} {cs : List Char}
    {r : Except SplitFault (List (List Char))}
    (h : c.Reading (offset + Text.byteLength c.delimiter.toList) cs r) :
    c.Reading offset (c.delimiter.toList ++ cs) (([] :: ·) <$> r) := by
  cases r with
  | error f => exact h.error_behind hs hs.balanced_delimiter
  | ok ts =>
    obtain ⟨hne, rfl, hsep⟩ := h
    have hfirst : IsFirst (c.DelimiterAfter ([] ++ c.delimiter.toList)) [] :=
      ⟨⟨balanced_nil, List.prefix_rfl⟩, fun _ _ => Nat.zero_le _⟩
    exact .tokens (List.cons_ne_nil _ _) (joinChars_cons hne)
      ((separable_cons hne).2 ⟨balanced_nil, hfirst, hsep⟩)

/-- **The reader of a body tells the truth,** step by step. -/
theorem reading_tokens (hs : c.Sound) (offset : Nat) (cs : List Char) :
    c.Reading offset cs (c.tokens offset cs) := by
  -- A test for the delimiter that fails leaves a text that does not start with it.
  have hnot : ∀ {ds : List Char}, ¬ (c.delimiter.toList ≠ [] ∧ c.delimiter.toList.isPrefixOf ds) →
      ¬ c.delimiter.toList <+: ds := fun h hp =>
    h ⟨hs.delimiter_ne_nil, List.isPrefixOf_iff_prefix.2 hp⟩
  fun_induction c.tokens offset cs with
  | case1 offset =>
    refine .tokens (List.cons_ne_nil _ _) rfl
      (separable_singleton.2 ⟨balanced_nil, fun front hf => hs.delimiter_ne_nil ?_⟩)
    exact (List.append_eq_nil_iff.1 (List.prefix_nil.1 hf.2)).2
  | case2 offset x xs d hd ih =>
    obtain ⟨cs, hcs⟩ := List.isPrefixOf_iff_prefix.1 hd.2
    rw [← hcs, List.drop_left] at ih ⊢
    exact ih.delimiter hs
  | case3 offset xs d hd hg =>
    obtain ⟨m, hm⟩ := (group_opener_eq_none_iff hs).1 hg
    exact .unclosed (List.nil_append _).symm balanced_nil hm
  | case4 offset xs d g rest hd hg ih =>
    obtain ⟨inner, rfl, rfl, hb⟩ := (group_opener_eq_some_iff hs).1 hg
    have hcs : c.opener :: (inner ++ c.closer :: rest) =
        c.opener :: (inner ++ [c.closer]) ++ rest := by simp
    rw [hcs] at hd ⊢
    exact ih.extend hs (prime_group hs hb) (hnot hd)
  | case5 offset xs d hd ho =>
    exact .unbalanced (List.nil_append _).symm balanced_nil
  | case6 offset x xs d hd ho hc ih =>
    rw [← Nat.add_zero x.utf8Size] at ih
    exact ih.extend hs (prime_plain hs ho hc) (hnot hd)

/-- A body with a fault is not balanced. -/
theorem Reading.not_balanced (hs : c.Sound) {offset : Nat} {cs : List Char} {f : SplitFault}
    (h : c.Reading offset cs (.error f)) : ¬ c.Balanced cs := by
  intro hcs
  cases h with
  | unbalanced heq hb => exact hcs.not_unopened hs _ (isFirst_unopened hs heq hb).1
  | unclosed heq hb hrest => exact hcs.not_unclosed hs _ (isFirst_unclosed hs heq hb hrest).2.1

/-- **The tokens read are the separable division of the body.** -/
theorem tokens_eq_ok_iff (hs : c.Sound) {offset : Nat} {cs : List Char} {ts : List (List Char)} :
    c.tokens offset cs = .ok ts ↔ ts ≠ [] ∧ c.joinChars ts = cs ∧ c.Separable ts := by
  have hr := reading_tokens hs offset cs
  constructor
  · intro h
    rw [h] at hr
    obtain ⟨hne, hjoin, hsep⟩ := hr
    exact ⟨hne, hjoin, hsep⟩
  · rintro ⟨hne, rfl, hsep⟩
    cases hres : c.tokens offset (c.joinChars ts) with
    | error f =>
      rw [hres] at hr
      exact absurd (hsep.balanced_join hs) (hr.not_balanced hs)
    | ok us =>
      rw [hres] at hr
      obtain ⟨hus, hjoin, hsep'⟩ := hr
      rw [hsep'.unique hsep hus hne hjoin]

/-! ## Delimiters that do not overlap -/

/-- No proper front of the delimiter is also its end. -/
def Unbordered (c : SequenceCodec) : Prop :=
  ∀ border, border <+: c.delimiter.toList → border <:+ c.delimiter.toList →
    border = [] ∨ border = c.delimiter.toList

instance : Decidable c.Unbordered :=
  decidable_of_iff
    (∀ border ∈ c.delimiter.toList.inits, border <:+ c.delimiter.toList →
      border = [] ∨ border = c.delimiter.toList)
    (by simp only [Unbordered, List.mem_inits])

/-- **The delimiter behind a token without one is the first,** as a delimiter across the end of the
token would overlap it. -/
theorem Unbordered.isFirst (hu : c.Unbordered) {t : List Char} (hb : c.Balanced t)
    (hno : ∀ front, ¬ c.DelimiterAfter t front) :
    IsFirst (c.DelimiterAfter (t ++ c.delimiter.toList)) t := by
  refine ⟨⟨hb, List.prefix_rfl⟩, fun front hf => ?_⟩
  obtain ⟨hfb, hp⟩ := hf
  by_contra hlt
  -- The token is `front` and a part of the delimiter that starts there.
  obtain ⟨part, rfl⟩ : front <+: t :=
    List.prefix_of_prefix_length_le (DelimiterAfter.isPrefix ⟨hfb, hp⟩) (List.prefix_append _ _)
      (by omega)
  rw [List.append_assoc, List.prefix_append_right_inj] at hp
  rcases List.prefix_or_prefix_of_prefix hp (List.prefix_append part _) with h | ⟨border, h⟩
  · exact hno front ⟨hfb, (List.prefix_append_right_inj front).2 h⟩
  · have hborder : border <+: c.delimiter.toList := by
      have hp' := hp
      rw [← h, List.prefix_append_right_inj, h] at hp'
      exact hp'
    rcases hu border hborder ⟨part, h⟩ with rfl | heq
    · rw [List.append_nil] at h
      exact hno front ⟨hfb, by rw [h]⟩
    · have hlen := congrArg List.length h
      rw [List.length_append, heq] at hlen
      rw [List.length_append] at hlt
      omega

/-- **Balanced tokens without a delimiter stay apart.** -/
theorem Unbordered.separable (hu : c.Unbordered) {ts : List (List Char)}
    (h : ∀ t ∈ ts, c.Balanced t ∧ ∀ front, ¬ c.DelimiterAfter t front) : c.Separable ts where
  balanced t ht := (h t ht).1
  last t ht := (h t (List.mem_of_getLast? ht)).2
  others t ht :=
    have hmem := h t (List.mem_of_mem_dropLast ht)
    hu.isFirst hmem.1 hmem.2

end SequenceCodec

end RecordSheet
