import RecordSheet.Proofs.Sequence.Balance

/-!
# Proofs/Sequence/Partner — the bracket that closes the first one opened

A closing bracket is the **partner** of the first bracket opened before it when as many brackets
open as close up to it, and more are open than closed at every bracket before.  The search for it is
a count of open brackets that starts at none: `partnered_opener` reads the count behind the first
bracket, and the characters before that bracket are passed over.  The search ends at the partner
(`group_zero_eq_some_iff`), or there is none, because a bracket closes before any opens or because
the first one opened stays open (`group_zero_eq_none_iff`).
-/

namespace RecordSheet

namespace SequenceCodec

variable {c : SequenceCodec}

/-! ## Partners -/

/-- **The closing bracket behind `front` is the partner of the first bracket that opens there:** as
many open as close up to and with it, at least one opens, and no earlier part that has a bracket
closes as many as it opens. -/
@[mk_iff] structure Partnered (c : SequenceCodec) (front : List Char) : Prop where
  even : (front ++ [c.closer]).count c.opener = (front ++ [c.closer]).count c.closer
  opens : c.opener ∈ front
  earlier : ∀ part, part <+: front → c.opener ∈ part ∨ c.closer ∈ part →
    part.count c.closer < part.count c.opener

instance (front : List Char) : Decidable (c.Partnered front) :=
  decidable_of_iff
    ((front ++ [c.closer]).count c.opener = (front ++ [c.closer]).count c.closer ∧
      c.opener ∈ front ∧ ∀ part ∈ front.inits, c.opener ∈ part ∨ c.closer ∈ part →
        part.count c.closer < part.count c.opener)
    (by simp only [partnered_iff, List.mem_inits])

/-- A bracket closes before any opens. -/
def ClosesFirst (c : SequenceCodec) (cs : List Char) : Prop :=
  ∃ front rest, cs = front ++ c.closer :: rest ∧ c.opener ∉ front

/-- The first bracket that opens is never balanced: no part behind it closes more than it opens.
This holds also where none opens. -/
def StaysOpen (c : SequenceCodec) (cs : List Char) : Prop :=
  ∀ front rest, cs = front ++ c.opener :: rest → c.opener ∉ front →
    ∀ part, part <+: rest → part.count c.closer ≤ part.count c.opener

/-- **Behind the first bracket** the count of open ones comes to its partner at zero. -/
theorem partnered_opener (hne : c.opener ≠ c.closer) {inner : List Char} :
    c.Partnered (c.opener :: inner) ↔ c.depth 0 inner = some 0 := by
  have hcounts : ∀ part : List Char, (c.opener :: part).count c.opener = part.count c.opener + 1 ∧
      (c.opener :: part).count c.closer = part.count c.closer := fun part =>
    ⟨List.count_cons_self, List.count_cons_of_ne hne⟩
  have heven : ((c.opener :: inner) ++ [c.closer]).count c.opener =
        ((c.opener :: inner) ++ [c.closer]).count c.closer ↔
      inner.count c.opener = inner.count c.closer := by
    rw [List.cons_append, (hcounts _).1, (hcounts _).2, List.count_append, List.count_append,
      List.count_singleton_self, List.count_cons_of_ne hne.symm, List.count_nil]
    omega
  rw [partnered_iff, heven, and_iff_right List.mem_cons_self, forall_prefix_cons_iff,
    depth_eq_some_iff hne, Nat.zero_add, Nat.zero_add, and_comm]
  refine and_congr_left fun _ => ?_
  simp only [hcounts, Nat.zero_add, Nat.lt_succ_iff, List.mem_cons, true_or, forall_const,
    List.not_mem_nil, or_self, false_imp_iff, true_and]

/-- A bracket that closes before any opens has no partner behind it. -/
theorem not_partnered_closer (hne : c.opener ≠ c.closer) (front : List Char) :
    ¬ c.Partnered (c.closer :: front) := by
  intro h
  have := h.earlier [c.closer] (by simp) (.inr List.mem_cons_self)
  rw [List.count_singleton_self, List.count_cons_of_ne hne.symm, List.count_nil] at this
  omega

/-- Characters that are no brackets are passed over. -/
theorem partnered_plain {x : Char} (ho : x ≠ c.opener) (hc : x ≠ c.closer) {front : List Char} :
    c.Partnered (x :: front) ↔ c.Partnered front := by
  simp only [partnered_iff, forall_prefix_cons_iff, List.cons_append, List.count_cons_of_ne ho,
    List.count_cons_of_ne hc, List.mem_cons, ho.symm, hc.symm, false_or, List.not_mem_nil, or_self,
    false_imp_iff, true_and]

/-! ## The search -/

/-- **The group that is found** ends with the partner of the first bracket that opens. -/
theorem group_zero_eq_some_iff (hne : c.opener ≠ c.closer) {cs g rest : List Char} :
    c.group 0 cs = some (g, rest) ↔
      ∃ front, g = front ++ [c.closer] ∧ cs = front ++ c.closer :: rest ∧ c.Partnered front := by
  have hnil : ¬ c.Partnered [] := fun h => List.not_mem_nil h.opens
  induction cs generalizing g with
  | nil => simp [group]
  | cons x xs ih =>
    rw [group]
    by_cases ho : x = c.opener
    · subst ho
      rw [if_pos rfl]
      exact map_cons_eq_some_iff (group_succ_eq_some_iff hne) (fun _ => partnered_opener hne)
        fun h => absurd h hnil
    · rw [if_neg ho]
      by_cases hc : x = c.closer
      · subst hc
        rw [if_pos rfl, if_pos rfl]
        refine iff_of_false (Option.some_ne_none _).symm ?_
        rintro ⟨front, -, hcs, h⟩
        obtain ⟨rfl, -⟩ | ⟨inner, rfl, -⟩ := cons_eq_append_cons_iff.1 hcs
        · exact hnil h
        · exact not_partnered_closer hne inner h
      · rw [if_neg hc]
        exact map_cons_eq_some_iff ih (fun _ => partnered_plain ho hc) fun h => absurd h hnil

/-! ## Where nothing is found -/

theorem not_closesFirst_opener (hne : c.opener ≠ c.closer) (cs : List Char) :
    ¬ c.ClosesFirst (c.opener :: cs) := by
  rintro ⟨front, rest, hcs, hfront⟩
  obtain ⟨-, heq, -⟩ | ⟨tail, rfl, -⟩ := cons_eq_append_cons_iff.1 hcs
  · exact hne heq
  · exact hfront List.mem_cons_self

theorem staysOpen_opener {cs : List Char} :
    c.StaysOpen (c.opener :: cs) ↔
      ∀ part, part <+: cs → part.count c.closer ≤ part.count c.opener := by
  refine ⟨fun h => h [] cs rfl List.not_mem_nil, fun h front rest hcs hfront => ?_⟩
  obtain ⟨-, -, rfl⟩ | ⟨tail, rfl, -⟩ := cons_eq_append_cons_iff.1 hcs
  · exact h
  · exact absurd List.mem_cons_self hfront

theorem closesFirst_plain {x : Char} (ho : x ≠ c.opener) (hc : x ≠ c.closer) {cs : List Char} :
    c.ClosesFirst (x :: cs) ↔ c.ClosesFirst cs := by
  constructor
  · rintro ⟨front, rest, hcs, hfront⟩
    obtain ⟨-, heq, -⟩ | ⟨tail, rfl, htail⟩ := cons_eq_append_cons_iff.1 hcs
    · exact absurd heq hc
    · exact ⟨tail, rest, htail, fun hmem => hfront (List.mem_cons_of_mem _ hmem)⟩
  · rintro ⟨front, rest, rfl, hfront⟩
    exact ⟨x :: front, rest, rfl, List.not_mem_cons_of_ne_of_not_mem ho.symm hfront⟩

theorem staysOpen_plain {x : Char} (ho : x ≠ c.opener) {cs : List Char} :
    c.StaysOpen (x :: cs) ↔ c.StaysOpen cs := by
  constructor
  · rintro h front rest rfl hfront
    exact h (x :: front) rest rfl (List.not_mem_cons_of_ne_of_not_mem ho.symm hfront)
  · intro h front rest hcs hfront
    obtain ⟨-, heq, -⟩ | ⟨tail, rfl, htail⟩ := cons_eq_append_cons_iff.1 hcs
    · exact absurd heq ho
    · exact h tail rest htail fun hmem => hfront (List.mem_cons_of_mem _ hmem)

/-- **Nothing is found** when a bracket closes before any opens, or when the first one opened stays
open. -/
theorem group_zero_eq_none_iff (hne : c.opener ≠ c.closer) {cs : List Char} :
    c.group 0 cs = none ↔ c.ClosesFirst cs ∨ c.StaysOpen cs := by
  induction cs with
  | nil =>
    refine iff_of_true rfl (.inr fun front rest hcs => ?_)
    exact absurd hcs.symm (List.append_ne_nil_of_right_ne_nil _ (List.cons_ne_nil _ _))
  | cons x xs ih =>
    rw [group]
    by_cases ho : x = c.opener
    · subst ho
      rw [if_pos rfl, Option.map_eq_none_iff, group_succ_eq_none_iff hne, exists_depth_iff hne,
        or_iff_right (not_closesFirst_opener hne xs), staysOpen_opener]
      simp only [Nat.zero_add]
    · rw [if_neg ho]
      by_cases hc : x = c.closer
      · subst hc
        rw [if_pos rfl, if_pos rfl]
        exact iff_of_true rfl (.inl ⟨[], xs, rfl, List.not_mem_nil⟩)
      · rw [if_neg hc, Option.map_eq_none_iff, ih, closesFirst_plain ho hc, staysOpen_plain ho]

/-- The search starts behind the bytes of the first part, and the offset that it gives is that of
the bracket which ends the group. -/
theorem matchingCloser_append (c : SequenceCodec) {text : String} {before after : List Char}
    (htext : text.toList = before ++ after) :
    c.matchingCloser text (Text.byteLength before) = (c.group 0 after).map fun p =>
      Text.byteLength (before ++ p.1) - c.closer.utf8Size := by
  rw [matchingCloser, htext, Text.dropBytes_byteLength_append]
  simp only [Text.byteLength_append]

/-- **The closing bracket that is found** is the partner of the first one opened from the offset on,
by the byte offset at which it stands. -/
theorem matchingCloser_eq_some_iff (hne : c.opener ≠ c.closer) {text : String}
    {before after : List Char} (htext : text.toList = before ++ after) {i : Nat} :
    c.matchingCloser text (Text.byteLength before) = some i ↔
      ∃ front rest, after = front ++ c.closer :: rest ∧ c.Partnered front ∧
        i = Text.byteLength (before ++ front) := by
  have hoffset : ∀ front : List Char,
      Text.byteLength (before ++ (front ++ [c.closer])) - c.closer.utf8Size =
        Text.byteLength (before ++ front) := fun front => by
    rw [← List.append_assoc, Text.byteLength_append, Text.byteLength_cons, Text.byteLength_nil,
      Nat.add_zero, Nat.add_sub_cancel]
  rw [matchingCloser_append c htext, Option.map_eq_some_iff]
  constructor
  · rintro ⟨⟨g, rest⟩, hg, rfl⟩
    obtain ⟨front, rfl, rfl, h⟩ := (group_zero_eq_some_iff hne).1 hg
    exact ⟨front, rest, rfl, h, hoffset front⟩
  · rintro ⟨front, rest, rfl, h, rfl⟩
    exact ⟨_, (group_zero_eq_some_iff hne).2 ⟨front, rfl, rfl, h⟩, hoffset front⟩

/-- **The search finds the partner.**  From any character of a text on, it gives the byte offset of
the closing bracket that is the partner of the first one opened; it gives none exactly when there is
no such bracket, that is, when a bracket closes before any opens or the first one opened is never
balanced. -/
theorem matchingCloser_finds_partner (hne : c.opener ≠ c.closer) {text : String}
    {before after : List Char} (htext : text.toList = before ++ after) :
    (∀ i, c.matchingCloser text (Text.byteLength before) = some i ↔
      ∃ front rest, after = front ++ c.closer :: rest ∧ c.Partnered front ∧
        i = Text.byteLength (before ++ front)) ∧
    (c.matchingCloser text (Text.byteLength before) = none ↔
      ¬ ∃ front rest, after = front ++ c.closer :: rest ∧ c.Partnered front) ∧
    (c.matchingCloser text (Text.byteLength before) = none ↔
      c.ClosesFirst after ∨ c.StaysOpen after) := by
  refine ⟨fun i => matchingCloser_eq_some_iff hne htext, ?_, ?_⟩
  · rw [Option.eq_none_iff_forall_ne_some]
    simp only [ne_eq, matchingCloser_eq_some_iff hne htext]
    constructor
    · rintro h ⟨front, rest, hafter, hp⟩
      exact h _ ⟨front, rest, hafter, hp, rfl⟩
    · rintro h i ⟨front, rest, hafter, hp, -⟩
      exact h ⟨front, rest, hafter, hp⟩
  · rw [matchingCloser_append c htext, Option.map_eq_none_iff, group_zero_eq_none_iff hne]

/-- Brackets of three bytes each behind a character of two: the inner group is passed over. -/
theorem matchingCloser_finds_partner_corners :
    let c : SequenceCodec := ⟨'「', '」', ", "⟩
    c.opener ≠ c.closer ∧ "é「a「b」」c".toList = "é".toList ++ "「a「b」」c".toList ∧
      c.matchingCloser "é「a「b」」c" 2 = some 13 := by
  intro c
  have hne : c.opener ≠ c.closer := by decide
  have htext : "é「a「b」」c".toList = "é".toList ++ "「a「b」」c".toList := by decide
  refine ⟨hne, htext, ?_⟩
  exact ((matchingCloser_finds_partner hne htext).1 13).2
    ⟨"「a「b」".toList, "c".toList, by decide, by decide, by decide⟩

end SequenceCodec

end RecordSheet
