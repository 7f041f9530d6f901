import RecordSheet.Sequence.Codec
import Mathlib.Data.List.Induction
import Mathlib.Data.List.Infix

/-!
# Proofs/Sequence/Balance — brackets that open and close

The characters of a text open and close brackets.  A text is **balanced** when no front of it closes
more brackets than it opens and all are closed at its end.  Three facts carry the reading of
sequences:

* `balanced_iff_depth` — balance is a count of open brackets that ends where it began;
* `group_succ_eq_some_iff` — the group that `group` finds is the balanced text up to the bracket
  that closes it;
* `isFirst_unopened` / `isFirst_unclosed` — a text that is not balanced has a first bracket without
  a partner, and what stands in front of it is balanced.
-/

namespace RecordSheet

namespace SequenceCodec

variable {c : SequenceCodec}

/-! ## Codecs whose texts can be read back -/

/-- A codec whose brackets and delimiter cannot be taken for one another. -/
structure Sound (c : SequenceCodec) : Prop where
  opener_ne_closer : c.opener ≠ c.closer
  delimiter_ne_nil : c.delimiter.toList ≠ []
  opener_notMem : c.opener ∉ c.delimiter.toList
  closer_notMem : c.closer ∉ c.delimiter.toList

/-- **The codecs without a fault are the sound ones.** -/
theorem validate_eq_ok_iff : c.validate = .ok () ↔ c.Sound := by
  have hempty : c.delimiter.isEmpty = true ↔ c.delimiter.toList = [] := by
    rw [String.isEmpty_iff, String.toList_eq_nil_iff]
  rw [validate]
  constructor
  · intro h
    split at h
    · cases h
    · split at h
      · cases h
      · split at h
        · cases h
        · rename_i hne hd hb
          exact ⟨hne, fun hnil => hd (hempty.2 hnil), fun ho => hb (.inl ho), fun hc =>
            hb (.inr hc)⟩
  · rintro ⟨hne, hd, ho, hc⟩
    rw [if_neg hne, if_neg (fun h => hd (hempty.1 h)), if_neg (not_or.2 ⟨ho, hc⟩)]

/-! ## Balanced texts -/

/-- No front closes more brackets than it opens, and in the end all are closed. -/
def Balanced (c : SequenceCodec) (cs : List Char) : Prop :=
  (∀ front, front <+: cs → front.count c.closer ≤ front.count c.opener) ∧
    cs.count c.closer = cs.count c.opener

instance (cs : List Char) : Decidable (c.Balanced cs) :=
  decidable_of_iff
    ((∀ front ∈ cs.inits, front.count c.closer ≤ front.count c.opener) ∧
      cs.count c.closer = cs.count c.opener)
    (by simp only [Balanced, List.mem_inits])

/-- The number of brackets open after `cs` when `n` are open before it.  There is none when a
bracket closes and no bracket is open. -/
def depth (c : SequenceCodec) : Nat → List Char → Option Nat
  | n, [] => some n
  | n, x :: xs =>
    if x = c.opener then c.depth (n + 1) xs
    else if x = c.closer then
      if n = 0 then none else c.depth (n - 1) xs
    else c.depth n xs

@[simp] theorem depth_nil (n : Nat) : c.depth n [] = some n := by rw [depth]

@[simp] theorem depth_opener (n : Nat) (xs : List Char) :
    c.depth n (c.opener :: xs) = c.depth (n + 1) xs := by rw [depth, if_pos rfl]

theorem depth_closer_zero (hne : c.opener ≠ c.closer) (xs : List Char) :
    c.depth 0 (c.closer :: xs) = none := by
  rw [depth, if_neg hne.symm, if_pos rfl, if_pos rfl]

theorem depth_closer_succ (hne : c.opener ≠ c.closer) (n : Nat) (xs : List Char) :
    c.depth (n + 1) (c.closer :: xs) = c.depth n xs := by
  rw [depth, if_neg hne.symm, if_pos rfl, if_neg n.succ_ne_zero, Nat.add_sub_cancel]

theorem depth_plain {x : Char} (ho : x ≠ c.opener) (hc : x ≠ c.closer) (n : Nat) (xs : List Char) :
    c.depth n (x :: xs) = c.depth n xs := by rw [depth, if_neg ho, if_neg hc]

/-- **The count of open brackets is carried on** from one part of a text to the next. -/
theorem depth_append (n : Nat) (cs ds : List Char) :
    c.depth n (cs ++ ds) = (c.depth n cs).bind fun m => c.depth m ds := by
  induction cs generalizing n with
  | nil => rfl
  | cons x xs ih =>
    rw [List.cons_append, depth, depth]
    split
    · exact ih (n + 1)
    · split
      · split
        · rfl
        · exact ih (n - 1)
      · exact ih n

/-- A text without brackets changes no count. -/
theorem depth_of_forall_plain {cs : List Char} (h : ∀ x ∈ cs, x ≠ c.opener ∧ x ≠ c.closer)
    (n : Nat) : c.depth n cs = some n := by
  induction cs with
  | nil => rfl
  | cons x xs ih =>
    obtain ⟨ho, hc⟩ := h x List.mem_cons_self
    rw [depth_plain ho hc]
    exact ih fun y hy => h y (List.mem_cons_of_mem _ hy)

/-- **More open brackets before a text are still open after it.** -/
theorem depth_add {n m : Nat} {cs : List Char} (h : c.depth n cs = some m) (k : Nat) :
    c.depth (n + k) cs = some (m + k) := by
  induction cs generalizing n with
  | nil => simpa using h
  | cons x xs ih =>
    rw [depth] at h ⊢
    split at h
    · rw [if_pos ‹_›, Nat.add_right_comm]
      exact ih h
    · rw [if_neg ‹_›]
      split at h
      · split at h
        · cases h
        · rw [if_pos ‹_›, if_neg (by omega), Nat.sub_add_comm (by omega)]
          exact ih h
      · rw [if_neg ‹_›]
        exact ih h

/-- The fronts of `x :: xs` are the empty one and `x` before a front of `xs`. -/
theorem forall_prefix_cons_iff {P : List Char → Prop} {x : Char} {xs : List Char} :
    (∀ front, front <+: x :: xs → P front) ↔ P [] ∧ ∀ front, front <+: xs → P (x :: front) := by
  refine ⟨fun h => ⟨h [] List.nil_prefix, fun front hf => h _ (by simpa using hf)⟩, ?_⟩
  rintro ⟨hnil, hcons⟩ front hf
  rcases List.prefix_cons_iff.1 hf with rfl | ⟨t, rfl, ht⟩
  · exact hnil
  · exact hcons t ht

/-- **The count in terms of the brackets of all fronts.** -/
theorem depth_eq_some_iff (hne : c.opener ≠ c.closer) {n m : Nat} {cs : List Char} :
    c.depth n cs = some m ↔
      (∀ front, front <+: cs → front.count c.closer ≤ n + front.count c.opener) ∧
        n + cs.count c.opener = m + cs.count c.closer := by
  induction cs generalizing n with
  | nil => simp
  | cons x xs ih =>
    rw [forall_prefix_cons_iff]
    by_cases ho : x = c.opener
    · subst ho
      rw [depth_opener, ih]
      simp only [List.count_cons_self, List.count_cons_of_ne hne, List.count_nil]
      exact ⟨fun ⟨h, e⟩ => ⟨⟨by omega, fun f hf => by have := h f hf; omega⟩, by omega⟩,
        fun ⟨⟨_, h⟩, e⟩ => ⟨fun f hf => by have := h f hf; omega, by omega⟩⟩
    · by_cases hc : x = c.closer
      · subst hc
        simp only [List.count_cons_self, List.count_cons_of_ne hne.symm, List.count_nil]
        cases n with
        | zero =>
          rw [depth_closer_zero hne]
          refine ⟨fun h => absurd h (by simp), fun ⟨⟨_, h⟩, _⟩ => ?_⟩
          have := h [] List.nil_prefix
          simp at this
        | succ n =>
          rw [depth_closer_succ hne, ih]
          exact ⟨fun ⟨h, e⟩ => ⟨⟨by omega, fun f hf => by have := h f hf; omega⟩, by omega⟩,
            fun ⟨⟨_, h⟩, e⟩ => ⟨fun f hf => by have := h f hf; omega, by omega⟩⟩
      · rw [depth_plain ho hc, ih]
        simp only [List.count_cons_of_ne ho, List.count_cons_of_ne hc, List.count_nil]
        exact ⟨fun ⟨h, e⟩ => ⟨⟨by omega, h⟩, e⟩, fun ⟨⟨_, h⟩, e⟩ => ⟨h, e⟩⟩

/-- **A text is balanced when the count of open brackets ends where it began.** -/
theorem balanced_iff_depth (hs : c.Sound) {cs : List Char} :
    c.Balanced cs ↔ c.depth 0 cs = some 0 := by
  rw [depth_eq_some_iff hs.opener_ne_closer, Balanced]
  simp only [Nat.zero_add]
  exact and_congr_right fun _ => eq_comm

/-- No bracket closes that is not open, whatever is left open. -/
theorem exists_depth_iff (hne : c.opener ≠ c.closer) {n : Nat} {cs : List Char} :
    (∃ m, c.depth n cs = some m) ↔
      ∀ front, front <+: cs → front.count c.closer ≤ n + front.count c.opener := by
  constructor
  · rintro ⟨m, hm⟩
    exact ((depth_eq_some_iff hne).1 hm).1
  · intro h
    have htotal := h cs List.prefix_rfl
    exact ⟨n + cs.count c.opener - cs.count c.closer,
      (depth_eq_some_iff hne).2 ⟨h, by omega⟩⟩

/-- A front of a text in which no bracket closes too many has a count of its own. -/
theorem exists_depth_of_prefix {n m : Nat} {front cs : List Char} (h : c.depth n cs = some m)
    (hf : front <+: cs) : ∃ k, c.depth n front = some k := by
  obtain ⟨rest, rfl⟩ := hf
  rw [depth_append] at h
  obtain ⟨k, hk, -⟩ := Option.bind_eq_some_iff.1 h
  exact ⟨k, hk⟩

theorem balanced_nil : c.Balanced [] :=
  ⟨fun front hf => by simp [List.prefix_nil.1 hf], rfl⟩

/-- After a balanced text the count starts again. -/
theorem Balanced.depth_rest (hs : c.Sound) {cs ds : List Char} (h : c.Balanced cs) :
    c.depth 0 (cs ++ ds) = c.depth 0 ds := by
  rw [depth_append, (balanced_iff_depth hs).1 h, Option.bind_some]

/-- **Behind a balanced text, balance is that of the rest.** -/
theorem Balanced.append_iff (hs : c.Sound) {cs ds : List Char} (h : c.Balanced cs) :
    c.Balanced (cs ++ ds) ↔ c.Balanced ds := by
  rw [balanced_iff_depth hs, balanced_iff_depth hs, h.depth_rest hs]

theorem balanced_of_forall_plain (hs : c.Sound) {cs : List Char}
    (h : ∀ x ∈ cs, x ≠ c.opener ∧ x ≠ c.closer) : c.Balanced cs :=
  (balanced_iff_depth hs).2 (depth_of_forall_plain h 0)

/-- Characters that are no brackets do not change the balance of a text before them. -/
theorem balanced_append_plain_iff (hs : c.Sound) {cs ds : List Char}
    (h : ∀ x ∈ ds, x ≠ c.opener ∧ x ≠ c.closer) : c.Balanced (cs ++ ds) ↔ c.Balanced cs := by
  simp only [balanced_iff_depth hs, depth_append, depth_of_forall_plain h, Option.bind_fun_some]

theorem Sound.balanced_delimiter (hs : c.Sound) : c.Balanced c.delimiter.toList :=
  balanced_of_forall_plain hs fun _ hx =>
    ⟨fun e => hs.opener_notMem (e ▸ hx), fun e => hs.closer_notMem (e ▸ hx)⟩

/-- **A balanced text between brackets is balanced.** -/
theorem Balanced.enclose (hs : c.Sound) {inner : List Char} (h : c.Balanced inner) :
    c.Balanced (c.opener :: (inner ++ [c.closer])) := by
  have hone : c.depth 1 inner = some 1 := by
    simpa using depth_add ((balanced_iff_depth hs).1 h) 1
  rw [balanced_iff_depth hs, depth_opener, depth_append, hone, Option.bind_some,
    depth_closer_succ hs.opener_ne_closer, depth_nil]

/-! ## Groups -/

/-- A text is cut at its first character, or behind it. -/
theorem cons_eq_append_cons_iff {x y : Char} {xs front rest : List Char} :
    x :: xs = front ++ y :: rest ↔
      (front = [] ∧ x = y ∧ xs = rest) ∨ ∃ tail, front = x :: tail ∧ xs = tail ++ y :: rest := by
  rw [List.cons_eq_append_iff, @eq_comm _ (y :: rest), List.cons.injEq]

/-- **One step of a search:** a character that stays inside the group stands in front of what is
found behind it. -/
theorem map_cons_eq_some_iff {x : Char} {xs g rest : List Char}
    {found : Option (List Char × List Char)} {P Q : List Char → Prop}
    (hfound : ∀ {g}, found = some (g, rest) ↔
      ∃ inner, g = inner ++ [c.closer] ∧ xs = inner ++ c.closer :: rest ∧ Q inner)
    (hstep : ∀ inner, P (x :: inner) ↔ Q inner) (hinside : P [] → x ≠ c.closer) :
    found.map (fun p => (x :: p.1, p.2)) = some (g, rest) ↔
      ∃ inner, g = inner ++ [c.closer] ∧ x :: xs = inner ++ c.closer :: rest ∧ P inner := by
  rw [Option.map_eq_some_iff]
  constructor
  · rintro ⟨⟨g', rest'⟩, hg, heq⟩
    obtain ⟨rfl, rfl⟩ := Prod.mk.inj heq
    obtain ⟨inner, rfl, rfl, h⟩ := hfound.1 hg
    exact ⟨x :: inner, rfl, rfl, (hstep inner).2 h⟩
  · rintro ⟨inner, rfl, hxs, h⟩
    obtain ⟨rfl, hx, -⟩ | ⟨inner, rfl, rfl⟩ := cons_eq_append_cons_iff.1 hxs
    · exact absurd hx (hinside h)
    · exact ⟨_, hfound.2 ⟨inner, rfl, rfl, (hstep inner).1 h⟩, rfl⟩

/-- **The group found with brackets open** is the text up to the bracket that closes the outermost
of them. -/
theorem group_succ_eq_some_iff (hne : c.opener ≠ c.closer) {n : Nat} {cs g rest : List Char} :
    c.group (n + 1) cs = some (g, rest) ↔
      ∃ inner, g = inner ++ [c.closer] ∧ cs = inner ++ c.closer :: rest ∧
        c.depth n inner = some 0 := by
  induction cs generalizing n g with
  | nil => simp [group]
  | cons x xs ih =>
    rw [group]
    by_cases ho : x = c.opener
    · subst ho
      rw [if_pos rfl]
      exact map_cons_eq_some_iff ih (fun inner => by rw [depth_opener]) fun _ => hne
    · rw [if_neg ho]
      by_cases hc : x = c.closer
      · subst hc
        rw [if_pos rfl, if_neg n.succ_ne_zero]
        cases n with
        | zero =>
          rw [if_pos rfl, Option.some.injEq, Prod.mk.injEq]
          constructor
          · rintro ⟨rfl, rfl⟩
            exact ⟨[], rfl, rfl, rfl⟩
          · rintro ⟨inner, rfl, hxs, hd⟩
            obtain ⟨rfl, -, hrest⟩ | ⟨inner, rfl, -⟩ := cons_eq_append_cons_iff.1 hxs
            · exact ⟨rfl, hrest⟩
            · rw [depth_closer_zero hne] at hd
              cases hd
        | succ n =>
          rw [if_neg (by omega)]
          refine map_cons_eq_some_iff ih (fun inner => by rw [depth_closer_succ hne]) fun h => ?_
          exact absurd (Option.some.inj h) n.succ_ne_zero
      · rw [if_neg hc]
        exact map_cons_eq_some_iff ih (fun inner => by rw [depth_plain ho hc]) fun _ => hc

/-- **No group is found** when the brackets open before a text stay open in all of it. -/
theorem group_succ_eq_none_iff (hne : c.opener ≠ c.closer) {n : Nat} {cs : List Char} :
    c.group (n + 1) cs = none ↔ ∃ m, c.depth n cs = some m := by
  induction cs generalizing n with
  | nil => simp [group]
  | cons x xs ih =>
    rw [group]
    by_cases ho : x = c.opener
    · subst ho
      rw [if_pos rfl, Option.map_eq_none_iff, depth_opener, ih]
    · rw [if_neg ho]
      by_cases hc : x = c.closer
      · subst hc
        rw [if_pos rfl, if_neg n.succ_ne_zero]
        cases n with
        | zero => simp [depth_closer_zero hne]
        | succ n =>
          rw [if_neg (by omega), Option.map_eq_none_iff, Nat.add_sub_cancel, depth_closer_succ hne,
            ih]
      · rw [if_neg hc, Option.map_eq_none_iff, depth_plain ho hc, ih]

/-- **The group of a text that starts with a bracket** is the bracket, a balanced text and the
bracket that closes. -/
theorem group_opener_eq_some_iff (hs : c.Sound) {xs g rest : List Char} :
    c.group 0 (c.opener :: xs) = some (g, rest) ↔
      ∃ inner, g = c.opener :: (inner ++ [c.closer]) ∧ xs = inner ++ c.closer :: rest ∧
        c.Balanced inner := by
  rw [group, if_pos rfl, Option.map_eq_some_iff]
  constructor
  · rintro ⟨⟨g', rest'⟩, hg, heq⟩
    obtain ⟨rfl, rfl⟩ := Prod.mk.inj heq
    obtain ⟨inner, rfl, hxs, hd⟩ := (group_succ_eq_some_iff hs.opener_ne_closer).1 hg
    exact ⟨inner, rfl, hxs, (balanced_iff_depth hs).2 hd⟩
  · rintro ⟨inner, rfl, hxs, hb⟩
    have hd := (balanced_iff_depth hs).1 hb
    exact ⟨(inner ++ [c.closer], rest),
      (group_succ_eq_some_iff hs.opener_ne_closer).2 ⟨inner, rfl, hxs, hd⟩, rfl⟩

/-- A text that starts with a bracket has no group when this bracket is never closed. -/
theorem group_opener_eq_none_iff (hs : c.Sound) {xs : List Char} :
    c.group 0 (c.opener :: xs) = none ↔ ∃ m, c.depth 0 xs = some m := by
  rw [group, if_pos rfl, Option.map_eq_none_iff, group_succ_eq_none_iff hs.opener_ne_closer]

/-! ## Brackets without a partner -/

/-- The list is the shortest with the property. -/
def IsFirst (P : List Char → Prop) (front : List Char) : Prop :=
  P front ∧ ∀ other, P other → front.length ≤ other.length

/-- The opening bracket behind `front` is never closed. -/
def Unclosed (c : SequenceCodec) (cs front : List Char) : Prop :=
  ∃ rest, cs = front ++ c.opener :: rest ∧
    ∀ part, part <+: rest → part.count c.closer ≤ part.count c.opener

/-- The closing bracket behind `front` closes nothing: all brackets opened in `front` are closed
there. -/
def Unopened (c : SequenceCodec) (cs front : List Char) : Prop :=
  ∃ rest, cs = front ++ c.closer :: rest ∧ ∀ earlier, ¬ c.Unclosed front earlier

/-- **There is only one first place** in a text. -/
theorem IsFirst.unique {P : List Char → Prop} {cs a b : List Char}
    (hP : ∀ front, P front → front <+: cs) (ha : IsFirst P a) (hb : IsFirst P b) : a = b :=
  (List.prefix_of_prefix_length_le (hP a ha.1) (hP b hb.1) (ha.2 b hb.1)).eq_of_length
    (Nat.le_antisymm (ha.2 b hb.1) (hb.2 a ha.1))

theorem Unclosed.isPrefix {cs front : List Char} (h : c.Unclosed cs front) : front <+: cs := by
  obtain ⟨rest, rfl, -⟩ := h
  exact List.prefix_append _ _

theorem Unopened.isPrefix {cs front : List Char} (h : c.Unopened cs front) : front <+: cs := by
  obtain ⟨rest, rfl, -⟩ := h
  exact List.prefix_append _ _

/-- Of two places in a text, one comes first or they are the same. -/
theorem append_cons_cases {a b r s : List Char} {x y : Char} (h : a ++ x :: r = b ++ y :: s) :
    (∃ q, b = a ++ x :: q ∧ r = q ++ y :: s) ∨ (a = b ∧ x = y) ∨
      ∃ q, a = b ++ y :: q ∧ s = q ++ x :: r := by
  rcases List.append_eq_append_iff.1 h with ⟨u, rfl, hu⟩ | ⟨u, rfl, hu⟩
  · cases u with
    | nil => exact .inr (.inl ⟨(List.append_nil _).symm, (List.cons.inj hu).1⟩)
    | cons z q =>
      obtain ⟨rfl, rfl⟩ := List.cons.inj hu
      exact .inl ⟨q, rfl, rfl⟩
  · cases u with
    | nil => exact .inr (.inl ⟨List.append_nil _, (List.cons.inj hu).1.symm⟩)
    | cons z q =>
      obtain ⟨rfl, rfl⟩ := List.cons.inj hu
      exact .inr (.inr ⟨q, rfl, rfl⟩)

theorem unclosed_iff_exists_depth (hs : c.Sound) {cs front : List Char} :
    c.Unclosed cs front ↔
      ∃ rest, cs = front ++ c.opener :: rest ∧ ∃ m, c.depth 0 rest = some m := by
  simp only [Unclosed, exists_depth_iff hs.opener_ne_closer, Nat.zero_add]

/-- **A bracket open at the end has no partner,** and the first such stands behind a balanced
front. -/
theorem exists_unclosed {k : Nat} {cs : List Char} (hs : c.Sound)
    (h : c.depth 0 cs = some (k + 1)) :
    ∃ front rest, cs = front ++ c.opener :: rest ∧ c.Balanced front ∧ c.depth 0 rest = some k := by
  -- The last character decides how many brackets are open before it.
  induction cs using List.reverseRecOn generalizing k with
  | nil => simp at h
  | append_singleton ys x ih =>
    rw [depth_append] at h
    obtain ⟨n, hn, hx⟩ := Option.bind_eq_some_iff.1 h
    -- Where a bracket stays open before `x`, the front found there serves again.
    have carry : ∀ j, n = j + 1 → c.depth j [x] = some k →
        ∃ front rest, ys ++ [x] = front ++ c.opener :: rest ∧ c.Balanced front ∧
          c.depth 0 rest = some k := by
      rintro j rfl hj
      obtain ⟨front, rest, rfl, hb, hd⟩ := ih hn
      refine ⟨front, rest ++ [x], by simp, hb, ?_⟩
      rw [depth_append, hd, Option.bind_some, hj]
    by_cases ho : x = c.opener
    · subst ho
      rw [depth_opener, depth_nil, Option.some.injEq] at hx
      cases n with
      | zero => exact ⟨ys, [], rfl, (balanced_iff_depth hs).2 hn, by rw [depth_nil]; congr 1; omega⟩
      | succ j => exact carry j rfl (by rw [depth_opener, depth_nil]; congr 1; omega)
    · by_cases hc : x = c.closer
      · subst hc
        cases n with
        | zero => simp [depth_closer_zero hs.opener_ne_closer] at hx
        | succ j =>
          rw [depth_closer_succ hs.opener_ne_closer, depth_nil, Option.some.injEq] at hx
          subst hx
          exact carry (k + 1) rfl (by rw [depth_closer_succ hs.opener_ne_closer, depth_nil])
      · rw [depth_plain ho hc, depth_nil, Option.some.injEq] at hx
        exact carry k hx (by rw [depth_plain ho hc, depth_nil])

/-- **In a balanced text every bracket that opens is closed.** -/
theorem Balanced.not_unclosed (hs : c.Sound) {cs : List Char} (h : c.Balanced cs)
    (front : List Char) : ¬ c.Unclosed cs front := by
  intro hu
  obtain ⟨rest, rfl, m, hm⟩ := (unclosed_iff_exists_depth hs).1 hu
  rw [balanced_iff_depth hs, depth_append] at h
  obtain ⟨k, -, hk⟩ := Option.bind_eq_some_iff.1 h
  have := depth_add hm (k + 1)
  rw [Nat.zero_add, ← depth_opener, hk, Option.some.injEq] at this
  omega

/-- **In a balanced text every bracket that closes was opened.** -/
theorem Balanced.not_unopened (hs : c.Sound) {cs : List Char} (h : c.Balanced cs)
    (front : List Char) : ¬ c.Unopened cs front := by
  rintro ⟨rest, rfl, hall⟩
  rw [balanced_iff_depth hs, depth_append] at h
  obtain ⟨k, hk, hrest⟩ := Option.bind_eq_some_iff.1 h
  cases k with
  | zero => simp [depth_closer_zero hs.opener_ne_closer] at hrest
  | succ k =>
    obtain ⟨before, inside, rfl, -, hd⟩ := exists_unclosed hs hk
    exact hall before ((unclosed_iff_exists_depth hs).2 ⟨inside, rfl, k, hd⟩)

/-- **The first bracket that closes nothing** is the one behind a balanced front. -/
theorem isFirst_unopened (hs : c.Sound) {cs front rest : List Char}
    (hcs : cs = front ++ c.closer :: rest) (hb : c.Balanced front) :
    IsFirst (c.Unopened cs) front := by
  refine ⟨⟨rest, hcs, hb.not_unclosed hs⟩, ?_⟩
  rintro other ⟨rest', hother, hall⟩
  rcases append_cons_cases (hcs.symm.trans hother) with ⟨q, rfl, -⟩ | ⟨rfl, -⟩ | ⟨q, rfl, -⟩
  · simp
  · exact Nat.le_refl _
  · exact absurd ⟨q, rfl, hall⟩ (hb.not_unopened hs other)

/-- **The first bracket that is never closed** is the one behind a balanced front; then no bracket
closes without a partner. -/
theorem isFirst_unclosed (hs : c.Sound) {cs front rest : List Char} {m : Nat}
    (hcs : cs = front ++ c.opener :: rest) (hb : c.Balanced front)
    (hrest : c.depth 0 rest = some m) :
    (∀ other, ¬ c.Unopened cs other) ∧ IsFirst (c.Unclosed cs) front := by
  have hu : c.Unclosed cs front := (unclosed_iff_exists_depth hs).2 ⟨rest, hcs, m, hrest⟩
  refine ⟨?_, hu, ?_⟩
  · rintro other ⟨rest', hother, hall⟩
    rcases append_cons_cases (hcs.symm.trans hother) with ⟨q, rfl, hq⟩ | ⟨-, hxy⟩ | ⟨q, rfl, -⟩
    · obtain ⟨k, hk⟩ := exists_depth_of_prefix hrest ⟨_, hq.symm⟩
      exact hall front ((unclosed_iff_exists_depth hs).2 ⟨q, rfl, k, hk⟩)
    · exact hs.opener_ne_closer hxy
    · exact hb.not_unopened hs other ⟨q, rfl, hall⟩
  · rintro other ⟨rest', hother, hall⟩
    rcases append_cons_cases (hcs.symm.trans hother) with ⟨q, rfl, -⟩ | ⟨rfl, -⟩ | ⟨q, rfl, hq⟩
    · simp
    · exact Nat.le_refl _
    · refine absurd ⟨q, rfl, fun part hp => hall part ?_⟩ (hb.not_unclosed hs other)
      exact hq ▸ hp.trans (List.prefix_append _ _)

end SequenceCodec

end RecordSheet
