import Mathlib.Data.List.Basic
import RecordSheet.Text.Blank
import RecordSheet.Uuid

/-!
# Proofs/Uuid — written identifiers are read back

Hexadecimal digits are no hyphens, so the hyphens of a written identifier are the four between its
groups and what stands between them are its digits (`hyphens_and_filter_hyphenated`).  A hexadecimal
digit in front is neither a brace nor the start of a URN, so nothing is unwrapped, and the
identifier is read as it was (`read_toText`).
-/

namespace RecordSheet.Uuid

variable {cs ds : List Char} {u : Uuid}

theorem hexDigit?_hexChar (d : Fin 16) : hexDigit? (hexChar d) = some d := by
  revert d
  decide

theorem hexChar_ne_hyphen (d : Fin 16) : hexChar d ≠ '-' := by
  revert d
  decide

theorem mapM_hexDigit? (ds : List (Fin 16)) : (ds.map hexChar).mapM hexDigit? = some ds := by
  induction ds with
  | nil => rfl
  | cons d ds ih => rw [List.map_cons, List.mapM_cons, hexDigit?_hexChar, ih]; rfl

/-! ## Hyphens -/

theorem hyphens_append (cs ds : List Char) :
    hyphens (cs ++ ds) = hyphens cs ++ (hyphens ds).map (cs.length + ·) := by
  rw [hyphens, List.length_append, List.range_add, List.filter_append, List.filter_map]
  congr 1
  · refine List.filter_congr fun i hi => ?_
    rw [List.getElem?_append_left (List.mem_range.1 hi)]
  · refine congrArg _ (List.filter_congr fun i _ => ?_)
    rw [Function.comp_apply, List.getElem?_append_right (Nat.le_add_right _ _),
      Nat.add_sub_cancel_left]

theorem hyphens_of_notMem (h : '-' ∉ cs) : hyphens cs = [] :=
  List.filter_eq_nil_iff.2 fun _ _ hi => h (List.mem_of_getElem? (of_decide_eq_true hi))

/-- The first hyphen stands behind the first group. -/
theorem hyphens_group (h : '-' ∉ cs) (ds : List Char) :
    hyphens (cs ++ '-' :: ds) = cs.length :: (hyphens ds).map (cs.length + 1 + ·) := by
  have hhyphen : hyphens ['-'] = [0] := by decide
  rw [← List.singleton_append, ← List.append_assoc, hyphens_append, hyphens_append,
    hyphens_of_notMem h, hhyphen, List.length_append]
  rfl

theorem filter_of_notMem (h : '-' ∉ cs) : cs.filter (· != '-') = cs :=
  List.filter_eq_self.2 fun _ hc => bne_iff_ne.2 fun he => h (he ▸ hc)

theorem filter_group (h : '-' ∉ cs) (ds : List Char) :
    (cs ++ '-' :: ds).filter (· != '-') = cs ++ ds.filter (· != '-') := by
  rw [List.filter_append, filter_of_notMem h, List.filter_cons_of_neg (by decide)]

/-! ## The written form -/

theorem hyphen_notMem (u : Uuid) : '-' ∉ u.digits.map hexChar := fun h => by
  obtain ⟨d, -, hd⟩ := List.mem_map.1 h
  exact hexChar_ne_hyphen d hd

/-- **The written form in groups** of the digits. -/
theorem exists_groups (u : Uuid) :
    ∃ a b c d e, u.hyphenated = a ++ '-' :: (b ++ '-' :: (c ++ '-' :: (d ++ '-' :: e))) ∧
      u.digits.map hexChar = a ++ (b ++ (c ++ (d ++ e))) ∧
      a.length = 8 ∧ b.length = 4 ∧ c.length = 4 ∧ d.length = 4 ∧ e.length = 12 := by
  have hlength : (u.digits.map hexChar).length = 32 := by rw [List.length_map, u.length_eq]
  have hcut : ∀ (cs : List Char) m n, cs.drop m = (cs.drop m).take n ++ cs.drop (m + n) :=
    fun cs m n => by rw [← List.drop_drop, List.take_append_drop]
  generalize hcs : u.digits.map hexChar = cs at hlength
  refine ⟨cs.take 8, (cs.drop 8).take 4, (cs.drop 12).take 4, (cs.drop 16).take 4, cs.drop 20, ?_,
    ?_, ?_, ?_, ?_, ?_, ?_⟩
  · rw [hyphenated, hcs]
    simp only [List.append_assoc, List.cons_append]
  · rw [← hcut cs 16 4, ← hcut cs 12 4, ← hcut cs 8 4, List.take_append_drop]
  all_goals simp [hlength]

theorem length_hyphenated (u : Uuid) : u.hyphenated.length = 36 := by
  obtain ⟨a, b, c, d, e, h, -, ha, hb, hc, hd, he⟩ := u.exists_groups
  simp [h, ha, hb, hc, hd, he]

/-- **The hyphens** stand between the groups, and what is left without them are the digits. -/
theorem hyphens_and_filter_hyphenated (u : Uuid) :
    hyphens u.hyphenated = groupBounds.map Prod.fst ∧
      u.hyphenated.filter (· != '-') = u.digits.map hexChar := by
  have hnot := u.hyphen_notMem
  obtain ⟨a, b, c, d, e, h, hdigits, ha, hb, hc, hd, he⟩ := u.exists_groups
  rw [hdigits] at hnot
  simp only [List.mem_append, not_or] at hnot
  obtain ⟨hna, hnb, hnc, hnd, hne⟩ := hnot
  rw [h, hdigits]
  constructor
  · rw [hyphens_group hna, hyphens_group hnb, hyphens_group hnc, hyphens_group hnd,
      hyphens_of_notMem hne, ha, hb, hc, hd]
    rfl
  · rw [filter_group hna, filter_group hnb, filter_group hnc, filter_group hnd,
      filter_of_notMem hne]

/-- The written form starts with a digit. -/
theorem exists_hyphenated_eq_cons (u : Uuid) : ∃ d cs, u.hyphenated = hexChar d :: cs := by
  have hpos : 0 < u.digits.length := by rw [u.length_eq]; decide
  obtain ⟨d, ds, hd⟩ := List.exists_cons_of_length_pos hpos
  rw [hyphenated, hd]
  exact ⟨d, _, rfl⟩

theorem unwrap_hyphenated (u : Uuid) : unwrap u.hyphenated = (u.hyphenated, 0) := by
  have hbrace : ∀ d, hexChar d ≠ '\x7b' := by decide
  have hscheme : ∀ d, (hexChar d).toLower ≠ 'u' := by decide
  obtain ⟨d, cs, h⟩ := u.exists_hyphenated_eq_cons
  rw [h, unwrap, if_neg]
  · exact fun heq => hscheme d (List.cons.inj heq).1
  · exact fun rest heq => hbrace d (List.cons.inj heq).1

/-- **A written identifier is read back.** -/
theorem read_toText (u : Uuid) : read u.toText = .ok u := by
  have hhyphenated : ofHyphenated? u.hyphenated = some u := by
    obtain ⟨hhyphens, hfilter⟩ := u.hyphens_and_filter_hyphenated
    rw [ofHyphenated?, if_pos ⟨u.length_hyphenated, hhyphens⟩, hfilter, mapM_hexDigit?,
      Option.bind_some, ofDigits?, dif_pos u.length_eq]
  rw [read, toText, String.toList_ofList, length_hyphenated, if_neg (by decide), unwrap_hyphenated,
    hhyphenated]

end RecordSheet.Uuid
