import Mathlib.Algebra.Group.Nat.Defs
import Mathlib.Data.List.DropRight
import Mathlib.Data.List.Perm.Subperm
import RecordSheet.Proofs.Number.Numeral
import RecordSheet.Proofs.Scope
import RecordSheet.Workbook.SheetName

/-!
# Proofs/Workbook/SheetName — clean names and their variants

A clean name has 1 to 31 characters, all of them legal, and no apostrophe in front (`proper_clean`).
White space and apostrophes are dropped before the name is cut, so the cut may leave an apostrophe
at the end, and this is the one fault of clean names (`getLast?_clean_iff`, `check_of_proper`).

A variant ends with its number, and a case map leaves digits and underscores alone.  So the number
can be read off a variant in small letters (`rtakeWhile_lower_variant`), no two variants are the
same name, and one more of them than there are names taken has a free one (`exists_firstFree`).
-/

namespace RecordSheet

/-! ## Characters without case -/

namespace Text

/-- A character that stays as it is in small letters, wherever it stands. -/
def Caseless (c : Char) : Prop :=
  ∀ before after, lowerChar before c after = [c]

theorem moveBy_of_forall_lt {runs : List CaseRun} {c : Char} (h : ∀ r ∈ runs, c.toNat < r.first) :
    moveBy runs c = c := by
  have hnone : runs.find? (·.moves c.toNat) = none := by
    refine List.find?_eq_none.2 fun r hr hm => ?_
    rw [CaseRun.moves, Bool.and_eq_true, Bool.and_eq_true, decide_eq_true_eq] at hm
    exact Nat.not_lt.2 hm.1.1 (h r hr)
  rw [moveBy, hnone]

theorem caseless_of_isDigit {c : Char} (h : c.isDigit = true) : Caseless c := by
  -- The first run of capital letters starts behind the digits.
  have hruns : ∀ r ∈ lowerRuns, 0x3A ≤ r.first := by decide +kernel
  have hc : c.toNat ≤ 0x39 := (Char.isDigit_iff_toNat.1 h).2
  intro before after
  rw [lowerChar, if_neg (by rintro rfl; cases h), if_neg (by rintro rfl; cases h),
    moveBy_of_forall_lt fun r hr => Nat.lt_of_le_of_lt hc (hruns r hr)]

theorem caseless_underscore : Caseless '_' := fun _ _ => rfl

theorem lowerChars_of_caseless {cs : List Char} (h : ∀ c ∈ cs, Caseless c) (before : List Char) :
    lowerChars before cs = cs := by
  induction cs generalizing before with
  | nil => rfl
  | cons c cs ih =>
    rw [List.forall_mem_cons] at h
    rw [lowerChars, h.1, ih h.2, List.singleton_append]

/-- The small letters of the end of a text are the end of its small letters. -/
theorem exists_lowerChars_append (before cs ds : List Char) :
    ∃ front, lowerChars before (cs ++ ds) = front ++ lowerChars (cs.reverse ++ before) ds := by
  induction cs generalizing before with
  | nil => exact ⟨[], rfl⟩
  | cons c cs ih =>
    obtain ⟨front, hfront⟩ := ih (c :: before)
    refine ⟨lowerChar before c (cs ++ ds) ++ front, ?_⟩
    rw [List.cons_append, lowerChars, hfront, List.append_assoc, List.reverse_cons,
      List.append_assoc, List.singleton_append]

end Text

namespace SheetName

open Number (numeral numeral_ne_nil isDigit_of_mem_numeral)

variable {replacement : Char} {name : String} {taken : Scope Unit} {n : Nat}

/-! ## Clean names -/

/-- The characters of a text that its clean name is cut from. -/
def kept (replacement : Char) (name : String) : List Char :=
  Text.stripChars isDropped (name.toList.map fun c => if c ∈ illegal then replacement else c)

theorem toList_clean :
    (clean replacement name).toList =
      if kept replacement name = [] then fallback.toList
      else (kept replacement name).take maxLength := by
  have htake : (kept replacement name).take maxLength = [] ↔ kept replacement name = [] := by
    rw [List.take_eq_nil_iff, or_iff_right (by decide)]
  rw [clean, cleanChars, ← kept]
  split
  · next h => rw [if_pos (htake.1 h)]
  · next h => rw [if_neg fun hnil => h (htake.2 hnil), String.toList_ofList]

/-- Illegal characters are replaced before others are dropped. -/
theorem legal_of_mem_kept (hr : replacement ∉ illegal) {c : Char}
    (h : c ∈ kept replacement name) : c ∉ illegal := by
  obtain ⟨d, -, rfl⟩ := List.mem_map.1 (Text.mem_of_mem_stripChars h)
  split
  · exact hr
  · next hd => exact hd

/-- A name that worksheets may have, if it does not end with an apostrophe. -/
structure Proper (name : String) : Prop where
  length_pos : 1 ≤ name.toList.length
  length_le : name.toList.length ≤ maxLength
  legal : ∀ c ∈ name.toList, c ∉ illegal
  head : name.toList.head? ≠ some '\''

theorem proper_fallback : Proper fallback where
  length_pos := by decide
  length_le := by decide
  legal c hc := by
    have hall : (fallback.toList.all fun c => c ∉ illegal) = true := by decide
    exact of_decide_eq_true (List.all_eq_true.1 hall c hc)
  head := by decide

/-- **Clean names are proper.** -/
theorem proper_clean (hr : replacement ∉ illegal) : Proper (clean replacement name) := by
  by_cases hnil : kept replacement name = []
  · have hclean : clean replacement name = fallback :=
      String.toList_injective (by rw [toList_clean, if_pos hnil])
    exact hclean ▸ proper_fallback
  · have hclean : (clean replacement name).toList = (kept replacement name).take maxLength := by
      rw [toList_clean, if_neg hnil]
    refine ⟨?_, ?_, fun c hc => ?_, fun hhead => ?_⟩
    · rw [hclean, List.length_take]
      exact Nat.le_min.2 ⟨by decide, List.length_pos_iff.2 hnil⟩
    · rw [hclean]
      exact List.length_take_le _ _
    · exact legal_of_mem_kept hr (List.mem_of_mem_take (hclean ▸ hc))
    · rw [hclean, List.head?_take, if_neg (by decide)] at hhead
      exact nomatch Text.stripChars_head hhead

/-- **A clean name ends with an apostrophe** exactly when it was cut behind one. -/
theorem getLast?_clean_iff :
    (clean replacement name).toList.getLast? = some '\'' ↔
      (kept replacement name)[maxLength - 1]? = some '\'' := by
  have hlast : (kept replacement name).getLast? ≠ some '\'' := fun h =>
    nomatch Text.stripChars_getLast h
  rw [toList_clean]
  split
  · next hnil =>
    rw [hnil]
    decide
  · rw [List.getLast?_take, if_neg (by decide)]
    cases h : (kept replacement name)[maxLength - 1]? with
    | none => simpa using hlast
    | some c => rw [Option.some_or]

/-- **The one fault of a proper name** is an apostrophe at its end. -/
theorem check_of_proper (h : Proper name) :
    check name =
      if name.toList.getLast? = some '\'' then .error (.apostropheAtEnd name) else .ok () := by
  have hany : ¬ (name.toList.any fun c => c ∈ illegal) := by
    rw [List.any_eq_true]
    rintro ⟨c, hc, hill⟩
    exact h.legal c hc (of_decide_eq_true hill)
  rw [check, if_neg (List.length_pos_iff.1 h.length_pos), if_neg (Nat.not_lt.2 h.length_le),
    if_neg hany]
  exact if_congr (or_iff_right h.head) rfl rfl

/-! ## Variants -/

theorem notMem_illegal_of_isDigit {c : Char} (h : c.isDigit = true) : c ∉ illegal := by
  have hall : (illegal.all fun c => !c.isDigit) = true := by decide
  intro hill
  have hnot := List.all_eq_true.1 hall c hill
  rw [h] at hnot
  cases hnot

theorem toList_variant (name : String) (n : Nat) :
    (variant name n).toList =
      name.toList.take (maxLength - ('_' :: '_' :: numeral n).length) ++
        '_' :: '_' :: numeral n := by
  rw [variant, String.toList_ofList]

/-- Up to a number of 29 digits a variant is not too long. -/
theorem length_variant_le (name : String) (h : n < 10 ^ 29) :
    (variant name n).toList.length ≤ maxLength := by
  have hdigits : (numeral n).length ≤ 29 :=
    (Nat.length_toDigits_le_iff (by decide) (by decide)).2 h
  rw [toList_variant, List.length_append, List.length_take, List.length_cons, List.length_cons,
    maxLength]
  omega

/-- A variant ends with a digit. -/
theorem getLast?_variant_ne (name : String) (n : Nat) :
    (variant name n).toList.getLast? ≠ some '\'' := by
  obtain ⟨front, d, hd⟩ := (List.eq_nil_or_concat' (numeral n)).resolve_left (numeral_ne_nil n)
  have hdigit : d.isDigit = true := isDigit_of_mem_numeral (n := n) (by rw [hd]; simp)
  rw [toList_variant, hd, ← List.cons_append, ← List.cons_append, ← List.append_assoc,
    List.getLast?_concat]
  rintro ⟨⟩
  cases hdigit

/-- A variant starts with the name, or with an underscore. -/
theorem head?_variant_ne (hhead : name.toList.head? ≠ some '\'') (n : Nat) :
    (variant name n).toList.head? ≠ some '\'' := by
  rw [toList_variant, List.head?_append, List.head?_cons, List.head?_take]
  split
  · decide
  · cases h : name.toList.head? with
    | none => decide
    | some c =>
      rw [Option.some_or, ← h]
      exact hhead

/-- **A variant of a proper name** is one, up to a number of 29 digits. -/
theorem proper_variant (h : Proper name) (hn : n < 10 ^ 29) : Proper (variant name n) where
  length_pos := by
    rw [toList_variant, List.length_append, List.length_cons]
    omega
  length_le := length_variant_le name hn
  legal c hc := by
    rw [toList_variant, List.mem_append, List.mem_cons, List.mem_cons] at hc
    obtain hc | rfl | rfl | hc := hc
    · exact h.legal c (List.mem_of_mem_take hc)
    · decide
    · decide
    · exact notMem_illegal_of_isDigit (isDigit_of_mem_numeral hc)
  head := head?_variant_ne h.head n

theorem check_variant (h : Proper name) (hn : n < 10 ^ 29) : check (variant name n) = .ok () := by
  rw [check_of_proper (proper_variant h hn), if_neg (getLast?_variant_ne name n)]

/-- **The number of a variant** is what stands at the end of its small letters. -/
theorem rtakeWhile_lower_variant (name : String) (n : Nat) :
    (Text.lower (variant name n)).toList.rtakeWhile Char.isDigit = numeral n := by
  obtain ⟨front, hfront⟩ := Text.exists_lowerChars_append []
    (name.toList.take (maxLength - ('_' :: '_' :: numeral n).length)) ('_' :: '_' :: numeral n)
  have hcaseless : ∀ c ∈ '_' :: '_' :: numeral n, Text.Caseless c := by
    rw [List.forall_mem_cons, List.forall_mem_cons]
    exact ⟨Text.caseless_underscore, Text.caseless_underscore, fun c hc =>
      Text.caseless_of_isDigit (isDigit_of_mem_numeral hc)⟩
  have hdigits : ∀ c ∈ (numeral n).reverse, c.isDigit = true := fun c hc =>
    isDigit_of_mem_numeral (List.mem_reverse.1 hc)
  rw [Text.lower, String.toList_ofList, toList_variant, hfront,
    Text.lowerChars_of_caseless hcaseless, List.rtakeWhile]
  simp only [List.reverse_append, List.reverse_cons, List.append_assoc, List.singleton_append]
  rw [List.takeWhile_append_of_pos hdigits, List.cons_append,
    List.takeWhile_cons_of_neg (by decide), List.append_nil, List.reverse_reverse]

/-- **No two variants of a name are the same,** in any case of their letters. -/
theorem lower_variant_injective (name : String) :
    Function.Injective fun n => Text.lower (variant name n) := by
  intro m n h
  have hnumeral : numeral m = numeral n := by
    rw [← rtakeWhile_lower_variant name m, ← rtakeWhile_lower_variant name n]
    exact congrArg (fun s => s.toList.rtakeWhile Char.isDigit) h
  calc
    m = Nat.ofDigitChars 10 (numeral m) 0 := Nat.ofDigitChars_ten_toDigits.symm
    _ = Nat.ofDigitChars 10 (numeral n) 0 := by rw [hnumeral]
    _ = n := Nat.ofDigitChars_ten_toDigits

/-! ## Free names -/

theorem isTaken_iff : isTaken taken name = true ↔ Text.lower name ∈ taken.names := by
  rw [isTaken, Option.isSome_iff_exists, Scope.mem_names_iff]

theorem isTaken_eq_false_iff : isTaken taken name = false ↔ Text.lower name ∉ taken.names := by
  rw [← isTaken_iff, Bool.not_eq_true]

/-- **The search for a free variant** gives the first one, or all that it tries are taken. -/
theorem firstFree_cases (taken : Scope Unit) (name : String) (trials n : Nat) :
    (∃ k, n ≤ k ∧ k < n + trials ∧ firstFree taken name trials n = some (variant name k) ∧
      isTaken taken (variant name k) = false ∧
      ∀ m, n ≤ m → m < k → isTaken taken (variant name m) = true) ∨
      ∀ m, n ≤ m → m < n + trials → isTaken taken (variant name m) = true := by
  induction trials generalizing n with
  | zero => exact .inr fun m hm hlt => absurd hlt (Nat.not_lt.2 hm)
  | succ trials ih =>
    -- What holds of all numbers from `n + 1` on holds from `n` on when `n` itself is taken.
    have step : ∀ k, isTaken taken (variant name n) = true →
        (∀ m, n + 1 ≤ m → m < k → isTaken taken (variant name m) = true) →
        ∀ m, n ≤ m → m < k → isTaken taken (variant name m) = true := by
      intro k hn h m hm hlt
      obtain rfl | hm := Nat.eq_or_lt_of_le hm
      · exact hn
      · exact h m hm hlt
    rw [firstFree]
    split
    · next hn =>
      obtain ⟨k, hle, hlt, hfound, hfree, hfirst⟩ | hall := ih (n + 1)
      · exact .inl ⟨k, by omega, by omega, hfound, hfree, step k hn hfirst⟩
      · exact .inr (step _ hn fun m hm hlt => hall m hm (by omega))
    · next hn =>
      exact .inl ⟨n, le_rfl, by omega, rfl, Bool.not_eq_true _ ▸ hn,
        fun m hm hlt => absurd hlt (Nat.not_lt.2 hm)⟩

/-- **Some variant is free** among one more than there are names taken, as these are different
names. -/
theorem exists_not_isTaken (taken : Scope Unit) (name : String) (n : Nat) :
    ∃ m, n ≤ m ∧ m < n + (taken.entries.length + 1) ∧ isTaken taken (variant name m) = false := by
  by_contra hnone
  have hsubset : (List.range' n (taken.entries.length + 1)).map
      (fun m => Text.lower (variant name m)) ⊆ taken.names := by
    intro lowered hl
    obtain ⟨m, hm, rfl⟩ := List.mem_map.1 hl
    obtain ⟨hle, hlt⟩ := List.mem_range'_1.1 hm
    refine isTaken_iff.1 (Bool.not_eq_false _ ▸ fun hfree => hnone ⟨m, hle, hlt, hfree⟩)
  have hnodup : ((List.range' n (taken.entries.length + 1)).map
      fun m => Text.lower (variant name m)).Nodup :=
    (List.nodup_range' 1).map (lower_variant_injective name)
  have hlength := (List.subperm_of_subset hnodup hsubset).length_le
  rw [List.length_map, List.length_range', Scope.names, List.length_map] at hlength
  omega

/-- **The name given:** the name itself if it is free, else its first free variant. -/
theorem unique_cases (taken : Scope Unit) (name : String) :
    (isTaken taken name = false ∧ unique taken name = (name, take taken name)) ∨
      isTaken taken name = true ∧ ∃ n, 2 ≤ n ∧ n ≤ taken.entries.length + 2 ∧
        unique taken name = (variant name n, take taken (variant name n)) ∧
        isTaken taken (variant name n) = false ∧
        ∀ m, 2 ≤ m → m < n → isTaken taken (variant name m) = true := by
  rw [unique]
  split
  · next htaken =>
    obtain ⟨n, hle, hlt, hfound, hfree, hfirst⟩ | hall :=
      firstFree_cases taken name (taken.entries.length + 1) 2
    · exact .inr ⟨htaken, n, hle, by omega, by rw [hfound]; rfl, hfree, hfirst⟩
    · obtain ⟨m, hle, hlt, hfree⟩ := exists_not_isTaken taken name 2
      exact nomatch hfree.symm.trans (hall m hle hlt)
  · next hfree => exact .inl ⟨Bool.not_eq_true _ ▸ hfree, rfl⟩

/-- **The name given was free,** and is taken then. -/
theorem unique_fresh (taken : Scope Unit) (name : String) :
    Text.lower (unique taken name).1 ∉ taken.names ∧
      (unique taken name).2 = take taken (unique taken name).1 := by
  obtain ⟨hfree, hunique⟩ | ⟨-, n, -, -, hunique, hfree, -⟩ := unique_cases taken name
  all_goals
    rw [hunique]
    exact ⟨isTaken_eq_false_iff.1 hfree, rfl⟩

/-- **A clean name that is free** has a fault only if it ends with an apostrophe. -/
theorem check_unique_of_free (hr : replacement ∉ illegal)
    (hfree : isTaken taken (clean replacement name) = false) :
    check (unique taken (clean replacement name)).1 =
      if (clean replacement name).toList.getLast? = some '\'' then
        .error (.apostropheAtEnd (clean replacement name))
      else .ok () := by
  obtain ⟨-, hunique⟩ | ⟨htaken, -⟩ := unique_cases taken (clean replacement name)
  · rw [hunique, check_of_proper (proper_clean hr)]
  · exact nomatch hfree.symm.trans htaken

/-- **The name given for a clean name that is taken** has no fault.  Variants that are too long
would need more names taken than fit any memory. -/
theorem proper_unique_of_taken (hr : replacement ∉ illegal)
    (htaken : isTaken taken (clean replacement name) = true)
    (hlength : taken.entries.length + 2 < 10 ^ 29) :
    Proper (unique taken (clean replacement name)).1 ∧
      check (unique taken (clean replacement name)).1 = .ok () := by
  obtain ⟨hfree, -⟩ | ⟨-, n, -, hn, hunique, -⟩ := unique_cases taken (clean replacement name)
  · exact nomatch hfree.symm.trans htaken
  · have hlt : n < 10 ^ 29 := hn.trans_lt hlength
    rw [hunique]
    exact ⟨proper_variant (proper_clean hr) hlt, check_variant (proper_clean hr) hlt⟩

end SheetName

end RecordSheet
