import RecordSheet.Text.CodePoints

/-!
# Text/Blank — white space at the ends of a text

White space is the Unicode property of that name: the ASCII blanks and line ends, the no-break
space, the fixed-width spaces and the ideographic space, but not the zero-width ones.  `trim`
removes it from both ends, and a text is blank when nothing is left.
-/

namespace RecordSheet.Text

/-- The white space characters. -/
def whiteSpace : CodePoints :=
  [(0x9, 0xD), (0x20, 0x20), (0x85, 0x85), (0xA0, 0xA0), (0x1680, 0x1680), (0x2000, 0x200A),
   (0x2028, 0x2029), (0x202F, 0x202F), (0x205F, 0x205F), (0x3000, 0x3000)]

/-- Whether the character is white space. -/
def isSpace (c : Char) : Bool :=
  whiteSpace.contains c

/-- The characters left when those that satisfy `p` are dropped from both ends. -/
def stripChars (p : Char → Bool) (cs : List Char) : List Char :=
  ((cs.dropWhile p).reverse.dropWhile p).reverse

/-- **A text without the white space at its ends.** -/
def trim (s : String) : String :=
  String.ofList (stripChars isSpace s.toList)

/-- Whether a text holds nothing but white space. -/
def isBlank (s : String) : Bool :=
  s.toList.all isSpace

theorem isBlank_empty : isBlank "" = true := rfl

theorem stripChars_of_ends {p : Char → Bool} {x y : Char} (hx : p x = false) (hy : p y = false)
    (cs : List Char) : stripChars p (x :: (cs ++ [y])) = x :: (cs ++ [y]) := by
  have hfront : (x :: (cs ++ [y])).dropWhile p = x :: cs ++ [y] :=
    List.dropWhile_cons_of_neg (by simp [hx])
  rw [stripChars, hfront, List.reverse_concat, List.dropWhile_cons_of_neg (by simp [hy]),
    ← List.reverse_concat, List.reverse_reverse]
  rfl

/-- What is left starts as the text does behind the characters dropped in front. -/
theorem stripChars_isPrefix (p : Char → Bool) (cs : List Char) :
    stripChars p cs <+: cs.dropWhile p := by
  rw [stripChars, ← List.reverse_suffix, List.reverse_reverse]
  exact List.dropWhile_suffix p

/-- **The ends of what is left are characters to keep.** -/
theorem stripChars_head {p : Char → Bool} {cs : List Char} {c : Char}
    (h : (stripChars p cs).head? = some c) : p c = false := by
  obtain ⟨ys, hys⟩ := List.head?_eq_some_iff.1 h
  obtain ⟨rest, hrest⟩ := stripChars_isPrefix p cs
  have hfirst := List.head?_dropWhile_not p cs
  rw [← hrest, hys] at hfirst
  exact hfirst

theorem stripChars_getLast {p : Char → Bool} {cs : List Char} {c : Char}
    (h : (stripChars p cs).getLast? = some c) : p c = false := by
  rw [stripChars, List.getLast?_reverse] at h
  have hlast := List.head?_dropWhile_not p (cs.dropWhile p).reverse
  rw [h] at hlast
  exact hlast

theorem mem_of_mem_stripChars {p : Char → Bool} {cs : List Char} {c : Char}
    (h : c ∈ stripChars p cs) : c ∈ cs :=
  (List.dropWhile_suffix p).subset ((stripChars_isPrefix p cs).subset h)

/-- **What is dropped** stands in front of what is left and behind it. -/
theorem exists_stripChars (p : Char → Bool) (cs : List Char) :
    ∃ front back, cs = front ++ (stripChars p cs ++ back) ∧ (∀ c ∈ front, p c = true) ∧
      ∀ c ∈ back, p c = true := by
  refine ⟨cs.takeWhile p, (((cs.dropWhile p).reverse).takeWhile p).reverse, ?_,
    fun c hc => List.all_eq_true.1 List.all_takeWhile c hc, fun c hc =>
    List.all_eq_true.1 List.all_takeWhile c (List.mem_reverse.1 hc)⟩
  rw [stripChars, ← List.reverse_append, List.takeWhile_append_dropWhile, List.reverse_reverse,
    List.takeWhile_append_dropWhile]

/-- **Characters to keep at both ends** keep everything between them. -/
theorem stripChars_eq_self {p : Char → Bool} {cs : List Char}
    (hhead : ∀ c, cs.head? = some c → p c = false)
    (hlast : ∀ c, cs.getLast? = some c → p c = false) : stripChars p cs = cs := by
  have hdrop : ∀ {ds : List Char}, (∀ c, ds.head? = some c → p c = false) →
      ds.dropWhile p = ds := by
    intro ds h
    cases ds with
    | nil => rfl
    | cons d ds => rw [List.dropWhile_cons, h d rfl]; rfl
  rw [stripChars, hdrop hhead, hdrop fun c hc => hlast c (List.head?_reverse ▸ hc),
    List.reverse_reverse]

/-- **A text between visible characters** has nothing to trim. -/
theorem trim_of_ends {s : String} {x y : Char} {cs : List Char} (h : s.toList = x :: (cs ++ [y]))
    (hx : isSpace x = false) (hy : isSpace y = false) : trim s = s := by
  rw [trim, h, stripChars_of_ends hx hy, ← h, String.ofList_toList]

/-- A text without white space has nothing to trim. -/
theorem trim_of_forall {s : String} (h : ∀ c ∈ s.toList, isSpace c = false) : trim s = s := by
  rw [trim, stripChars_eq_self (fun c hc => h c (List.mem_of_mem_head? hc)) fun c hc =>
    h c (List.mem_of_getLast? hc), String.ofList_toList]

/-- **Trimming twice** is trimming once. -/
@[simp] theorem trim_trim (s : String) : trim (trim s) = trim s := by
  rw [trim, trim, String.toList_ofList,
    stripChars_eq_self (fun _ => stripChars_head) fun _ => stripChars_getLast]

/-- A text stays blank, or not, when it is trimmed. -/
@[simp] theorem isBlank_trim (s : String) : isBlank (trim s) = isBlank s := by
  obtain ⟨front, back, hs, hfront, hback⟩ := exists_stripChars isSpace s.toList
  have hall := congrArg (List.all · isSpace) hs
  rw [List.all_append, List.all_append, List.all_eq_true.2 hfront, List.all_eq_true.2 hback,
    Bool.true_and, Bool.and_true] at hall
  rw [isBlank, isBlank, trim, String.toList_ofList]
  exact hall.symm

theorem isBlank_of_head {s : String} {x : Char} {cs : List Char} (h : s.toList = x :: cs)
    (hx : isSpace x = false) : isBlank s = false := by
  rw [isBlank, h, List.all_cons, hx, Bool.false_and]

/-- No letter and no digit is white space. -/
theorem isSpace_of_isAlphanum {c : Char} (h : c.isAlphanum = true) : isSpace c = false := by
  have hbounds : 0x30 ≤ c.toNat ∧ c.toNat ≤ 0x7A := by
    delta Char.isAlphanum Char.isAlpha Char.isUpper Char.isLower Char.isDigit at h
    simp only [Bool.or_eq_true, Bool.and_eq_true, decide_eq_true_eq, ge_iff_le,
      UInt32.le_iff_toNat_le] at h
    change ((0x41 ≤ c.toNat ∧ c.toNat ≤ 0x5A) ∨ (0x61 ≤ c.toNat ∧ c.toNat ≤ 0x7A)) ∨
      (0x30 ≤ c.toNat ∧ c.toNat ≤ 0x39) at h
    omega
  rw [← Bool.not_eq_true]
  simp only [isSpace, CodePoints.contains, whiteSpace, List.any_cons, List.any_nil, Bool.or_eq_true,
    Bool.and_eq_true, decide_eq_true_eq, Bool.false_eq_true, or_false]
  omega

theorem isSpace_of_isDigit {c : Char} (h : c.isDigit = true) : isSpace c = false :=
  isSpace_of_isAlphanum (by rw [Char.isAlphanum, h, Bool.or_true])

end RecordSheet.Text
