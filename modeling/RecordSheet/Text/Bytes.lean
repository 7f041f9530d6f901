/-!
# Text/Bytes — positions in a text counted in UTF-8 bytes

Positions in messages and in the bracket search are byte offsets of a text's UTF-8 form.
`byteLength` measures a list of characters and is additive (`byteLength_append`), and `dropBytes`
goes to the character that starts at an offset (`dropBytes_byteLength_append`).
-/

namespace RecordSheet.Text

/-- The number of bytes of the UTF-8 form of the characters. -/
def byteLength : List Char → Nat
  | [] => 0
  | c :: cs => c.utf8Size + byteLength cs

@[simp] theorem byteLength_nil : byteLength [] = 0 := rfl

@[simp] theorem byteLength_cons (c : Char) (cs : List Char) :
    byteLength (c :: cs) = c.utf8Size + byteLength cs := rfl

@[simp] theorem byteLength_append (cs ds : List Char) :
    byteLength (cs ++ ds) = byteLength cs + byteLength ds := by
  induction cs with
  | nil => simp
  | cons c cs ih => simp [ih, Nat.add_assoc]

/-- The characters from byte offset `n` on, for an offset at which a character starts. -/
def dropBytes (n : Nat) : List Char → List Char
  | [] => []
  | c :: cs => if n = 0 then c :: cs else dropBytes (n - c.utf8Size) cs

@[simp] theorem dropBytes_zero (cs : List Char) : dropBytes 0 cs = cs := by
  cases cs <;> simp [dropBytes]

/-- **Dropping the bytes of a first part leaves the second.** -/
theorem dropBytes_byteLength_append (cs ds : List Char) :
    dropBytes (byteLength cs) (cs ++ ds) = ds := by
  induction cs with
  | nil => simp
  | cons c cs ih =>
    have hc : 0 < c.utf8Size := Char.utf8Size_pos c
    rw [byteLength_cons, List.cons_append, dropBytes, if_neg (by omega), Nat.add_sub_cancel_left,
      ih]

end RecordSheet.Text
