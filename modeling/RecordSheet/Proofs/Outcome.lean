import Mathlib.Data.List.Forall2

/-!
# Proofs/Outcome — what a chain of steps that may fail comes to

A chain of steps succeeds when each of them does, with the values that they hand on; a list of steps
succeeds element by element (`mapM_eq_ok_iff`).  A chain fails as one of its steps does
(`FailsOnly.bind`).  A step that changes a state leaves one also when it fails (`left`).
-/

namespace RecordSheet.Outcome

variable {ε ε' α β : Type}

/-- **Two steps succeed** when the second one does on the value of the first. -/
theorem bind_eq_ok_iff {x : Except ε α} {f : α → Except ε β} {b : β} :
    x >>= f = .ok b ↔ ∃ a, x = .ok a ∧ f a = .ok b := by
  cases x with
  | error e => exact ⟨nofun, nofun⟩
  | ok a =>
    refine ⟨fun h => ⟨a, rfl, h⟩, ?_⟩
    rintro ⟨_, ⟨⟩, h⟩
    exact h

theorem bind_eq_error_iff {x : Except ε α} {f : α → Except ε β} {e : ε} :
    x >>= f = .error e ↔ x = .error e ∨ ∃ a, x = .ok a ∧ f a = .error e := by
  cases x with
  | error e' =>
    refine ⟨fun h => .inl (congrArg _ (Except.error.inj h)), ?_⟩
    rintro (h | ⟨_, ⟨⟩, _⟩)
    exact congrArg _ (Except.error.inj h)
  | ok a =>
    refine ⟨fun h => .inr ⟨a, rfl, h⟩, ?_⟩
    rintro (⟨⟨⟩⟩ | ⟨_, ⟨⟩, h⟩)
    exact h

theorem map_eq_ok_iff {x : Except ε α} {f : α → β} {b : β} :
    f <$> x = .ok b ↔ ∃ a, x = .ok a ∧ f a = b := by
  cases x with
  | error e => exact ⟨nofun, nofun⟩
  | ok a =>
    refine ⟨fun h => ⟨a, rfl, Except.ok.inj h⟩, ?_⟩
    rintro ⟨_, ⟨⟩, rfl⟩
    rfl

theorem map_eq_error_iff {x : Except ε α} {f : α → β} {e : ε} :
    f <$> x = .error e ↔ x = .error e := by
  cases x with
  | error e' =>
    exact ⟨fun h => congrArg _ (Except.error.inj h), fun h => congrArg _ (Except.error.inj h)⟩
  | ok a => exact ⟨nofun, nofun⟩

theorem mapError_eq_ok_iff {x : Except ε α} {f : ε → ε'} {a : α} :
    x.mapError f = .ok a ↔ x = .ok a := by
  cases x with
  | error e => exact ⟨nofun, nofun⟩
  | ok b => exact ⟨fun h => congrArg _ (Except.ok.inj h), fun h => congrArg _ (Except.ok.inj h)⟩

theorem mapError_eq_error_iff {x : Except ε α} {f : ε → ε'} {e' : ε'} :
    x.mapError f = .error e' ↔ ∃ e, x = .error e ∧ f e = e' := by
  cases x with
  | error e =>
    refine ⟨fun h => ⟨e, rfl, Except.error.inj h⟩, ?_⟩
    rintro ⟨_, ⟨⟩, rfl⟩
    rfl
  | ok b => exact ⟨nofun, nofun⟩

/-- **A list of steps succeeds element by element.** -/
theorem mapM_eq_ok_iff {f : α → Except ε β} {xs : List α} {ys : List β} :
    xs.mapM f = .ok ys ↔ List.Forall₂ (fun x y => f x = .ok y) xs ys := by
  induction xs generalizing ys with
  | nil =>
    rw [List.mapM_nil, List.forall₂_nil_left_iff]
    exact ⟨fun h => (Except.ok.inj h).symm, fun h => congrArg _ h.symm⟩
  | cons x xs ih =>
    rw [List.mapM_cons, bind_eq_ok_iff, List.forall₂_cons_left_iff]
    constructor
    · rintro ⟨y, hy, h⟩
      obtain ⟨zs, hzs, h⟩ := bind_eq_ok_iff.1 h
      exact ⟨y, zs, hy, ih.1 hzs, (Except.ok.inj h).symm⟩
    · rintro ⟨y, zs, hy, hzs, rfl⟩
      exact ⟨y, hy, bind_eq_ok_iff.2 ⟨zs, ih.2 hzs, rfl⟩⟩

/-- **A list of steps fails at the first one that does.** -/
theorem mapM_eq_error_iff {f : α → Except ε β} {xs : List α} {e : ε} :
    xs.mapM f = .error e ↔
      ∃ front x back, xs = front ++ x :: back ∧ (∀ y ∈ front, ∃ b, f y = .ok b) ∧
        f x = .error e := by
  induction xs with
  | nil =>
    refine ⟨nofun, ?_⟩
    rintro ⟨front, x, back, h, -⟩
    cases List.append_eq_nil_iff.1 h.symm |>.2
  | cons z xs ih =>
    rw [List.mapM_cons, bind_eq_error_iff]
    constructor
    · rintro (h | ⟨b, hz, h⟩)
      · exact ⟨[], z, xs, rfl, nofun, h⟩
      · obtain h | ⟨_, _, ⟨⟩⟩ := bind_eq_error_iff.1 h
        obtain ⟨front, x, back, rfl, hfront, hx⟩ := ih.1 h
        exact ⟨z :: front, x, back, rfl, List.forall_mem_cons.2 ⟨⟨b, hz⟩, hfront⟩, hx⟩
    · rintro ⟨front, x, back, heq, hfront, hx⟩
      cases front with
      | nil =>
        obtain ⟨rfl, rfl⟩ := List.cons.inj heq
        exact .inl hx
      | cons y front =>
        obtain ⟨rfl, rfl⟩ := List.cons.inj heq
        obtain ⟨⟨b, hb⟩, hfront⟩ := List.forall_mem_cons.1 hfront
        exact .inr ⟨b, hb, bind_eq_error_iff.2 (.inl (ih.2 ⟨front, x, back, rfl, hfront, hx⟩))⟩

theorem mapM_congr {f g : α → Except ε β} {xs : List α} (h : ∀ x ∈ xs, f x = g x) :
    xs.mapM f = xs.mapM g := by
  induction xs with
  | nil => rfl
  | cons x xs ih =>
    rw [List.forall_mem_cons] at h
    rw [List.mapM_cons, List.mapM_cons, h.1, ih h.2]

theorem mapM_map {γ : Type} (f : α → Except ε β) (g : β → γ) (xs : List α) :
    (xs.mapM fun x => g <$> f x) = List.map g <$> xs.mapM f := by
  induction xs with
  | nil => rfl
  | cons x xs ih =>
    rw [List.mapM_cons, List.mapM_cons, ih]
    cases f x with
    | error e => rfl
    | ok b => cases xs.mapM f <;> rfl

theorem forM_eq_map (f : α → Except ε Unit) (xs : List α) :
    xs.forM f = (fun _ => ()) <$> xs.mapM f := by
  induction xs with
  | nil => rfl
  | cons x xs ih =>
    change (f x >>= fun _ => xs.forM f) = _
    rw [List.mapM_cons, ih]
    cases f x with
    | error e => rfl
    | ok b => cases xs.mapM f <;> rfl

/-- **A list of checks fails at the first one that does.** -/
theorem forM_eq_error_iff {f : α → Except ε Unit} {xs : List α} {e : ε} :
    xs.forM f = .error e ↔
      ∃ front x back, xs = front ++ x :: back ∧ (∀ y ∈ front, f y = .ok ()) ∧ f x = .error e := by
  have hunit : ∀ y, (∃ b, f y = .ok b) ↔ f y = .ok () := fun y =>
    ⟨fun ⟨_, h⟩ => h, fun h => ⟨(), h⟩⟩
  rw [forM_eq_map, map_eq_error_iff, mapM_eq_error_iff]
  simp only [hunit]

/-! ## Kinds of errors -/

/-- If the step fails, its error is one of a kind. -/
def FailsOnly (P : ε → Prop) (x : Except ε α) : Prop :=
  ∀ e, x = .error e → P e

variable {P Q : ε → Prop}

theorem failsOnly_ok (a : α) : FailsOnly P (.ok a) := nofun

theorem failsOnly_error {e : ε} (h : P e) : FailsOnly P (.error e : Except ε α) := by
  rintro _ ⟨⟩
  exact h

theorem FailsOnly.mono {x : Except ε α} (h : FailsOnly P x) (hPQ : ∀ e, P e → Q e) :
    FailsOnly Q x := fun e he => hPQ e (h e he)

/-- **A chain of two steps fails as one of them.** -/
theorem FailsOnly.bind {x : Except ε α} (hx : FailsOnly P x) {f : α → Except ε β}
    (hf : ∀ a, x = .ok a → FailsOnly P (f a)) : FailsOnly P (x >>= f) := by
  cases x with
  | error e => exact fun _ he => hx _ (congrArg _ (Except.error.inj he))
  | ok a => exact hf a rfl

theorem FailsOnly.map {x : Except ε α} (h : FailsOnly P x) (f : α → β) : FailsOnly P (f <$> x) :=
  fun e he => h e (map_eq_error_iff.1 he)

theorem FailsOnly.mapError {f : ε → ε'} {P : ε' → Prop} {x : Except ε α}
    (h : FailsOnly (fun e => P (f e)) x) : FailsOnly P (x.mapError f) := by
  intro e' he
  obtain ⟨e, hx, rfl⟩ := mapError_eq_error_iff.1 he
  exact h e hx

theorem failsOnly_mapError {f : ε → ε'} {P : ε' → Prop} (h : ∀ e, P (f e)) (x : Except ε α) :
    FailsOnly P (x.mapError f) :=
  FailsOnly.mapError fun e _ => h e

/-- **A list of steps fails as one of its elements.** -/
theorem failsOnly_mapM {f : α → Except ε β} {xs : List α} (h : ∀ x ∈ xs, FailsOnly P (f x)) :
    FailsOnly P (xs.mapM f) := by
  induction xs with
  | nil => exact failsOnly_ok []
  | cons x xs ih =>
    rw [List.forall_mem_cons] at h
    rw [List.mapM_cons]
    exact h.1.bind fun y _ => (ih h.2).bind fun ys _ => failsOnly_ok (y :: ys)

theorem failsOnly_forM {f : α → Except ε Unit} {xs : List α} (h : ∀ x ∈ xs, FailsOnly P (f x)) :
    FailsOnly P (xs.forM f) := by
  rw [forM_eq_map]
  exact (failsOnly_mapM h).map _

/-! ## Steps that change a state -/

section State

variable {σ : Type} {x : EStateM ε σ α} {s t : σ}

/-- **A chain of two steps** goes on from the state that the first one leaves. -/
theorem run_bind_of_ok {a : α} (h : x s = .ok a t) (f : α → EStateM ε σ β) :
    (x >>= f) s = f a t := by
  change EStateM.bind x f s = _
  rw [EStateM.bind, h]

theorem run_bind_of_error {e : ε} (h : x s = .error e t) (f : α → EStateM ε σ β) :
    (x >>= f) s = .error e t := by
  change EStateM.bind x f s = _
  rw [EStateM.bind, h]

/-- A step that does not tell two states apart hides them from the next one. -/
theorem run_bind_congr (h : x s = x t) (f : α → EStateM ε σ β) : (x >>= f) s = (x >>= f) t := by
  change EStateM.bind x f s = EStateM.bind x f t
  rw [EStateM.bind, EStateM.bind, h]

theorem run_get_bind (f : σ → EStateM ε σ β) : ((get : EStateM ε σ σ) >>= f) s = f s s := rfl

theorem run_set_bind (f : PUnit → EStateM ε σ β) :
    ((set t : EStateM ε σ PUnit) >>= f) s = f ⟨⟩ t := rfl

theorem run_modify_bind (g : σ → σ) (f : PUnit → EStateM ε σ β) :
    ((modify g : EStateM ε σ PUnit) >>= f) s = f ⟨⟩ (g s) := rfl

theorem run_throw_bind (e : ε) (f : α → EStateM ε σ β) :
    ((throw e : EStateM ε σ α) >>= f) s = .error e s := rfl

theorem run_discard_of_ok {a : α} (h : x s = .ok a t) :
    (discard x : EStateM ε σ PUnit) s = .ok ⟨⟩ t := by
  change EStateM.map _ x s = _
  rw [EStateM.map, h]

theorem run_discard_of_error {e : ε} (h : x s = .error e t) :
    (discard x : EStateM ε σ PUnit) s = .error e t := by
  change EStateM.map _ x s = _
  rw [EStateM.map, h]

theorem run_adaptExcept_of_ok {f : ε → ε'} {a : α} (h : x s = .ok a t) :
    EStateM.adaptExcept f x s = .ok a t := by
  rw [EStateM.adaptExcept, h]

theorem run_adaptExcept_of_error {f : ε → ε'} {e : ε} (h : x s = .error e t) :
    EStateM.adaptExcept f x s = .error (f e) t := by
  rw [EStateM.adaptExcept, h]

/-- The state that a step leaves, also when it fails. -/
def left : EStateM.Result ε σ α → σ
  | .ok _ t | .error _ t => t

end State

/-! ## Related lists -/

variable {R : α → β → Prop}

/-- A value for each element makes a list of values. -/
theorem exists_forall₂ {xs : List α} (h : ∀ x ∈ xs, ∃ y, R x y) : ∃ ys, List.Forall₂ R xs ys := by
  induction xs with
  | nil => exact ⟨[], .nil⟩
  | cons x xs ih =>
    obtain ⟨y, hy⟩ := h x List.mem_cons_self
    obtain ⟨ys, hys⟩ := ih fun x hx => h x (List.mem_cons_of_mem _ hx)
    exact ⟨y :: ys, .cons hy hys⟩

theorem exists_of_forall₂ {xs : List α} {ys : List β} (h : List.Forall₂ R xs ys) {y : β}
    (hy : y ∈ ys) : ∃ x ∈ xs, R x y := by
  induction h with
  | nil => cases hy
  | @cons x z xs ys hx _ ih =>
    rcases List.mem_cons.1 hy with rfl | hy
    · exact ⟨x, List.mem_cons_self, hx⟩
    · obtain ⟨w, hw, hr⟩ := ih hy
      exact ⟨w, List.mem_cons_of_mem _ hw, hr⟩

/-- Related lists with equal images of related elements have one list of images. -/
theorem map_eq_map_of_forall₂ {γ : Type} {f : α → γ} {g : β → γ} {xs : List α} {ys : List β}
    (h : List.Forall₂ R xs ys) (hfg : ∀ x y, R x y → f x = g y) : xs.map f = ys.map g := by
  rw [← List.forall₂_eq_eq_eq, List.forall₂_map_left_iff, List.forall₂_map_right_iff]
  exact h.imp hfg

/-- Two lists related to a third one have equal images. -/
theorem map_eq_map_of_common {γ δ : Type} {S : α → γ → Prop} {f : β → δ} {g : γ → δ} {xs : List α}
    {ys : List β} {zs : List γ} (h : List.Forall₂ R xs ys) (h' : List.Forall₂ S xs zs)
    (hfg : ∀ x y z, R x y → S x z → f y = g z) : ys.map f = zs.map g := by
  induction h generalizing zs with
  | nil =>
    obtain rfl := List.forall₂_nil_left_iff.1 h'
    rfl
  | cons hy _ ih =>
    obtain ⟨z, zs, hz, hzs, rfl⟩ := List.forall₂_cons_left_iff.1 h'
    rw [List.map_cons, List.map_cons, hfg _ _ _ hy hz, ih hzs]

theorem exists_of_forall₂_left {xs : List α} {ys : List β} (h : List.Forall₂ R xs ys) {x : α}
    (hx : x ∈ xs) : ∃ y ∈ ys, R x y :=
  exists_of_forall₂ (R := flip R) (List.Forall₂.flip h) hx

/-- **A list of steps succeeds when each of them does.** -/
theorem exists_mapM_eq_ok_iff {f : α → Except ε β} {xs : List α} :
    (∃ ys, xs.mapM f = .ok ys) ↔ ∀ x ∈ xs, ∃ y, f x = .ok y := by
  constructor
  · rintro ⟨ys, h⟩ x hx
    obtain ⟨y, -, hy⟩ := exists_of_forall₂_left (mapM_eq_ok_iff.1 h) hx
    exact ⟨y, hy⟩
  · intro h
    obtain ⟨ys, hys⟩ := exists_forall₂ h
    exact ⟨ys, mapM_eq_ok_iff.2 hys⟩

theorem exists_getElem?_of_forall₂ {xs : List α} {ys : List β} (h : List.Forall₂ R xs ys) {i : Nat}
    {x : α} (hx : xs[i]? = some x) : ∃ y, ys[i]? = some y ∧ R x y := by
  obtain ⟨hlength, hall⟩ := List.forall₂_iff_get.1 h
  obtain ⟨hlt, rfl⟩ := List.getElem?_eq_some_iff.1 hx
  exact ⟨_, List.getElem?_eq_getElem (hlength ▸ hlt), hall i hlt (hlength ▸ hlt)⟩

end RecordSheet.Outcome
