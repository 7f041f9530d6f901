import RecordSheet.Proofs.Mapping.Setup

/-!
# Proofs/Decl/Path — the shape of a declared type by recursion

A declared type leads inwards step by step: a container to its elements, a variable or a wildcard to
the type that it stands for (`DeclaredType.path`).  Along this path the shape is a plain recursion
(`TypePath.shape?`), whereas `DeclaredType.shape` goes down in a loop that counts its steps, and
puts the levels that it kept around what it found.  The two agree on exactly the paths of fewer than
`maxSteps` containers and with fewer than `maxSteps` bounds in a row
(`DeclaredType.shape_eq_ok_iff`); of all others the declaration is to blame
(`DeclaredType.shape_resolves`).
-/

namespace RecordSheet

open Outcome

/-! ## Paths -/

/-- What a declared type leads to, step by step from the outside. -/
inductive TypePath where
  | scalar (t : ScalarType)
  /-- A sequence type that does not say of what. -/
  | bare (sequence : String)
  | array (inner : TypePath)
  | iterable (inner : TypePath)
  /-- A variable or a wildcard, which stands for what follows. -/
  | bound (inner : TypePath)

/-- **The path of a declared type.**  A variable stands for its first bound, a wildcard for its
lower bound or else for its first upper one; what has no bound stands for the type that bounds
everything. -/
def DeclaredType.path : DeclaredType → TypePath
  | .scalar t => .scalar t
  | .array e => .array e.path
  | .genericArray e => .array e.path
  | .generic (.sequence _) (e :: _) => .iterable e.path
  | .generic (.sequence name) [] => .bare name
  | .generic (.scalar t) _ => .scalar t
  | .variable _ (b :: _) => .bound b.path
  | .variable _ [] => .bound (.scalar (.named topName))
  | .wildcard (some lower) _ => .bound lower.path
  | .wildcard none (u :: _) => .bound u.path
  | .wildcard none [] => .bound (.scalar (.named topName))

namespace TypePath

/-- The shape along a path, if it ends with a scalar type. -/
def shape? : TypePath → Option Shape
  | .scalar t => some (.scalar t)
  | .bare _ => none
  | .array p => p.shape?.map .array
  | .iterable p => p.shape?.map .iterable
  | .bound p => p.shape?

/-- Whether every sequence type on the path says of what it is. -/
def IsComplete : TypePath → Prop
  | .scalar _ => True
  | .bare _ => False
  | .array p | .iterable p | .bound p => p.IsComplete

/-- The number of containers on the path. -/
def levels : TypePath → Nat
  | .scalar _ | .bare _ => 0
  | .array p | .iterable p => p.levels + 1
  | .bound p => p.levels

/-- The number of bounds in front of the path. -/
def lead : TypePath → Nat
  | .bound p => p.lead + 1
  | _ => 0

/-- The greatest number of bounds in a row. -/
def longestLead : TypePath → Nat
  | .scalar _ | .bare _ => 0
  | .array p | .iterable p => p.longestLead
  | .bound p => max (p.lead + 1) p.longestLead

/-- The path without the bounds in front of it. -/
def core : TypePath → TypePath
  | .bound p => p.core
  | p => p

/-- The path leads to a scalar type before a reader of declarations gives up: after at most 63
containers, with at most 63 bounds in a row. -/
structure Resolves (p : TypePath) : Prop where
  complete : p.IsComplete
  levels_le : p.levels ≤ 63
  longestLead_le : p.longestLead ≤ 63

variable {p : TypePath} {s : Shape}

@[simp] theorem shape?_core (p : TypePath) : p.core.shape? = p.shape? := by
  induction p with
  | bound p ih => exact ih
  | _ => rfl

@[simp] theorem levels_core (p : TypePath) : p.core.levels = p.levels := by
  induction p with
  | bound p ih => exact ih
  | _ => rfl

/-- Bounds stand in a row in front of the path, or behind one of its containers. -/
theorem longestLead_eq (p : TypePath) : p.longestLead = max p.lead p.core.longestLead := by
  induction p with
  | bound p ih =>
    rw [longestLead, ih, lead, core]
    omega
  | _ => exact (Nat.zero_max _).symm

theorem lead_le_longestLead (p : TypePath) : p.lead ≤ p.longestLead :=
  p.longestLead_eq ▸ Nat.le_max_left _ _

theorem isComplete_iff : p.IsComplete ↔ ∃ s, p.shape? = some s := by
  induction p with
  | scalar t => exact ⟨fun _ => ⟨_, rfl⟩, fun _ => trivial⟩
  | bare name => exact ⟨False.elim, fun h => nomatch h⟩
  | bound p ih => exact ih
  | array p ih | iterable p ih =>
    rw [IsComplete, ih, shape?]
    simp only [Option.map_eq_some_iff]
    exact ⟨fun ⟨s, hs⟩ => ⟨_, s, hs, rfl⟩, fun ⟨_, s, hs, _⟩ => ⟨s, hs⟩⟩

/-- A shape has the containers of its path. -/
theorem depth_eq_of_shape? (h : p.shape? = some s) : s.depth = p.levels := by
  induction p generalizing s with
  | scalar t => obtain rfl := Option.some.inj h; rfl
  | bare name => cases h
  | bound p ih => exact ih h
  | array p ih | iterable p ih =>
    obtain ⟨inner, hinner, rfl⟩ := Option.map_eq_some_iff.1 h
    exact congrArg (· + 1) (ih hinner)

end TypePath

/-! ## Reading along a path -/

/-- The path of a layer: what its type one level down leads to, behind the container. -/
def Layer.path : Layer → TypePath
  | .scalar t => t.path
  | .array e => .array e.path
  | .iterable e => .iterable e.path

namespace DeclaredType

variable {t : DeclaredType} {s : Shape}

/-- **The layer within a number of steps** is the path without the bounds in front, unless these are
as many or a sequence type is bare. -/
theorem layerWithin_cases (whole t : DeclaredType) (n : Nat) :
    (∃ l, layerWithin whole n t = .ok l ∧ t.path.lead < n ∧ t.path.core = l.path) ∨
      ∃ f, layerWithin whole n t = .error f ∧
        (n ≤ t.path.lead ∨ ∃ name, t.path.core = .bare name) := by
  induction n generalizing t with
  | zero => exact .inr ⟨_, rfl, .inl (Nat.zero_le _)⟩
  | succ n ih =>
    -- a step through a bound adds to the lead, and leaves the rest as it is
    have bound : ∀ b : DeclaredType, t.path = .bound b.path →
        layerWithin whole (n + 1) t = layerWithin whole n b →
        (∃ l, layerWithin whole (n + 1) t = .ok l ∧ t.path.lead < n + 1 ∧ t.path.core = l.path) ∨
          ∃ f, layerWithin whole (n + 1) t = .error f ∧
            (n + 1 ≤ t.path.lead ∨ ∃ name, t.path.core = .bare name) := by
      intro b hpath hlayer
      rw [hlayer, hpath]
      obtain ⟨l, hl, hlead, hcore⟩ | ⟨f, hf, hlead | hcore⟩ := ih b
      · exact .inl ⟨l, hl, Nat.succ_lt_succ hlead, hcore⟩
      · exact .inr ⟨f, hf, .inl (Nat.succ_le_succ hlead)⟩
      · exact .inr ⟨f, hf, .inr hcore⟩
    match t with
    | .scalar k => exact .inl ⟨_, rfl, Nat.succ_pos n, rfl⟩
    | .array e | .genericArray e => exact .inl ⟨_, rfl, Nat.succ_pos n, rfl⟩
    | .generic (.sequence _) (e :: _) => exact .inl ⟨_, rfl, Nat.succ_pos n, rfl⟩
    | .generic (.sequence name) [] => exact .inr ⟨_, rfl, .inr ⟨name, rfl⟩⟩
    | .generic (.scalar k) _ => exact .inl ⟨_, rfl, Nat.succ_pos n, rfl⟩
    | .variable _ (b :: _) => exact bound b rfl rfl
    | .variable _ [] => exact bound top rfl rfl
    | .wildcard (some lower) _ => exact bound lower rfl rfl
    | .wildcard none (u :: _) => exact bound u rfl rfl
    | .wildcard none [] => exact bound top rfl rfl

/-- **What is found under some levels** is the shape along the path with these levels around it,
when there are few enough more and no layer takes too many steps. -/
theorem descend_eq_ok_iff {whole : DeclaredType} {n : Nat} {levels : List Level} :
    descend whole n levels t = .ok s ↔
      (∃ inner, t.path.shape? = some inner ∧ levels.foldr Level.around inner = s) ∧
        t.path.levels < n ∧ t.path.longestLead < maxSteps := by
  induction n generalizing levels t with
  | zero => exact ⟨nofun, fun h => absurd h.2.1 (Nat.not_lt_zero _)⟩
  | succ n ih =>
    have hlongest := t.path.longestLead_eq
    rw [descend, ← t.path.shape?_core, ← t.path.levels_core]
    obtain ⟨l, hl, hlead, hcore⟩ | ⟨f, hf, hfail⟩ := layerWithin_cases t t maxSteps
    · rw [layer, hl]
      rw [hcore] at hlongest ⊢
      have hlt : t.path.longestLead < maxSteps ↔ l.path.longestLead < maxSteps := by omega
      rw [hlt]
      -- one level more was kept, and it stands around what is found inside
      have inside : ∀ (level : Level) (e : DeclaredType),
          l.path.shape? = e.path.shape?.map level.around → l.path.levels = e.path.levels + 1 →
          l.path.longestLead = e.path.longestLead →
          (descend whole n (levels ++ [level]) e = .ok s ↔
            (∃ inner, l.path.shape? = some inner ∧ levels.foldr Level.around inner = s) ∧
              l.path.levels < n + 1 ∧ l.path.longestLead < maxSteps) := by
        intro level e hshape hlevels hrest
        rw [ih, hshape, hlevels, hrest, Nat.succ_lt_succ_iff]
        simp only [List.foldr_concat, Option.map_eq_some_iff, exists_exists_and_eq_and]
      cases l with
      | scalar e =>
        obtain ⟨k, rfl⟩ := exists_scalar_of_layer (t := t) hl
        have hlimit : 0 < maxSteps := Nat.succ_pos _
        change Except.ok _ = _ ↔ _
        -- the levels that were kept stand around the scalar type in their order
        rw [Except.ok.injEq, List.foldl_reverse]
        constructor
        · exact fun h => ⟨⟨.scalar k, rfl, h⟩, Nat.succ_pos n, hlimit⟩
        · rintro ⟨⟨_, ⟨⟩, h⟩, -⟩
          exact h
      | array e => exact inside .array e rfl rfl rfl
      | iterable e => exact inside .iterable e rfl rfl rfl
    · rw [layer, hf]
      constructor
      · intro h
        cases h
      · rintro ⟨⟨inner, hinner, -⟩, -, hlimit⟩
        obtain hlead | ⟨name, hcore⟩ := hfail
        · exact absurd hlimit (Nat.not_lt.2 (Nat.le_trans hlead t.path.lead_le_longestLead))
        · rw [hcore] at hinner
          cases hinner

/-- **The shape of a declared type is the one along its path,** within the limits. -/
theorem shape_eq_ok_iff :
    t.shape = .ok s ↔
      t.path.shape? = some s ∧ t.path.levels < maxSteps ∧ t.path.longestLead < maxSteps :=
  descend_eq_ok_iff.trans (and_congr_left fun _ => exists_eq_right)

/-- **A declared type has a shape** exactly when its path resolves. -/
theorem exists_shape_iff : (∃ s, t.shape = .ok s) ↔ t.path.Resolves := by
  constructor
  · rintro ⟨s, hs⟩
    obtain ⟨hpath, hlevels, hlead⟩ := shape_eq_ok_iff.1 hs
    exact ⟨TypePath.isComplete_iff.2 ⟨s, hpath⟩, Nat.le_of_lt_succ hlevels, Nat.le_of_lt_succ hlead⟩
  · intro h
    obtain ⟨s, hs⟩ := TypePath.isComplete_iff.1 h.complete
    exact ⟨s, shape_eq_ok_iff.2
      ⟨hs, Nat.lt_succ_of_le h.levels_le, Nat.lt_succ_of_le h.longestLead_le⟩⟩

/-- **What a declared type comes to.**  Where its path leads to a scalar type within the limits, its
shape is the one along the path, as deep as the path has containers, and its scalar type the one
under them.  Otherwise the declaration is to blame. -/
theorem shape_resolves (t : DeclaredType) :
    (t.path.Resolves ∧ ∃ s, t.path.shape? = some s ∧ t.shape = .ok s ∧ s.depth = t.path.levels ∧
        t.concrete = .ok s.leaf) ∨
      ¬ t.path.Resolves ∧ ∃ f, t.shape = .error f ∧ t.concrete = .error f ∧
        (SetupFault.shape f).OfDeclarations := by
  cases hshape : t.shape with
  | ok s =>
    obtain ⟨hpath, -⟩ := shape_eq_ok_iff.1 hshape
    refine .inl ⟨exists_shape_iff.1 ⟨s, hshape⟩, s, hpath, rfl,
      TypePath.depth_eq_of_shape? hpath, ?_⟩
    rw [concrete, hshape]
    rfl
  | error f =>
    refine .inr ⟨fun h => ?_, f, rfl, ?_, failsOnly_shape t f hshape⟩
    · obtain ⟨s, hs⟩ := exists_shape_iff.2 h
      exact nomatch hshape.symm.trans hs
    · rw [concrete, hshape]
      rfl

/-- The outer level stays outside. -/
example : (array (.generic (.sequence "List") [.scalar .bool])).shape =
    .ok (.array (.iterable (.scalar .bool))) :=
  rfl

end DeclaredType

end RecordSheet
