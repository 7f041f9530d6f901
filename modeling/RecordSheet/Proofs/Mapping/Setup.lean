import RecordSheet.Mapping.Reader
import RecordSheet.Mapping.Writer
import RecordSheet.Proofs.Outcome

/-!
# Proofs/Mapping/Setup — what making a writer or a reader fails by

A layer that is said to be a scalar is one (`DeclaredType.exists_scalar_of_layer`), so no type
contradicts itself on the way to its shape.  Every other fault lies in the declarations: where no
writer or no reader is made, those are to blame (`Writer.failsOnly_make`, `Reader.failsOnly_make`).
-/

namespace RecordSheet

variable {ρ : Type}

open Outcome

/-- The declarations are to blame. -/
def SetupFault.OfDeclarations (f : SetupFault) : Prop :=
  f.toFailure = .setup f

/-! ## Shapes -/

namespace DeclaredType

variable {whole t e : DeclaredType}

theorem exists_scalar_of_layerWithin {n : Nat} (h : layerWithin whole n t = .ok (.scalar e)) :
    ∃ k, e = .scalar k := by
  induction n, t using layerWithin.induct with
  | case2 n k | case7 n k _ =>
    obtain rfl := Layer.scalar.inj (Except.ok.inj h)
    exact ⟨k, rfl⟩
  | case8 _ _ _ ih | case9 _ _ _ ih | case10 _ _ ih => exact ih h
  | _ => cases h

/-- **A layer that is said to be a scalar is one.** -/
theorem exists_scalar_of_layer (h : t.layer = .ok (.scalar e)) : ∃ k, e = .scalar k :=
  exists_scalar_of_layerWithin h

theorem failsOnly_layerWithin (whole t : DeclaredType) (n : Nat) :
    FailsOnly (fun f => (SetupFault.shape f).OfDeclarations) (layerWithin whole n t) := by
  induction n, t using layerWithin.induct with
  | case1 | case6 => exact failsOnly_error rfl
  | case8 _ _ _ ih | case9 _ _ _ ih | case10 _ _ ih => exact ih
  | _ => exact failsOnly_ok _

theorem failsOnly_descend (whole t : DeclaredType) (n : Nat) (levels : List Level) :
    FailsOnly (fun f => (SetupFault.shape f).OfDeclarations) (descend whole n levels t) := by
  induction n generalizing levels t with
  | zero => exact failsOnly_error rfl
  | succ n ih =>
    rw [descend]
    split
    · rename_i f hf
      exact failsOnly_error (failsOnly_layerWithin t t maxSteps f hf)
    · rename_i e hlayer
      -- so the type does not contradict itself here
      obtain ⟨k, rfl⟩ := exists_scalar_of_layer hlayer
      exact failsOnly_ok _
    · exact ih _ _
    · exact ih _ _

theorem failsOnly_shape (t : DeclaredType) :
    FailsOnly (fun f => (SetupFault.shape f).OfDeclarations) t.shape :=
  failsOnly_descend t t maxSteps []

end DeclaredType

/-! ## Columns -/

namespace Attribute

variable {registry : Registry} {o : Options}

theorem failsOnly_plan (a : Attribute ρ) (d : Descriptor) (inherited : Option String)
    (direction : Direction) (accessor : Bool) :
    FailsOnly SetupFault.OfDeclarations (a.plan d inherited registry o direction accessor) := by
  refine (DeclaredType.failsOnly_shape _).mapError.bind fun shape _ => ?_
  split
  · exact failsOnly_error rfl
  · exact failsOnly_ok _

theorem failsOnly_writeColumn (a : Attribute ρ) (d : Descriptor) (inherited : Option String) :
    FailsOnly SetupFault.OfDeclarations (a.writeColumn d inherited registry o) := by
  refine (failsOnly_plan a d _ _ _).bind fun p _ => ?_
  split
  · exact failsOnly_ok _
  · exact failsOnly_error rfl

theorem failsOnly_readColumn (a : Attribute ρ) (d : Descriptor) (inherited : Option String) :
    FailsOnly SetupFault.OfDeclarations (a.readColumn d inherited registry o) :=
  (failsOnly_plan a d _ _ _).bind fun _ _ => failsOnly_ok _

end Attribute

/-! ## Creators -/

namespace Schema

variable (s : Schema ρ) (c : Creator ρ)

theorem failsOnly_selectCreator : FailsOnly SetupFault.OfDeclarations s.selectCreator := by
  rw [selectCreator]
  split
  · exact failsOnly_ok _
  · exact failsOnly_ok _
  · split
    · exact failsOnly_ok _
    · exact failsOnly_error rfl
  · exact failsOnly_error rfl
  · exact failsOnly_error rfl

theorem failsOnly_parameterSource (p : Parameter) (index : Nat) :
    FailsOnly SetupFault.OfDeclarations (s.parameterSource c p index) := by
  rw [parameterSource]
  split
  · exact failsOnly_error rfl
  · exact failsOnly_ok _
  · split
    · exact failsOnly_error rfl
    · split
      · exact failsOnly_ok _
      · exact failsOnly_error rfl

theorem failsOnly_bindParameters (bound : List Nat) (es : List (Parameter × Nat)) :
    FailsOnly SetupFault.OfDeclarations (s.bindParameters c bound es) := by
  induction es generalizing bound with
  | nil => exact failsOnly_ok _
  | cons e es ih =>
    refine (failsOnly_parameterSource s c e.1 e.2).bind ?_
    rintro ⟨d, mode⟩ -
    dsimp only
    split
    · exact failsOnly_error rfl
    · exact (ih _).bind fun _ _ => failsOnly_ok _

theorem failsOnly_creation : FailsOnly SetupFault.OfDeclarations s.creation :=
  (failsOnly_selectCreator s).bind fun c _ =>
    (failsOnly_bindParameters s c _ _).bind fun _ _ => failsOnly_ok _

end Schema

/-! ## Writers and readers -/

theorem SequenceCodec.failsOnly_validate (c : SequenceCodec) :
    FailsOnly SetupFault.OfDeclarations (c.validate.mapError .codec) := by
  refine failsOnly_mapError (fun f => ?_) _
  rfl

/-- **Where no writer is made,** the declarations are to blame. -/
theorem Writer.failsOnly_make (s : Schema ρ) (registry : Registry) (o : Options) :
    FailsOnly SetupFault.OfDeclarations (Writer.make s registry o) :=
  o.codec.failsOnly_validate.bind fun _ _ =>
    (failsOnly_mapM fun e _ => Attribute.failsOnly_writeColumn e.1 e.2 _).bind fun _ _ =>
      failsOnly_ok _

namespace Reader

theorem failsOnly_checkAssignable (record : String) (c : Creation ρ)
    (columns : List (ReadColumn ρ × Nat)) :
    FailsOnly SetupFault.OfDeclarations (checkAssignable record c columns) := by
  induction columns with
  | nil => exact failsOnly_ok _
  | cons e rest ih =>
    rw [checkAssignable]
    split
    · exact failsOnly_error rfl
    · exact ih

/-- **Where no reader is made,** the declarations are to blame. -/
theorem failsOnly_make (s : Schema ρ) (registry : Registry) (o : Options) :
    FailsOnly SetupFault.OfDeclarations (Reader.make s registry o) :=
  o.codec.failsOnly_validate.bind fun _ _ =>
    (failsOnly_mapM fun e _ => Attribute.failsOnly_readColumn e.1 e.2 _).bind fun _ _ =>
      (s.failsOnly_creation).bind fun _ _ =>
        (failsOnly_checkAssignable _ _ _).bind fun _ _ => failsOnly_ok _

end Reader

end RecordSheet
