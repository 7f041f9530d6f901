import RecordSheet.Decl.Shape
import RecordSheet.Mapping.Flags
import RecordSheet.Sequence.Codec

/-!
# Failure — what goes wrong between records and cells

A `SetupFault` is found in the declarations, before any row is touched.  A `Failure` may also come
from a single cell: its text is no sequence, a validator refuses it, or its conversion fails; or
from the sheet that takes the rows.
-/

namespace RecordSheet

/-- What is wrong with the declarations. -/
inductive SetupFault where
  | codec (fault : SequenceCodec.Fault)
  | shape (fault : ShapeFault)
  | absentType
  | invalidPattern (pattern : String)
  | unnamedRecord
  | unnamedAttribute (record : String)
  | repeatedAttribute (record name : String)
  | sharedHeader (record first second header : String)
  | noEvaluator (name record : String)
  | unreadable (name record : String)
  | unassignable (name record : String)
  | noCreator (record : String)
  | factoryAndConstructor (record factory construction : String)
  | severalCreators (record : String) (creators : List String)
  | undeclaredType (index : Nat) (parameter creator record : String) (type : DeclaredType)
  | unnamedParameter (index : Nat) (creator record : String) (type : DeclaredType)
  | unmatchedParameter (parameter creator record : String) (type : DeclaredType)
  | boundTwice (name record creator : String)
deriving DecidableEq

/-- The text of a fault. -/
def SetupFault.message : SetupFault → String
  | .codec f => f.message
  | .shape f => f.message
  | .absentType => "Cannot register a type handler for an absent type."
  | .invalidPattern p => s!"Invalid validator pattern {Text.quote p}"
  | .unnamedRecord => "Record type name must not be empty."
  | .unnamedAttribute r => s!"Record type `{r}` declares an attribute without a name."
  | .repeatedAttribute r n => s!"Record type `{r}` declares attribute `{n}` more than once."
  | .sharedHeader r m n h =>
    s!"Record type `{r}` maps attributes `{m}` and `{n}` to the same header {Text.quote h}."
  | .noEvaluator n r =>
    s!"Attribute `{n}` of `{r}` declares an expression but no expression evaluator is configured."
  | .unreadable n r => s!"Attribute `{n}` of `{r}` has no readable field or accessor."
  | .unassignable n r =>
    s!"Attribute `{n}` of `{r}` is neither a creator parameter nor assignable."
  | .noCreator r =>
    s!"Record type `{r}` has no marked creator and no no-argument constructor."
  | .factoryAndConstructor r f c =>
    s!"Record type `{r}` marks both a factory (`{f}`) and a constructor (`{c}`)."
  | .severalCreators r cs =>
    let names := String.intercalate ", " cs
    s!"Record type `{r}` marks more than one creator: {names}."
  | .undeclaredType i p c r t =>
    s!"Parameter {i} (`{p}`) of creator `{c}` on `{r}` has type `{t.toText}`, " ++
      "which no attribute declares."
  | .unnamedParameter i c r t =>
    s!"Parameter {i} of creator `{c}` on `{r}` shares type `{t.toText}` with other parameters " ++
      "or attributes and has no name."
  | .unmatchedParameter p c r t =>
    s!"Parameter `{p}` of creator `{c}` on `{r}` matches no attribute of type `{t.toText}` by name."
  | .boundTwice n r c =>
    s!"Attribute `{n}` of `{r}` is bound to more than one parameter of creator `{c}`."

/-- A plan that contradicts itself. -/
inductive PlanFault where
  | noRoute (direction : Direction) (name : String) (flags : Flags)
  | noExpression (name : String)
  | notScalar (type : DeclaredType)
deriving DecidableEq

/-- The text of a fault. -/
def PlanFault.message : PlanFault → String
  | .noRoute .read n f => s!"no read converter supports attribute `{n}` ({f.toText})"
  | .noRoute .write n f => s!"no write converter supports attribute `{n}` ({f.toText})"
  | .noExpression n => s!"attribute `{n}` is flagged for expressions but declares none"
  | .notScalar t => (ShapeFault.notScalar t).message

/-- What goes wrong with a record or a row. -/
inductive Failure where
  | setup (fault : SetupFault)
  | conversion (name type raw message : String)
  | validation (name raw message : String)
  | sequence (input : String) (fault : SequenceCodec.SplitFault)
  /-- The sheet refuses what is written to it. -/
  | sheet (message : String)
  | plan (fault : PlanFault)
deriving DecidableEq

/-- **A fault found in the declarations, as a failure.**  They are to blame, except where a type has
contradicted itself on the way to its shape. -/
def SetupFault.toFailure : SetupFault → Failure
  | .shape (.notScalar t) => .plan (.notScalar t)
  | f => .setup f

/-- **The text of a failure.** -/
def Failure.message : Failure → String
  | .setup f => s!"Configuration error: {f.message}"
  | .conversion n t raw m =>
    s!"Cannot convert attribute `{n}` of type `{t}` from {Text.quote raw}: {m}"
  | .validation n raw m =>
    s!"Validation failed for attribute `{n}` with value {Text.quote raw}: {m}"
  | .sequence input f => s!"Parse error in {Text.quote input}: {f.message}"
  | .sheet m => s!"Tabular I/O error: {m}"
  | .plan f => s!"Internal invariant violated: {f.message}"

end RecordSheet
