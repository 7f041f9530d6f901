import RecordSheet.Inspect.Types
import RecordSheet.Mapping.Creation
import RecordSheet.Mapping.Plan

/-!
# Inspect/Mapping — schemas, options, plans and creators shown for inspection

Functions cannot be shown: of validators the number is given, and of getters, setters, evaluators
and run-wide fallbacks whether they are there.
-/

namespace RecordSheet

open Text (quote showRecord showList showOption showText? showTexts showBool)

variable {ρ : Type}

/-- The codec as it is shown. -/
def SequenceCodec.inspect (c : SequenceCodec) : String :=
  showRecord "SpecSequenceCodec"
    [("opener", Text.quoteChar c.opener), ("closer", Text.quoteChar c.closer),
     ("delimiter", quote c.delimiter)]

/-- The way of access as it is shown. -/
def Access.inspect : Access → String
  | .field => "Field"
  | .accessor => "Accessor"

/-- The options as they are shown. -/
def Options.inspect (o : Options) : String :=
  showRecord "SpecMappingOptions"
    [("rule_access", o.access.inspect), ("default_strategy", showBool o.fallback.isSome),
     ("sequence_codec", o.codec.inspect), ("expression_evaluator", showBool o.evaluator.isSome)]

/-- The schema as it is shown. -/
def Schema.inspect (s : Schema ρ) : String :=
  showRecord "RecordSchema"
    [("type_name", quote s.name), ("attributes", showTexts (s.attributes.map Attribute.name)),
     ("creators", showTexts (s.creators.map Creator.name))]

/-- The settings of a column as they are shown. -/
def ColumnSettings.inspect (c : ColumnSettings) : String :=
  showRecord "SpecAttributeConfig"
    [("header", showText? c.header), ("default_value", showText? c.fallback),
     ("format", showText? c.format), ("validators", toString c.validators.length),
     ("expression_read", showText? c.readExpression),
     ("expression_write", showText? c.writeExpression),
     ("dropdown", showOption (c.choices.map showTexts))]

/-- The direction as it is shown. -/
def Direction.inspect : Direction → String
  | .read => "Read"
  | .write => "Write"

/-- The source of a fallback as it is shown. -/
def FallbackSource.inspect : FallbackSource → String
  | .record => "Type"
  | .attribute => "Attribute"
  | .run => "RuntimeStrategy"

/-- The fallback of a plan as it is shown. -/
def inspectFallback (f : Option Fallback) : String :=
  showRecord "SpecDefaultValueMeta"
    [("value", showText? (f.map Fallback.text)),
     ("source", (f.map fun f => f.source.inspect).getD "None")]

/-- The plan as it is shown. -/
def Plan.inspect (p : Plan) : String :=
  showRecord "Analysis"
    [("attribute", quote p.descriptor.name), ("direction", p.direction.inspect),
     ("flags", p.flags.toText), ("default_meta", inspectFallback p.fallback),
     ("handler", showOption (p.handler.map Handler.inspect)),
     ("validators", toString p.validators.length), ("shape", p.shape.inspect),
     ("expression", showText? p.expression), ("header", quote p.header)]

/-- A plan with what it found to get and to set, as they are shown. -/
def inspectColumn (p : Plan) (get set : Bool) : String :=
  showRecord "AttributeBinding"
    [("analysis", p.inspect), ("getter", showBool get), ("setter", showBool set)]

/-- The column as it is shown. -/
def WriteColumn.inspect (c : WriteColumn ρ) : String :=
  inspectColumn c.plan true false

/-- The column as it is shown. -/
def ReadColumn.inspect (c : ReadColumn ρ) : String :=
  inspectColumn c.plan false c.set.isSome

/-- The bound parameter as it is shown. -/
def ParameterBinding.inspect (b : ParameterBinding) : String :=
  let parameter := showRecord "SpecResolvedParameter"
    [("name", showText? b.parameter.name), ("type_decl", b.parameter.type.inspect),
     ("index", toString b.index), ("if_explicitly_named", showBool b.parameter.explicit)]
  let mode := match b.mode with
    | .byType => "ByType"
    | .byName => "ByName"
  showRecord "SpecParamBinding"
    [("parameter", parameter), ("attribute", quote b.source.name),
     ("attribute_index", toString b.source.index), ("mode", mode)]

/-- The chosen creator as it is shown. -/
def Creation.inspect (c : Creation ρ) : String :=
  showRecord "ResolvedCreator"
    [("kind", if c.creator.isFactory then "Factory" else "Constructor"),
     ("name", quote c.creator.name),
     ("bindings", showList (c.bindings.map ParameterBinding.inspect))]

end RecordSheet
