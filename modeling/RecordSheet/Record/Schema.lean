import RecordSheet.Handler.Basic
import RecordSheet.Record.Attribute
import RecordSheet.Record.Creator

/-!
# Record/Schema — the declaration of a record type

A schema names a record type, lists its attributes and its creators, and may have a fallback text
for the attributes without one.  No name is blank, and no two attributes share a name or a header
(`Schema.make` finds the first that does).
-/

namespace RecordSheet

variable {ρ : Type}

namespace Schema

/-- The first fault of the attributes of a record type, after those already seen. -/
def checkAttributes (record : String) (seen : List (Attribute ρ)) :
    List (Attribute ρ) → Except SetupFault Unit
  | [] => .ok ()
  | a :: rest =>
    if Text.isBlank a.name then .error (.unnamedAttribute record)
    else if seen.any fun b => b.name = a.name then .error (.repeatedAttribute record a.name)
    else
      match seen.find? fun b => b.header = a.header with
      | some b => .error (.sharedHeader record b.name a.name a.header)
      | none => checkAttributes record (a :: seen) rest

/-- The first fault of a record type. -/
def check (record : String) (attributes : List (Attribute ρ)) : Except SetupFault Unit :=
  if Text.isBlank record then .error .unnamedRecord else checkAttributes record [] attributes

end Schema

/-- The declaration of the record type `ρ`. -/
structure Schema (ρ : Type) where
  name : String
  /-- The text read from a blank cell of an attribute that has none of its own. -/
  fallback : Option String
  attributes : List (Attribute ρ)
  creators : List (Creator ρ)
  checked : Schema.check name attributes = .ok ()

namespace Schema

/-- **A schema of the given parts,** or their first fault. -/
def make (name : String) (fallback : Option String) (attributes : List (Attribute ρ))
    (creators : List (Creator ρ)) : Except SetupFault (Schema ρ) :=
  match h : check name attributes with
  | .ok () => .ok ⟨name, fallback, attributes, creators, h⟩
  | .error f => .error f

/-- The attribute of a name. -/
def attribute? (s : Schema ρ) (name : String) : Option (Attribute ρ) :=
  s.attributes.find? fun a => a.name = name

/-- The identity of an attribute at a position. -/
def descriptor (s : Schema ρ) (a : Attribute ρ) (index : Nat) : Descriptor :=
  ⟨a.name, s.name, a.type, index⟩

/-- The attributes with their identities, in order. -/
def described (s : Schema ρ) : List (Attribute ρ × Descriptor) :=
  s.attributes.zipIdx.map fun (a, i) => (a, s.descriptor a i)

/-- The identities of the attributes, in order. -/
def descriptors (s : Schema ρ) : List Descriptor :=
  s.described.map Prod.snd

end Schema

end RecordSheet
