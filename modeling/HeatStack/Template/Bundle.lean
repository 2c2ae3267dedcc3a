import HeatStack.Crypto.Blake3
import HeatStack.Table
import HeatStack.Template.Parameter

/-! # Bundles

A bundle is what is known of a template: its parameters and outputs by name, its tags, and the
text itself with its fingerprint. -/
set_option autoImplicit false
namespace HeatStack.Template
open HeatStack.Text

structure Sections where
  parameters : Bool
  outputs : Bool
  tags : Bool
deriving DecidableEq

namespace Sections

def none : Sections := ⟨false, false, false⟩

def any (s : Sections) : Bool := s.parameters || s.outputs || s.tags

/-- The sections whose names stand anywhere in the text.  A name may stand there for another
reason, but a section written without escapes is never overlooked. -/
def mentioned (source : String) : Sections :=
  let mentions (word : String) : Bool := contains word.toList source.toList
  ⟨mentions "parameters", mentions "outputs", mentions "tags"⟩

end Sections

def fingerprint (source : String) : String :=
  "blake3:" ++ String.ofList ((Crypto.Blake3.hash source.toUTF8.toList).flatMap fun b =>
    hexPadded 2 b.toNat)

structure Bundle where
  name : String
  version : String
  label : String
  sections : Sections
  parameters : Table Parameter
  outputs : Table Output
  tags : Option String
  source : String
  fingerprint : String
deriving DecidableEq

namespace Bundle

def empty (name source : String) : Bundle where
  name := name
  version := ""
  label := ""
  sections := .none
  parameters := {}
  outputs := {}
  tags := none
  source := source
  fingerprint := Template.fingerprint source

def withVersionLabel (b : Bundle) (version label : String) : Bundle :=
  { b with version := version, label := label }

/-- A parameter of the same name gives way. -/
def insertParameter (b : Bundle) (p : Parameter) : Bundle :=
  { b with parameters := b.parameters.insert p.name p }

def insertOutput (b : Bundle) (o : Output) : Bundle :=
  { b with outputs := b.outputs.insert o.name o }

/-- Whether a hidden parameter has a default, which the source then holds too. -/
def carriesSecret (b : Bundle) : Bool :=
  b.parameters.values.any fun p => p.hidden && p.default.isSome

/-- A copy for display.  Defaults of hidden parameters are masked, and the source too where it
holds one of them; the fingerprint stays. -/
def masked (b : Bundle) : Bundle :=
  { b with
    parameters := b.parameters.map fun _ p => p.masked
    source := if b.carriesSecret then mask else b.source }

end Bundle
end HeatStack.Template
