import ModemStack.Data.Reference
import ModemStack.Text.JsString

/-!
The catalogue of certified band locks, and the bands an entry of it makes offerable.

A list of bands is an object.
-/

namespace ModemStack.Band

open ModemStack.Data ModemStack.Text

abbrev BandName := JsString

structure BandSku where
  vidPid : JsString
  model : JsString
  firmwarePrefix : JsString
deriving DecidableEq

/-- An entry's four proofs are all given, or it is no entry. -/
structure BandCertificationEntry where
  vidPid : JsString
  model : JsString
  firmwarePrefix : JsString
  evidence : JsString
  provenBands : List BandName
deriving DecidableEq

abbrev BandCertificationCatalog := List BandCertificationEntry

def findBandCertification (catalog : BandCertificationCatalog) (sku : BandSku) :
    Option BandCertificationEntry :=
  catalog.find? fun entry => entry.vidPid = sku.vidPid && entry.model = sku.model &&
    entry.firmwarePrefix.isPrefixOf sku.firmwarePrefix

/-- The bands that may be locked to. A new list has the address `next`. -/
def offerableBands (next : Nat) (entry : Option BandCertificationEntry)
    (supported : Reference (List BandName)) : Reference (List BandName) :=
  match entry with
  | none => ⟨next, []⟩
  | some entry =>
    if entry.provenBands = [] then supported
    else ⟨next, supported.contents.filter fun band => entry.provenBands.contains band⟩

end ModemStack.Band
