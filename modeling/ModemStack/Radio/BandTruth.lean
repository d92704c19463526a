import ModemStack.Band.Certification
import ModemStack.Domain.Operation
import ModemStack.Text.SortedNames

/-!
The descriptor of a band write, and the certification it asks for.
-/

namespace ModemStack.Radio

open ModemStack.Band ModemStack.Data ModemStack.Domain ModemStack.Text

structure ModemBands where
  supported : List BandName
  current : List BandName
deriving DecidableEq

def bandWriteOperationId : JsString := js "modemmanager.bands"

def bandWriteRefusal : JsString := js "band-certification-required"

def bandReadRefusal : JsString := js "band-read-unsupported"

def bandNoneOfferableRefusal : JsString := js "no-offerable-certified-bands"

structure BandWriteCertification where
  satisfied : Bool
  reason : JsString
  offerable : Reference (List BandName)
deriving DecidableEq

def describeBandWriteCertification (next : Nat) (entry : Option BandCertificationEntry)
    (supported : Reference (List BandName)) : BandWriteCertification :=
  let offerable := offerableBands next entry supported
  match entry with
  | none => ⟨false, bandWriteRefusal, offerable⟩
  | some _ => ⟨true, js "band-certification-proven", offerable⟩

structure BandWriteDescriptorInput where
  provider : JsString
  profile : JsString
  certification : BandWriteCertification
  readSupported : Bool

def sameBandSet (left right : List BandName) : Bool := sameNames left right

/-- A release is read back as no lock, or as all that is supported. -/
def bandWriteReadbackMatches (requested : Reference (List BandName)) (observed : ModemBands) :
    Bool :=
  if requested.contents = [js "any"] then
    decide (observed.current = [js "any"]) || sameBandSet observed.current observed.supported
  else sameBandSet requested.contents observed.current

def buildBandWriteDescriptor (input : BandWriteDescriptorInput) :
    OperationDescriptor (Reference (List BandName)) ModemBands :=
  let refusal : Option JsString :=
    if input.certification.satisfied = false then some bandWriteRefusal
    else if input.certification.offerable.contents = [] then some bandNoneOfferableRefusal
    else none
  { id := bandWriteOperationId
    supportRead := if input.readSupported then .supported else .unsupported bandReadRefusal
    supportWrite :=
      if input.certification.satisfied then .supported else .unsupported bandWriteRefusal
    authority := .provider
    provider := input.provider
    constraints := .allowedValues [input.certification.offerable]
    livePreconditions :=
      [js "modem-present", js "runtime-interface-present", js "band-certification-present"]
    availability :=
      match refusal with
      | none => .available
      | some reason => .refused reason
    mutationImpact := .disruptive
    retryClass := .never
    readback := .required (js "band-write-readback") bandWriteReadbackMatches
    rollback := .notRequired
    journal := .required (js "disruptive-radio-write")
    admission := .required (js "provider-mutation")
    profiles := [input.profile]
    firmware := []
    confidence := .high }

end ModemStack.Radio
