import Caden.Lib.Json
import Caden.Options

/-!
The options as JSON, which is how they are sent to the browser.

Byte strings are written in base64url. A member that is not set is left out, and how many members
follow is announced to the serializer before the first one.
-/

namespace Caden

open Json (entries)

/-! ### Enumerations -/

def AttestationPreference.text : AttestationPreference → String
  | .none => "none"
  | .indirect => "indirect"
  | .direct => "direct"
  | .enterprise => "enterprise"

def AuthenticatorAttachment.text : AuthenticatorAttachment → String
  | .platform => "platform"
  | .crossPlatform => "cross-platform"

def ResidentKeyRequirement.text : ResidentKeyRequirement → String
  | .discouraged => "discouraged"
  | .preferred => "preferred"
  | .required => "required"

def UserVerificationRequirement.text : UserVerificationRequirement → String
  | .required => "required"
  | .preferred => "preferred"
  | .discouraged => "discouraged"

def LargeBlobSupport.text : LargeBlobSupport → String
  | .required => "required"
  | .preferred => "preferred"

def AuthenticatorTransport.text : AuthenticatorTransport → String
  | .usb => "usb"
  | .nfc => "nfc"
  | .ble => "ble"
  | .internal => "internal"
  | .hybrid => "hybrid"

def credProtectPolicyStr : CredProtectPolicy → String
  | .userVerificationOptional => "userVerificationOptional"
  | .userVerificationOptionalWithCredentialIdList => "userVerificationOptionalWithCredentialIDList"
  | .userVerificationRequired => "userVerificationRequired"

/-! ### The serializers -/

variable (encode : Bytes → String)

/-- The text of bytes. -/
def base64url (bytes : Bytes) : Json := .str (encode bytes)

namespace AuthenticatorSelection

def fields (sel : AuthenticatorSelection) : List (String × Option Json) :=
  [("authenticatorAttachment", sel.authenticatorAttachment.map fun a => .str a.text),
    ("residentKey", sel.residentKey.map fun r => .str r.text),
    ("requireResidentKey", some (.bool sel.requireResidentKey)),
    ("userVerification", some (.str sel.userVerification.text))]

/-- The serializer is derived, and counts the members that it does not skip. -/
def serialize (sel : AuthenticatorSelection) : Json :=
  .obj ((if sel.authenticatorAttachment.isSome then 1 else 0) +
    (if sel.residentKey.isSome then 1 else 0) + 1 + 1) (entries sel.fields)

end AuthenticatorSelection

namespace PrfEvalInput

def fields (eval : PrfEvalInput) : List (String × Option Json) :=
  [("first", some (base64url encode eval.first)),
    ("second", eval.second.map (base64url encode))]

def serialize (eval : PrfEvalInput) : Json :=
  .obj (if eval.second.isSome then 2 else 1) (entries (eval.fields encode))

end PrfEvalInput

namespace PrfInput

def fields (input : PrfInput) : List (String × Option Json) :=
  [("eval", input.eval.map (PrfEvalInput.serialize encode))]

def serialize (input : PrfInput) : Json :=
  .obj (if input.eval.isSome then 1 else 0) (entries (input.fields encode))

end PrfInput

def LargeBlobRegistrationInput.serialize (input : LargeBlobRegistrationInput) : Json :=
  .obj 1 (entries [("support", some (.str input.support.text))])

def LargeBlobAuthenticationInput.serialize : LargeBlobAuthenticationInput → Json
  | .read => .obj 1 (entries [("read", some (.bool true))])
  | .write blob => .obj 1 (entries [("write", some (base64url encode blob))])

namespace CredProtectInput

def fields (input : CredProtectInput) : List (String × Option Json) :=
  [("credentialProtectionPolicy", some (.str (credProtectPolicyStr input.policy))),
    ("enforceCredentialProtectionPolicy", some (.bool input.enforce))]

def serialize (input : CredProtectInput) : Json := .obj 2 (entries input.fields)

end CredProtectInput

namespace RegistrationExtensions

def fields (exts : RegistrationExtensions) : List (String × Option Json) :=
  [("credProps", exts.credProps.map .bool),
    ("prf", exts.prf.map (PrfInput.serialize encode)),
    ("largeBlob", exts.largeBlob.map LargeBlobRegistrationInput.serialize),
    ("credProtect", exts.credProtect.map CredProtectInput.serialize),
    ("minPinLength", exts.minPinLength.map .bool)]

def serialize (exts : RegistrationExtensions) : Json :=
  let count := ([exts.credProps.isSome, exts.prf.isSome, exts.largeBlob.isSome,
    exts.credProtect.isSome, exts.minPinLength.isSome].filter fun present => present).length
  .obj count (entries (exts.fields encode))

end RegistrationExtensions

namespace AuthenticationExtensions

def fields (exts : AuthenticationExtensions) : List (String × Option Json) :=
  [("prf", exts.prf.map (PrfInput.serialize encode)),
    ("largeBlob", exts.largeBlob.map (LargeBlobAuthenticationInput.serialize encode))]

def serialize (exts : AuthenticationExtensions) : Json :=
  let count := ([exts.prf.isSome, exts.largeBlob.isSome].filter fun present => present).length
  .obj count (entries (exts.fields encode))

end AuthenticationExtensions

namespace PublicKeyCredentialDescriptor

def fields (d : PublicKeyCredentialDescriptor) : List (String × Option Json) :=
  [("type", some (.str "public-key")),
    ("id", some (base64url encode d.id)),
    ("transports", d.transports.map fun ts => .arr (ts.map fun t => .str t.text))]

/-- `CredentialDescriptorSer`. -/
def serialize (d : PublicKeyCredentialDescriptor) : Json :=
  .obj (if d.transports.isSome then 3 else 2) (entries (d.fields encode))

end PublicKeyCredentialDescriptor

namespace AuthenticationOptions

def fields (o : AuthenticationOptions) : List (String × Option Json) :=
  [("challenge", some (base64url encode o.challenge.bytes)),
    ("timeout", some (.num o.timeoutMs.toNat)),
    ("rpId", some (.str o.rpId)),
    ("allowCredentials",
      some (.arr (o.allowCredentials.map (PublicKeyCredentialDescriptor.serialize encode)))),
    ("userVerification", some (.str o.userVerification.text)),
    ("extensions", o.extensions.map (AuthenticationExtensions.serialize encode))]

def serialize (o : AuthenticationOptions) : Json :=
  .obj (5 + if o.extensions.isSome then 1 else 0) (entries (o.fields encode))

end AuthenticationOptions

namespace UserEntity

def fields (user : UserEntity) : List (String × Option Json) :=
  [("id", some (base64url encode user.id)), ("name", some (.str user.name)),
    ("displayName", some (.str user.displayName))]

/-- `UserEntitySer`. -/
def serialize (user : UserEntity) : Json := .obj 3 (entries (user.fields encode))

end UserEntity

/-- The id and the name of the relying party. -/
def rpInfoSer (rp : String × String) : Json :=
  .obj 2 (entries [("id", some (.str rp.1)), ("name", some (.str rp.2))])

def pubKeyCredParamSer (alg : ℤ) : Json :=
  .obj 2 (entries [("type", some (.str "public-key")), ("alg", some (.num alg))])

namespace RegistrationOptions

def fields (o : RegistrationOptions) : List (String × Option Json) :=
  [("rp", some (rpInfoSer (o.rpId, o.rpName))),
    ("user", some (o.user.serialize encode)),
    ("challenge", some (base64url encode o.challenge.bytes)),
    ("pubKeyCredParams", some (.arr (o.pubKeyCredParams.map pubKeyCredParamSer))),
    ("timeout", some (.num o.timeoutMs.toNat)),
    ("excludeCredentials",
      some (.arr (o.excludeCredentials.map (PublicKeyCredentialDescriptor.serialize encode)))),
    ("attestation", some (.str o.attestation.text)),
    ("authenticatorSelection", o.authenticatorSelection.map AuthenticatorSelection.serialize),
    ("extensions", o.extensions.map (RegistrationExtensions.serialize encode))]

def serialize (o : RegistrationOptions) : Json :=
  .obj ((7 + if o.authenticatorSelection.isSome then 1 else 0) +
    if o.extensions.isSome then 1 else 0) (entries (o.fields encode))

end RegistrationOptions

end Caden
