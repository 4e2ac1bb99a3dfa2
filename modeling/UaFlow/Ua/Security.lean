import UaFlow.Text.Blank
import UaFlow.Json.Value
/-!
# Security policies and message security modes

A security policy is one of the six the client knows, each with a short name and a URI under the
common policy prefix. A configured policy is read leniently: blank means `None`; a text with the
prefix must be an exact URI; otherwise an exact short name or URI, or else the text appended to
the prefix as a URI. Whatever is not recognised falls back to `None`.

A message security mode is `None`, `Sign` or `SignAndEncrypt`, read from its name in any ASCII
case; anything else is `None`.
-/

namespace UaFlow.Ua

open UaFlow.Json

/-- The security policies. -/
inductive SecurityPolicy where
  | none
  | basic128Rsa15
  | basic256
  | basic256Sha256
  | aes128Sha256RsaOaep
  | aes256Sha256RsaPss
  deriving DecidableEq, Inhabited, Repr

/-- Every security policy. -/
def SecurityPolicy.all : List SecurityPolicy :=
  [.none, .basic128Rsa15, .basic256, .basic256Sha256, .aes128Sha256RsaOaep, .aes256Sha256RsaPss]

/-- The name of a policy. -/
def SecurityPolicy.name : SecurityPolicy → String
  | .none => "None"
  | .basic128Rsa15 => "Basic128Rsa15"
  | .basic256 => "Basic256"
  | .basic256Sha256 => "Basic256Sha256"
  | .aes128Sha256RsaOaep => "Aes128Sha256RsaOaep"
  | .aes256Sha256RsaPss => "Aes256Sha256RsaPss"

/-- The short name of a policy. -/
def SecurityPolicy.shortName : SecurityPolicy → String
  | .aes128Sha256RsaOaep => "Aes128-Sha256-RsaOaep"
  | .aes256Sha256RsaPss => "Aes256-Sha256-RsaPss"
  | p => p.name

/-- The prefix of every policy URI. -/
def policyUriPrefix : String := "http://opcfoundation.org/UA/SecurityPolicy#"

/-- The URI of a policy. -/
def SecurityPolicy.uri : SecurityPolicy → String
  | .aes128Sha256RsaOaep => policyUriPrefix ++ "Aes128_Sha256_RsaOaep"
  | .aes256Sha256RsaPss => policyUriPrefix ++ "Aes256_Sha256_RsaPss"
  | p => policyUriPrefix ++ p.name

/-- The policy with an exact URI. -/
def SecurityPolicy.ofUri? (uri : String) : Option SecurityPolicy :=
  SecurityPolicy.all.find? fun p => p.uri = uri

/-- The policy with an exact short name or URI. -/
def SecurityPolicy.ofName? (s : String) : Option SecurityPolicy :=
  SecurityPolicy.all.find? fun p => p.shortName = s ∨ p.uri = s

/-- The policy a configured text names, when it names one. -/
def SecurityPolicy.lookup? (raw : String) : Option SecurityPolicy :=
  let trimmed := Text.trim raw
  if trimmed.isEmpty then none
  else if trimmed.startsWith policyUriPrefix then SecurityPolicy.ofUri? trimmed
  else (SecurityPolicy.ofName? trimmed).orElse fun _ => SecurityPolicy.ofUri? (policyUriPrefix ++ trimmed)

/-- The policy a configured text names, `None` when it names none. -/
def SecurityPolicy.resolve (raw : String) : SecurityPolicy :=
  (SecurityPolicy.lookup? raw).getD .none

/-- The JSON description of a policy: its name, short name and URI. -/
def SecurityPolicy.toValue (p : SecurityPolicy) : Value :=
  Value.object [("name", .str p.name), ("str", .str p.shortName), ("uri", .str p.uri)]

/-- The message security modes. -/
inductive SecurityMode where
  | none
  | sign
  | signAndEncrypt
  deriving DecidableEq, Inhabited, Repr

/-- The name of a mode. -/
def SecurityMode.name : SecurityMode → String
  | .none => "None"
  | .sign => "Sign"
  | .signAndEncrypt => "SignAndEncrypt"

/-- The mode a configured text names, `None` when it names none. -/
def SecurityMode.resolve (raw : String) : SecurityMode :=
  match (Text.trim raw).map Char.toUpper with
  | "SIGN" => .sign
  | "SIGNANDENCRYPT" => .signAndEncrypt
  | _ => .none

theorem ofUri?_uri (p : SecurityPolicy) : SecurityPolicy.ofUri? p.uri = some p := by
  cases p <;> decide

end UaFlow.Ua
