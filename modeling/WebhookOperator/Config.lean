import WebhookOperator.Registration.Desired
import WebhookOperator.Text.Blank
import WebhookOperator.Text.Quoted

/-!
# Configuration

The operator is configured by variables of its environment. A variable that is unset or blank stands
for its default; every other value is kept as it is, blank characters at its ends included, except
for the port and the switch, which are read without these.
-/

namespace WebhookOperator

inductive ConfigError where
  /-- The value of a variable is no port number. -/
  | invalidPort (name value : String)
deriving DecidableEq, Inhabited

structure Config where
  /-- The namespace that the operator runs in, if the environment says so. -/
  givenNamespace : Option String
  serviceName : String
  servicePort : UInt16
  certSecret : String
  certDir : String
  enableOperandRequestWebhook : Bool
deriving DecidableEq, Inhabited

def ConfigError.message : ConfigError → String
  | invalidPort name value => name ++ " must be a port number, got " ++ Text.quote value

/-- The port number that a text spells: decimal digits, which may follow a plus sign. -/
def portNumber? (text : String) : Option UInt16 :=
  let digits := match text.toList with
    | '+' :: rest => rest
    | whole => whole
  if digits.isEmpty || !digits.all Char.isDigit then none
  else
    let value := digits.foldl (fun value c => value * 10 + (c.toNat - '0'.toNat)) 0
    if value < UInt16.size then some (UInt16.ofNat value) else none

def fileIn (directory name : String) : String :=
  if directory.endsWith "/" then directory ++ name else directory ++ "/" ++ name

namespace Config

def portVariable : String := "WEBHOOK_SERVICE_PORT"

def ofLookup (lookup : String → Option String) : Except ConfigError Config := do
  let given? (name : String) : Option String := (lookup name).filter (!Text.isBlankText ·)
  let port ← match given? portVariable with
    | none => .ok 443
    | some value =>
      match portNumber? (Text.trim value) with
      | some port => .ok port
      | none => .error (.invalidPort portVariable value)
  return {
    givenNamespace := (given? "WATCH_NAMESPACE").or (given? "POD_NAMESPACE")
    serviceName := (given? "WEBHOOK_SERVICE_NAME").getD operatorName
    servicePort := port
    certSecret := (given? "WEBHOOK_CERT_SECRET").getD "ibm-common-service-webhook-cert"
    certDir := (given? "WEBHOOK_CERT_DIR").getD "/etc/webhook/certs"
    enableOperandRequestWebhook := (given? "ENABLE_OPREQ_WEBHOOK").any fun value =>
      (Text.trim value).map Char.toLower == "true" }

def namespaceName (config : Config) : String := config.givenNamespace.getD "default"

def certPath (config : Config) : String := fileIn config.certDir "tls.crt"

def keyPath (config : Config) : String := fileIn config.certDir "tls.key"

def serviceTarget (config : Config) : ServiceTarget where
  namespaceName := config.namespaceName
  name := config.serviceName
  port := Int32.ofNat config.servicePort.toNat

end Config

end WebhookOperator
