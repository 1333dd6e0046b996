import WebhookOperator.Cluster.Meta

/-!
# Config maps and secrets

The two kinds of object that hold nothing but data under keys: texts in a config map, bytes in a
secret.
-/

namespace WebhookOperator

/-- Texts, and bytes beside them, under keys. -/
structure ConfigMap where
  binaryData : Option (Dict (List UInt8))
  data : Option (Dict String)
  immutable : Option Bool
  metadata : ObjectMeta
deriving DecidableEq, Inhabited

/-- Bytes under keys, which a writer may also give as texts. -/
structure Secret where
  data : Option (Dict (List UInt8))
  metadata : ObjectMeta
  stringData : Option (Dict String)
deriving DecidableEq, Inhabited

def ConfigMap.codec : Codec ConfigMap := .resource "v1" "ConfigMap" <|
  (Record.of ConfigMap.mk)
    |>.field "binaryData" (.optional (.dict .bytes)) (·.binaryData)
    |>.field "data" (.optional (.dict .string)) (·.data)
    |>.field "immutable" (.optional .bool) (·.immutable)
    |>.field "metadata" (.expected ObjectMeta.codec {}) (·.metadata)

def Secret.codec : Codec Secret := .resource "v1" "Secret" <|
  (Record.of Secret.mk)
    |>.field "data" (.optional (.dict .bytes)) (·.data)
    |>.field "metadata" (.expected ObjectMeta.codec {}) (·.metadata)
    |>.field "stringData" (.optional (.dict .string)) (·.stringData)

end WebhookOperator
