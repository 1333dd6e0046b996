import WebhookOperator.Api.Client
import WebhookOperator.Cluster.Meta

/-!
# Events

An event tells the users of a cluster what was done about an object and why. It is written into the
namespace of the object.
-/

namespace WebhookOperator

open Api

inductive EventType where
  | normal
  | warning
deriving DecidableEq, Inhabited

structure ObjectReference where
  apiVersion : Option String := none
  kind : Option String := none
  name : Option String := none
  namespaceName : Option String := none
  uid : Option String := none
deriving DecidableEq, Inhabited

structure ClusterEvent where
  action : Option String := none
  eventTime : Option String := none
  metadata : ObjectMeta
  note : Option String := none
  reason : Option String := none
  regarding : Option ObjectReference := none
  reportingController : Option String := none
  reportingInstance : Option String := none
  type : Option String := none
deriving DecidableEq, Inhabited

structure Reporter where
  /-- The program that reports. -/
  controller : String
  /-- The running copy of the program, where it has a name of its own. -/
  instanceName : Option String := none
  /-- The end of the names of events. -/
  suffix : String
  /-- The time of the report. -/
  time : Option String := none
deriving DecidableEq, Inhabited

def EventType.text : EventType → String
  | normal => "Normal"
  | warning => "Warning"

def ObjectReference.codec : Codec ObjectReference := .object <|
  (Record.of ObjectReference.mk)
    |>.field "apiVersion" (.optional .string) (·.apiVersion)
    |>.field "kind" (.optional .string) (·.kind)
    |>.field "name" (.optional .string) (·.name)
    |>.field "namespace" (.optional .string) (·.namespaceName)
    |>.field "uid" (.optional .string) (·.uid)

namespace ClusterEvent

def apiVersion : String := "events.k8s.io/v1"

def codec : Codec ClusterEvent := .resource apiVersion "Event" <|
  (Record.of ClusterEvent.mk)
    |>.field "action" (.optional .string) (·.action)
    |>.field "eventTime" (.optional .string) (·.eventTime)
    |>.field "metadata" (.expected ObjectMeta.codec {}) (·.metadata)
    |>.field "note" (.optional .string) (·.note)
    |>.field "reason" (.optional .string) (·.reason)
    |>.field "regarding" (.optional ObjectReference.codec) (·.regarding)
    |>.field "reportingController" (.optional .string) (·.reportingController)
    |>.field "reportingInstance" (.optional .string) (·.reportingInstance)
    |>.field "type" (.optional .string) (·.type)

/-- Where events about the objects of a namespace are written; objects without one have theirs in
the default namespace. -/
def resource (inNamespace : Option String) : Resource ClusterEvent where
  codec := codec
  path := "/apis/" ++ apiVersion ++ "/namespaces/" ++ inNamespace.getD "default" ++ "/events"

/-- The event by which a reporter tells what it did about an object and why. -/
def report (reporter : Reporter) (type : EventType) (action reason note : String)
    (regarding : ObjectReference) : ClusterEvent where
  action := some action
  eventTime := reporter.time
  metadata := {
    name := some (regarding.name.getD reporter.controller ++ "." ++ reporter.suffix)
    namespaceName := regarding.namespaceName }
  note := some note
  reason := some reason
  regarding := some regarding
  reportingController := some reporter.controller
  reportingInstance := some (reporter.instanceName.getD reporter.controller)
  type := some type.text

/-- Writes an event. Nothing hangs on whether it is taken. -/
def publish (event : ClusterEvent) : Session Unit := do
  let _ ← (resource event.metadata.namespaceName).create event
  return

end ClusterEvent

end WebhookOperator
