import WebhookOperator.Json.Patch
import WebhookOperator.Preset.Matching
import WebhookOperator.Preset.Merge

/-!
# Injecting presets into a pod

A pod takes what presets offer: volumes once, and variables, sources and mounts in every container.
All merges are tried on the pod as it is before anything is changed, so a pod either takes every
preset or none.

The pod remembers in an annotation which version of a preset it has taken. A preset that the pod
remembers at its current version is not injected again.
-/

namespace WebhookOperator

/-- Why a pod is left alone before any preset is looked at. -/
inductive Exclusion where
  /-- The pod stands for one that a node runs on its own. -/
  | mirrorPod
  /-- The pod asks to be left alone. -/
  | optedOut
deriving DecidableEq, Inhabited

inductive Injection where
  | excluded (reason : Exclusion)
  | noMatch
  /-- The presets that apply conflict. -/
  | conflicted (presets : List String) (conflicts : List Conflict)
  /-- The pod with every preset that applies. -/
  | injected (presets : List String) (pod : Pod)
deriving DecidableEq, Inhabited

/-- The annotation of pods that stand for one that a node runs on its own. -/
def mirrorAnnotation : String := "kubernetes.io/config.mirror"

/-- The annotation of pods that ask to be left alone. -/
def optOutAnnotation : String := "podpreset.admission.kubernetes.io/exclude"

/-- What the keys of the annotations start with that remember injected presets. -/
def appliedKeyStart : String := "cs-podpreset.operator.ibm.com/podpreset-"

namespace PodPreset

/-- The key of the annotation that remembers a preset. -/
def appliedKey (preset : PodPreset) : String := appliedKeyStart ++ preset.name

end PodPreset

/-- The items of a list that may be absent. -/
def listed (field : Option (List α)) : List α := field.getD []

/-- A merged list in the place of a field. With nothing merged, a field that is absent stays so. -/
def settle (field : Option (List α)) (merged : List α) : Option (List α) :=
  if merged.isEmpty then field else some merged

def conflictsOf : Except (List Conflict) α → List Conflict
  | .ok _ => []
  | .error conflicts => conflicts

namespace Container

def inject (container : Container) (presets : List PodPreset) :
    Except (List Conflict) Container := do
  let env ← Merge.named (listed container.env) presets
  let mounts ← Merge.mounts (listed container.volumeMounts) presets
  let sources := Merge.sources (listed container.envFrom) presets
  return { container with
    env := settle container.env env
    volumeMounts := settle container.volumeMounts mounts
    envFrom := settle container.envFrom sources }

end Container

namespace DnsConfig

/-- The resolver option that every injected pod with the policy `ClusterFirst` gets. -/
def singleRequestReopen : DnsOption := ⟨some "single-request-reopen", none⟩

/-- Adds the option that asks for a new connection per request, unless it is there. -/
def reopen (config : DnsConfig) : DnsConfig :=
  let options := listed config.options
  { config with options := some <|
      if singleRequestReopen ∈ options then options else options ++ [singleRequestReopen] }

end DnsConfig

namespace PodSpec

def conflicts (spec : PodSpec) (presets : List PodPreset) : List Conflict :=
  conflictsOf (Merge.named (listed spec.volumes) presets) ++
    spec.containers.flatMap fun container =>
      conflictsOf (Merge.named (listed container.env) presets) ++
        conflictsOf (Merge.mounts (listed container.volumeMounts) presets)

def inject (spec : PodSpec) (presets : List PodPreset) : Except (List Conflict) PodSpec := do
  let volumes ← Merge.named (listed spec.volumes) presets
  let containers ← spec.containers.mapM (·.inject presets)
  return { spec with
    volumes := settle spec.volumes volumes
    containers := containers
    dnsConfig :=
      if spec.dnsPolicy = some "ClusterFirst" then some (spec.dnsConfig.getD {}).reopen
      else spec.dnsConfig }

end PodSpec

namespace Pod

/-- Why a pod is left alone, if it is. -/
def exclusion (pod : Pod) : Option Exclusion :=
  if (pod.metadata.annotation? mirrorAnnotation).isSome then some .mirrorPod
  else if pod.metadata.annotation? optOutAnnotation = some "true" then some .optedOut
  else none

/-- Whether the pod remembers a preset at its current version. -/
def remembers (pod : Pod) (preset : PodPreset) : Bool :=
  match pod.metadata.annotation? preset.appliedKey, preset.version? with
  | some recorded, some version => recorded == version
  | _, _ => false

def conflicts (pod : Pod) (presets : List PodPreset) : List Conflict :=
  match pod.spec with
  | none => []
  | some spec => spec.conflicts presets

/-- Metadata that remembers presets at their current versions. -/
def remember (metadata : ObjectMeta) (presets : List PodPreset) : ObjectMeta :=
  presets.foldl (fun done preset => done.annotate preset.appliedKey (preset.version?.getD ""))
    metadata

/-- Puts presets into a pod in place. All of them are checked on the pod as it is before anything is
written, and those that the pod remembers are not merged again. -/
def takePresets (presets : List PodPreset) : EStateM (List Conflict) Pod Unit := do
  if presets.isEmpty then return
  let pod ← get
  let conflicts := pod.conflicts presets
  if !conflicts.isEmpty then throw conflicts
  let pending := presets.filter (!pod.remembers ·)
  let spec ← MonadExcept.ofExcept (pod.spec.mapM (·.inject pending))
  modify fun pod => { pod with spec := spec }
  modify fun pod => { pod with metadata := remember pod.metadata presets }

def apply (pod : Pod) (presets : List PodPreset) : Except (List Conflict) Pod :=
  match (takePresets presets).run pod with
  | .ok _ injected => .ok injected
  | .error conflicts _ => .error conflicts

def inject (pod : Pod) (podNamespace : String) (presets : List PodPreset) :
    Except SelectorError Injection :=
  match pod.exclusion with
  | some reason => .ok (.excluded reason)
  | none => do
    let matched ← PodPreset.matching presets podNamespace pod.metadata.labelDict
    if matched.isEmpty then return .noMatch
    let names := matched.map PodPreset.name
    match pod.apply matched with
    | .ok injected => return .injected names injected
    | .error conflicts => return .conflicted names conflicts

def patch? (pod : Pod) : Injection → Option Json.Patch
  | .injected _ injected => Json.Patch.between? (Pod.codec.encode pod) (Pod.codec.encode injected)
  | _ => none

end Pod

end WebhookOperator
