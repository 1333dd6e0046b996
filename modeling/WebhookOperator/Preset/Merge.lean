import WebhookOperator.Preset.Basic
import WebhookOperator.Preset.Conflict

/-!
# Merging what presets offer into a list

The items that presets offer are merged into a base list one after the other. An item whose
identity is new is put at the end; an item that equals the one of its identity is passed over; any
other item is a conflict. All conflicts are collected, and with one conflict there is no merged
list.

Environment variables and volumes are identified by their names. Mounts are identified twice, by
name and by path, and both identities are checked for every mount. Of several base items of one
identity the last one counts.
-/

namespace WebhookOperator

class Named (α : Type) where
  field : Field
  name : α → String
  outline : α → Outline
  /-- The items of the kind that a preset offers. -/
  offered : PresetSpec → List α

instance : Named EnvVar where
  field := .env
  name := EnvVar.name
  outline := EnvVar.outline
  offered := PresetSpec.env

instance : Named Volume where
  field := .volumes
  name := Volume.name
  outline := Volume.outline
  offered := PresetSpec.volumes

namespace Merge

/-- The items that presets offer, each with the name of its preset, in the order of the presets. -/
def offers (offered : PresetSpec → List α) (presets : List PodPreset) : List (String × α) :=
  presets.flatMap fun preset => (offered preset.spec).map (preset.name, ·)

/-- The item that counts for an identity: the last one of the base, else the first one added. -/
def reference (key : α → String) (base added : List α) (wanted : String) : Option α :=
  (base.reverse ++ added).find? (key · == wanted)

/-- What has come of the offers so far: the items added to the base, and the conflicts. -/
structure Progress (α : Type) where
  added : List α := []
  conflicts : List Conflict := []

/-- The conflict of an item with the one that counts for its name. -/
def nameConflict [Named α] (preset : String) (incoming existing : α) : Conflict where
  field := Named.field α
  axis := .name
  preset := preset
  key := Named.name incoming
  incoming := (Named.outline incoming).text
  existing := (Named.outline existing).text

/-- Takes one offer. -/
def Progress.offer [Named α] [DecidableEq α] (base : List α) (progress : Progress α)
    (offer : String × α) : Progress α :=
  let (preset, item) := offer
  match reference Named.name base progress.added (Named.name item) with
  | none => { progress with added := progress.added ++ [item] }
  | some found =>
    if found = item then progress
    else { progress with conflicts := progress.conflicts ++ [nameConflict preset item found] }

def named [Named α] [DecidableEq α] (base : List α) (presets : List PodPreset) :
    Except (List Conflict) (List α) :=
  let done := (offers Named.offered presets).foldl (Progress.offer base) {}
  if done.conflicts.isEmpty then .ok (base ++ done.added) else .error done.conflicts

/-- What has come of the offered mounts so far: the mounts added to the base, the first mount at
each path that the base lacks, and the conflicts. -/
structure MountProgress where
  added : List VolumeMount := []
  atNewPaths : List VolumeMount := []
  conflicts : List Conflict := []

/-- The conflict of a mount with the one that counts for its name or its path. -/
def mountConflict (axis : Axis) (preset : String) (incoming existing : VolumeMount) :
    Conflict where
  field := .volumeMounts
  axis := axis
  preset := preset
  key := match axis with
    | .name => incoming.name
    | .mountPath => incoming.mountPath
  incoming := incoming.outline.text
  existing := existing.outline.text

/-- Takes one offered mount: first its name is looked at, then its path. -/
def MountProgress.offer (base : List VolumeMount) (progress : MountProgress)
    (offer : String × VolumeMount) : MountProgress :=
  let (preset, mount) := offer
  let (added, nameConflicts) :=
    match reference VolumeMount.name base progress.added mount.name with
    | none => ([mount], [])
    | some found => ([], if found = mount then [] else [mountConflict .name preset mount found])
  let (atNewPaths, pathConflicts) :=
    match reference VolumeMount.mountPath base progress.atNewPaths mount.mountPath with
    | none => ([mount], [])
    | some found =>
      ([], if found = mount then [] else [mountConflict .mountPath preset mount found])
  { added := progress.added ++ added
    atNewPaths := progress.atNewPaths ++ atNewPaths
    conflicts := progress.conflicts ++ nameConflicts ++ pathConflicts }

/-- Merges the mounts that presets offer into a base list. -/
def mounts (base : List VolumeMount) (presets : List PodPreset) :
    Except (List Conflict) (List VolumeMount) :=
  let done := (offers PresetSpec.volumeMounts presets).foldl (MountProgress.offer base) {}
  if done.conflicts.isEmpty then .ok (base ++ done.added) else .error done.conflicts

/-- Puts the sources of variables that presets offer at the end. They have no identity, so none
conflicts. -/
def sources (base : List EnvFromSource) (presets : List PodPreset) : List EnvFromSource :=
  base ++ presets.flatMap (·.spec.envFrom)

end Merge

end WebhookOperator
