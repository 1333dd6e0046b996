import Mathlib.Data.List.Induction
import WebhookOperator.Proofs.Injection.Ledger
import WebhookOperator.Proofs.Injection.Outcome

/-!
# A pod that is offered presets again and again

One offer after the other is made to a pod, and it takes some of them.  Sources of variables have no
identity, so nothing but the annotations keeps them from being appended twice.  Here the annotations
are tied to the lists that were taken: what a pod remembers under a name is the last version that it
took, and so a preset is pending exactly when its edition, which is its name with its version, is
taken for the first time.

* `History.offer_cases`: what one offer does to a pod and to the lists that it has taken
* `remembers_after_iff`: a pod remembers a preset exactly when it took that version last
* `pending_eq_filter`: what is pending is what the pod has not taken in this edition
* `History.sources_after`: every edition brings its sources once
-/

namespace WebhookOperator

open Merge

/-- A preset at a version: what the annotations of a pod tell apart. -/
def PodPreset.edition (preset : PodPreset) : String × Option String :=
  (preset.name, preset.version?)

/-- A pod, and the lists of presets that it has taken so far, the first one first. -/
structure History where
  pod : Pod
  taken : List (List PodPreset) := []

namespace History

/-- Offers presets to the pod.  Where they conflict the pod is what the attempt leaves behind. -/
def offer (history : History) (presets : List PodPreset) : History :=
  match (Pod.takePresets presets).run history.pod with
  | .ok () pod => ⟨pod, history.taken ++ [presets]⟩
  | .error _ pod => ⟨pod, history.taken⟩

/-- A pod after some offers, in order. -/
def after (start : Pod) (offers : List (List PodPreset)) : History := offers.foldl offer ⟨start, []⟩

theorem after_append_singleton (start : Pod) (offers : List (List PodPreset))
    (presets : List PodPreset) :
    after start (offers ++ [presets]) = (after start offers).offer presets := by
  rw [after, List.foldl_append]
  rfl

end History

/-- The presets of each list whose edition stands neither in a list before nor among those that were
seen already. -/
def debuts (seen : List PodPreset) : List (List PodPreset) → List PodPreset
  | [] => []
  | presets :: later =>
    presets.filter (·.edition ∉ seen.map PodPreset.edition) ++ debuts (seen ++ presets) later

/-- The last preset of a name in the lists. -/
def last? (taken : List (List PodPreset)) (name : String) : Option PodPreset :=
  taken.flatten.reverse.find? (·.name == name)

/-- Lists of presets as a cluster shows them over time.  In a list no name occurs twice, and every
preset has a version; an edition always says the same; and a version that has given way to another
one does not come back. -/
structure Steady (taken : List (List PodPreset)) : Prop where
  names : ∀ presets ∈ taken, (presets.map PodPreset.name).Nodup
  versions : ∀ presets ∈ taken, ∀ preset ∈ presets, preset.version?.isSome
  specs : ∀ presets ∈ taken, ∀ others ∈ taken, ∀ preset ∈ presets, ∀ other ∈ others,
    preset.edition = other.edition → preset.spec = other.spec
  noReturn : ∀ first second third, [first, second, third].Sublist taken →
    ∀ old ∈ first, ∀ new ∈ second, ∀ preset ∈ third,
      new.name = old.name → preset.edition = old.edition → new.version? = old.version?

theorem Steady.sublist {fewer taken : List (List PodPreset)} (h : Steady taken)
    (hsub : fewer.Sublist taken) : Steady fewer where
  names presets hmem := h.names presets (hsub.subset hmem)
  versions presets hmem := h.versions presets (hsub.subset hmem)
  specs presets hmem others hothers :=
    h.specs presets (hsub.subset hmem) others (hsub.subset hothers)
  noReturn first second third hthree := h.noReturn first second third (hthree.trans hsub)

/-! ### Lists of presets -/

theorem debuts_append_singleton (seen : List PodPreset) (taken : List (List PodPreset))
    (presets : List PodPreset) :
    debuts seen (taken ++ [presets]) =
      debuts seen taken ++
        presets.filter (·.edition ∉ (seen ++ taken.flatten).map PodPreset.edition) := by
  induction taken generalizing seen with
  | nil => simp [debuts]
  | cons first taken ih =>
    rw [List.cons_append, debuts, debuts, ih, List.flatten_cons, List.append_assoc,
      List.append_assoc]

theorem edition_mem_debuts_iff {seen : List PodPreset} {taken : List (List PodPreset)}
    {edition : String × Option String} :
    edition ∈ (debuts seen taken).map PodPreset.edition ↔
      edition ∈ taken.flatten.map PodPreset.edition ∧ edition ∉ seen.map PodPreset.edition := by
  induction taken generalizing seen with
  | nil => simp [debuts]
  | cons presets taken ih =>
    have hnew : edition ∈ (presets.filter (·.edition ∉ seen.map PodPreset.edition)).map
        PodPreset.edition ↔
          edition ∈ presets.map PodPreset.edition ∧ edition ∉ seen.map PodPreset.edition := by
      constructor
      · intro h
        obtain ⟨preset, hpreset, rfl⟩ := List.mem_map.1 h
        obtain ⟨hmem, hseen⟩ := List.mem_filter.1 hpreset
        exact ⟨List.mem_map_of_mem hmem, of_decide_eq_true hseen⟩
      · rintro ⟨h, hseen⟩
        obtain ⟨preset, hmem, rfl⟩ := List.mem_map.1 h
        exact List.mem_map_of_mem (List.mem_filter.2 ⟨hmem, decide_eq_true hseen⟩)
    rw [debuts, List.map_append, List.mem_append, hnew, ih, List.flatten_cons, List.map_append,
      List.map_append, List.mem_append, List.mem_append]
    tauto

theorem exists_mem_of_mem_debuts {seen : List PodPreset} {taken : List (List PodPreset)}
    {debut : PodPreset} (h : debut ∈ debuts seen taken) : ∃ presets ∈ taken, debut ∈ presets := by
  induction taken generalizing seen with
  | nil => simp [debuts] at h
  | cons presets taken ih =>
    rw [debuts, List.mem_append] at h
    rcases h with h | h
    · exact ⟨presets, List.mem_cons_self, (List.mem_filter.1 h).1⟩
    · obtain ⟨others, hothers, hmem⟩ := ih h
      exact ⟨others, List.mem_cons_of_mem _ hothers, hmem⟩

theorem nodup_editions_debuts {seen : List PodPreset} {taken : List (List PodPreset)}
    (h : ∀ presets ∈ taken, (presets.map PodPreset.name).Nodup) :
    ((debuts seen taken).map PodPreset.edition).Nodup := by
  induction taken generalizing seen with
  | nil => simp [debuts]
  | cons presets taken ih =>
    have hnames : (presets.map PodPreset.edition).Nodup := by
      have hfst : (presets.map PodPreset.edition).map Prod.fst = presets.map PodPreset.name := by
        rw [List.map_map]
        rfl
      exact List.Nodup.of_map Prod.fst (hfst ▸ h presets List.mem_cons_self)
    rw [debuts, List.map_append]
    refine List.nodup_append.2 ⟨?_, ih fun later hmem => h later (List.mem_cons_of_mem _ hmem), ?_⟩
    · exact hnames.sublist (List.filter_sublist.map _)
    · intro edition hedition other hother heq
      -- a later debut is no edition of this list
      have hlater := (edition_mem_debuts_iff.1 hother).2
      have hmem : edition ∈ presets.map PodPreset.edition :=
        (List.filter_sublist.map _).subset hedition
      rw [← heq, List.map_append, List.mem_append] at hlater
      exact hlater (Or.inr hmem)

theorem last?_append_singleton (taken : List (List PodPreset)) (presets : List PodPreset)
    (name : String) :
    last? (taken ++ [presets]) name =
      (presets.reverse.find? (·.name == name)).or (last? taken name) := by
  rw [last?, List.flatten_append, List.flatten_singleton, List.reverse_append, List.find?_append]
  rfl

theorem name_of_last? {taken : List (List PodPreset)} {name : String} {last : PodPreset}
    (h : last? taken name = some last) : last.name = name := by
  simpa using List.find?_some h

theorem exists_mem_of_last? {taken : List (List PodPreset)} {name : String} {last : PodPreset}
    (h : last? taken name = some last) : ∃ presets ∈ taken, last ∈ presets :=
  List.mem_flatten.1 (List.mem_reverse.1 (List.mem_of_find?_eq_some h))

/-- Behind every preset of a name stands the last one, in its list or in a later one. -/
theorem exists_last? {taken : List (List PodPreset)} {presets : List PodPreset}
    (h : presets ∈ taken) {preset : PodPreset} (hmem : preset ∈ presets) :
    ∃ last, last? taken preset.name = some last ∧
      ((∃ others ∈ taken, preset ∈ others ∧ last ∈ others) ∨
        ∃ first second, [first, second].Sublist taken ∧ preset ∈ first ∧ last ∈ second) := by
  induction taken using List.reverseRecOn with
  | nil => cases h
  | append_singleton taken latest ih =>
    rw [last?_append_singleton]
    cases hlatest : latest.reverse.find? (·.name == preset.name) with
    | some last =>
      have hlast : last ∈ latest := List.mem_reverse.1 (List.mem_of_find?_eq_some hlatest)
      refine ⟨last, rfl, ?_⟩
      rcases List.mem_append.1 h with h | h
      · exact Or.inr ⟨presets, latest,
          (List.singleton_sublist.2 h).append (List.Sublist.refl [latest]),
          hmem, hlast⟩
      · obtain rfl := List.mem_singleton.1 h
        exact Or.inl ⟨presets, List.mem_append_right _ List.mem_cons_self, hmem, hlast⟩
    | none =>
      rcases List.mem_append.1 h with h | h
      · obtain ⟨last, hlast, hplace⟩ := ih h
        refine ⟨last, hlast, hplace.imp ?_ ?_⟩
        · rintro ⟨others, hothers, hboth⟩
          exact ⟨others, List.mem_append_left _ hothers, hboth⟩
        · rintro ⟨first, second, hsub, hboth⟩
          exact ⟨first, second, hsub.trans (List.sublist_append_left _ _), hboth⟩
      · obtain rfl := List.mem_singleton.1 h
        have hnone := List.find?_eq_none.1 hlatest preset (List.mem_reverse.2 hmem)
        simp at hnone

/-- In steady lists, a preset that comes next is of the last version of its name exactly when its
edition has come before. -/
theorem Steady.last?_iff {taken : List (List PodPreset)} {presets : List PodPreset}
    (h : Steady (taken ++ [presets])) {preset : PodPreset} (hmem : preset ∈ presets) :
    (∃ last, last? taken preset.name = some last ∧ last.version? = preset.version?) ↔
      preset.edition ∈ taken.flatten.map PodPreset.edition := by
  constructor
  · rintro ⟨last, hlast, hversion⟩
    obtain ⟨others, hothers, hmem⟩ := exists_mem_of_last? hlast
    have hedition : last.edition = preset.edition := Prod.ext (name_of_last? hlast) hversion
    exact hedition ▸ List.mem_map_of_mem (List.mem_flatten.2 ⟨others, hothers, hmem⟩)
  · intro hedition
    obtain ⟨old, hold, heq⟩ := List.mem_map.1 hedition
    obtain ⟨others, hothers, hold⟩ := List.mem_flatten.1 hold
    have hname : old.name = preset.name := congrArg Prod.fst heq
    have hversion : old.version? = preset.version? := congrArg Prod.snd heq
    obtain ⟨last, hlast, hplace⟩ := exists_last? hothers hold
    refine ⟨last, hname ▸ hlast, ?_⟩
    rw [← hversion]
    rcases hplace with ⟨both, hboth, holdBoth, hlastBoth⟩ | ⟨first, second, hsub, hfirst, hsecond⟩
    · -- a name occurs once in a list
      have hnames := h.names both (List.mem_append_left _ hboth)
      rw [List.inj_on_of_nodup_map hnames holdBoth hlastBoth (name_of_last? hlast).symm]
    · -- otherwise the old version would come back after the last one
      exact h.noReturn first second presets (hsub.append (List.Sublist.refl [presets]))
        old hfirst last hsecond preset hmem (name_of_last? hlast) heq.symm

/-! ### One offer -/

def Pod.sources (pod : Pod) : Option (List (List EnvFromSource)) :=
  pod.spec.map fun spec => spec.containers.map fun container => listed container.envFrom

theorem Pod.sources_injected (pod : Pod) (presets : List PodPreset) :
    (pod.injected presets).sources =
      pod.sources.map (·.map (· ++ offered PresetSpec.envFrom (pod.pending presets))) := by
  rw [sources, sources, injected, Option.map_map, Option.map_map]
  congr 1
  funext spec
  simp [PodSpec.injected, Container.injected, Merge.sources, offered, Function.comp_def]

namespace History

/-- **What an offer does.**  Either nothing, or the presets are the next ones that the pod has taken:
then the containers get the sources of those that were pending, and all are remembered. -/
theorem offer_cases (history : History) (presets : List PodPreset) :
    history.offer presets = history ∨
      (history.offer presets).taken = history.taken ++ [presets] ∧
        (history.offer presets).pod.sources = history.pod.sources.map
          (·.map (· ++ offered PresetSpec.envFrom (history.pod.pending presets))) ∧
        (history.offer presets).pod.metadata = Pod.remember history.pod.metadata presets := by
  rw [offer, Pod.run_takePresets]
  by_cases hnil : presets = []
  · subst hnil
    rw [if_pos rfl]
    exact Or.inr ⟨rfl, by simp [Pod.pending, offered], rfl⟩
  · rw [if_neg hnil]
    by_cases hconflicts : history.pod.conflicts presets = []
    · rw [if_pos hconflicts]
      exact Or.inr ⟨rfl, history.pod.sources_injected presets, rfl⟩
    · rw [if_neg hconflicts]
      exact Or.inl rfl

/-! ### Many offers -/

/-- What the annotations say under the key of a preset: what the last preset of its name has left
there. -/
theorem annotation?_after (start : Pod) (offers : List (List PodPreset)) (preset : PodPreset) :
    (after start offers).pod.metadata.annotation? preset.appliedKey =
      ((last? (after start offers).taken preset.name).map PodPreset.recorded).or
        (start.metadata.annotation? preset.appliedKey) := by
  induction offers using List.reverseRecOn with
  | nil => rfl
  | append_singleton offers presets ih =>
    rw [after_append_singleton]
    rcases offer_cases (after start offers) presets with heq | ⟨htaken, _, hmetadata⟩
    · rw [heq, ih]
    · have hkeys : (fun other : PodPreset => other.appliedKey == preset.appliedKey) =
          fun other => other.name == preset.name := by
        funext other
        rw [Bool.eq_iff_iff, beq_iff_eq, beq_iff_eq, PodPreset.appliedKey_inj]
      rw [hmetadata, Pod.annotation?_remember, hkeys, ih, htaken, last?_append_singleton,
        Option.map_or, Option.or_assoc]

variable {start : Pod} {offers : List (List PodPreset)}

/-- **A pod remembers a preset exactly when it took that version last.** -/
theorem remembers_after_iff
    (hversions : ∀ presets ∈ (after start offers).taken, ∀ preset ∈ presets, preset.version?.isSome)
    {preset : PodPreset} (hnew : start.remembers preset = false) :
    (after start offers).pod.remembers preset = true ↔
      ∃ last, last? (after start offers).taken preset.name = some last ∧
        last.version? = preset.version? := by
  rw [Pod.remembers_iff, annotation?_after]
  cases hlast : last? (after start offers).taken preset.name with
  | none =>
    rw [Option.map_none, Option.none_or, ← Pod.remembers_iff, hnew]
    simp
  | some last =>
    obtain ⟨presets, hpresets, hmem⟩ := exists_mem_of_last? hlast
    obtain ⟨version, hversion⟩ := Option.isSome_iff_exists.1 (hversions presets hpresets last hmem)
    rw [Option.map_some, Option.some_or, PodPreset.recorded, hversion, Option.getD_some]
    constructor
    · rintro ⟨other, hother, heq⟩
      exact ⟨last, rfl, by rw [hversion, heq, hother]⟩
    · rintro ⟨_, hsame, heq⟩
      obtain rfl := Option.some.inj hsame
      exact ⟨version, by rw [← heq, hversion], rfl⟩

/-- **What is pending is what the pod has not taken in this edition.** -/
theorem pending_eq_filter {presets : List PodPreset}
    (hsteady : Steady ((after start offers).taken ++ [presets]))
    (hnew : ∀ preset ∈ presets, start.remembers preset = false) :
    (after start offers).pod.pending presets =
      presets.filter (·.edition ∉ (after start offers).taken.flatten.map PodPreset.edition) := by
  have hversions := (hsteady.sublist (List.sublist_append_left _ _)).versions
  refine List.filter_congr fun preset hmem => ?_
  have hiff := (remembers_after_iff hversions (hnew preset hmem)).trans (hsteady.last?_iff hmem)
  rw [Bool.eq_iff_iff, Bool.not_eq_true', ← Bool.not_eq_true, hiff, decide_eq_true_iff]

/-- The sources of each container: those that it had, and then those of every first edition. -/
theorem sources_after (hsteady : Steady (after start offers).taken)
    (hnew : ∀ presets ∈ (after start offers).taken, ∀ preset ∈ presets,
      start.remembers preset = false) :
    (after start offers).pod.sources = start.sources.map
      (·.map (· ++ offered PresetSpec.envFrom (debuts [] (after start offers).taken))) := by
  induction offers using List.reverseRecOn with
  | nil => simp [after, debuts, offered]
  | append_singleton offers presets ih =>
    rw [after_append_singleton] at hsteady hnew ⊢
    rcases offer_cases (after start offers) presets with heq | ⟨htaken, hsources, _⟩
    · rw [heq] at hsteady hnew ⊢
      exact ih hsteady hnew
    · rw [htaken] at hsteady hnew ⊢
      have ih := ih (hsteady.sublist (List.sublist_append_left _ _))
        fun others hmem => hnew others (List.mem_append_left _ hmem)
      have hpending := pending_eq_filter hsteady
        (hnew presets (List.mem_append_right _ List.mem_cons_self))
      rw [hsources, ih, hpending, debuts_append_singleton, Option.map_map]
      congr 1
      funext containers
      simp [offered, List.map_map, Function.comp_def]

theorem taken_prefix {done offers : List (List PodPreset)} (h : done <+: offers) :
    (after start done).taken <+: (after start offers).taken := by
  obtain ⟨later, rfl⟩ := h
  induction later using List.reverseRecOn with
  | nil => simp
  | append_singleton later presets ih =>
    rw [← List.append_assoc, after_append_singleton]
    rcases offer_cases (after start (done ++ later)) presets with heq | ⟨htaken, _, _⟩
    · rw [heq]
      exact ih
    · rw [htaken]
      exact ih.trans (List.prefix_append _ _)

/-- **Every edition brings its sources once, and the last one is remembered.**  A pod that remembers
none of the presets is offered steady lists of them.  After every offer each container has the
sources that it had and then those of the editions that were taken, each at the first time that it
was; there is no edition twice among these, and none is missing.  And of all presets that the pod
did not remember from the start, it remembers those of the version that it took last. -/
theorem every_edition_once (hsteady : Steady (after start offers).taken)
    (hnew : ∀ presets ∈ (after start offers).taken, ∀ preset ∈ presets,
      start.remembers preset = false)
    {done : List (List PodPreset)} (hdone : done <+: offers) :
    (after start done).pod.sources = start.sources.map
        (·.map (· ++ offered PresetSpec.envFrom (debuts [] (after start done).taken))) ∧
      ((debuts [] (after start done).taken).map PodPreset.edition).Nodup ∧
      (∀ presets ∈ (after start done).taken, ∀ preset ∈ presets,
        ∃ debut ∈ debuts [] (after start done).taken,
          debut.edition = preset.edition ∧ debut.spec = preset.spec) ∧
      ∀ preset, start.remembers preset = false →
        ((after start done).pod.remembers preset = true ↔
          ∃ last, last? (after start done).taken preset.name = some last ∧
            last.version? = preset.version?) := by
  have hstart : (after start done).taken <+: (after start offers).taken := taken_prefix hdone
  have hsteady : Steady (after start done).taken := hsteady.sublist hstart.sublist
  refine ⟨sources_after hsteady fun presets hmem => hnew presets (hstart.subset hmem),
    nodup_editions_debuts hsteady.names, fun presets hpresets preset hmem => ?_,
    fun preset hpreset => remembers_after_iff hsteady.versions hpreset⟩
  have hedition : preset.edition ∈ (after start done).taken.flatten.map PodPreset.edition :=
    List.mem_map_of_mem (List.mem_flatten.2 ⟨presets, hpresets, hmem⟩)
  have hdebuts : preset.edition ∈ (debuts [] (after start done).taken).map PodPreset.edition :=
    edition_mem_debuts_iff.2 ⟨hedition, List.not_mem_nil⟩
  obtain ⟨debut, hdebut, heq⟩ := List.mem_map.1 hdebuts
  obtain ⟨others, hothers, hdebutMem⟩ := exists_mem_of_mem_debuts hdebut
  exact ⟨debut, hdebut, heq,
    hsteady.specs others hothers presets hpresets debut hdebutMem preset hmem heq⟩

end History

/-! ### A run of offers -/

/-- A preset that has another value for the variable of the sample. -/
def PodPreset.rival : PodPreset where
  metadata := { name := some "cache", namespaceName := some "web", resourceVersion := some "3" }
  spec := { env := [⟨"DB", some "cache", none⟩] }

/-- The sample preset at its next version, which reads its variables from elsewhere. -/
def PodPreset.renewed : PodPreset where
  metadata := { name := some "db", namespaceName := some "web", resourceVersion := some "8" }
  spec := { PodPreset.sample.spec with envFrom := [⟨none, none, some ⟨"db-next", none⟩⟩] }

theorem History.every_edition_once_sample :
    (after .sample [[.sample], [.rival], [.sample], [.renewed]]).taken =
        [[.sample], [.sample], [.renewed]] ∧
      (after .sample [[.sample], [.rival], [.sample], [.renewed]]).pod.sources =
        some [[⟨none, none, some ⟨"db", none⟩⟩, ⟨none, none, some ⟨"db-next", none⟩⟩]] ∧
      (after .sample [[.sample], [.rival], [.sample], [.renewed]]).pod.remembers .renewed = true ∧
      (after .sample [[.sample], [.rival], [.sample], [.renewed]]).pod.remembers .sample = false := by
  have htaken : (after .sample [[.sample], [.rival], [.sample], [.renewed]]).taken =
      [[.sample], [.sample], [.renewed]] := by decide
  have hsteady : Steady [[.sample], [.sample], [.renewed]] := by
    refine ⟨by decide, by decide, by decide, fun first second third hsub => ?_⟩
    cases hsub.eq_of_length rfl
    decide
  have hnew : ∀ presets ∈ [[.sample], [.sample], [.renewed]], ∀ preset ∈ presets,
      Pod.sample.remembers preset = false := by decide
  obtain ⟨hsources, _, _, hremembers⟩ :=
    every_edition_once (htaken ▸ hsteady) (htaken ▸ hnew) (List.prefix_refl _)
  rw [htaken] at hsources hremembers
  refine ⟨htaken, by rw [hsources]; decide, ?_, ?_⟩
  · exact (hremembers .renewed (by decide)).2 ⟨.renewed, by decide, rfl⟩
  · rw [Bool.eq_false_iff, Ne, hremembers .sample (by decide)]
    rintro ⟨last, hlast, hversion⟩
    obtain rfl : .renewed = last := by
      have hrenewed : last? [[.sample], [.sample], [.renewed]] PodPreset.sample.name =
          some .renewed := by decide
      exact Option.some.inj (hrenewed.symm.trans hlast)
    exact absurd hversion (by decide)

end WebhookOperator
