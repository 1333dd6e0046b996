import WebhookOperator.Json.Patch

/-!
# The difference of documents

`Patch.differences` walks two documents at once.  Here are the facts that need no patch to be
performed: a document whose members stand in order does not differ from itself.

* `sorted_of_lookup`, `sorted_ofMembers`: sorted documents have sorted members, and are made of them
* `Patch.differences_self`, `Patch.between?_self`: nothing leads from a document to itself
-/

namespace WebhookOperator.Json

/-! ### Sorted documents -/

theorem sortedItems_iff {items : List Json} : SortedItems items ↔ ∀ item ∈ items, item.Sorted := by
  induction items with
  | nil => simp [SortedItems]
  | cons item items ih => simp [SortedItems, ih]

theorem sortedMembers_iff {members : List (String × Json)} :
    SortedMembers members ↔ ∀ member ∈ members, member.2.Sorted := by
  induction members with
  | nil => simp [SortedMembers]
  | cons member members ih =>
    obtain ⟨key, value⟩ := member
    simp [SortedMembers, ih]

theorem sorted_arr {items : List Json} : (arr items).Sorted ↔ ∀ item ∈ items, item.Sorted := by
  rw [Sorted, sortedItems_iff]

theorem sorted_obj {members : List (String × Json)} :
    (obj members).Sorted ↔ Entries.Sorted members ∧ ∀ member ∈ members, member.2.Sorted := by
  rw [Sorted, sortedMembers_iff]

theorem sorted_of_lookup {members : List (String × Json)} {key : String} {value : Json}
    (h : (obj members).Sorted) (hlookup : members.lookup key = some value) : value.Sorted :=
  (sorted_obj.1 h).2 _ (Entries.mem_of_lookup hlookup)

theorem sorted_ofMembers {members : List (String × Json)}
    (h : ∀ member ∈ members, member.2.Sorted) : (ofMembers members).Sorted :=
  sorted_obj.2 ⟨Entries.sorted_ofList members, fun member hmem => h member (Entries.mem_ofList hmem)⟩

/-! ### No difference -/

namespace Patch

theorem removals_self (path : Pointer) (members : Entries Json) :
    removals path members members = [] := by
  rw [removals, List.filterMap_eq_nil_iff]
  intro member hmem
  have hsome : (members.lookup member.1).isSome := by
    rw [Option.isSome_iff_ne_none, Ne, List.lookup_eq_none_iff]
    exact fun h => by simpa using h member hmem
  simp [hsome]

mutual

theorem differences_self (path : Pointer) :
    ∀ document : Json, document.Sorted → differences path document document = []
  | .null, _ => by simp [differences]
  | .bool _, _ => by simp [differences]
  | .num _, _ => by simp [differences]
  | .str _, _ => by simp [differences]
  | .arr items, h => by
    rw [Sorted] at h
    simp [differences, itemDifferences_self path 0 items h]
  | .obj members, h => by
    rw [Sorted] at h
    have hfound : ∀ member ∈ members, members.lookup member.1 = some member.2 :=
      fun _ hmem => h.1.lookup_of_mem hmem
    simp [differences, memberDifferences_self path members members h.2 hfound, removals_self]

theorem itemDifferences_self (path : Pointer) (position : Nat) :
    ∀ items : List Json, SortedItems items → itemDifferences path position items items = []
  | [], _ => by simp [itemDifferences]
  | item :: items, h => by
    rw [SortedItems] at h
    simp [itemDifferences, differences_self _ item h.1, itemDifferences_self path _ items h.2]

theorem memberDifferences_self (path : Pointer) (before : Entries Json) :
    ∀ members : List (String × Json), SortedMembers members →
      (∀ member ∈ members, before.lookup member.1 = some member.2) →
      memberDifferences path before members = []
  | [], _, _ => by simp [memberDifferences]
  | (key, value) :: members, h, hfound => by
    rw [SortedMembers] at h
    have hkey : before.lookup key = some value := hfound (key, value) List.mem_cons_self
    have hrest : ∀ member ∈ members, before.lookup member.1 = some member.2 :=
      fun member hmem => hfound member (List.mem_cons_of_mem _ hmem)
    simp [memberDifferences, hkey, differences_self _ value h.1,
      memberDifferences_self path before members h.2 hrest]

end

theorem between?_self {document : Json} (h : document.Sorted) : between? document document = none := by
  simp [between?, between, differences_self _ document h]

end Patch

end WebhookOperator.Json
