/-!
# Dictionaries with sorted string keys

A dictionary is a list of entries whose keys increase strictly in code point order. Each key
occurs at most once and the order of insertion leaves no trace, so two dictionaries are equal
exactly when they answer every look-up alike. The same entry lists, without the proof of order,
are the members of JSON objects.

* `Entries.sorted_insert`: inserting keeps the order
* `Entries.lookup_insert`: what a look-up answers after an insertion
* `Entries.ext_lookup`, `Dict.ext_get?`: look-ups tell all about entries in order
-/

namespace WebhookOperator

/-- Keys with their values, in the order they are written. -/
abbrev Entries (α : Type u) := List (String × α)

namespace Entries

def Sorted (entries : Entries α) : Prop := entries.Pairwise (fun a b => a.1 < b.1)

instance (entries : Entries α) : Decidable entries.Sorted :=
  inferInstanceAs (Decidable (entries.Pairwise fun a b => a.1 < b.1))

/-- Puts a value under a key, in place of the one the key had. -/
def insert (key : String) (value : α) : Entries α → Entries α
  | [] => [(key, value)]
  | (k, v) :: rest =>
    if key < k then (key, value) :: (k, v) :: rest
    else if key = k then (key, value) :: rest
    else (k, v) :: insert key value rest

def erase (key : String) (entries : Entries α) : Entries α :=
  entries.filter (fun entry => entry.1 ≠ key)

/-- Entries put one after the other into an empty list: of equal keys the last one stays. -/
def ofList (entries : List (String × α)) : Entries α :=
  entries.foldl (fun made entry => insert entry.1 entry.2 made) []

@[simp] theorem insert_nil (key : String) (value : α) : insert key value [] = [(key, value)] := rfl

theorem lt_of_not_lt_of_ne {a b : String} (h : ¬a < b) (hne : a ≠ b) : b < a :=
  Std.lt_of_le_of_ne (String.not_lt.1 h) (Ne.symm hne)

theorem key_mem_insert {key : String} {value : α} {entries : Entries α} {entry : String × α}
    (h : entry ∈ insert key value entries) : entry.1 = key ∨ entry ∈ entries := by
  induction entries with
  | nil => simp_all [insert]
  | cons head rest ih =>
    obtain ⟨k, v⟩ := head
    unfold insert at h
    split at h
    · rcases List.mem_cons.1 h with rfl | h <;> simp_all
    · split at h
      · rcases List.mem_cons.1 h with rfl | h <;> simp_all
      · rcases List.mem_cons.1 h with rfl | h
        · simp
        · rcases ih h with h | h <;> simp_all

theorem mem_insert {key : String} {value : α} {entries : Entries α} {entry : String × α}
    (h : entry ∈ insert key value entries) : entry = (key, value) ∨ entry ∈ entries := by
  induction entries with
  | nil => simpa using h
  | cons head rest ih =>
    obtain ⟨k, v⟩ := head
    unfold insert at h
    split at h
    · simpa using h
    · split at h
      · rcases List.mem_cons.1 h with rfl | h
        · exact Or.inl rfl
        · exact Or.inr (List.mem_cons_of_mem _ h)
      · rcases List.mem_cons.1 h with rfl | h
        · exact Or.inr List.mem_cons_self
        · exact (ih h).imp_right (List.mem_cons_of_mem _)

theorem sorted_insert {entries : Entries α} (h : entries.Sorted) (key : String) (value : α) :
    (insert key value entries).Sorted := by
  unfold Sorted at *
  induction entries with
  | nil => simp [insert]
  | cons head rest ih =>
    obtain ⟨k, v⟩ := head
    rw [List.pairwise_cons] at h
    unfold insert
    split
    next hlt =>
      refine List.pairwise_cons.2 ⟨?_, List.pairwise_cons.2 h⟩
      intro entry hmem
      rcases List.mem_cons.1 hmem with rfl | hmem
      · exact hlt
      · exact String.lt_trans hlt (h.1 entry hmem)
    next hnlt =>
      split
      next heq => exact List.pairwise_cons.2 ⟨fun entry hmem => heq ▸ h.1 entry hmem, h.2⟩
      next hne =>
        refine List.pairwise_cons.2 ⟨?_, ih h.2⟩
        intro entry hmem
        rcases key_mem_insert hmem with heq | hmem
        · exact heq ▸ lt_of_not_lt_of_ne hnlt hne
        · exact h.1 entry hmem

theorem sorted_erase {entries : Entries α} (h : entries.Sorted) (key : String) :
    (erase key entries).Sorted :=
  List.Pairwise.filter _ h

theorem sorted_ofList (entries : List (String × α)) : (ofList entries).Sorted := by
  have general : ∀ (more : List (String × α)) (made : Entries α), made.Sorted →
      (more.foldl (fun made entry => insert entry.1 entry.2 made) made).Sorted := by
    intro more
    induction more with
    | nil => exact fun _ h => h
    | cons entry more ih => exact fun made h => ih _ (sorted_insert h entry.1 entry.2)
  exact general entries [] List.Pairwise.nil

theorem lookup_insert {entries : Entries α} (key key' : String) (value : α) :
    (insert key value entries).lookup key' =
      if key' = key then some value else entries.lookup key' := by
  have miss {k : String} (h : key' ≠ k) : (key' == k) = false := by simp [h]
  induction entries with
  | nil => by_cases h : key' = key <;> simp [insert, List.lookup_cons, h, miss]
  | cons head rest ih =>
    obtain ⟨k, v⟩ := head
    unfold insert
    split
    next => by_cases h : key' = key <;> simp [List.lookup_cons, h, miss]
    next =>
      split
      next heq => subst heq; by_cases h : key' = key <;> simp [List.lookup_cons, h, miss]
      next hne =>
        by_cases h : key' = k
        · subst h; simp [Ne.symm hne]
        · simp [List.lookup_cons, miss h, ih]

theorem lookup_cons_eq (entry : String × α) (rest : Entries α) (key : String) :
    List.lookup key (entry :: rest) = if key = entry.1 then some entry.2 else rest.lookup key := by
  rw [List.lookup_cons]
  by_cases h : key = entry.1
  · simp [h]
  · have hmiss : (key == entry.1) = false := by simpa using h
    rw [hmiss, if_neg h]

theorem lookup_eq_none_of_forall_ne {entries : Entries α} {key : String}
    (h : ∀ entry ∈ entries, key ≠ entry.1) : entries.lookup key = none := by
  rw [List.lookup_eq_none_iff]
  exact fun entry hmem => by simpa using h entry hmem

theorem Sorted.lookup_head_eq_none {key : String} {value : α} {rest : Entries α}
    (h : Sorted ((key, value) :: rest)) : rest.lookup key = none := by
  refine lookup_eq_none_of_forall_ne fun entry hmem heq => ?_
  exact String.lt_irrefl _ (heq ▸ (List.pairwise_cons.1 h).1 entry hmem)

theorem Sorted.lookup_eq_none_of_lt {key : String} {head : String × α} {rest : Entries α}
    (h : Sorted (head :: rest)) (hlt : key < head.1) : (head :: rest).lookup key = none := by
  refine lookup_eq_none_of_forall_ne fun entry hmem heq => ?_
  rcases List.mem_cons.1 hmem with rfl | hmem
  · exact String.lt_irrefl _ (heq ▸ hlt)
  · exact String.lt_irrefl _ (String.lt_trans (heq ▸ hlt) ((List.pairwise_cons.1 h).1 entry hmem))

theorem mem_of_lookup {entries : Entries α} {key : String} {value : α}
    (h : entries.lookup key = some value) : (key, value) ∈ entries := by
  obtain ⟨before, after, rfl, _⟩ := List.lookup_eq_some_iff.1 h
  simp

theorem Sorted.lookup_of_mem {entries : Entries α} (h : entries.Sorted) {entry : String × α}
    (hmem : entry ∈ entries) : entries.lookup entry.1 = some entry.2 := by
  induction entries with
  | nil => cases hmem
  | cons head rest ih =>
    obtain ⟨k, v⟩ := head
    rcases List.mem_cons.1 hmem with rfl | hmem
    · simp
    · have hlt := (List.pairwise_cons.1 h).1 entry hmem
      have hmiss : (entry.1 == k) = false := by simpa using fun heq => String.lt_irrefl _ (heq ▸ hlt)
      rw [List.lookup_cons, hmiss]
      exact ih (List.pairwise_cons.1 h).2 hmem

theorem lookup_map {β : Type v} (f : α → β) (entries : Entries α) (key : String) :
    (entries.map fun entry => (entry.1, f entry.2)).lookup key = (entries.lookup key).map f := by
  induction entries with
  | nil => rfl
  | cons entry rest ih =>
    rw [List.map_cons, lookup_cons_eq, lookup_cons_eq, ih]
    split <;> rfl

theorem mem_keys_iff {entries : Entries α} {key : String} :
    key ∈ entries.map (·.1) ↔ (entries.lookup key).isSome := by
  induction entries with
  | nil => simp
  | cons entry rest ih =>
    rw [List.map_cons, List.mem_cons, ih, lookup_cons_eq]
    by_cases h : key = entry.1 <;> simp [h]

theorem Sorted.nodup_keys {entries : Entries α} (h : entries.Sorted) :
    (entries.map (·.1)).Nodup := by
  refine List.pairwise_map.2 (List.Pairwise.imp ?_ h)
  intro a b hlt heq
  exact String.lt_irrefl b.1 (heq ▸ hlt)

theorem ext_lookup {entries others : Entries α} (h : entries.Sorted) (hothers : others.Sorted)
    (heq : ∀ key, entries.lookup key = others.lookup key) : entries = others := by
  induction entries generalizing others with
  | nil =>
    cases others with
    | nil => rfl
    | cons other rest =>
      obtain ⟨l, w⟩ := other
      simpa using heq l
  | cons head rest ih =>
    obtain ⟨k, v⟩ := head
    cases others with
    | nil => simpa using heq k
    | cons other rest' =>
      obtain ⟨l, w⟩ := other
      -- a key below the other head is missed by the other entries
      have hkl : ¬k < l := fun hlt => by simpa [hothers.lookup_eq_none_of_lt hlt] using heq k
      have hlk : ¬l < k := fun hlt => by simpa [h.lookup_eq_none_of_lt hlt] using heq l
      obtain rfl : k = l := Classical.byContradiction fun hne => hlk (lt_of_not_lt_of_ne hkl hne)
      obtain rfl : v = w := by simpa using heq k
      refine congrArg _ (ih (List.pairwise_cons.1 h).2 (List.pairwise_cons.1 hothers).2 fun key => ?_)
      by_cases hk : key = k
      · rw [hk, h.lookup_head_eq_none, hothers.lookup_head_eq_none]
      · have hmiss : (key == k) = false := by simpa using hk
        simpa [List.lookup_cons, hmiss] using heq key

theorem insert_eq_self {entries : Entries α} (h : entries.Sorted) {key : String} {value : α}
    (hlookup : entries.lookup key = some value) : insert key value entries = entries := by
  refine ext_lookup (sorted_insert h key value) h fun other => ?_
  rw [lookup_insert]
  split
  next heq => rw [heq, hlookup]
  · rfl

theorem insert_insert {entries : Entries α} (h : entries.Sorted) (key : String) (value other : α) :
    insert key value (insert key other entries) = insert key value entries := by
  refine ext_lookup (sorted_insert (sorted_insert h key other) key value)
    (sorted_insert h key value) fun wanted => ?_
  rw [lookup_insert, lookup_insert, lookup_insert]
  split <;> rfl

theorem lookup_erase (entries : Entries α) (key wanted : String) :
    (erase key entries).lookup wanted = if wanted = key then none else entries.lookup wanted := by
  induction entries with
  | nil => by_cases h : wanted = key <;> simp [erase, h]
  | cons entry rest ih =>
    rw [erase] at ih ⊢
    rw [List.filter_cons, lookup_cons_eq]
    by_cases hentry : entry.1 = key
    · rw [if_neg (by simpa using hentry), ih]
      by_cases hwanted : wanted = key
      · rw [if_pos hwanted, if_pos hwanted]
      · rw [if_neg hwanted, if_neg hwanted, if_neg fun heq => hwanted (heq.trans hentry)]
    · rw [if_pos (by simpa using hentry), lookup_cons_eq, ih]
      by_cases hwanted : wanted = key
      · rw [if_pos hwanted, if_pos hwanted, if_neg fun heq => hentry (heq.symm.trans hwanted)]
      · rw [if_neg hwanted, if_neg hwanted]

/-! ### Lists of entries -/

theorem ofList_append_singleton (entries : List (String × α)) (entry : String × α) :
    ofList (entries ++ [entry]) = insert entry.1 entry.2 (ofList entries) := by
  rw [ofList, List.foldl_append]
  rfl

theorem mem_ofList {entries : List (String × α)} {entry : String × α} (h : entry ∈ ofList entries) :
    entry ∈ entries := by
  have general : ∀ (more : List (String × α)) (made : Entries α),
      entry ∈ more.foldl (fun made entry => insert entry.1 entry.2 made) made →
        entry ∈ made ∨ entry ∈ more := by
    intro more
    induction more with
    | nil => exact fun _ h => Or.inl h
    | cons first more ih =>
      intro made h
      rcases ih _ h with h | h
      · rcases mem_insert h with rfl | h
        · exact Or.inr List.mem_cons_self
        · exact Or.inl h
      · exact Or.inr (List.mem_cons_of_mem _ h)
  simpa using general entries [] h

theorem insert_of_forall_lt {entries : Entries α} {key : String} (value : α)
    (h : ∀ entry ∈ entries, entry.1 < key) :
    insert key value entries = entries ++ [(key, value)] := by
  induction entries with
  | nil => rfl
  | cons head rest ih =>
    obtain ⟨k, v⟩ := head
    have hlt : k < key := h (k, v) List.mem_cons_self
    have hne : key ≠ k := fun heq => String.lt_irrefl k (heq ▸ hlt)
    rw [insert, if_neg (String.lt_asymm hlt), if_neg hne,
      ih fun entry hmem => h entry (List.mem_cons_of_mem _ hmem), List.cons_append]

/-- Later entries are found before earlier ones. -/
theorem lookup_ofList_append (entries more : List (String × α)) (key : String) :
    (ofList (entries ++ more)).lookup key =
      ((ofList more).lookup key).or ((ofList entries).lookup key) := by
  have general : ∀ (more : List (String × α)) (made : Entries α),
      (more.foldl (fun made entry => insert entry.1 entry.2 made) made).lookup key =
        ((ofList more).lookup key).or (made.lookup key) := by
    intro more
    induction more with
    | nil => exact fun _ => rfl
    | cons entry more ih =>
      intro made
      rw [ofList, List.foldl_cons, ih, List.foldl_cons, ih (insert _ _ []), lookup_insert,
        lookup_insert]
      split
      · rw [Option.or_assoc, Option.some_or]
      · rw [List.lookup_nil, Option.or_none]
  rw [ofList, List.foldl_append, general]
  rfl

theorem ofList_of_sorted {entries : Entries α} (h : entries.Sorted) : ofList entries = entries := by
  -- on the last entry, whose key is above all others
  have general : ∀ (more made : Entries α), Sorted (made ++ more) →
      more.foldl (fun made entry => insert entry.1 entry.2 made) made = made ++ more := by
    intro more
    induction more with
    | nil => simp
    | cons entry more ih =>
      intro made h
      have hlt : ∀ earlier ∈ made, earlier.1 < entry.1 := fun earlier hmem =>
        (List.pairwise_append.1 h).2.2 earlier hmem entry List.mem_cons_self
      rw [List.foldl_cons, insert_of_forall_lt _ hlt, ih _ (by simpa using h)]
      simp
  exact general entries [] h

end Entries

/-- A dictionary: entries in strictly increasing order of their keys. -/
structure Dict (α : Type u) where
  entries : Entries α
  sorted : entries.Sorted
deriving DecidableEq

namespace Dict

def empty : Dict α := ⟨[], List.Pairwise.nil⟩

instance : Inhabited (Dict α) := ⟨empty⟩

instance : EmptyCollection (Dict α) := ⟨empty⟩

def get? (dict : Dict α) (key : String) : Option α := dict.entries.lookup key

def contains (dict : Dict α) (key : String) : Bool := (dict.get? key).isSome

def insert (dict : Dict α) (key : String) (value : α) : Dict α :=
  ⟨Entries.insert key value dict.entries, Entries.sorted_insert dict.sorted key value⟩

/-- Of equal keys the last one stays. -/
def ofList (entries : List (String × α)) : Dict α :=
  ⟨Entries.ofList entries, Entries.sorted_ofList entries⟩

/-- The entries of `other`, and those of `dict` at the keys that `other` lacks. -/
def override (dict other : Dict α) : Dict α :=
  other.entries.foldl (fun made entry => made.insert entry.1 entry.2) dict

theorem get?_insert (dict : Dict α) (key key' : String) (value : α) :
    (dict.insert key value).get? key' = if key' = key then some value else dict.get? key' :=
  Entries.lookup_insert key key' value

theorem ext_get? {dict other : Dict α} (h : ∀ key, dict.get? key = other.get? key) :
    dict = other := by
  obtain ⟨entries, hsorted⟩ := dict
  obtain ⟨others, hsorted'⟩ := other
  rw [mk.injEq]
  exact Entries.ext_lookup hsorted hsorted' h

theorem insert_comm (dict : Dict α) {key other : String} (h : key ≠ other) (value value' : α) :
    (dict.insert key value).insert other value' = (dict.insert other value').insert key value := by
  refine ext_get? fun wanted => ?_
  rw [get?_insert, get?_insert, get?_insert, get?_insert]
  by_cases hwanted : wanted = other
  · rw [if_pos hwanted, if_pos hwanted, if_neg fun heq => h (heq.symm.trans hwanted)]
  · rw [if_neg hwanted, if_neg hwanted]

theorem insert_eq_self {dict : Dict α} {key : String} {value : α} (h : dict.get? key = some value) :
    dict.insert key value = dict := by
  obtain ⟨entries, hsorted⟩ := dict
  simp only [insert, mk.injEq]
  exact Entries.insert_eq_self hsorted h

end Dict

end WebhookOperator
