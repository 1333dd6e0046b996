import WebhookOperator.Json.Reader
import WebhookOperator.Proofs.Json.Leading

/-!
# What is read

The theorems about documents ask for objects whose keys stand in order.  This costs nothing: no text
is read as any other document.  Neither does it cost anything to write a patch down, for it is read
as the patch that it was.  So whoever gets the patch between two documents, with its pointers as
texts, comes from the one document to the other.

* `sorted_of_ofText?`: documents that are read have their keys in order
* `Patch.ofJson?_toJson`: a patch reads back from its document
* `Patch.between?_leads`: there is no patch between equal documents, and every other one leads
-/

namespace WebhookOperator.Json

/-! ### Documents -/

/-- The document that the token may stand for has its keys in order. -/
def Token.Plain (token : Token) : Prop := ∀ value, token = .literal value → value.Sorted

theorem Token.plain_of_next? {chars rest : List Char} {token : Token}
    (h : next? chars = some (token, rest)) : token.Plain := by
  intro value heq
  subst heq
  unfold next? at h
  split at h <;> simp_all [Option.bind_eq_some_iff, Option.map_eq_some_iff]
  · rw [← h.1]
    trivial
  · rw [← h.1]
    trivial
  · rw [← h.1]
    trivial
  · obtain ⟨_, _, rfl⟩ := h
    trivial

theorem Token.plain_of_mem_scanWith {fuel : Nat} {chars : List Char} {token : Token}
    (h : token ∈ scanWith fuel chars) : token.Plain := by
  induction fuel generalizing chars with
  | zero =>
    rw [List.mem_singleton.1 h]
    exact fun _ heq => nomatch heq
  | succ fuel ih =>
    rw [scanWith] at h
    split at h
    · cases h
    · split at h
      · rw [List.mem_singleton.1 h]
        exact fun _ heq => nomatch heq
      · next hnext =>
        rcases List.mem_cons.1 h with rfl | h
        · exact plain_of_next? hnext
        · exact ih h

mutual

/-- What is read of plain tokens has its keys in order, and plain tokens are left. -/
theorem sorted_of_readValue : ∀ {fuel depth : Nat} {tokens rest : List Token} {value : Json},
    (∀ token ∈ tokens, token.Plain) → readValue fuel depth tokens = some (value, rest) →
      value.Sorted ∧ ∀ token ∈ rest, token.Plain
  | 0, _, _, _, _, _, h => by simp [readValue] at h
  | fuel + 1, depth, tokens, rest, value, hplain, h => by
    unfold readValue at h
    split at h
    · cases h
      exact ⟨hplain _ List.mem_cons_self _ rfl, fun token hmem =>
        hplain token (List.mem_cons_of_mem _ hmem)⟩
    · cases h
      exact ⟨trivial, fun token hmem => hplain token (List.mem_cons_of_mem _ hmem)⟩
    · cases h
      exact ⟨trivial, fun token hmem =>
        hplain token (List.mem_cons_of_mem _ (List.mem_cons_of_mem _ hmem))⟩
    · obtain ⟨⟨items, _⟩, hitems, heq⟩ := Option.map_eq_some_iff.1 h
      cases heq
      obtain ⟨hsorted, hrest⟩ := sorted_of_readItems
        (fun token hmem => hplain token (List.mem_cons_of_mem _ hmem)) hitems
      exact ⟨sorted_arr.2 hsorted, hrest⟩
    · cases h
      exact ⟨sorted_obj.2 ⟨List.Pairwise.nil, by simp⟩, fun token hmem =>
        hplain token (List.mem_cons_of_mem _ (List.mem_cons_of_mem _ hmem))⟩
    · obtain ⟨⟨members, _⟩, hmembers, heq⟩ := Option.map_eq_some_iff.1 h
      cases heq
      obtain ⟨hsorted, hrest⟩ := sorted_of_readMembers
        (fun token hmem => hplain token (List.mem_cons_of_mem _ hmem)) hmembers
      exact ⟨sorted_ofMembers hsorted, hrest⟩
    · cases h

theorem sorted_of_readItems : ∀ {fuel depth : Nat} {tokens rest : List Token} {items : List Json},
    (∀ token ∈ tokens, token.Plain) → readItems fuel depth tokens = some (items, rest) →
      (∀ item ∈ items, item.Sorted) ∧ ∀ token ∈ rest, token.Plain
  | 0, _, _, _, _, _, h => by simp [readItems] at h
  | fuel + 1, depth, tokens, rest, items, hplain, h => by
    unfold readItems at h
    obtain ⟨⟨item, left⟩, hitem, h⟩ := Option.bind_eq_some_iff.1 h
    obtain ⟨hsorted, hleft⟩ := sorted_of_readValue hplain hitem
    dsimp only at h
    split at h
    · cases h
      exact ⟨by simpa using hsorted, fun token hmem => hleft token (List.mem_cons_of_mem _ hmem)⟩
    · obtain ⟨⟨more, _⟩, hmore, heq⟩ := Option.bind_eq_some_iff.1 h
      cases heq
      obtain ⟨hmore, hrest⟩ := sorted_of_readItems
        (fun token hmem => hleft token (List.mem_cons_of_mem _ hmem)) hmore
      exact ⟨List.forall_mem_cons.2 ⟨hsorted, hmore⟩, hrest⟩
    · cases h

theorem sorted_of_readMembers : ∀ {fuel depth : Nat} {tokens rest : List Token}
    {members : List (String × Json)},
    (∀ token ∈ tokens, token.Plain) → readMembers fuel depth tokens = some (members, rest) →
      (∀ member ∈ members, member.2.Sorted) ∧ ∀ token ∈ rest, token.Plain
  | 0, _, _, _, _, _, h => by simp [readMembers] at h
  | fuel + 1, depth, tokens, rest, members, hplain, h => by
    unfold readMembers at h
    split at h
    · obtain ⟨⟨value, left⟩, hvalue, h⟩ := Option.bind_eq_some_iff.1 h
      obtain ⟨hsorted, hleft⟩ := sorted_of_readValue (fun token hmem =>
        hplain token (List.mem_cons_of_mem _ (List.mem_cons_of_mem _ hmem))) hvalue
      dsimp only at h
      split at h
      · cases h
        exact ⟨by simpa using hsorted, fun token hmem => hleft token (List.mem_cons_of_mem _ hmem)⟩
      · obtain ⟨⟨more, _⟩, hmore, heq⟩ := Option.bind_eq_some_iff.1 h
        cases heq
        obtain ⟨hmore, hrest⟩ := sorted_of_readMembers
          (fun token hmem => hleft token (List.mem_cons_of_mem _ hmem)) hmore
        exact ⟨List.forall_mem_cons.2 ⟨hsorted, hmore⟩, hrest⟩
      · cases h
    · cases h

end

/-- **Every document that is read has its keys in order.** -/
theorem sorted_of_ofText? {content : String} {document : Json}
    (h : ofText? content = some document) : document.Sorted := by
  have hplain : ∀ token ∈ Token.scan content, token.Plain :=
    fun _ hmem => Token.plain_of_mem_scanWith hmem
  simp only [ofText?, read] at h
  split at h
  · next hread =>
    split at hread
    · next hvalue =>
      cases hread
      cases h
      exact (sorted_of_readValue hplain hvalue).1
    all_goals cases hread
  · cases h

/-! ### Patches -/

theorem Operation.ofJson?_toJson (operation : Operation) :
    ofJson? operation.toJson = some operation := by
  cases operation <;>
    simp [toJson, ofMembers, ofJson?, ofFields?, Entries.ofList, Entries.lookup_insert, string?,
      Pointer.ofText?_text]

/-- **A patch reads back from its document.** -/
theorem Patch.ofJson?_toJson (patch : Patch) : ofJson? patch.toJson = some patch := by
  have hoperations : (patch.map Operation.toJson).mapM Operation.ofJson? = some patch := by
    induction patch with
    | nil => rfl
    | cons operation patch ih =>
      rw [List.map_cons, List.mapM_cons, Operation.ofJson?_toJson, ih]
      rfl
  rw [ofJson?, toJson, items?]
  exact hoperations

theorem Patch.eq_of_between_eq_nil {before after : Json} (hbefore : before.Sorted)
    (hafter : after.Sorted) (h : between before after = []) : before = after := by
  have hleads : perform? (between before after) before = some after := leads_self hbefore hafter
  rw [h] at hleads
  exact Option.some.inj hleads

/-- **The patch between two documents leads from the one to the other.**  There is none exactly when
the documents are equal; and where there is one, its written form is read as a patch that can be
performed to its end, and then the document is the other one. -/
theorem Patch.between?_leads {before after : Json} (hbefore : before.Sorted)
    (hafter : after.Sorted) :
    (between? before after = none ↔ before = after) ∧
      ∀ patch, between? before after = some patch →
        ∃ read, ofJson? patch.toJson = some read ∧ read.perform? before = some after := by
  refine ⟨⟨fun h => ?_, ?_⟩, fun patch h => ?_⟩
  · have hnil : between before after = [] := by simpa [between?] using h
    exact eq_of_between_eq_nil hbefore hafter hnil
  · rintro rfl
    exact between?_self hbefore
  · have hpatch : patch = between before after := by
      rw [between?] at h
      split at h
      · cases h
      · exact (Option.some.inj h).symm
    exact ⟨patch, ofJson?_toJson patch, hpatch ▸ leads_self hbefore hafter⟩

/-- A list becomes shorter, and members are put and replaced under keys with both escaped signs; both
documents are read from texts. -/
theorem Patch.between?_leads_escaped :
    let before := obj [("a/b", arr [.bool true, .null, .str "x"]), ("c", obj [("~", .null)])]
    let after := obj [("a/b", arr [.bool true]), ("c", obj [("/~1", .null), ("~", arr [])])]
    ofText? "\x7b\"a/b\": [true, null, \"x\"], \"c\": \x7b\"~\": null\x7d\x7d" = some before ∧
      ofText? "\x7b\"c\": \x7b\"~\": [], \"/~1\": null\x7d, \"a/b\": [true]\x7d" = some after ∧
      before.Sorted ∧ after.Sorted ∧
      between? before after = some [.remove ⟨["a/b", "1"]⟩, .remove ⟨["a/b", "1"]⟩,
        .add ⟨["c", "/~1"]⟩ .null, .replace ⟨["c", "~"]⟩ (arr [])] ∧
      ∃ read, ofJson? (toJson [.remove ⟨["a/b", "1"]⟩, .remove ⟨["a/b", "1"]⟩,
          .add ⟨["c", "/~1"]⟩ .null, .replace ⟨["c", "~"]⟩ (arr [])]) = some read ∧
        read.perform? before = some after := by
  intro before after
  have hreadBefore :
      ofText? "\x7b\"a/b\": [true, null, \"x\"], \"c\": \x7b\"~\": null\x7d\x7d" = some before := by
    decide +kernel
  have hreadAfter :
      ofText? "\x7b\"c\": \x7b\"~\": [], \"/~1\": null\x7d, \"a/b\": [true]\x7d" = some after := by
    decide +kernel
  have hbefore : before.Sorted := sorted_of_ofText? hreadBefore
  have hafter : after.Sorted := sorted_of_ofText? hreadAfter
  have hpatch : between? before after = some [.remove ⟨["a/b", "1"]⟩, .remove ⟨["a/b", "1"]⟩,
      .add ⟨["c", "/~1"]⟩ .null, .replace ⟨["c", "~"]⟩ (arr [])] := by
    decide
  exact ⟨hreadBefore, hreadAfter, hbefore, hafter, hpatch,
    (between?_leads hbefore hafter).2 _ hpatch⟩

end WebhookOperator.Json
