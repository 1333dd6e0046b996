import WebhookOperator.Outline
import WebhookOperator.Proofs.Text.Quoted

/-!
# Outlines are unambiguous

The one-line text of an outline tells its tree.  Where a value ends is not always said by the value
itself: `None` ends where a comma, a closing bracket or the end of the line comes.  So the statement
is about an outline and what may follow it (`Stops`).  Up to its first mark a text is a name or a
bare word, the marks after that say which kind of outline it is, and what stands inside is read in
the same way, up to the mark that closes it.

Only names and bare words may spoil this, so they have to be words (`Plain`).  What stands between
quotes may be anything.

* `cancel_opening`: the name, the kind and the rest of an outline can be told
* `cancel_joined`: entries with separators between them can be told up to the mark that closes them
* `Plain.told`: **an outline can be told from whatever may follow it**
* `Plain.eq_of_text_eq`: so outlines with the same text are the same
-/

namespace WebhookOperator.Outline

/-! ### Words -/

/-- The characters that end a word. -/
def marks : List Char := ['"', '(', ')', '[', ']', '\x7b', '\x7d', ',', ' ']

/-- Some characters, none of which is a mark. -/
def IsWord (text : String) : Prop :=
  text.toList ≠ [] ∧ text.toList.all (· ∉ marks)

instance (text : String) : Decidable (IsWord text) :=
  inferInstanceAs (Decidable (_ ∧ _))

theorem isWord_iff {text : String} :
    IsWord text ↔ text.toList ≠ [] ∧ ∀ c ∈ text.toList, c ∉ marks := by
  simp [IsWord]

theorem IsWord.not_mem_marks {text : String} (h : IsWord text) : ∀ c ∈ text.toList, c ∉ marks :=
  (isWord_iff.1 h).2

theorem IsWord.append_ne {text : String} (h : IsWord text) {mark : Char} (hmark : mark ∈ marks)
    (rest tail : List Char) : text.toList ++ rest ≠ mark :: tail := by
  intro heq
  cases hchars : text.toList with
  | nil => exact h.1 hchars
  | cons c chars =>
    rw [hchars] at heq
    have hc : c ∉ marks := h.not_mem_marks c (hchars ▸ List.mem_cons_self)
    exact hc (List.head_eq_of_cons_eq heq ▸ hmark)

/-- A word that may stand before the colon of a field. -/
def IsName (text : String) : Prop := IsWord text ∧ ':' ∉ text.toList

instance (text : String) : Decidable (IsName text) :=
  inferInstanceAs (Decidable (_ ∧ _))

/-- The outlines that may have a label. -/
def IsCollection : Outline → Prop
  | list _ | map _ => True
  | _ => False

/-- Outlines all of whose names and bare texts are words. -/
inductive Plain : Outline → Prop
  | word {text : String} (h : IsWord text) : Plain (word text)
  | quoted (text : String) : Plain (quoted text)
  | wrapped {name : String} {content : Outline} (hname : IsWord name) (h : Plain content) :
      Plain (wrapped name content)
  | labeled {name : String} {content : Outline} (hname : IsWord name)
      (hcontent : content.IsCollection) (h : Plain content) : Plain (labeled name content)
  | list {items : List Outline} (h : ∀ item ∈ items, Plain item) : Plain (list items)
  | map {entries : List (String × Outline)} (h : ∀ entry ∈ entries, Plain entry.2) :
      Plain (map entries)
  | record {name : String} {fields : List (String × Outline)} (hname : IsWord name)
      (hnames : ∀ field ∈ fields, IsName field.1) (h : ∀ field ∈ fields, Plain field.2) :
      Plain (record name fields)

/-! ### Entries with separators between them -/

/-- What may follow an outline in a text. -/
inductive Stops : List Char → Prop
  | nothing : Stops []
  | comma (rest : List Char) : Stops (',' :: rest)
  | parenthesis (rest : List Char) : Stops (')' :: rest)
  | bracket (rest : List Char) : Stops (']' :: rest)
  | curly (rest : List Char) : Stops ('\x7d' :: rest)
  | brace (rest : List Char) : Stops (' ' :: '\x7d' :: rest)

/-- What is written of a value can be told from whatever may follow it, among the `fine` values. -/
def Told {β : Type} (write : β → List Char) (fine : β → Prop) (value : β) : Prop :=
  ∀ other, fine other → ∀ rest rest', Stops rest → Stops rest' →
    write value ++ rest = write other ++ rest' → value = other ∧ rest = rest'

/-- Entries one after the other, with separators between them. -/
def joined {β : Type} (write : β → List Char) : List β → List Char
  | [] => []
  | entry :: entries => write entry ++ ((separator entries).toList ++ joined write entries)

theorem toList_separator_nil {β : Type} : (separator ([] : List β)).toList = [] := by
  simp [separator]

theorem toList_separator_cons {β : Type} (entry : β) (entries : List β) :
    (separator (entry :: entries)).toList = [',', ' '] := by
  simp [separator]

section Joined

variable {β : Type} {write : β → List Char} {fine : β → Prop} {entries others : List β}
  {close : Char} {more rest rest' : List Char}

theorem stops_joined (hclose : ∀ rest, Stops (close :: (more ++ rest))) (entries : List β)
    (rest : List Char) :
    Stops ((separator entries).toList ++ (joined write entries ++ close :: (more ++ rest))) := by
  cases entries with
  | nil => exact hclose rest
  | cons entry entries =>
    rw [toList_separator_cons]
    exact .comma _

/-- The separators say whether more entries come. -/
theorem cancel_separator (hcomma : close ≠ ',')
    (heq : (separator entries).toList ++ (joined write entries ++ close :: (more ++ rest)) =
      (separator others).toList ++ (joined write others ++ close :: (more ++ rest'))) :
    joined write entries ++ close :: (more ++ rest) =
      joined write others ++ close :: (more ++ rest') := by
  cases entries with
  | nil =>
    cases others with
    | nil => exact heq
    | cons other others =>
      rw [toList_separator_nil, toList_separator_cons] at heq
      exact absurd (List.head_eq_of_cons_eq heq) hcomma
  | cons entry entries =>
    cases others with
    | nil =>
      rw [toList_separator_nil, toList_separator_cons] at heq
      exact absurd (List.head_eq_of_cons_eq heq).symm hcomma
    | cons other others => exact List.append_cancel_left heq

/-- **Entries can be told up to the mark that closes them**, if each of them can be told and none
begins with that mark. -/
theorem cancel_joined (hclose : ∀ rest, Stops (close :: (more ++ rest))) (hcomma : close ≠ ',')
    (hnew : ∀ entry, fine entry → ∀ rest tail, write entry ++ rest ≠ close :: tail)
    (h : ∀ entry ∈ entries, Told write fine entry) (hfine : ∀ entry ∈ entries, fine entry)
    (hothers : ∀ other ∈ others, fine other)
    (heq : joined write entries ++ close :: (more ++ rest) =
      joined write others ++ close :: (more ++ rest')) :
    entries = others ∧ rest = rest' := by
  induction entries generalizing others with
  | nil =>
    cases others with
    | nil => exact ⟨rfl, List.append_cancel_left (List.tail_eq_of_cons_eq heq)⟩
    | cons other others =>
      rw [joined, joined, List.append_assoc] at heq
      exact absurd heq.symm (hnew other (hothers other List.mem_cons_self) _ _)
  | cons entry entries ih =>
    cases others with
    | nil =>
      rw [joined, joined, List.append_assoc] at heq
      exact absurd heq (hnew entry (hfine entry List.mem_cons_self) _ _)
    | cons other others =>
      rw [joined, joined, List.append_assoc, List.append_assoc, List.append_assoc,
        List.append_assoc] at heq
      obtain ⟨hentry, htail⟩ := h entry List.mem_cons_self other (hothers other List.mem_cons_self)
        _ _ (stops_joined hclose entries rest) (stops_joined hclose others rest') heq
      obtain ⟨hentries, hrest⟩ := ih (fun entry hmem => h entry (List.mem_cons_of_mem _ hmem))
        (fun entry hmem => hfine entry (List.mem_cons_of_mem _ hmem))
        (fun other hmem => hothers other (List.mem_cons_of_mem _ hmem))
        (cancel_separator hcomma htail)
      exact ⟨List.cons_eq_cons.2 ⟨hentry, hentries⟩, hrest⟩

end Joined

/-- An entry, with its key before it. -/
def entryChars (entry : String × Outline) : List Char :=
  (Text.quote entry.1).toList ++ ':' :: ' ' :: entry.2.text.toList

/-- A field, with its name before it. -/
def fieldChars (field : String × Outline) : List Char :=
  field.1.toList ++ ':' :: ' ' :: field.2.text.toList

theorem toList_itemsText (items : List Outline) :
    (itemsText items).toList = joined (·.text.toList) items := by
  induction items with
  | nil => rfl
  | cons item items ih => simp [itemsText, joined, ih]

theorem toList_entriesText (entries : List (String × Outline)) :
    (entriesText entries).toList = joined entryChars entries := by
  induction entries with
  | nil => rfl
  | cons entry entries ih => simp [entriesText, joined, entryChars, ih]

theorem toList_fieldsText (fields : List (String × Outline)) :
    (fieldsText fields).toList = joined fieldChars fields := by
  induction fields with
  | nil => rfl
  | cons field fields ih => simp [fieldsText, joined, fieldChars, ih]

/-! ### How an outline begins -/

inductive Kind where
  | word
  | quoted
  | wrapped
  | labeled
  | list
  | map
  | record

def kind : Outline → Kind
  | word _ => .word
  | quoted _ => .quoted
  | wrapped _ _ => .wrapped
  | labeled _ _ => .labeled
  | list _ => .list
  | map _ => .map
  | record _ _ => .record

/-- The bare text or the name that an outline begins with. -/
def opening : Outline → String
  | word text => text
  | quoted _ => ""
  | wrapped name _ => name
  | labeled name _ => name
  | list _ => ""
  | map _ => ""
  | record name _ => name

/-- What comes after the opening of an outline. -/
def body : Outline → List Char
  | word _ => []
  | quoted text => (Text.quote text).toList
  | wrapped _ content => '(' :: (content.text.toList ++ [')'])
  | labeled _ content => ' ' :: content.text.toList
  | list items => '[' :: (joined (·.text.toList) items ++ [']'])
  | map entries => '\x7b' :: (joined entryChars entries ++ ['\x7d'])
  | record _ fields => ' ' :: '\x7b' :: ' ' :: (joined fieldChars fields ++ [' ', '\x7d'])

theorem toList_text (outline : Outline) :
    outline.text.toList = outline.opening.toList ++ outline.body := by
  cases outline with
  | word text => simp [Outline.text, opening, body]
  | quoted text => simp [Outline.text, opening, body]
  | wrapped name content => simp [text, opening, body]
  | labeled name content => simp [text, opening, body]
  | list items => simp [text, opening, body, toList_itemsText]
  | map entries => simp [text, opening, body, toList_entriesText]
  | record name fields => simp [text, opening, body, toList_fieldsText]

/-- The kind of outline that goes on in this way after its opening. -/
def kindOf : List Char → Kind
  | '"' :: _ => .quoted
  | '(' :: _ => .wrapped
  | '[' :: _ => .list
  | '\x7b' :: _ => .map
  | ' ' :: '\x7b' :: ' ' :: _ => .record
  | ' ' :: '[' :: _ | ' ' :: '\x7b' :: _ => .labeled
  | _ => .word

variable {outline other : Outline} {rest rest' : List Char}

/-- What comes after the space of a collection that has a label. -/
theorem IsCollection.kindOf_cons (h : outline.IsCollection) (rest : List Char) :
    kindOf (' ' :: (outline.text.toList ++ rest)) = .labeled := by
  cases outline with
  | list items => simp [text, kindOf]
  | map entries =>
    cases entries with
    | nil => simp [text, entriesText, kindOf]
    | cons entry entries => simp [text, entriesText, Text.quote, kindOf]
  | _ => exact h.elim

theorem Plain.kindOf_body (h : Plain outline) (hrest : Stops rest) :
    kindOf (outline.body ++ rest) = outline.kind := by
  cases h with
  | word => cases hrest <;> rfl
  | quoted text => simp [body, Text.quote, kindOf, kind]
  | wrapped => rfl
  | labeled _ hcontent => exact hcontent.kindOf_cons rest
  | list => rfl
  | map => rfl
  | record => rfl

theorem mem_marks_of_body (outline : Outline) (h : Stops rest) :
    ∀ c ∈ (outline.body ++ rest).head?, c ∈ marks := by
  cases outline with
  | word text => cases h <;> simp [body, marks]
  | quoted text => simp [body, Text.quote, marks]
  | wrapped name content => simp [body, marks]
  | labeled name content => simp [body, marks]
  | list items => simp [body, marks]
  | map entries => simp [body, marks]
  | record name fields => simp [body, marks]

theorem Plain.not_mem_marks_of_opening (h : Plain outline) :
    ∀ c ∈ outline.opening.toList, c ∉ marks := by
  cases h with
  | word h => exact h.not_mem_marks
  | quoted => simp [opening]
  | wrapped hname => exact hname.not_mem_marks
  | labeled hname => exact hname.not_mem_marks
  | list => simp [opening]
  | map => simp [opening]
  | record hname => exact hname.not_mem_marks

theorem cancel_opening (h : Plain outline) (hother : Plain other) (hrest : Stops rest)
    (hrest' : Stops rest') (heq : outline.text.toList ++ rest = other.text.toList ++ rest') :
    outline.opening = other.opening ∧ outline.kind = other.kind ∧
      outline.body ++ rest = other.body ++ rest' := by
  rw [toList_text, toList_text, List.append_assoc, List.append_assoc] at heq
  obtain ⟨hopening, hbody⟩ := Text.span_cancel (p := (· ∉ marks)) h.not_mem_marks_of_opening
    hother.not_mem_marks_of_opening
    (fun c hhead => not_not_intro (mem_marks_of_body outline hrest c hhead))
    (fun c hhead => not_not_intro (mem_marks_of_body other hrest' c hhead)) heq
  refine ⟨String.toList_inj.1 hopening, ?_, hbody⟩
  rw [← h.kindOf_body hrest, ← hother.kindOf_body hrest', hbody]

theorem Plain.text_append_ne (h : Plain outline) (rest tail : List Char) :
    outline.text.toList ++ rest ≠ ']' :: tail := by
  rw [toList_text, List.append_assoc]
  cases h with
  | word h => exact h.append_ne (by decide) _ _
  | quoted => simp [opening, body, Text.quote]
  | wrapped hname => exact hname.append_ne (by decide) _ _
  | labeled hname => exact hname.append_ne (by decide) _ _
  | list => simp [opening, body]
  | map => simp [opening, body]
  | record hname => exact hname.append_ne (by decide) _ _

/-! ### Telling outlines -/

theorem entryChars_append_ne (entry : String × Outline) (rest tail : List Char) :
    entryChars entry ++ rest ≠ '\x7d' :: tail := by
  simp [entryChars, Text.quote]

/-- An entry can be told if its value can. -/
theorem told_entry {entry : String × Outline} (h : Told (·.text.toList) Plain entry.2) :
    Told entryChars (fun entry => Plain entry.2) entry := by
  intro other hother rest rest' hrest hrest' heq
  rw [entryChars, entryChars, List.append_assoc, List.append_assoc] at heq
  obtain ⟨hsame, htail⟩ := Text.prefixFree_quote entry.1 other.1 _ _ heq
  have hvalue : entry.2.text.toList ++ rest = other.2.text.toList ++ rest' :=
    List.tail_eq_of_cons_eq (List.tail_eq_of_cons_eq htail)
  obtain ⟨hvalues, hrests⟩ := h other.2 hother rest rest' hrest hrest' hvalue
  exact ⟨Prod.ext hsame hvalues, hrests⟩

/-- A field with a name whose value is plain. -/
def FieldPlain (field : String × Outline) : Prop :=
  IsName field.1 ∧ Plain field.2

theorem FieldPlain.fieldChars_append_ne {field : String × Outline} (h : FieldPlain field)
    (rest tail : List Char) : fieldChars field ++ rest ≠ ' ' :: tail := by
  rw [fieldChars, List.append_assoc]
  exact h.1.1.append_ne (by decide) _ _

/-- A field can be told if its value can. -/
theorem told_field {field : String × Outline} (hname : IsName field.1)
    (h : Told (·.text.toList) Plain field.2) : Told fieldChars FieldPlain field := by
  intro other hother rest rest' hrest hrest' heq
  rw [fieldChars, fieldChars, List.append_assoc, List.append_assoc] at heq
  have hplain {name : String} (h : IsName name) : ∀ c ∈ name.toList, c ≠ ':' :=
    fun c hc heq => h.2 (heq ▸ hc)
  obtain ⟨hsame, htail⟩ := Text.span_cancel (p := (· ≠ ':')) (hplain hname) (hplain hother.1)
    (by simp) (by simp) heq
  have hvalue : field.2.text.toList ++ rest = other.2.text.toList ++ rest' :=
    List.tail_eq_of_cons_eq (List.tail_eq_of_cons_eq htail)
  obtain ⟨hvalues, hrests⟩ := h other.2 hother.2 rest rest' hrest hrest' hvalue
  exact ⟨Prod.ext (String.toList_inj.1 hsame) hvalues, hrests⟩

/-- **An outline can be told from whatever may follow it.** -/
theorem Plain.told (h : Plain outline) : Told (·.text.toList) Plain outline := by
  -- on the tree; the marks decide which kind of outline the other one is
  induction h with
  | word h =>
    intro other hother rest rest' hrest hrest' heq
    obtain ⟨hopening, hkind, hbody⟩ := cancel_opening (.word h) hother hrest hrest' heq
    cases hother
    case word => exact ⟨congrArg _ hopening, hbody⟩
    all_goals cases hkind
  | quoted text =>
    intro other hother rest rest' hrest hrest' heq
    obtain ⟨-, hkind, hbody⟩ := cancel_opening (.quoted text) hother hrest hrest' heq
    cases hother
    case quoted text' =>
      obtain ⟨hsame, hrests⟩ := Text.prefixFree_quote text text' rest rest' hbody
      exact ⟨congrArg _ hsame, hrests⟩
    all_goals cases hkind
  | @wrapped name content hname h ih =>
    intro other hother rest rest' hrest hrest' heq
    obtain ⟨hopening, hkind, hbody⟩ := cancel_opening (.wrapped hname h) hother hrest hrest' heq
    cases hother
    case wrapped name' content' hname' h' =>
      have hinner : content.text.toList ++ ')' :: rest = content'.text.toList ++ ')' :: rest' := by
        simpa [body] using hbody
      obtain ⟨hcontent, hrests⟩ := ih content' h' _ _ (.parenthesis rest) (.parenthesis rest') hinner
      exact ⟨by rw [show name = name' from hopening, hcontent], List.tail_eq_of_cons_eq hrests⟩
    all_goals cases hkind
  | @labeled name content hname hcontent h ih =>
    intro other hother rest rest' hrest hrest' heq
    obtain ⟨hopening, hkind, hbody⟩ :=
      cancel_opening (.labeled hname hcontent h) hother hrest hrest' heq
    cases hother
    case labeled name' content' hname' hcontent' h' =>
      have hinner : content.text.toList ++ rest = content'.text.toList ++ rest' :=
        List.tail_eq_of_cons_eq hbody
      obtain ⟨hcontents, hrests⟩ := ih content' h' _ _ hrest hrest' hinner
      exact ⟨by rw [show name = name' from hopening, hcontents], hrests⟩
    all_goals cases hkind
  | @list items h ih =>
    intro other hother rest rest' hrest hrest' heq
    obtain ⟨-, hkind, hbody⟩ := cancel_opening (.list h) hother hrest hrest' heq
    cases hother
    case list items' h' =>
      have hinner : joined (·.text.toList) items ++ ']' :: ([] ++ rest) =
          joined (·.text.toList) items' ++ ']' :: ([] ++ rest') := by
        simpa [body] using hbody
      obtain ⟨hitems, hrests⟩ := cancel_joined (fun rest => .bracket rest) (by decide)
        (fun _ hplain => hplain.text_append_ne) ih h h' hinner
      exact ⟨by rw [hitems], hrests⟩
    all_goals cases hkind
  | @map entries h ih =>
    intro other hother rest rest' hrest hrest' heq
    obtain ⟨-, hkind, hbody⟩ := cancel_opening (.map h) hother hrest hrest' heq
    cases hother
    case map entries' h' =>
      have hinner : joined entryChars entries ++ '\x7d' :: ([] ++ rest) =
          joined entryChars entries' ++ '\x7d' :: ([] ++ rest') := by
        simpa [body] using hbody
      obtain ⟨hentries, hrests⟩ := cancel_joined (fun rest => .curly rest) (by decide)
        (fun entry _ => entryChars_append_ne entry)
        (fun entry hmem => told_entry (ih entry hmem)) h h' hinner
      exact ⟨by rw [hentries], hrests⟩
    all_goals cases hkind
  | @record name fields hname hnames h ih =>
    intro other hother rest rest' hrest hrest' heq
    obtain ⟨hopening, hkind, hbody⟩ :=
      cancel_opening (.record hname hnames h) hother hrest hrest' heq
    cases hother
    case record name' fields' hname' hnames' h' =>
      have hinner : joined fieldChars fields ++ ' ' :: (['\x7d'] ++ rest) =
          joined fieldChars fields' ++ ' ' :: (['\x7d'] ++ rest') := by
        simpa [body] using hbody
      obtain ⟨hfields, hrests⟩ := cancel_joined (fun rest => .brace rest) (by decide)
        (fun _ hplain => hplain.fieldChars_append_ne)
        (fun field hmem => told_field (hnames field hmem) (ih field hmem))
        (fun field hmem => ⟨hnames field hmem, h field hmem⟩)
        (fun field hmem => ⟨hnames' field hmem, h' field hmem⟩) hinner
      exact ⟨by rw [show name = name' from hopening, hfields], hrests⟩
    all_goals cases hkind

/-- **Plain outlines with the same text are the same.** -/
theorem Plain.eq_of_text_eq (h : Plain outline) (hother : Plain other)
    (heq : outline.text = other.text) : outline = other := by
  have hchars : outline.text.toList ++ [] = other.text.toList ++ [] := by rw [heq]
  exact (h.told other hother [] [] .nothing .nothing hchars).1

end WebhookOperator.Outline
