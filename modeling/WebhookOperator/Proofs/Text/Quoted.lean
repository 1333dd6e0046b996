import WebhookOperator.Text.Quoted

/-!
# Quoted text is unambiguous

A text between quotes can be told from whatever follows it, whatever characters it has.  A character
is written as itself only if it is neither a quote nor a backslash.  All others begin with a
backslash, and the character after that tells the short escapes from each other and from a code
point, which runs up to its closing brace.

* `span_cancel`: two runs of one class of characters, each followed by another character
* `Quoted`, `quoted_quoteChar`: the three ways to write a character
* `prefixFree_quoteChar`: whichever it is, the character can be told from what follows
* `prefixFree_quote`: **so can a quoted text**
-/

namespace WebhookOperator.Text

/-- What is written of a value can be told from whatever follows it. -/
def PrefixFree {α : Type} (write : α → List Char) : Prop :=
  ∀ a b rest rest', write a ++ rest = write b ++ rest' → a = b ∧ rest = rest'

theorem PrefixFree.flatMap {α : Type} {write : α → List Char} (h : PrefixFree write) {stop : Char}
    (hstop : ∀ a rest tail, write a ++ rest ≠ stop :: tail) {as bs : List α}
    {rest rest' : List Char}
    (heq : as.flatMap write ++ stop :: rest = bs.flatMap write ++ stop :: rest') :
    as = bs ∧ rest = rest' := by
  induction as generalizing bs with
  | nil =>
    cases bs with
    | nil => exact ⟨rfl, List.tail_eq_of_cons_eq heq⟩
    | cons b bs =>
      rw [List.flatMap_cons, List.append_assoc] at heq
      exact absurd heq.symm (hstop b _ _)
  | cons a as ih =>
    cases bs with
    | nil =>
      rw [List.flatMap_cons, List.append_assoc] at heq
      exact absurd heq (hstop a _ _)
    | cons b bs =>
      rw [List.flatMap_cons, List.flatMap_cons, List.append_assoc, List.append_assoc] at heq
      obtain ⟨hhead, htail⟩ := h a b _ _ heq
      obtain ⟨hrun, hrest⟩ := ih htail
      exact ⟨List.cons_eq_cons.2 ⟨hhead, hrun⟩, hrest⟩

/-- Two runs of one class of characters are equal when each is all of its class that there is. -/
theorem span_cancel {p : Char → Prop} {run run' rest rest' : List Char} (hrun : ∀ c ∈ run, p c)
    (hrun' : ∀ c ∈ run', p c) (hrest : ∀ c ∈ rest.head?, ¬p c) (hrest' : ∀ c ∈ rest'.head?, ¬p c)
    (heq : run ++ rest = run' ++ rest') : run = run' ∧ rest = rest' := by
  induction run generalizing run' with
  | nil =>
    cases run' with
    | nil => exact ⟨rfl, heq⟩
    | cons d run' =>
      have hhead : d ∈ rest.head? := by simp [show rest = d :: (run' ++ rest') from heq]
      exact absurd (hrun' d List.mem_cons_self) (hrest d hhead)
  | cons c run ih =>
    cases run' with
    | nil =>
      have hhead : c ∈ rest'.head? := by simp [show rest' = c :: (run ++ rest) from heq.symm]
      exact absurd (hrun c List.mem_cons_self) (hrest' c hhead)
    | cons d run' =>
      obtain ⟨hhead, htail⟩ := List.cons.inj heq
      obtain ⟨hsame, hrest⟩ := ih (fun e hmem => hrun e (List.mem_cons_of_mem _ hmem))
        (fun e hmem => hrun' e (List.mem_cons_of_mem _ hmem)) htail
      exact ⟨List.cons_eq_cons.2 ⟨hhead, hsame⟩, hrest⟩

/-! ### Code points -/

theorem digitChar_inj {m n : Nat} (hm : m < 16) (hn : n < 16)
    (h : Nat.digitChar m = Nat.digitChar n) : m = n := by
  have hall : ∀ m < 16, ∀ n < 16, Nat.digitChar m = Nat.digitChar n → m = n := by decide
  exact hall m hm n hn h

theorem toDigits_inj {b m n : Nat} (hone : 1 < b) (hb : b ≤ 16)
    (h : Nat.toDigits b m = Nat.toDigits b n) : m = n := by
  induction m using Nat.strongRecOn generalizing n with
  | ind m ih =>
    -- the number of digits tells whether both have more than one
    have hlength := congrArg List.length h
    have hpos (k : Nat) : 0 < (Nat.toDigits b k).length := Nat.length_toDigits_pos
    have hdigit (k : Nat) : k % b < 16 := Nat.lt_of_lt_of_le (Nat.mod_lt k (by omega)) hb
    rcases Nat.lt_or_ge m b with hm | hm <;> rcases Nat.lt_or_ge n b with hn | hn
    · rw [Nat.toDigits_of_lt_base hm, Nat.toDigits_of_lt_base hn] at h
      exact digitChar_inj (by omega) (by omega) (List.head_eq_of_cons_eq h)
    · rw [Nat.toDigits_of_lt_base hm, Nat.toDigits_of_base_le hone hn,
        List.length_append, List.length_singleton, List.length_singleton] at hlength
      have := hpos (n / b)
      omega
    · rw [Nat.toDigits_of_lt_base hn, Nat.toDigits_of_base_le hone hm,
        List.length_append, List.length_singleton, List.length_singleton] at hlength
      have := hpos (m / b)
      omega
    · rw [Nat.toDigits_of_base_le hone hm, Nat.toDigits_of_base_le hone hn] at h
      obtain ⟨hfirst, hlast⟩ := List.append_inj' h rfl
      have hquotient := ih (m / b) (Nat.div_lt_self (by omega) hone) hfirst
      have hremainder := digitChar_inj (hdigit m) (hdigit n) (List.head_eq_of_cons_eq hlast)
      rw [← Nat.div_add_mod m b, hquotient, hremainder, Nat.div_add_mod]

theorem ne_brace_of_mem_toDigits {n : Nat} {c : Char} (h : c ∈ Nat.toDigits 16 n) :
    c ≠ '\x7d' := by
  induction n using Nat.strongRecOn with
  | ind n ih =>
    rw [Nat.toDigits_eq_if (by decide)] at h
    split at h
    next =>
      rw [List.mem_singleton.1 h]
      exact Nat.digitChar_ne _ (by decide)
    next hge =>
      rcases List.mem_append.1 h with h | h
      · exact ih (n / 16) (by omega) h
      · rw [List.mem_singleton.1 h]
        exact Nat.digitChar_ne _ (by decide)

/-! ### Characters -/

/-- The characters with a short escape, each with what comes after the backslash. -/
def shortEscapes : List (Char × Char) :=
  [('"', '"'), ('\\', '\\'), ('\n', 'n'), ('\r', 'r'), ('\t', 't'), ('\x00', '0')]

/-- The ways to write a character between quotes. -/
inductive Quoted (c : Char) : List Char → Prop
  | plain (hquote : c ≠ '"') (hbackslash : c ≠ '\\') : Quoted c [c]
  | short {letter : Char} (h : (c, letter) ∈ shortEscapes) : Quoted c ['\\', letter]
  | code : Quoted c ('\\' :: 'u' :: '\x7b' :: (Nat.toDigits 16 c.toNat ++ ['\x7d']))

theorem quoted_quoteChar (c : Char) : Quoted c (quoteChar c) := by
  unfold quoteChar
  split
  case h_7 hquote hbackslash _ _ _ _ =>
    split
    · exact .plain hquote hbackslash
    · exact .code
  all_goals exact .short (by decide)

theorem Quoted.cancel {c d : Char} {written written' rest rest' : List Char} (h : Quoted c written)
    (h' : Quoted d written') (heq : written ++ rest = written' ++ rest') :
    c = d ∧ rest = rest' := by
  have hletter : ∀ short ∈ shortEscapes, short.2 ≠ 'u' := by simp [shortEscapes]
  have hshort : ∀ short ∈ shortEscapes, ∀ short' ∈ shortEscapes,
      short.2 = short'.2 → short.1 = short'.1 := by simp [shortEscapes]
  cases h with
  | plain hquote hbackslash =>
    cases h' with
    | plain => exact List.cons.inj heq
    | short => exact absurd (List.head_eq_of_cons_eq heq) hbackslash
    | code => exact absurd (List.head_eq_of_cons_eq heq) hbackslash
  | short h =>
    cases h' with
    | plain hquote hbackslash => exact absurd (List.head_eq_of_cons_eq heq).symm hbackslash
    | short h' =>
      have htail := List.tail_eq_of_cons_eq heq
      exact ⟨hshort _ h _ h' (List.head_eq_of_cons_eq htail), List.tail_eq_of_cons_eq htail⟩
    | code =>
      have htail := List.tail_eq_of_cons_eq heq
      exact absurd (List.head_eq_of_cons_eq htail) (hletter _ h)
  | code =>
    cases h' with
    | plain hquote hbackslash => exact absurd (List.head_eq_of_cons_eq heq).symm hbackslash
    | short h' =>
      have htail := List.tail_eq_of_cons_eq heq
      exact absurd (List.head_eq_of_cons_eq htail).symm (hletter _ h')
    | code =>
      have hdigits : Nat.toDigits 16 c.toNat ++ '\x7d' :: rest =
          Nat.toDigits 16 d.toNat ++ '\x7d' :: rest' := by simpa using heq
      obtain ⟨hsame, hrest⟩ := span_cancel (p := (· ≠ '\x7d')) (fun _ => ne_brace_of_mem_toDigits)
        (fun _ => ne_brace_of_mem_toDigits) (by simp) (by simp) hdigits
      exact ⟨Char.toNat_inj.1 (toDigits_inj (by decide) (by decide) hsame), List.tail_eq_of_cons_eq hrest⟩

theorem Quoted.append_ne {c : Char} {written : List Char} (h : Quoted c written)
    (rest tail : List Char) : written ++ rest ≠ '"' :: tail := by
  intro heq
  cases h with
  | plain hquote => exact hquote (List.head_eq_of_cons_eq heq)
  | short => exact absurd (List.head_eq_of_cons_eq heq) (by decide)
  | code => exact absurd (List.head_eq_of_cons_eq heq) (by decide)

/-- **A character between quotes can be told from whatever follows it.** -/
theorem prefixFree_quoteChar : PrefixFree quoteChar :=
  fun c d _ _ heq => (quoted_quoteChar c).cancel (quoted_quoteChar d) heq

theorem toList_quote_append (text : String) (rest : List Char) :
    (quote text).toList ++ rest = '"' :: (text.toList.flatMap quoteChar ++ '"' :: rest) := by
  simp [quote]

/-- **A text between quotes can be told from whatever follows it.** -/
theorem prefixFree_quote : PrefixFree fun text => (quote text).toList := by
  intro text text' rest rest' heq
  rw [toList_quote_append, toList_quote_append] at heq
  obtain ⟨hchars, hrest⟩ := prefixFree_quoteChar.flatMap (fun c => (quoted_quoteChar c).append_ne)
    (List.tail_eq_of_cons_eq heq)
  exact ⟨String.toList_inj.1 hchars, hrest⟩

end WebhookOperator.Text
