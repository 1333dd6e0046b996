import Mathlib.Data.List.TakeWhile
import WebhookOperator.Config
import WebhookOperator.Proofs.Json.Place

/-!
# The port of the service

The port is the one variable of the environment that can be refused.  Blank characters at the ends of
its value do not count, and what stands between them has to be a numeral.  A numeral is described from
the side of the writer: it is the decimal digits of its value, which zeros and a plus sign may come
before.

* `Text.pads_trim`, `Text.trim_of_pads`: what is left of a text without its blank ends
* `Digits.iff_ofDigitChars`: the texts of digits, and what they say
* `portNumber?_eq_some_iff`: a port is read from its numerals and from nothing else
* `Config.ofLookup_port_exactly`: what the port of a configuration is, and where it goes
-/

namespace WebhookOperator

/-! ### Blank ends -/

namespace Text

/-- A text stands in another one between blank characters. -/
def Pads (text padded : String) : Prop :=
  ∃ left right : List Char, (∀ c ∈ left, isBlank c) ∧ (∀ c ∈ right, isBlank c) ∧
    padded.toList = left ++ (text.toList ++ right)

/-- What trimming takes off is blank. -/
theorem pads_trim (text : String) : Pads (trim text) text := by
  refine ⟨text.toList.takeWhile isBlank,
    ((text.toList.dropWhile isBlank).reverse.takeWhile isBlank).reverse, ?_, ?_, ?_⟩
  · intro c hmem
    exact List.mem_takeWhile_imp hmem
  · intro c hmem
    exact List.mem_takeWhile_imp (List.mem_reverse.1 hmem)
  · rw [trim, String.toList_ofList, ← List.reverse_append, List.takeWhile_append_dropWhile,
      List.reverse_reverse, List.takeWhile_append_dropWhile]

theorem dropWhile_isBlank_of_forall {chars : List Char} (h : ∀ c ∈ chars, isBlank c = false)
    {right : List Char} (hright : ∀ c ∈ right, isBlank c) :
    (chars ++ right).dropWhile isBlank = if chars = [] then [] else chars ++ right := by
  cases chars with
  | nil => simpa [List.dropWhile_eq_nil_iff] using hright
  | cons c chars => simp [h c List.mem_cons_self]

theorem trim_of_pads {text padded : String} (h : Pads text padded)
    (hsolid : ∀ c ∈ text.toList, isBlank c = false) : trim padded = text := by
  obtain ⟨left, right, hleft, hright, heq⟩ := h
  have hreverse : ∀ c ∈ text.toList.reverse, isBlank c = false := by simpa using hsolid
  have hnone : ∀ c ∈ ([] : List Char), isBlank c := by simp
  rw [trim, heq, List.dropWhile_append_of_pos hleft, dropWhile_isBlank_of_forall hsolid hright]
  refine String.toList_inj.1 ?_
  rw [String.toList_ofList]
  split
  next hempty => rw [hempty]; rfl
  next hne =>
    have hback := dropWhile_isBlank_of_forall hreverse hnone
    rw [List.append_nil] at hback
    rw [List.reverse_append, List.dropWhile_append_of_pos (by simpa using hright), hback,
      if_neg (by simpa using hne), List.reverse_reverse]

theorem isBlank_of_isDigit {c : Char} (h : c.isDigit) : isBlank c = false := by
  have hrange := Json.Pointer.toNat_of_isDigit h
  simp [isBlank, blankRanges]
  omega

end Text

/-! ### Numerals -/

/-- Zeros, and the decimal digits of a number. -/
def Digits (value : Nat) (chars : List Char) : Prop :=
  ∃ zeros, chars = List.replicate zeros '0' ++ Nat.toDigits 10 value

/-- A numeral of a number: digits, which may follow a plus sign. -/
inductive Numeral (value : Nat) (text : String) : Prop
  | plain (digits : Digits value text.toList) : Numeral value text
  | signed {chars : List Char} (sign : text.toList = '+' :: chars) (digits : Digits value chars) :
      Numeral value text

theorem ofDigitChars_replicate_append (zeros : Nat) (chars : List Char) :
    Nat.ofDigitChars 10 (List.replicate zeros '0' ++ chars) 0 = Nat.ofDigitChars 10 chars 0 := by
  induction zeros with
  | zero => rfl
  | succ zeros ih =>
    rw [List.replicate_succ, List.cons_append, Nat.ofDigitChars_cons]
    exact ih

/-- **The texts of digits**: some digits, and nothing else.  There may be any number of zeros before
the first digit that counts. -/
theorem Digits.iff_ofDigitChars {value : Nat} {chars : List Char} :
    Digits value chars ↔
      chars ≠ [] ∧ (∀ c ∈ chars, c.isDigit) ∧ Nat.ofDigitChars 10 chars 0 = value := by
  constructor
  · rintro ⟨zeros, rfl⟩
    refine ⟨by simp, fun c hmem => ?_, ?_⟩
    · rcases List.mem_append.1 hmem with hzero | hdigit
      · rw [List.eq_of_mem_replicate hzero]
        rfl
      · exact Nat.isDigit_of_mem_toDigits (by decide) (by decide) hdigit
    · rw [ofDigitChars_replicate_append, Nat.ofDigitChars_ten_toDigits]
  · rintro ⟨hne, hdigits, rfl⟩
    induction chars with
    | nil => exact absurd rfl hne
    | cons c chars ih =>
      -- a zero in front says nothing, unless it is the only digit
      by_cases hzero : c = '0' ∧ chars ≠ []
      · obtain ⟨rfl, hchars⟩ := hzero
        obtain ⟨zeros, hrest⟩ := ih hchars fun other hmem => hdigits other (List.mem_cons_of_mem _ hmem)
        refine ⟨zeros + 1, ?_⟩
        rw [List.replicate_succ, List.cons_append, Nat.ofDigitChars_cons]
        exact congrArg _ hrest
      · refine ⟨0, (Json.Pointer.toDigits_ofDigitChars hne hdigits fun hhead => ?_).symm⟩
        obtain rfl : c = '0' := Option.some.inj hhead
        obtain rfl : chars = [] := by
          by_contra hchars
          exact hzero ⟨rfl, hchars⟩
        exact Nat.le_refl 1

theorem Digits.isDigit {value : Nat} {chars : List Char} (h : Digits value chars) :
    ∀ c ∈ chars, c.isDigit :=
  (Digits.iff_ofDigitChars.1 h).2.1

theorem Digits.head_ne {value : Nat} {chars rest : List Char} (h : Digits value chars) :
    chars ≠ '+' :: rest := by
  rintro rfl
  have := h.isDigit '+' List.mem_cons_self
  contradiction

def unsigned (text : String) : List Char :=
  match text.toList with
  | '+' :: rest => rest
  | whole => whole

theorem unsigned_of_plus {text : String} {rest : List Char} (h : text.toList = '+' :: rest) :
    unsigned text = rest := by
  simp [unsigned, h]

theorem unsigned_of_ne {text : String} (h : ∀ rest, text.toList ≠ '+' :: rest) :
    unsigned text = text.toList := by
  rw [unsigned]
  split
  next rest heq => exact absurd heq (h rest)
  next => rfl

theorem numeral_iff_digits {value : Nat} {text : String} :
    Numeral value text ↔ Digits value (unsigned text) := by
  constructor
  · intro h
    cases h with
    | plain digits =>
      rw [unsigned_of_ne fun _ => digits.head_ne]
      exact digits
    | signed sign digits =>
      rw [unsigned_of_plus sign]
      exact digits
  · intro h
    by_cases hsign : ∃ rest, text.toList = '+' :: rest
    · obtain ⟨rest, hsign⟩ := hsign
      rw [unsigned_of_plus hsign] at h
      exact .signed hsign h
    · rw [unsigned_of_ne fun rest heq => hsign ⟨rest, heq⟩] at h
      exact .plain h

namespace Numeral

variable {value : Nat} {text : String}

theorem isBlank_eq_false (h : Numeral value text) : ∀ c ∈ text.toList, Text.isBlank c = false := by
  intro c hmem
  cases h with
  | plain digits => exact Text.isBlank_of_isDigit (digits.isDigit c hmem)
  | signed sign digits =>
    rw [sign] at hmem
    rcases List.mem_cons.1 hmem with rfl | hmem
    · rfl
    · exact Text.isBlank_of_isDigit (digits.isDigit c hmem)

theorem toList_ne_nil (h : Numeral value text) : text.toList ≠ [] := by
  cases h with
  | plain digits => exact (Digits.iff_ofDigitChars.1 digits).1
  | signed sign _ =>
    rw [sign]
    exact List.cons_ne_nil _ _

theorem unique {other : Nat} (h : Numeral value text) (h' : Numeral other text) : value = other := by
  rw [numeral_iff_digits] at h h'
  rw [← (Digits.iff_ofDigitChars.1 h).2.2, (Digits.iff_ofDigitChars.1 h').2.2]

theorem eq_of_pads (h : Numeral value text) {padded : String} (hpads : Text.Pads text padded)
    {other : Nat} {text' : String} (h' : Numeral other text') (hpads' : Text.Pads text' padded) :
    value = other := by
  have htext := Text.trim_of_pads hpads h.isBlank_eq_false
  have htext' := Text.trim_of_pads hpads' h'.isBlank_eq_false
  obtain rfl := htext.symm.trans htext'
  exact h.unique h'

/-- Between blank ends there is something else. -/
theorem isBlankText_eq_false (h : Numeral value text) {padded : String}
    (hpads : Text.Pads text padded) : Text.isBlankText padded = false := by
  obtain ⟨left, right, _, _, heq⟩ := hpads
  obtain ⟨c, hmem⟩ := List.exists_mem_of_ne_nil _ h.toList_ne_nil
  rw [Text.isBlankText, heq, List.all_eq_false]
  refine ⟨c, by simp [hmem], ?_⟩
  rw [h.isBlank_eq_false c hmem]
  decide

end Numeral

/-! ### Reading a port -/

theorem portNumber?_eq (text : String) :
    portNumber? text =
      if (unsigned text).isEmpty || !(unsigned text).all Char.isDigit then none
      else if Nat.ofDigitChars 10 (unsigned text) 0 < UInt16.size then
        some (UInt16.ofNat (Nat.ofDigitChars 10 (unsigned text) 0))
      else none := by
  simp only [Nat.ofDigitChars_eq_foldl, Nat.mul_comm 10]
  rfl

/-- **A port is read from its numerals**, and from nothing else. -/
theorem portNumber?_eq_some_iff {text : String} {port : UInt16} :
    portNumber? text = some port ↔ Numeral port.toNat text := by
  rw [numeral_iff_digits, Digits.iff_ofDigitChars, portNumber?_eq]
  constructor
  · intro h
    split at h
    next => cases h
    next hdigits =>
      split at h
      next hlt =>
        obtain rfl := Option.some.inj h
        rw [UInt16.toNat_ofNat_of_lt' hlt]
        simpa using hdigits
      next => cases h
  · rintro ⟨hne, hdigits, hvalue⟩
    have hlt : Nat.ofDigitChars 10 (unsigned text) 0 < UInt16.size := by
      rw [hvalue]
      exact port.toNat_lt
    rw [if_neg (by simpa using ⟨hne, hdigits⟩), if_pos hlt, hvalue, UInt16.ofNat_toNat]

/-- Zeros and a plus sign may come before the digits that count, and nothing else. -/
example : portNumber? "+00443" = some 443 ∧ portNumber? "++443" = none ∧ portNumber? "65536" = none := by
  decide

/-! ### The configuration -/

namespace Config

/-- What the port of a configuration is, given the value of its variable if that is set.  It is 443
where the variable is unset or blank, and else the number that the value is a numeral of, which has to
be at most 65535. -/
inductive ReadsPort (setting : Option String) : Except ConfigError Nat → Prop
  | standard (unset : ∀ value, setting = some value → Text.isBlankText value) :
      ReadsPort setting (.ok 443)
  | numeral {value text : String} {port : Nat} (given : setting = some value)
      (padded : Text.Pads text value) (numeral : Numeral port text) (small : port ≤ 65535) :
      ReadsPort setting (.ok port)
  | refused {value : String} (given : setting = some value) (solid : Text.isBlankText value = false)
      (none : ∀ text port, Text.Pads text value → Numeral port text → 65535 < port) :
      ReadsPort setting (.error (.invalidPort portVariable value))

variable {lookup : String → Option String}

theorem ofLookup_of_unset
    (h : (lookup portVariable).filter (fun value => !Text.isBlankText value) = none) :
    (ofLookup lookup).map (·.servicePort.toNat) = .ok 443 := by
  simp only [ofLookup, h]
  rfl

theorem ofLookup_of_port {value : String} {port : UInt16}
    (h : (lookup portVariable).filter (fun value => !Text.isBlankText value) = some value)
    (hport : portNumber? (Text.trim value) = some port) :
    (ofLookup lookup).map (·.servicePort.toNat) = .ok port.toNat := by
  simp only [ofLookup, h, hport]
  rfl

theorem ofLookup_of_none {value : String}
    (h : (lookup portVariable).filter (fun value => !Text.isBlankText value) = some value)
    (hport : portNumber? (Text.trim value) = none) :
    (ofLookup lookup).map (·.servicePort.toNat) = .error (.invalidPort portVariable value) := by
  simp only [ofLookup, h, hport]
  rfl

theorem filter_eq_none_iff {setting : Option String} :
    setting.filter (fun value => !Text.isBlankText value) = none ↔
      ∀ value, setting = some value → Text.isBlankText value := by
  cases setting <;> simp

theorem filter_eq_some_iff {setting : Option String} {value : String} :
    setting.filter (fun value => !Text.isBlankText value) = some value ↔
      setting = some value ∧ Text.isBlankText value = false := by
  simp [Option.filter_eq_some_iff]

theorem readsPort_ofLookup (lookup : String → Option String) :
    ReadsPort (lookup portVariable) ((ofLookup lookup).map (·.servicePort.toNat)) := by
  cases hgiven : (lookup portVariable).filter (fun value => !Text.isBlankText value) with
  | none =>
    rw [ofLookup_of_unset hgiven]
    exact .standard (filter_eq_none_iff.1 hgiven)
  | some value =>
    obtain ⟨hset, hsolid⟩ := filter_eq_some_iff.1 hgiven
    cases hport : portNumber? (Text.trim value) with
    | some port =>
      rw [ofLookup_of_port hgiven hport]
      exact .numeral hset (Text.pads_trim value) (portNumber?_eq_some_iff.1 hport)
        (Nat.le_of_lt_succ port.toNat_lt)
    | none =>
      rw [ofLookup_of_none hgiven hport]
      refine .refused hset hsolid ?_
      intro text port hpads hnumeral
      by_contra hle
      have hlt : port < UInt16.size := by
        have : UInt16.size = 65536 := rfl
        omega
      rw [Text.trim_of_pads hpads hnumeral.isBlank_eq_false] at hport
      rw [← UInt16.toNat_ofNat_of_lt' hlt, ← portNumber?_eq_some_iff, hport] at hnumeral
      cases hnumeral

/-- There is one outcome for a setting. -/
theorem ReadsPort.unique {setting : Option String} {outcome other : Except ConfigError Nat}
    (h : ReadsPort setting outcome) (h' : ReadsPort setting other) : outcome = other := by
  cases h with
  | standard unset =>
    cases h' with
    | standard _ => rfl
    | numeral given padded numeral _ =>
      exact absurd (unset _ given) (by simp [numeral.isBlankText_eq_false padded])
    | refused given solid _ => exact absurd (unset _ given) (by simp [solid])
  | numeral given padded numeral small =>
    cases h' with
    | standard unset =>
      exact absurd (unset _ given) (by simp [numeral.isBlankText_eq_false padded])
    | numeral given' padded' numeral' small' =>
      obtain rfl := Option.some.inj (given.symm.trans given')
      rw [numeral.eq_of_pads padded numeral' padded']
    | refused given' _ none =>
      obtain rfl := Option.some.inj (given.symm.trans given')
      exact absurd small (Nat.not_le_of_lt (none _ _ padded numeral))
  | refused given solid none =>
    cases h' with
    | standard unset => exact absurd (unset _ given) (by simp [solid])
    | numeral given' padded' numeral' small' =>
      obtain rfl := Option.some.inj (given.symm.trans given')
      exact absurd small' (Nat.not_le_of_lt (none _ _ padded' numeral'))
    | refused given' _ _ =>
      obtain rfl := Option.some.inj (given.symm.trans given')
      rfl

/-- A numeral of zero is the one thing that makes the port zero. -/
theorem ReadsPort.zero_iff {setting : Option String} {port : Nat}
    (h : ReadsPort setting (.ok port)) :
    port = 0 ↔ ∃ value text, setting = some value ∧ Text.Pads text value ∧ Numeral 0 text := by
  constructor
  · rintro rfl
    cases h with
    | numeral given padded numeral _ => exact ⟨_, _, given, padded, numeral⟩
  · rintro ⟨value, text, given, padded, numeral⟩
    have hzero : ReadsPort setting (.ok 0) := .numeral given padded numeral (Nat.zero_le _)
    exact Except.ok.inj (h.unique hzero)

theorem toInt_port_serviceTarget (config : Config) :
    config.serviceTarget.port.toInt = config.servicePort.toNat := by
  have hlt := config.servicePort.toNat_lt
  exact Int32.toInt_ofNat_of_lt (by omega)

/-- A registration object says that its webhook is reached at a port. -/
def SaysPort {kind : WebhookKind} (object : WebhookConfiguration kind) (port : Nat) : Prop :=
  ∃ webhook service said, object.webhooks = some [webhook] ∧
    webhook.clientConfig.service = some service ∧ service.port = some said ∧ said.toInt = port

theorem saysPort_desired {kind : WebhookKind} (descriptor : Descriptor) (config : Config)
    (caBundle : List UInt8) :
    SaysPort (descriptor.desired kind config.serviceTarget caBundle) config.servicePort.toNat :=
  ⟨_, _, _, rfl, rfl, rfl, config.toInt_port_serviceTarget⟩

/-- **The port of a configuration.**  It is 443 where the variable is unset or blank, and else the number
that the value is a numeral of between its blank ends; a value that is no numeral, or that of a number
above 65535, is refused as it stands.  All registration objects say this port.  It is one that a
service can have, unless the value is a numeral of zero. -/
theorem ofLookup_port_exactly (lookup : String → Option String) :
    (∀ outcome, (ofLookup lookup).map (·.servicePort.toNat) = outcome ↔
      ReadsPort (lookup portVariable) outcome) ∧
    ∀ config, ofLookup lookup = .ok config →
      (∀ (kind : WebhookKind) (descriptor : Descriptor) (caBundle : List UInt8),
        SaysPort (descriptor.desired kind config.serviceTarget caBundle) config.servicePort.toNat) ∧
      ((1 ≤ config.servicePort.toNat ∧ config.servicePort.toNat ≤ 65535) ↔
        ¬∃ value text, lookup portVariable = some value ∧ Text.Pads text value ∧ Numeral 0 text) := by
  constructor
  · intro outcome
    constructor
    · rintro rfl
      exact readsPort_ofLookup lookup
    · intro h
      exact (readsPort_ofLookup lookup).unique h
  · intro config hconfig
    have hread : ReadsPort (lookup portVariable) (.ok config.servicePort.toNat) := by
      have h := readsPort_ofLookup lookup
      rw [hconfig] at h
      exact h
    have hlt := config.servicePort.toNat_lt
    refine ⟨fun kind descriptor caBundle => saysPort_desired descriptor config caBundle, ?_⟩
    rw [← ReadsPort.zero_iff hread]
    omega

def zeroPort (name : String) : Option String := if name = portVariable then some "0" else none

/-- Zero is taken for a port, although it is not one that a service can have. -/
theorem zero_is_taken :
    (∃ config, ofLookup zeroPort = .ok config ∧ config.servicePort = 0) ∧
    ¬((∀ value, zeroPort portVariable = some value → Text.isBlankText value) ∨
      ∃ value text port, zeroPort portVariable = some value ∧ Text.Pads text value ∧
        Numeral port text ∧ 1 ≤ port ∧ port ≤ 65535) := by
  constructor
  · exact ⟨_, rfl, rfl⟩
  · have hpads : Text.Pads "0" "0" := ⟨[], [], by simp, by simp, rfl⟩
    have hzero : Numeral 0 "0" := .plain ⟨0, rfl⟩
    rintro (hunset | ⟨value, text, port, hvalue, hpads', hnumeral, hport, -⟩)
    · exact absurd (hunset "0" rfl) (by decide)
    · obtain rfl : "0" = value := Option.some.inj hvalue
      obtain rfl := hzero.eq_of_pads hpads hnumeral hpads'
      exact absurd hport (by decide)

end Config

end WebhookOperator
