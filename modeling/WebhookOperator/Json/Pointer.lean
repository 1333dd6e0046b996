import WebhookOperator.Json.Basic

/-!
# JSON pointers

A pointer names a place in a document by the keys and positions that lead to it. Its text puts a
slash before each step and writes `~` and `/` inside a step as `~0` and `~1`.

* `Pointer.ofText?_text`: a pointer reads back from its text
-/

namespace WebhookOperator.Json

/-- The steps from the root of a document to a place in it. -/
structure Pointer where
  steps : List String
deriving DecidableEq, Inhabited

namespace Pointer

def root : Pointer := ⟨[]⟩

def key (pointer : Pointer) (name : String) : Pointer := ⟨pointer.steps ++ [name]⟩

def item (pointer : Pointer) (position : Nat) : Pointer := pointer.key (Nat.repr position)

/-- How a character is written inside a step. -/
def escapeChar (c : Char) : List Char :=
  if c = '~' then ['~', '0'] else if c = '/' then ['~', '1'] else [c]

def stepsText : List String → List Char
  | [] => []
  | step :: steps => '/' :: step.toList.flatMap escapeChar ++ stepsText steps

def text (pointer : Pointer) : String := String.ofList (stepsText pointer.steps)

/-- The characters of the first step, up to a slash or the end, and the steps after it. -/
def readSteps : List Char → Option (List Char × List String)
  | [] => some ([], [])
  | '/' :: rest => (readSteps rest).map fun (step, steps) => ([], String.ofList step :: steps)
  | '~' :: '0' :: rest => (readSteps rest).map fun (step, steps) => ('~' :: step, steps)
  | '~' :: '1' :: rest => (readSteps rest).map fun (step, steps) => ('/' :: step, steps)
  | c :: rest =>
    if c = '~' then none else (readSteps rest).map fun (step, steps) => (c :: step, steps)

/-- Reads a pointer: nothing, or steps each after a slash. -/
def ofText? (content : String) : Option Pointer :=
  match readSteps content.toList with
  | some ([], steps) => some ⟨steps⟩
  | _ => none

theorem readSteps_escape (chars tail : List Char) :
    readSteps (chars.flatMap escapeChar ++ tail) =
      (readSteps tail).map fun (step, steps) => (chars ++ step, steps) := by
  induction chars with
  | nil => simp
  | cons c chars ih =>
    simp only [List.flatMap_cons, List.append_assoc]
    by_cases htilde : c = '~'
    · subst htilde
      simp [escapeChar, readSteps, ih, Function.comp_def]
    · by_cases hslash : c = '/'
      · subst hslash
        simp [escapeChar, readSteps, ih, Function.comp_def]
      · simp [escapeChar, htilde, hslash, readSteps, ih, Function.comp_def]

theorem readSteps_stepsText (steps : List String) :
    readSteps (stepsText steps) = some ([], steps) := by
  induction steps with
  | nil => rfl
  | cons step steps ih => simp [stepsText, readSteps, readSteps_escape, ih]

theorem ofText?_text (pointer : Pointer) : ofText? pointer.text = some pointer := by
  simp [ofText?, text, readSteps_stepsText]

/-- The position that a step names: decimal digits without a leading zero. -/
def position? (step : String) : Option Nat :=
  let chars := step.toList
  if chars.isEmpty || !chars.all Char.isDigit || (chars.head? == some '0' && chars.length > 1) then
    none
  else some (chars.foldl (fun value c => value * 10 + (c.toNat - '0'.toNat)) 0)

end Pointer

def child? (document : Json) (step : String) : Option Json :=
  match document with
  | obj members => members.lookup step
  | arr items => (Pointer.position? step).bind (items[·]?)
  | _ => none

def follow? (document : Json) : List String → Option Json
  | [] => some document
  | step :: steps => (document.child? step).bind (·.follow? steps)

def at? (document : Json) (pointer : Pointer) : Option Json := document.follow? pointer.steps

end WebhookOperator.Json
