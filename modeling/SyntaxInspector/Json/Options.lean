import SyntaxInspector.Json.Basic
import SyntaxInspector.Session.Basic

/-!
# Options from JSON

Options are an object with any of their fields, or an array of the first few of them in order.
Fields that are left out keep their defaults and unknown ones are ignored; a value of the wrong type,
null included, makes the whole unreadable.
-/

namespace SyntaxInspector

/-- A reader of one option's value, applied to options read so far. -/
abbrev OptionReader (α : Type) := α → Json → Option α

/-- Reads the fields of an object one after the other, in the order of the readers. -/
def readFields {α : Type} (readers : List (String × OptionReader α)) (json : Json) (start : α) :
    Option α :=
  readers.foldlM (fun options (key, read) =>
    match json.field? key with
    | some value => read options value
    | none => some options) start

/-- Reads the items of an array, one for each reader; there may be fewer items but not more. -/
def readItems {α : Type} : List (String × OptionReader α) → List Json → α → Option α
  | _, [], options => some options
  | [], _ :: _, _ => none
  | (_, read) :: readers, item :: items, options =>
    (read options item).bind (readItems readers items)

/-- Reads options from an object or an array. -/
def readOptions {α : Type} (readers : List (String × OptionReader α)) (json : Json) (start : α) :
    Option α :=
  match json with
  | .obj _ => readFields readers json start
  | .arr items => readItems readers items start
  | _ => none

/-- Reads a truth value. -/
def readFlag {α : Type} (set : α → Bool → α) : OptionReader α
  | options, .bool b => some (set options b)
  | _, _ => none

/-- Reads a positive 64-bit integer. -/
def readInterval {α : Type} (set : α → Interval → α) : OptionReader α
  | options, .int (.ofNat n) => if n ≤ maxWord then (Interval.ofNat? n).map (set options) else none
  | _, _ => none

/-- Render options from JSON. -/
def RenderOptions.ofJson? (json : Json) : Option RenderOptions :=
  readOptions
    [("show-anonymous-nodes", readFlag fun o b => { o with showAnonymous := b }),
     ("yield-interval", readInterval fun o i => { o with yieldInterval := i })]
    json {}

/-- Session options from JSON. -/
def SessionOptions.ofJson? (json : Json) : Option SessionOptions :=
  readOptions
    [("show-anonymous-nodes", readFlag fun o b => { o with showAnonymous := b }),
     ("show-injection-ranges", readFlag fun o b => { o with showInjectionRanges := b }),
     ("yield-interval", readInterval fun o i => { o with yieldInterval := i })]
    json {}

end SyntaxInspector
