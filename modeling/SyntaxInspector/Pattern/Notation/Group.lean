import SyntaxInspector.Pattern.Notation.Flags

/-!
# Groups in patterns

What an opening parenthesis starts: a numbered, a named or a plain group, or new flags. Look-around
is refused.

* `Opening` — what a parenthesis starts;
* `opening?` — reads it.
-/

namespace SyntaxInspector

namespace Pattern

/-- The kinds of groups. -/
inductive GroupKind where
  /-- Only holds together what is inside. -/
  | plain
  /-- Has a number. -/
  | numbered
  /-- Has a number and a name. -/
  | named (name : String)

namespace GroupKind

/-- The name of a group that has one. -/
def name? : GroupKind → Option String
  | .named name => some name
  | _ => none

/-- How many numbers a group takes. -/
def count : GroupKind → Nat
  | .plain => 0
  | _ => 1

end GroupKind

/-- What an opening parenthesis starts. -/
inductive Opening where
  /-- A group, with the flags for its inside. -/
  | group (flags : Flags) (kind : GroupKind)
  /-- New flags for the rest of the enclosing group. -/
  | flags (flags : Flags)

/-- Reads flag letters up to a closing parenthesis or a colon. A letter may occur once, and a minus
sign must be followed by a letter. -/
def flagLetters? (value : Bool) (seen : List Char) (f : Flags) :
    List Char → Option (Opening × List Char)
  | [] => none
  | ')' :: cs =>
    if seen.isEmpty || seen.head? == some '-' then none else some (.flags f, cs)
  | ':' :: cs => if seen.head? == some '-' then none else some (.group f .plain, cs)
  | c :: cs =>
    if seen.contains c then none
    else if c = '-' then flagLetters? false (c :: seen) f cs
    else do flagLetters? value (c :: seen) (← f.set? c value) cs

/-- Reads a group name up to its closing angle bracket. -/
def groupName? (cs : List Char) : Option (String × List Char) :=
  let (name, rest) := cs.span (· ≠ '>')
  let valid := match name with
    | [] => false
    | c :: cs => (c == '_' || isAlphabetic c) &&
        cs.all fun c => c == '_' || c == '.' || c == '[' || c == ']' || isAlphanumeric c
  if valid && !rest.isEmpty then some (String.ofList name, rest.drop 1) else none

/-- Reads what follows an opening parenthesis. -/
def opening? (f : Flags) (cs : List Char) : Option (Opening × List Char) :=
  match f.skip cs with
  | '?' :: '=' :: _ => none
  | '?' :: '!' :: _ => none
  | '?' :: '<' :: '=' :: _ => none
  | '?' :: '<' :: '!' :: _ => none
  | '?' :: 'P' :: '<' :: cs => (groupName? cs).map fun (name, r) => (.group f (.named name), r)
  | '?' :: '<' :: cs => (groupName? cs).map fun (name, r) => (.group f (.named name), r)
  | '?' :: cs => flagLetters? true [] f cs
  | cs => some (.group f .numbered, cs)

end Pattern

end SyntaxInspector
