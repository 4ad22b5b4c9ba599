import SyntaxInspector.Text.Point

/-!
# Byte offsets in a text

Offsets count the bytes of the text's UTF-8 form. A text is handled as its list of characters, so
an offset is legal exactly when some number of leading characters has that many bytes.

* `IsBoundary`, `IsWithin` — offsets between characters, and the spans of two of them;
* `cutAt?` — the two parts of a text at a character boundary;
* `slice?` — the characters between two boundaries;
* `pointAt` — the point of a byte offset.
-/

namespace SyntaxInspector

/-- Number of bytes of a list of characters. -/
def byteLength : List Char → Nat
  | [] => 0
  | c :: cs => c.utf8Size + byteLength cs

@[simp] theorem byteLength_nil : byteLength [] = 0 := rfl

@[simp] theorem byteLength_cons (c : Char) (cs : List Char) :
    byteLength (c :: cs) = c.utf8Size + byteLength cs := rfl

@[simp] theorem byteLength_append (cs ds : List Char) :
    byteLength (cs ++ ds) = byteLength cs + byteLength ds := by
  induction cs with
  | nil => simp
  | cons c cs ih => simp [ih, Nat.add_assoc]

/-! ### Boundaries -/

/-- A span of bytes, from its first to just past its last. -/
abbrev ByteSpan := Nat × Nat

/-- Whether a byte offset is a character boundary of a text. -/
def IsBoundary (text : List Char) (n : Nat) : Prop :=
  ∃ front back, text = front ++ back ∧ byteLength front = n

/-- Whether a span lies between two character boundaries of a text, in order. -/
def IsWithin (text : List Char) (m : ByteSpan) : Prop :=
  ∃ front middle back, text = front ++ middle ++ back ∧
    byteLength front = m.1 ∧ byteLength (front ++ middle) = m.2

theorem IsBoundary.append {text : List Char} {n : Nat} (h : IsBoundary text n) (more : List Char) :
    IsBoundary (text ++ more) n := by
  obtain ⟨front, back, rfl, hn⟩ := h
  exact ⟨front, back ++ more, by simp, hn⟩

theorem IsWithin.append {text : List Char} {m : ByteSpan} (h : IsWithin text m)
    (more : List Char) : IsWithin (text ++ more) m := by
  obtain ⟨front, middle, back, rfl, ha, hb⟩ := h
  exact ⟨front, middle, back ++ more, by simp, ha, hb⟩

/-- Splits a text `n` bytes after its start, or fails when that is inside a character or past the
end. -/
def cutAt? : List Char → Nat → Option (List Char × List Char)
  | cs, 0 => some ([], cs)
  | [], _ + 1 => none
  | c :: cs, n + 1 =>
    if c.utf8Size ≤ n + 1 then
      (cutAt? cs (n + 1 - c.utf8Size)).map fun (front, back) => (c :: front, back)
    else none

/-- A cut loses nothing and falls where it was asked for. -/
theorem cutAt?_eq_some {cs front back : List Char} {n : Nat} (h : cutAt? cs n = some (front, back)) :
    front ++ back = cs ∧ byteLength front = n := by
  fun_induction cutAt? cs n generalizing front with
  | case1 => simp_all
  | case2 => simp at h
  | case3 c cs n hc ih =>
    obtain ⟨⟨front', back'⟩, hcut, heq⟩ := Option.map_eq_some_iff.1 h
    cases heq
    obtain ⟨happ, hlen⟩ := ih hcut
    exact ⟨by rw [List.cons_append, happ], by rw [byteLength_cons, hlen]; omega⟩
  | case4 => simp at h

/-- The characters from byte `a` to byte `b`; `none` unless both are character boundaries of the
text and `a ≤ b`. -/
def sliceChars? (cs : List Char) (a b : Nat) : Option (List Char) :=
  if a ≤ b then do
    let (_, back) ← cutAt? cs a
    let (front, _) ← cutAt? back (b - a)
    return front
  else none

/-- The piece of a text from byte `a` to byte `b`, if both are character boundaries in order. -/
def slice? (text : String) (a b : Nat) : Option String :=
  (sliceChars? text.toList a b).map String.ofList

/-! ### Points of offsets -/

/-- The last character boundary at or before byte `n` of a text, looked for from there back. -/
def lastBoundary (cs : List Char) : Nat → Nat
  | 0 => 0
  | n + 1 => if (cutAt? cs (n + 1)).isSome then n + 1 else lastBoundary cs n

/-- The characters before byte `offset` of a text. An offset inside a character counts as the
character's start, one past the end as the end. -/
def charsBefore (cs : List Char) (offset : Nat) : List Char :=
  ((cutAt? cs (lastBoundary cs (min offset (byteLength cs)))).map (·.1)).getD []

/-- The point of byte `offset` of a text that starts at `base`. -/
def pointAt (text : String) (base : Point) (offset : Nat) : Point :=
  base.afterChars (charsBefore text.toList offset)

/-- The point just past a text. -/
def endPoint (text : String) : Point := Point.zero.advance text

/-- The range of a whole text. -/
def extentOf (text : String) : Range := ⟨.zero, endPoint text⟩

end SyntaxInspector
