import Mathlib.Order.Bounds.Basic
import SyntaxInspector.Language.Suggestion

/-!
# Edit distance

The distance between two lists of characters is the least number of edits that lead from one to the
other, wherever the edits are made and in whatever order. The recursion of `editDistance` takes the
lists apart from the front, and the rows of `tableDistance` grow at the end; that both come to the
same is seen from the edits, which can be read backwards.

* `Edit`, `Edits` — one edit, and a number of them;
* `isLeast_editDistance` — the recursion finds the least number of edits;
* `editDistance_comm`, `editDistance_eq_zero_iff`, `editDistance_reverse` — read off the edits;
* `nextRow_distances` — the invariant of the rows;
* `tableDistance_eq` — the rows come to the edit distance.
-/

namespace SyntaxInspector

/-! ### Edits -/

/-- One edit: a character more, one less, or another one in its place. -/
inductive Edit : List Char → List Char → Prop where
  /-- Inserts a character. -/
  | insert (front back : List Char) (c : Char) : Edit (front ++ back) (front ++ c :: back)
  /-- Deletes a character. -/
  | delete (front back : List Char) (c : Char) : Edit (front ++ c :: back) (front ++ back)
  /-- Puts a character in the place of another one. -/
  | substitute (front back : List Char) (c d : Char) :
    Edit (front ++ c :: back) (front ++ d :: back)

/-- A number of edits, one after the other. -/
inductive Edits : Nat → List Char → List Char → Prop where
  /-- No edit. -/
  | refl (as : List Char) : Edits 0 as as
  /-- An edit, and those that follow. -/
  | step {n : Nat} {as bs cs : List Char} (h : Edit as bs) (hs : Edits n bs cs) :
    Edits (n + 1) as cs

variable {n : Nat} {as bs cs : List Char}

theorem Edit.symm (h : Edit as bs) : Edit bs as := by
  cases h with
  | insert front back c => exact .delete front back c
  | delete front back c => exact .insert front back c
  | substitute front back c d => exact .substitute front back d c

theorem Edit.cons (c : Char) (h : Edit as bs) : Edit (c :: as) (c :: bs) := by
  cases h with
  | insert front back d => exact .insert (c :: front) back d
  | delete front back d => exact .delete (c :: front) back d
  | substitute front back d e => exact .substitute (c :: front) back d e

theorem Edit.reverse (h : Edit as bs) : Edit as.reverse bs.reverse := by
  cases h with
  | insert front back c => simpa using Edit.insert back.reverse front.reverse c
  | delete front back c => simpa using Edit.delete back.reverse front.reverse c
  | substitute front back c d => simpa using Edit.substitute back.reverse front.reverse c d

namespace Edits

theorem concat (hs : Edits n as bs) (h : Edit bs cs) : Edits (n + 1) as cs := by
  induction hs with
  | refl as => exact .step h (.refl cs)
  | step h' _ ih => exact .step h' (ih h)

theorem symm (hs : Edits n as bs) : Edits n bs as := by
  induction hs with
  | refl as => exact .refl as
  | step h _ ih => exact ih.concat h.symm

theorem cons (c : Char) (hs : Edits n as bs) : Edits n (c :: as) (c :: bs) := by
  induction hs with
  | refl as => exact .refl (c :: as)
  | step h _ ih => exact .step (h.cons c) ih

theorem reverse (hs : Edits n as bs) : Edits n as.reverse bs.reverse := by
  induction hs with
  | refl as => exact .refl as.reverse
  | step h _ ih => exact .step h.reverse ih

/-- Of two ways to edit a list there is one with the fewer edits. -/
theorem fewer {m : Nat} (hs : Edits m as bs) (hs' : Edits n as bs) : Edits (min m n) as bs := by
  rcases Nat.le_total m n with hle | hle
  · rwa [Nat.min_eq_left hle]
  · rwa [Nat.min_eq_right hle]

theorem of_nil (bs : List Char) : Edits bs.length [] bs := by
  induction bs with
  | nil => exact .refl []
  | cons b bs ih => exact ih.concat (.insert [] bs b)

end Edits

/-! ### The recursion finds the least number of edits -/

@[simp] theorem editDistance_nil_left (bs : List Char) : editDistance [] bs = bs.length := by
  rw [editDistance]

@[simp] theorem editDistance_nil_right (as : List Char) : editDistance as [] = as.length := by
  cases as <;> rw [editDistance]

theorem editDistance_cons_cons (a b : Char) (as bs : List Char) :
    editDistance (a :: as) (b :: bs) =
      min (min (editDistance as (b :: bs) + 1) (editDistance (a :: as) bs + 1))
        (editDistance as bs + if a = b then 0 else 1) := by
  rw [editDistance]

/-- As many edits as the recursion says do lead from one list to the other. -/
theorem edits_editDistance (as bs : List Char) : Edits (editDistance as bs) as bs := by
  fun_induction editDistance as bs with
  | case1 bs => exact .of_nil bs
  | case2 a as => exact (Edits.of_nil (a :: as)).symm
  | case3 a as b bs ihdelete ihinsert ihsubstitute =>
    have hdelete : Edits (editDistance as (b :: bs) + 1) (a :: as) (b :: bs) :=
      .step (.delete [] as a) ihdelete
    have hinsert : Edits (editDistance (a :: as) bs + 1) (a :: as) (b :: bs) :=
      ihinsert.concat (.insert [] bs b)
    have hsubstitute : Edits (editDistance as bs + if a = b then 0 else 1) (a :: as) (b :: bs) := by
      by_cases hab : a = b
      · subst hab
        simpa using ihsubstitute.cons a
      · simpa [hab] using Edits.step (.substitute [] as a b) (ihsubstitute.cons b)
    exact (hdelete.fewer hinsert).fewer hsubstitute

theorem editDistance_cons_left_le (a : Char) (as bs : List Char) :
    editDistance (a :: as) bs ≤ editDistance as bs + 1 := by
  cases bs with
  | nil => simp
  | cons b bs =>
    rw [editDistance_cons_cons]
    omega

theorem editDistance_cons_right_le (as : List Char) (b : Char) (bs : List Char) :
    editDistance as (b :: bs) ≤ editDistance as bs + 1 := by
  cases as with
  | nil => simp
  | cons a as =>
    rw [editDistance_cons_cons]
    omega

theorem editDistance_cons_cons_le (a b : Char) (as bs : List Char) :
    editDistance (a :: as) (b :: bs) ≤ editDistance as bs + if a = b then 0 else 1 := by
  rw [editDistance_cons_cons]
  omega

/-- An inserted character takes no list farther away than by one edit. -/
theorem editDistance_le_cons_left (a : Char) (as cs : List Char) :
    editDistance as cs ≤ editDistance (a :: as) cs + 1 := by
  induction cs with
  | nil => simp; omega
  | cons c cs ih =>
    have hright := editDistance_cons_right_le as c cs
    rw [editDistance_cons_cons]
    omega

/-- Nor does a character in the place of another one. -/
theorem editDistance_cons_left_le_cons_left (a b : Char) (as cs : List Char) :
    editDistance (a :: as) cs ≤ editDistance (b :: as) cs + 1 := by
  induction cs with
  | nil => simp
  | cons c cs ih =>
    have hleft := editDistance_cons_left_le a as (c :: cs)
    have hright := editDistance_cons_right_le (a :: as) c cs
    have hboth := editDistance_cons_cons_le a c as cs
    have hcost : (if a = c then 0 else 1) ≤ 1 := by split_ifs <;> simp
    rw [editDistance_cons_cons b]
    omega

/-- What is true of an edit is true of it behind a character that stays. -/
theorem editDistance_cons_le_cons (a : Char)
    (h : ∀ cs, editDistance as cs ≤ editDistance bs cs + 1) (cs : List Char) :
    editDistance (a :: as) cs ≤ editDistance (a :: bs) cs + 1 := by
  induction cs with
  | nil => simpa using h []
  | cons c cs ih =>
    have hleft := editDistance_cons_left_le a as (c :: cs)
    have hright := editDistance_cons_right_le (a :: as) c cs
    have hboth := editDistance_cons_cons_le a c as cs
    have hlonger := h (c :: cs)
    have hshorter := h cs
    rw [editDistance_cons_cons a c bs]
    omega

/-- One edit takes no list nearer than by one. -/
theorem editDistance_le_of_edit (h : Edit as bs) (cs : List Char) :
    editDistance as cs ≤ editDistance bs cs + 1 := by
  cases h with
  | insert front back c =>
    induction front generalizing cs with
    | nil => exact editDistance_le_cons_left c back cs
    | cons a front ih => exact editDistance_cons_le_cons a ih cs
  | delete front back c =>
    induction front generalizing cs with
    | nil => exact editDistance_cons_left_le c back cs
    | cons a front ih => exact editDistance_cons_le_cons a ih cs
  | substitute front back c d =>
    induction front generalizing cs with
    | nil => exact editDistance_cons_left_le_cons_left c d back cs
    | cons a front ih => exact editDistance_cons_le_cons a ih cs

theorem editDistance_self (as : List Char) : editDistance as as = 0 := by
  induction as with
  | nil => simp
  | cons a as ih =>
    have hle := editDistance_cons_cons_le a a as as
    simpa [ih] using hle

/-- No fewer edits than the recursion says lead from one list to the other. -/
theorem editDistance_le_of_edits (hs : Edits n as bs) : editDistance as bs ≤ n := by
  induction hs with
  | refl as => exact Nat.le_of_eq (editDistance_self as)
  | step h _ ih => exact (editDistance_le_of_edit h _).trans (Nat.add_le_add_right ih 1)

/-- The recursion finds the least number of edits. -/
theorem isLeast_editDistance (as bs : List Char) :
    IsLeast {n | Edits n as bs} (editDistance as bs) :=
  ⟨edits_editDistance as bs, fun _ hs => editDistance_le_of_edits hs⟩

theorem editDistance_comm (as bs : List Char) : editDistance as bs = editDistance bs as :=
  Nat.le_antisymm (editDistance_le_of_edits (edits_editDistance bs as).symm)
    (editDistance_le_of_edits (edits_editDistance as bs).symm)

theorem editDistance_eq_zero_iff : editDistance as bs = 0 ↔ as = bs := by
  constructor
  · intro h
    have hs := edits_editDistance as bs
    rw [h] at hs
    cases hs
    rfl
  · rintro rfl
    exact editDistance_self as

theorem editDistance_reverse_le (as bs : List Char) :
    editDistance as.reverse bs.reverse ≤ editDistance as bs :=
  editDistance_le_of_edits (edits_editDistance as bs).reverse

theorem editDistance_reverse (as bs : List Char) :
    editDistance as.reverse bs.reverse = editDistance as bs := by
  refine Nat.le_antisymm (editDistance_reverse_le as bs) ?_
  simpa using editDistance_reverse_le as.reverse bs.reverse

/-- The recursion may as well take the lists apart from the end. -/
theorem editDistance_concat_concat (a b : Char) (as bs : List Char) :
    editDistance (as ++ [a]) (bs ++ [b]) =
      min (min (editDistance as (bs ++ [b]) + 1) (editDistance (as ++ [a]) bs + 1))
        (editDistance as bs + if a = b then 0 else 1) := by
  rw [← editDistance_reverse, ← editDistance_reverse as (bs ++ [b]),
    ← editDistance_reverse (as ++ [a]) bs, ← editDistance_reverse as bs, List.reverse_concat,
    List.reverse_concat, editDistance_cons_cons]

/-! ### The rows -/

/-- A row: the distances from `as` to a list, and to what it becomes as characters are added to it
one by one. -/
def distances (as : List Char) : List Char → List Char → List Nat
  | front, [] => [editDistance as front]
  | front, b :: bs => editDistance as front :: distances as (front ++ [b]) bs

theorem distances_eq_cons (as front bs : List Char) :
    distances as front bs = editDistance as front :: (distances as front bs).tail := by
  cases bs <;> rfl

/-- The cells of a row depend on those of the row above as the distances do. -/
theorem rowCells_distances (a : Char) (as front bs : List Char) :
    rowCells a (editDistance (as ++ [a]) front) bs (distances as front bs) =
      (distances (as ++ [a]) front bs).tail := by
  induction bs generalizing front with
  | nil => rfl
  | cons b bs ih =>
    have hcell : min (min (editDistance as (front ++ [b]) + 1)
        (editDistance (as ++ [a]) front + 1)) (editDistance as front + if a = b then 0 else 1) =
        editDistance (as ++ [a]) (front ++ [b]) := (editDistance_concat_concat a b as front).symm
    rw [distances, distances, List.tail_cons, distances_eq_cons as, rowCells, hcell,
      ← distances_eq_cons as, ih, ← distances_eq_cons]

/-- **The invariant of the rows**: one more character of the first list leads from its row to the
next one. -/
theorem nextRow_distances (a : Char) (as bs : List Char) :
    nextRow bs (distances as [] bs) a = distances (as ++ [a]) [] bs := by
  have hfirst : (distances as [] bs).headD 0 + 1 = editDistance (as ++ [a]) [] := by
    rw [distances_eq_cons]
    simp
  rw [nextRow, hfirst, rowCells_distances, ← distances_eq_cons]

theorem foldl_nextRow (as as' bs : List Char) :
    as'.foldl (nextRow bs) (distances as [] bs) = distances (as ++ as') [] bs := by
  induction as' generalizing as with
  | nil => simp
  | cons a as' ih =>
    rw [List.foldl_cons, nextRow_distances, ih, List.append_assoc, List.singleton_append]

/-- The first row counts. -/
theorem distances_nil (front bs : List Char) :
    distances [] front bs = List.range' front.length (bs.length + 1) := by
  induction bs generalizing front with
  | nil => simp [distances]
  | cons b bs ih =>
    rw [distances, ih, editDistance_nil_left, List.length_append, List.length_singleton]
    rfl

theorem getLast?_distances (as front bs : List Char) :
    (distances as front bs).getLast? = some (editDistance as (front ++ bs)) := by
  induction bs generalizing front with
  | nil => simp [distances]
  | cons b bs ih =>
    rw [distances, distances_eq_cons, List.getLast?_cons_cons, ← distances_eq_cons, ih,
      List.append_assoc, List.singleton_append]

/-- The last cell of the last row is the edit distance, and where no rows are needed the distance is
a length. -/
theorem tableDistance_eq (as bs : List Char) : tableDistance as bs = editDistance as bs := by
  have hrange : List.range (bs.length + 1) = distances [] [] bs := by
    rw [distances_nil, List.range_eq_range']
    rfl
  unfold tableDistance
  split_ifs with has hbs
  · rw [List.isEmpty_iff.1 has, editDistance_nil_left]
  · rw [List.isEmpty_iff.1 hbs, editDistance_nil_right]
  · rw [hrange, foldl_nextRow, getLast?_distances]
    rfl

end SyntaxInspector
