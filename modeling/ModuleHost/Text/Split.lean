/-!
# Taking text apart

* `stripFront?`, `stripBack?`: a given text at the start or at the end.
* `splitLast?`: around the last place where a character stands.
* `splitAll`: at every place where a character stands.
* `splitAt?`: around the first place where a text stands.
-/

namespace ModuleHost.Text

/-- The text after `front`, if it starts so. -/
def stripFront? : List Char → List Char → Option (List Char)
  | [], cs => some cs
  | _ :: _, [] => none
  | f :: fs, c :: cs => if f = c then stripFront? fs cs else none

/-- The text before `back`, if it ends so. -/
def stripBack? (back cs : List Char) : Option (List Char) :=
  (stripFront? back.reverse cs.reverse).map List.reverse

/-- What stands before and after the last place of `mark`. -/
def splitLast? (mark : Char) : List Char → Option (List Char × List Char)
  | [] => none
  | c :: cs =>
    match splitLast? mark cs with
    | some (before, after) => some (c :: before, after)
    | none => if c = mark then some ([], cs) else none

/-- The pieces between the places of `mark`, empty ones included. -/
def splitAll (mark : Char) : List Char → List (List Char)
  | [] => [[]]
  | c :: cs =>
    if c = mark then [] :: splitAll mark cs
    else
      match splitAll mark cs with
      | p :: ps => (c :: p) :: ps
      | [] => [[c]]

/-- What stands before and after the first place of a text. -/
def splitAt? (part : List Char) : List Char → Option (List Char × List Char)
  | [] => (stripFront? part []).map (fun rest => ([], rest))
  | c :: cs =>
    match stripFront? part (c :: cs) with
    | some rest => some ([], rest)
    | none => (splitAt? part cs).map (fun x => (c :: x.1, x.2))

theorem stripFront?_eq_some_iff {front cs rest : List Char} :
    stripFront? front cs = some rest ↔ cs = front ++ rest := by
  induction front generalizing cs with
  | nil => simp [stripFront?, eq_comm]
  | cons f fs ih =>
    cases cs with
    | nil => simp [stripFront?]
    | cons c cs =>
      by_cases h : f = c
      · subst h; simp [stripFront?, ih]
      · simp [stripFront?, h, eq_comm]

theorem stripBack?_eq_some_iff {back cs rest : List Char} :
    stripBack? back cs = some rest ↔ cs = rest ++ back := by
  simp only [stripBack?, Option.map_eq_some_iff, stripFront?_eq_some_iff]
  constructor
  · rintro ⟨r, h, rfl⟩
    have := congrArg List.reverse h
    simpa using this
  · rintro rfl
    exact ⟨rest.reverse, by simp, by simp⟩

end ModuleHost.Text
