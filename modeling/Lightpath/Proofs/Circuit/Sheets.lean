import Lightpath.Circuit.Edit
import Lightpath.Datastore
import Lightpath.Proofs.Document.Text

/-!
# Edits on sheets

Edits that are printed stand one after the other: a heading for each, and below it its document in
the pretty form. From the text the headings are found again, and for each what its document says.
-/

namespace Lightpath.CircuitEdit

/-- What stands above an edit. -/
def heading (datastore : Datastore) : String :=
  "edit-config " ++ datastore.name ++ " default-operation=" ++ DefaultOperation.merge.name

/-- What is printed for an edit. -/
def Step.sheet (datastore : Datastore) (step : Step) : String :=
  "# " ++ heading datastore ++ "\n" ++ (step.body.pretty ++ "\n")

/-- What is printed for edits that are sent one after the other. -/
def sheets (datastore : Datastore) (steps : List Step) : String :=
  String.join (steps.map (·.sheet datastore))

/-- What is read of the documents of edits. -/
def told (steps : List Step) : List Draft := steps.map fun step => Draft.told step.body

/-- Reads one sheet: its heading, which is the rest of the line, and the draft below it. -/
def readSheet? : List Char → Option ((String × Draft) × List Char)
  | '#' :: ' ' :: cs =>
    match Draft.readValue (cs.length + 1) Document.maxDepth (cs.dropWhile (· ≠ '\n')) with
    | some (draft, '\n' :: rest) => some ((String.ofList (cs.takeWhile (· ≠ '\n')), draft), rest)
    | _ => none
  | _ => none

/-- Reads sheets to the end of a text. The fuel bounds their number. -/
def readSheetsWith? : (fuel : Nat) → List Char → Option (List (String × Draft))
  | _, [] => some []
  | 0, _ :: _ => none
  | fuel + 1, c :: cs =>
    match readSheet? (c :: cs) with
    | some (sheet, rest) => (readSheetsWith? fuel rest).map (sheet :: ·)
    | none => none

/-- Reads the sheets of a text. -/
def readSheets? (text : String) : Option (List (String × Draft)) :=
  readSheetsWith? text.toList.length text.toList

section Sheets

variable (datastore : Datastore) (step : Step) (steps more : List Step)

@[simp] theorem sheets_nil : sheets datastore [] = "" := rfl

@[simp] theorem sheets_cons :
    sheets datastore (step :: steps) = step.sheet datastore ++ sheets datastore steps :=
  String.join_cons

@[simp] theorem sheets_append :
    sheets datastore (steps ++ more) = sheets datastore steps ++ sheets datastore more := by
  rw [sheets, List.map_append, String.join_append]
  rfl

theorem heading_one_line : ∀ c ∈ (heading datastore).toList, decide (c ≠ '\n') = true := by
  refine List.all_eq_true.1 ?_
  cases datastore <;> rfl

theorem toList_sheet : (step.sheet datastore).toList =
    '#' :: ' ' :: ((heading datastore).toList ++ '\n' :: (step.body.pretty.toList ++ ['\n'])) := by
  simp [Step.sheet]

end Sheets

variable {step : Step} {steps : List Step}

/-- A sheet is read, whatever stands behind it. -/
theorem readSheet?_sheet (datastore : Datastore) (fits : step.body.levels ≤ Document.maxDepth)
    (rest : List Char) :
    readSheet? ((step.sheet datastore).toList ++ rest) =
      some ((heading datastore, Draft.told step.body), rest) := by
  have line := heading_one_line datastore
  have stop (body : List Char) : ('\n' :: body).takeWhile (· ≠ '\n') = [] := rfl
  have stay (body : List Char) : ('\n' :: body).dropWhile (· ≠ '\n') = '\n' :: body := rfl
  have blank : ∀ c ∈ ['\n'], Document.Blank c := by simp [Document.Blank]
  have closes : Document.Closes ('\n' :: rest) :=
    Document.closes_cons _ (.inr (.inr (.inr (blank _ List.mem_cons_self))))
  have body_read (fuel : Nat) := (Draft.reads_prettyAt fits 0).read fuel _ closes
  rw [toList_sheet, List.cons_append, List.cons_append, readSheet?, List.append_assoc,
    List.cons_append, List.append_assoc, List.singleton_append, List.takeWhile_append_of_pos line,
    List.dropWhile_append_of_pos line, stop, stay, List.append_nil, String.ofList_toList,
    ← List.singleton_append, Draft.readValue_gap blank, Document.pretty, body_read]
  · rfl
  · simp only [List.length_append, List.length_cons]
    omega

theorem readSheetsWith?_sheets (datastore : Datastore) {fuel : Nat}
    (fits : ∀ step ∈ steps, step.body.levels ≤ Document.maxDepth) (enough : steps.length ≤ fuel) :
    readSheetsWith? fuel (sheets datastore steps).toList =
      some ((told steps).map fun draft => (heading datastore, draft)) := by
  induction steps generalizing fuel with
  | nil => cases fuel <;> rfl
  | cons step steps ih =>
    cases fuel with
    | zero => cases enough
    | succ fuel =>
      have first := readSheet?_sheet datastore (fits step List.mem_cons_self)
        (sheets datastore steps).toList
      have others := ih (fun next member => fits next (List.mem_cons_of_mem _ member))
        (Nat.le_of_succ_le_succ enough)
      rw [sheets_cons, String.toList_append]
      rw [toList_sheet, List.cons_append] at first ⊢
      rw [readSheetsWith?, first]
      dsimp only
      rw [others]
      rfl

theorem length_le_length_sheets (datastore : Datastore) (steps : List Step) :
    steps.length ≤ (sheets datastore steps).toList.length := by
  induction steps with
  | nil => exact Nat.le_refl 0
  | cons step steps ih =>
    rw [sheets_cons, String.toList_append, toList_sheet, List.length_append, List.length_cons,
      List.length_cons]
    omega

/-- What is printed for edits is read as what their documents say, below their headings. -/
theorem readSheets?_sheets (datastore : Datastore)
    (fits : ∀ step ∈ steps, step.body.levels ≤ Document.maxDepth) :
    readSheets? (sheets datastore steps) =
      some ((told steps).map fun draft => (heading datastore, draft)) :=
  readSheetsWith?_sheets datastore fits (length_le_length_sheets datastore steps)

end Lightpath.CircuitEdit
