import CameraControl.Proofs.Toml.Lines

/-
  Writing fields one after another.

  An encoder gets the fields of a record in their order and writes each at once. A table lasts until
  the text ends, so a value that comes after one would fall into it: such a record has no text.
  Records whose values all come before their table have one.
-/

namespace CameraControl.Toml

/-- What a field is written as: a value on its own line, or a table with its lines. -/
inductive Item where
  | value (text : String)
  | table (lines : List (String × String))

/-- The text of the fields that are set, in their order. `started` tells whether something has been
    written, `inTable` whether a table has. -/
def encodeFrom? : Bool → Bool → List (String × Option Item) → Option String
  | _, _, [] => some ""
  | started, inTable, (_, none) :: rest => encodeFrom? started inTable rest
  | _, inTable, (name, some (.value text)) :: rest =>
    if inTable then none
    else (encodeFrom? true false rest).map (Settings.renderLines [(name, text)] ++ ·)
  | started, _, (name, some (.table lines)) :: rest =>
    (encodeFrom? true true rest).map (tableText started name lines ++ ·)

/-- The text of a record, given its fields in their order. -/
def encode? (fields : List (String × Option Item)) : Option String :=
  encodeFrom? false false fields

/-- The fields that are set. -/
def present {α : Type} (fields : List (String × Option α)) : List (String × α) :=
  fields.filterMap fun p => p.2.map (p.1, ·)

section Present

variable {α β : Type}

@[simp] theorem present_nil : present ([] : List (String × Option α)) = [] := rfl

@[simp] theorem present_none (name : String) (rest : List (String × Option α)) :
    present ((name, none) :: rest) = present rest := rfl

@[simp] theorem present_some (name : String) (a : α) (rest : List (String × Option α)) :
    present ((name, some a) :: rest) = (name, a) :: present rest := rfl

theorem present_append (fields more : List (String × Option α)) :
    present (fields ++ more) = present fields ++ present more := List.filterMap_append

theorem present_map (f : α → β) (fields : List (String × Option α)) :
    present (fields.map fun p => (p.1, p.2.map f))
      = (present fields).map fun p => (p.1, f p.2) := by
  induction fields with
  | nil => rfl
  | cons p fields ih =>
    obtain ⟨name, value⟩ := p
    cases value <;> simp [ih]

/-- The names of the fields that are set stand in the order of the fields. -/
theorem map_fst_present_sublist (fields : List (String × Option α)) :
    ((present fields).map Prod.fst).Sublist (fields.map Prod.fst) := by
  induction fields with
  | nil => exact .slnil
  | cons p fields ih =>
    obtain ⟨name, value⟩ := p
    cases value with
    | none => exact ih.cons name
    | some a => exact ih.cons_cons name

/-- Looking for a field among those that are set, if each name stands once. -/
theorem lookup_present {fields : List (String × Option α)} (h : (fields.map Prod.fst).Nodup)
    (name : String) : (present fields).lookup name = (fields.lookup name).join := by
  induction fields with
  | nil => rfl
  | cons p fields ih =>
    obtain ⟨key, value⟩ := p
    obtain ⟨hkey, hrest⟩ := List.nodup_cons.mp h
    by_cases heq : name = key
    · subst heq
      cases value with
      | none =>
        have hnone : (present fields).lookup name = none := by
          refine List.lookup_eq_none_iff.mpr fun p hp => bne_iff_ne.mpr fun hname => hkey ?_
          exact (map_fst_present_sublist fields).mem (List.mem_map.mpr ⟨p, hp, hname.symm⟩)
        simp [hnone]
      | some a => simp
    · have hne : (name == key) = false := beq_false_of_ne heq
      cases value <;> simp [List.lookup_cons, hne, ih hrest]

end Present

theorem renderLines_cons (l : String × String) (ls : List (String × String)) :
    Settings.renderLines (l :: ls) = Settings.renderLines [l] ++ Settings.renderLines ls := by
  simp [Settings.renderLines]

/-- The fields of scalars. -/
def scalarItems (scalars : List (String × Option Scalar)) : List (String × Option Item) :=
  scalars.map fun p => (p.1, p.2.map fun x => .value x.text)

/-- Scalars are written as their lines, whatever comes after them. -/
theorem encodeFrom?_scalarItems (started : Bool) (scalars : List (String × Option Scalar))
    (rest : List (String × Option Item)) :
    encodeFrom? started false (scalarItems scalars ++ rest)
      = (encodeFrom? (started || !(present scalars).isEmpty) false rest).map
          (Settings.renderLines (written (present scalars)) ++ ·) := by
  induction scalars generalizing started with
  | nil =>
    have hempty : Settings.renderLines [] = "" := rfl
    simp [scalarItems, written, hempty]
  | cons p scalars ih =>
    obtain ⟨name, value⟩ := p
    cases value with
    | none => exact ih started
    | some x =>
      have hrest := ih true
      rw [Bool.true_or] at hrest
      have hline : Settings.renderLines (written (present ((name, some x) :: scalars)))
          = Settings.renderLines [(name, x.text)]
            ++ Settings.renderLines (written (present scalars)) := renderLines_cons _ _
      calc encodeFrom? started false (scalarItems ((name, some x) :: scalars) ++ rest)
          = (encodeFrom? true false (scalarItems scalars ++ rest)).map
              (Settings.renderLines [(name, x.text)] ++ ·) := rfl
        _ = (encodeFrom? true false rest).map
              (Settings.renderLines (written (present ((name, some x) :: scalars))) ++ ·) := by
            rw [hrest, Option.map_map, hline]
            congr 1
            funext s
            exact (String.append_assoc).symm
        _ = _ := by simp

/-- A record whose table stands behind its values has a text. -/
theorem encode?_scalars_table (scalars : List (String × Option Scalar)) (name : String)
    (table? : Option (List (String × String))) :
    encode? (scalarItems scalars ++ [(name, table?.map .table)])
      = some (Settings.renderLines (written (present scalars)) ++
          (table?.map (tableText (!(present scalars).isEmpty) name)).getD "") := by
  rw [encode?, encodeFrom?_scalarItems, Bool.false_or]
  cases table? with
  | none => rfl
  | some lines => simp [encodeFrom?]

/-- Behind a table no value can be written. -/
theorem encodeFrom?_value_of_inTable (started : Bool) (before after : List (String × Option Item))
    (name text : String) :
    encodeFrom? started true (before ++ (name, some (.value text)) :: after) = none := by
  induction before generalizing started with
  | nil => rfl
  | cons p before ih =>
    obtain ⟨key, item⟩ := p
    rcases item with - | - | lines
    · exact ih started
    · rfl
    · exact congrArg (Option.map _) (ih true)

/-- A record with a value somewhere behind a table has no text. -/
theorem encode?_value_behind_table (fields between after : List (String × Option Item))
    (tableName name text : String) (lines : List (String × String)) :
    encode? (fields ++ (tableName, some (.table lines)) ::
      (between ++ (name, some (.value text)) :: after)) = none := by
  have hbehind := encodeFrom?_value_of_inTable true between after name text
  have hfrom : ∀ started inTable, encodeFrom? started inTable
      (fields ++ (tableName, some (.table lines)) ::
        (between ++ (name, some (.value text)) :: after)) = none := by
    induction fields with
    | nil => exact fun started inTable => congrArg (Option.map _) hbehind
    | cons p fields ih =>
      intro started inTable
      obtain ⟨key, item⟩ := p
      rcases item with - | - | tableLines
      · exact ih started inTable
      · cases inTable with
        | true => rfl
        | false => exact congrArg (Option.map _) (ih true false)
      · exact congrArg (Option.map _) (ih true true)
  exact hfrom false false

end CameraControl.Toml
