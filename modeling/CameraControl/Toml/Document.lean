import CameraControl.Toml.Section

/-
  What the sections of a text mean together.

  Headers that begin alike belong to the same table. A header may stand once; it may come after
  headers that are longer; and a header in double brackets adds a table to an array. The result
  keeps the pairs of a table in the order of their sections, and it may repeat a key: whoever uses
  the table decides whether that matters.
-/

namespace CameraControl.Toml

/-- The sections up to the next one that satisfies a test, and the rest. -/
def untilNext (p : Section → Bool) (sections : List Section) : List Section × List Section :=
  (sections.takeWhile fun s => !p s, sections.dropWhile fun s => !p s)

/-- Cuts a list in front of every section that satisfies a test. -/
def cutBefore (p : Section → Bool) : Nat → List Section → List (List Section)
  | 0, _ => []
  | _ + 1, [] => []
  | n + 1, s :: rest =>
    (s :: (untilNext p rest).1) :: cutBefore p n (untilNext p rest).2

/-- The pairs of the table at a depth whose sections are given, in a bounded number of steps.
    `seen` is the shortest header that has stood for the table so far, if any. -/
def tablePairs? : Nat → Nat → Option (List String) → List Section →
    Option (List (String × Value))
  | 0, _, _, _ => none
  | _ + 1, _, _, [] => some []
  | n + 1, depth, seen, s :: rest =>
    if seen = some s.header then none
    else
      let seen' := match seen with
        | none => s.header
        | some h => if s.header.length < h.length then s.header else h
      match s.header[depth]? with
      | none =>
        if s.isArray then none
        else (tablePairs? n depth (some seen') rest).map (s.pairs ++ ·)
      | some key =>
        let inside (t : Section) : Bool := t.header[depth]? == some key
        let group := (s :: rest).filter inside
        let value :=
          if s.isArray ∧ s.header.length = depth + 1 then
            let parts := cutBefore (fun t => t.isArray && t.header == s.header) group.length group
            let item? (part : List Section) : Option Value :=
              match part with
              | [] => some (.table .header [])
              | first :: more =>
                (tablePairs? n (depth + 1) (some first.header) more).map fun pairs =>
                  .table .header (first.pairs ++ pairs)
            (parts.mapM item?).map Value.array
          else (tablePairs? n (depth + 1) none group).map (Value.table .header)
        match value with
        | none => none
        | some v =>
          (tablePairs? n depth (some seen') (rest.filter fun t => !inside t)).map ((key, v) :: ·)

/-- The pairs of the outermost table of a list of sections. -/
def documentPairs? (sections : List Section) : Option (List (String × Value)) :=
  let steps := sections.length + (sections.flatMap fun s => s.header).length + 1
  tablePairs? steps 0 none sections

end CameraControl.Toml
