import CameraControl.Proofs.Number.Integers
import CameraControl.Terminal.Arguments

/-
  Command lines that are read as they were meant.

  A number that is written out as an argument is a value, because it does not begin with a dash,
  and after an equals sign it may begin with one; read as an option's value it is this number again.
  So the line for applying a file to one of some simulated cameras is the request for this,
  `ofArguments_apply`, whatever the two numbers are.
-/

namespace CameraControl.Terminal

/-! ## Numbers -/

theorem readUInt64?_toString (n : UInt64) : readUInt64? (toString n) = some n := by
  have hrepr : toString n = (n.toNat : Int).repr := rfl
  have hlt := n.toNat_lt
  have hread : Integer.read 0 ((1 <<< 64) - 1) false (toString n) = .ok (n.toNat : Int) := by
    rw [hrepr]
    exact Integer.read_repr (by omega) (by omega) (by omega)
  rw [readUInt64?, Integer.readUInt64, hread]
  show some (UInt64.ofNat n.toNat) = some n
  rw [UInt64.ofNat_toNat]

theorem readInt32?_toString (n : Int32) : readInt32? (toString n) = some n := by
  have hrepr : toString n = n.toInt.repr := rfl
  have hlow := n.le_toInt
  have hhigh := n.toInt_lt
  have hread : Integer.readInt64 (toString n) = .ok (Int64.ofInt n.toInt) := by
    have hdigits : Integer.read (1 <<< 63) ((1 <<< 63) - 1) true (toString n) = .ok n.toInt := by
      rw [hrepr]
      exact Integer.read_repr (fun _ => rfl) (by omega) (by omega)
    rw [Integer.readInt64, hdigits]
    rfl
  have hsame : (Int64.ofInt n.toInt).toInt = n.toInt :=
    Int64.toInt_ofInt_of_le (by omega) (by omega)
  have hmin : Int32.minValue.toInt = -2147483648 := by decide
  have hmax : Int32.maxValue.toInt = 2147483647 := by decide
  rw [readInt32?, readBounded?, hread]
  simp only [hsame]
  rw [if_pos (by omega), Option.map_some, Int32.ofInt_toInt]

/-! ## Shapes of arguments -/

/-- What does not begin with a dash is a value. -/
theorem shape_of_head {arg : String} (h : arg.toList.head? ≠ some '-') (allowed : List OptionName)
    (version : Bool) : shape allowed version arg = .value := by
  unfold shape
  split
  next heq => exact absurd (by rw [heq]; rfl) h
  next heq => exact absurd (by rw [heq]; rfl) h
  next heq => exact absurd (by rw [heq]; rfl) h
  next => rfl

/-- A natural number is a value. -/
theorem shape_toString (n : UInt64) (allowed : List OptionName) (version : Bool) :
    shape allowed version (toString n) = .value := by
  refine shape_of_head (fun hhead => ?_) allowed version
  have hwritten : (toString n).toList = Decimal.numeral n.toNat :=
    Integer.toList_repr (n.toNat : Int)
  have hmem : '-' ∈ Decimal.numeral n.toNat := hwritten ▸ List.mem_of_mem_head? hhead
  exact absurd (Decimal.isDigit_of_mem_numeral hmem) (by decide)

/-- An option that is written together with its value. -/
theorem shape_index (version : Bool) (value : String) :
    shape [.mock, .index] version ("--index=" ++ value) = .option .index (some value) := by
  have hlist : ("--index=" ++ value).toList =
      '-' :: '-' :: 'i' :: 'n' :: 'd' :: 'e' :: 'x' :: '=' :: value.toList := by
    rw [String.toList_append]
    rfl
  have hsplit : splitEquals ('i' :: 'n' :: 'd' :: 'e' :: 'x' :: '=' :: value.toList) =
      (['i', 'n', 'd', 'e', 'x'], some value.toList) := rfl
  have hfind : ([.mock, .index] : List OptionName).find?
      (fun o => o.long == String.ofList ['i', 'n', 'd', 'e', 'x']) = some .index := by decide
  rw [shape, hlist]
  show longShape _ _ _ = _
  rw [longShape, hsplit]
  simp only [hfind, Option.map_some, String.ofList_toList]

/-! ## A whole line -/

theorem addOption_mock {p : Parsed} (h : p.simulated = none) (n : UInt64) :
    p.addOption .mock (toString n) = .ok { p with simulated := some n } := by
  rw [Parsed.addOption, readUInt64?_toString, h]
  rfl

theorem addOption_index {p : Parsed} (h : p.index = none) (index : DeviceIndex) :
    p.addOption .index (toString index) = .ok { p with index := some index } := by
  rw [Parsed.addOption, readInt32?_toString, h]
  rfl

/-- The line for applying a file to a simulated camera is the request for this. -/
theorem ofArguments_apply (n : UInt64) (index : DeviceIndex) (path : String)
    (hpath : path.toList.head? ≠ some '-') (hne : path ≠ "") :
    Request.ofArguments ["--mock", toString n, "apply", "--index=" ++ toString index, path] =
      .ok ⟨some n, .apply index path⟩ := by
  have hmock : shape [.mock] true "--mock" = .option .mock none := by decide
  have happly : shape [.mock] true "apply" = .value := by decide
  have hfront : Parsed.empty.readFront
      ["--mock", toString n, "apply", "--index=" ++ toString index, path] =
        .ok ({ Parsed.empty with simulated := some n }, "apply",
          ["--index=" ++ toString index, path]) := by
    rw [Parsed.readFront, hmock]
    dsimp only
    rw [if_pos (shape_toString n _ _), addOption_mock rfl]
    show Parsed.readFront _ _ = _
    rw [Parsed.readFront, happly]
  have haccepts : CommandName.apply.accepts path = true := by
    simpa [CommandName.accepts, String.isEmpty_iff] using hne
  have hread : Parsed.empty.read .apply ["--index=" ++ toString index, path] =
      .ok { Parsed.empty with index := some index, values := [path] } := by
    rw [Parsed.read, CommandName.options, shape_index]
    dsimp only
    rw [addOption_index rfl]
    show Parsed.read _ _ _ = _
    rw [Parsed.read, shape_of_head hpath]
    show (Parsed.addValue _ _ _ >>= _) = _
    rw [Parsed.addValue, haccepts]
    rfl
  rw [Request.ofArguments, hfront]
  show (Parsed.empty.read .apply ["--index=" ++ toString index, path] >>= _) = _
  rw [hread]
  rfl

end CameraControl.Terminal
