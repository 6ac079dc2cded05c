import CameraControl.Library.Loading
import CameraControl.Proofs.Camera.Enumerating

/-
  The life of a library.

  A library is searched for its functions, initialised, used and finalised. `Life` lists how far
  this can get, and what is called in each case: besides the two functions about the library as a
  whole, those that whoever uses the library calls in between. A library that was initialised is
  finalised once, after everything else, whatever the use and the finalisation come to; any other is
  never finalised. `withLibrary_life` says so of every use that reaches the driver by calls alone,
  and `library_lives_once` of listing the devices.
-/

namespace CameraControl

/-- Whether a function is about the library as a whole. -/
def Function.isLifecycle : Function → Bool
  | initialiseLibrary | finaliseLibrary => true
  | _ => false

theorem Function.mem_all (f : Function) : f ∈ Function.all := by
  cases f <;> decide

/-- Calls of the driver are about devices. -/
theorem Call.isLifecycle_function (c : Call) : c.function.isLifecycle = false := by
  cases c with
  | feature handle key r =>
    cases r with
    | ask capability => cases capability <;> rfl
    | read reading => cases reading <;> rfl
    | write value => cases value <;> rfl
    | _ => rfl
  | _ => rfl

namespace World

variable {w w' : World}

/-- The log of the driver grows by the functions of calls, and in no other way. -/
theorem Turns.log_grows (h : Turns w w') :
    ∃ calls : List Call, w'.driver.log = (calls.map Call.function).reverse ++ w.driver.log := by
  induction h with
  | refl => exact ⟨[], rfl⟩
  | tail _ h ih =>
    obtain ⟨calls, hcalls⟩ := ih
    cases h with
    | change h =>
      cases h with
      | @take c =>
        refine ⟨calls ++ [c], ?_⟩
        rw [List.map_append, List.reverse_append, List.append_assoc, ← hcalls]
        exact Driver.log_step _ c
      | _ => exact ⟨calls, hcalls⟩
    | script act =>
      refine ⟨calls, hcalls ▸ ?_⟩
      cases act <;> rfl
    | _ => exact ⟨calls, hcalls⟩

end World

theorem Enumeration.deviceNames_turns (w : World) : World.Turns w (deviceNames.exec w).2 := by
  have hcount : deviceCount.Uses fun _ => True := deviceCount_uses
    ⟨fun _ _ _ _ => trivial, fun _ _ _ => trivial, fun _ _ => trivial, fun _ => trivial⟩
  have hfirst : World.Turns w (deviceCount.exec w).2 :=
    (hcount.changes (fun _ _ _ _ => trivial) fun _ _ _ _ => trivial).turns
  exact Action.exec_bind_keeps hfirst fun n w' h => h.trans (modelNames_turns 0 n w')

namespace Library

variable {α : Type} {path : String} {file : File} {a : Action α}

/-! ## What is called -/

/-- The functions that a driver was called for since an earlier moment, in order. -/
def calledSince (d earlier : Driver) : List Function :=
  (d.log.take (d.log.length - earlier.log.length)).reverse

theorem calledSince_eq {d d' : Driver} {calls : List Function}
    (h : d'.log = calls.reverse ++ d.log) : calledSince d' d = calls := by
  have hlength : d'.log.length - d.log.length = calls.reverse.length := by
    rw [h, List.length_append]
    omega
  rw [calledSince, hlength, h, List.take_left, List.reverse_reverse]

/-- All functions that are called while something is done with a library, in order: those about the
    library as a whole, and between them those that the driver is called for. -/
def trace (path : String) (file : File) (a : Action α) : List Function :=
  match load path file with
  | (.error _, calls) => calls
  | (.ok e, calls) =>
    calls ++ calledSince (a.exec (World.ofDriver .library e.driver)).2.driver e.driver
      ++ [.finaliseLibrary]

/-! ## The life of a library -/

/-- How far the life of a library gets when something is to be done with it, the outcome, and the
    functions that are called. -/
inductive Life (path : String) (a : Action α) :
    File → Except Fault α → List Function → Prop where
  /-- There is no library. -/
  | unloaded {file : File} (hfile : ∀ e, file ≠ .library e) :
    Life path a file (.error (.libraryNotLoaded path)) []
  /-- A function is missing, and none that is searched for before it. -/
  | incomplete {e : Exports} {f : Function} {before after : List Function}
      (horder : Function.all = before ++ f :: after) (hmissing : f ∈ e.missing)
      (hbefore : ∀ g ∈ before, g ∉ e.missing) :
    Life path a (.library e) (.error (.missingSymbol path f.symbol)) []
  /-- The library refuses to be initialised. -/
  | refused {e : Exports} (hcomplete : ∀ f, f ∉ e.missing)
      (hstatus : e.initialise ≠ Status.success) :
    Life path a (.library e)
      (.error (.device "Failed to initialise Andor SDK3 library." e.initialise))
      [.initialiseLibrary]
  /-- The library is used, and finalised afterwards. -/
  | used {e : Exports} {calls : List Function} (hcomplete : ∀ f, f ∉ e.missing)
      (hstatus : e.initialise = Status.success)
      (hlog : (a.exec (World.ofDriver .library e.driver)).2.driver.log =
        calls.reverse ++ e.driver.log)
      (hcalls : ∀ f ∈ calls, f.isLifecycle = false) :
    Life path a (.library e) (a.exec (World.ofDriver .library e.driver)).1
      (.initialiseLibrary :: calls ++ [.finaliseLibrary])

/-- Searching a library ends at the first function that is missing, if one is. -/
theorem resolve_library (path : String) (e : Exports) :
    (∃ before f after, Function.all = before ++ f :: after ∧ f ∈ e.missing ∧
      (∀ g ∈ before, g ∉ e.missing) ∧
      resolve path (.library e) = .error (.missingSymbol path f.symbol)) ∨
    ((∀ f, f ∉ e.missing) ∧ resolve path (.library e) = .ok e) := by
  cases hfind : Function.all.find? e.missing.contains with
  | some f =>
    obtain ⟨hmissing, before, after, horder, hbefore⟩ := List.find?_eq_some_iff_append.mp hfind
    refine .inl ⟨before, f, after, horder, List.contains_iff_mem.mp hmissing, fun g hg => ?_, ?_⟩
    · simpa using hbefore g hg
    · rw [resolve, hfind]
  | none =>
    refine .inr ⟨fun f => ?_, by rw [resolve, hfind]⟩
    simpa using List.find?_eq_none.mp hfind f f.mem_all

/-- A use of a library that reaches the driver by calls alone is part of one life. The calls of the
    library as a whole are those about it in the order of all calls. -/
theorem withLibrary_life (path : String) (file : File) {a : Action α}
    (ha : ∀ w : World, w.Turns (a.exec w).2) :
    Life path a file (withLibrary path file a).1 (trace path file a) ∧
      (withLibrary path file a).2 = (trace path file a).filter Function.isLifecycle := by
  cases file with
  | garbage => exact ⟨.unloaded fun _ => File.noConfusion, rfl⟩
  | absent => exact ⟨.unloaded fun _ => File.noConfusion, rfl⟩
  | library e =>
    rcases resolve_library path e with
      ⟨before, f, after, horder, hmissing, hbefore, hresolve⟩ | ⟨hcomplete, hresolve⟩
    · have hload : load path (.library e) = (.error (.missingSymbol path f.symbol), []) := by
        rw [load, hresolve]
      rw [withLibrary, trace, hload]
      exact ⟨.incomplete horder hmissing hbefore, rfl⟩
    by_cases hstatus : e.initialise = Status.success
    · have hload : load path (.library e) = (.ok e, [.initialiseLibrary]) := by
        rw [load, hresolve]
        exact if_pos hstatus
      obtain ⟨calls, hlog⟩ : ∃ calls : List Call,
          (a.exec (World.ofDriver .library e.driver)).2.driver.log =
            (calls.map Call.function).reverse ++ e.driver.log :=
        (ha (World.ofDriver .library e.driver)).log_grows
      -- whoever uses the library reaches the driver, not the library as a whole
      have hcalls : ∀ f ∈ calls.map Call.function, f.isLifecycle = false := by
        intro f hf
        obtain ⟨c, -, rfl⟩ := List.mem_map.mp hf
        exact c.isLifecycle_function
      rw [withLibrary, trace, hload]
      dsimp only
      rw [calledSince_eq hlog]
      refine ⟨.used hcomplete hstatus hlog hcalls, ?_⟩
      have hnone : (calls.map Call.function).filter Function.isLifecycle = [] :=
        List.filter_eq_nil_iff.mpr fun f hf => by simp [hcalls f hf]
      rw [List.filter_append, List.filter_append, hnone]
      rfl
    · have hload : load path (.library e) =
          (.error (.device "Failed to initialise Andor SDK3 library." e.initialise),
            [.initialiseLibrary]) := by
        rw [load, hresolve]
        exact if_neg hstatus
      rw [withLibrary, trace, hload]
      exact ⟨.refused hcomplete hstatus, rfl⟩

/-- Of two functions that are missing with none missing before, both are the first one. -/
theorem first_missing_unique {missing l before before' after after' : List Function}
    {f f' : Function} (h : l = before ++ f :: after) (h' : l = before' ++ f' :: after')
    (hmissing : f ∈ missing) (hmissing' : f' ∈ missing) (hbefore : ∀ g ∈ before, g ∉ missing)
    (hbefore' : ∀ g ∈ before', g ∉ missing) : f = f' := by
  have hfind (before f after) (h : l = before ++ f :: after) (hmissing : f ∈ missing)
      (hbefore : ∀ g ∈ before, g ∉ missing) : l.find? missing.contains = some f :=
    List.find?_eq_some_iff_append.mpr ⟨List.contains_iff_mem.mpr hmissing, before, after, h,
      fun g hg => by simpa using hbefore g hg⟩
  exact Option.some.inj ((hfind before f after h hmissing hbefore).symm.trans
    (hfind before' f' after' h' hmissing' hbefore'))

/-- What is at the path decides on the life of a library. -/
theorem Life.unique {outcome outcome' : Except Fault α} {l l' : List Function}
    (h : Life path a file outcome l) (h' : Life path a file outcome' l') :
    outcome = outcome' ∧ l = l' := by
  cases h with
  | unloaded hfile =>
    cases h' with
    | unloaded => exact ⟨rfl, rfl⟩
    | _ => exact absurd rfl (hfile _)
  | @incomplete e f _ _ horder hmissing hbefore =>
    cases h' with
    | unloaded hfile => exact absurd rfl (hfile _)
    | incomplete horder' hmissing' hbefore' =>
      obtain rfl := first_missing_unique horder horder' hmissing hmissing' hbefore hbefore'
      exact ⟨rfl, rfl⟩
    | refused hcomplete => exact absurd hmissing (hcomplete f)
    | used hcomplete => exact absurd hmissing (hcomplete f)
  | refused hcomplete hstatus =>
    cases h' with
    | unloaded hfile => exact absurd rfl (hfile _)
    | incomplete _ hmissing => exact absurd hmissing (hcomplete _)
    | refused => exact ⟨rfl, rfl⟩
    | used _ hstatus' => exact absurd hstatus' hstatus
  | used hcomplete hstatus hlog =>
    cases h' with
    | unloaded hfile => exact absurd rfl (hfile _)
    | incomplete _ hmissing => exact absurd hmissing (hcomplete _)
    | refused _ hstatus' => exact absurd hstatus hstatus'
    | used _ _ hlog' =>
      obtain rfl := (calledSince_eq hlog).symm.trans (calledSince_eq hlog')
      exact ⟨rfl, rfl⟩

/-! ## Listing the devices -/

/-- Listing the devices that a library serves is part of one life of the library, and of no other.
    Whatever is at the path, whichever functions are missing, and whatever the library returns: the
    outcome is the fault with which loading ends, or that of the enumeration. -/
theorem library_lives_once (location : Location) (file : File) :
    ∃ calls, Life location.toPath Enumeration.deviceNames file (deviceNames location file).1 calls ∧
      (deviceNames location file).2 = calls.filter Function.isLifecycle ∧
      ∀ outcome calls', Life location.toPath Enumeration.deviceNames file outcome calls' →
        outcome = (deviceNames location file).1 ∧ calls' = calls := by
  obtain ⟨hlife, hlifecycle⟩ := withLibrary_life location.toPath file Enumeration.deviceNames_turns
  exact ⟨_, hlife, hlifecycle, fun outcome calls' h => h.unique hlife⟩

/-- A library with one camera, of which the model name cannot be read, and which fails to be
    finalised. -/
example :
    let e : Exports := ⟨[], 0, 5, (Driver.withCameras 1).fail .getString 7⟩
    trace "lib" (.library e) Enumeration.deviceNames =
      [.initialiseLibrary, .getInt, .open, .getString, .close, .finaliseLibrary] := by
  decide +kernel

end Library

end CameraControl
