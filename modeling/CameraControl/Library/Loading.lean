import CameraControl.Enumeration

/-
  Loading the driver's library.

  The library is looked for at a path that is given outright, in a directory, or in the standard
  place. Loading finds the library, then each function in a fixed order, and then initialises it;
  a library that was initialised is finalised once when it is given up, whatever was done with it
  in between.
-/

namespace CameraControl.Library

/-! ## Where the library is -/

/-- The file name of the library. -/
def fileName : String := "libatcore.so"

/-- The directory in which the library is looked for by default. -/
def standardDirectory : String := "/usr/local/lib"

/-- Where to look for the library. -/
inductive Location where
  | path (path : String)
  | directory (directory : String)
  | standard
  deriving DecidableEq, Repr

/-- A file in a directory; the empty directory is the working directory. -/
def join (directory file : String) : String :=
  if directory.isEmpty || directory.endsWith "/" then directory ++ file
  else directory ++ "/" ++ file

/-- The path of the library. -/
def Location.toPath : Location → String
  | path p => p
  | directory d => join d fileName
  | standard => join standardDirectory fileName

/-! ## What is there -/

/-- A library that exports all functions but the missing ones, and serves a driver. -/
structure Exports where
  missing : List Function
  /-- What its initialisation returns. -/
  initialise : Status
  /-- What its finalisation returns. -/
  finalise : Status
  driver : Driver

/-- What is at the path of the library. -/
inductive File where
  | library (e : Exports)
  /-- A file that is no library. -/
  | garbage
  | absent

/-- Finds a library and all its functions; the first one that is missing is reported. -/
def resolve (path : String) : File → Except Fault Exports
  | .garbage => .error (.libraryNotLoaded path)
  | .absent => .error (.libraryNotLoaded path)
  | .library e =>
    match Function.all.find? e.missing.contains with
    | some f => .error (.missingSymbol path f.symbol)
    | none => .ok e

/-- Loads and initialises a library. Gives the calls of the library as a whole that were made. -/
def load (path : String) (file : File) : Except Fault Exports × List Function :=
  match resolve path file with
  | .error fault => (.error fault, [])
  | .ok e =>
    if e.initialise = Status.success then (.ok e, [.initialiseLibrary])
    else
      (.error (.device "Failed to initialise Andor SDK3 library." e.initialise),
        [.initialiseLibrary])

/-- Does something with a loaded library and gives the library up. -/
def withLibrary {α : Type} (path : String) (file : File) (a : Action α) :
    Except Fault α × List Function :=
  match load path file with
  | (.error fault, calls) => (.error fault, calls)
  | (.ok e, calls) =>
    ((a.exec (World.ofDriver .library e.driver)).1, calls ++ [.finaliseLibrary])

/-- Loads a library, lists the devices that it serves and gives it up. -/
def deviceNames (location : Location) (file : File) :
    Except Fault (List String) × List Function :=
  withLibrary location.toPath file Enumeration.deviceNames

end CameraControl.Library
