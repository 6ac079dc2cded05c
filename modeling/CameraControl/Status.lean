/-
  Status codes of the camera driver.

  Every call of the driver answers with a 32-bit status. Zero means success. Known codes have
  symbolic names, which error messages show beside the number.
-/

namespace CameraControl

/-- What a call of the driver answers with. -/
abbrev Status := Int32

namespace Status

def success : Status := 0
def notImplemented : Status := 2
def readOnly : Status := 3
def outOfRange : Status := 6
def indexNotAvailable : Status := 7
def invalidHandle : Status := 12
def timedOut : Status := 13
def invalidSize : Status := 15
def stringNotAvailable : Status := 18
def deviceInUse : Status := 38
def hardwareOverflow : Status := 100

/-- What a notification answers when the receiver refused it or broke down. -/
def callbackFailed : Status := 0x0A7D0C0F

/-- What a notification answers when it does not fit the subscription it was delivered to. -/
def callbackMismatch : Status := 0x0A7D0C0E

/-- The names of the codes from zero on. -/
def names : List String :=
  ["AT_SUCCESS", "AT_ERR_NOTINITIALISED", "AT_ERR_NOTIMPLEMENTED", "AT_ERR_READONLY",
   "AT_ERR_NOTREADABLE", "AT_ERR_NOTWRITABLE", "AT_ERR_OUTOFRANGE", "AT_ERR_INDEXNOTAVAILABLE",
   "AT_ERR_INDEXNOTIMPLEMENTED", "AT_ERR_EXCEEDEDMAXSTRINGLENGTH", "AT_ERR_CONNECTION",
   "AT_ERR_NODATA", "AT_ERR_INVALIDHANDLE", "AT_ERR_TIMEDOUT", "AT_ERR_BUFFERFULL",
   "AT_ERR_INVALIDSIZE", "AT_ERR_INVALIDALIGNMENT", "AT_ERR_COMM", "AT_ERR_STRINGNOTAVAILABLE",
   "AT_ERR_STRINGNOTIMPLEMENTED", "AT_ERR_NULL_FEATURE", "AT_ERR_NULL_HANDLE",
   "AT_ERR_NULL_IMPLEMENTED_VAR", "AT_ERR_NULL_READABLE_VAR", "AT_ERR_NULL_READONLY_VAR",
   "AT_ERR_NULL_WRITABLE_VAR", "AT_ERR_NULL_MINVALUE", "AT_ERR_NULL_MAXVALUE",
   "AT_ERR_NULL_VALUE", "AT_ERR_NULL_STRING", "AT_ERR_NULL_COUNT_VAR",
   "AT_ERR_NULL_ISAVAILABLE_VAR", "AT_ERR_NULL_MAXSTRINGLENGTH", "AT_ERR_NULL_EVCALLBACK",
   "AT_ERR_NULL_QUEUE_PTR", "AT_ERR_NULL_WAIT_PTR", "AT_ERR_NULL_PTRSIZE", "AT_ERR_NOMEMORY",
   "AT_ERR_DEVICEINUSE"]

/-- The symbolic name of a status; codes without one share a text that says so. -/
def name (code : Status) : String :=
  let known := if 0 ≤ code.toInt then names[code.toInt.toNat]? else none
  match known with
  | some s => s
  | none => if code = hardwareOverflow then "AT_ERR_HARDWARE_OVERFLOW" else "UNKNOWN ERROR CODE"

example : name invalidHandle = "AT_ERR_INVALIDHANDLE" := by decide +kernel
example : name deviceInUse = "AT_ERR_DEVICEINUSE" := by decide +kernel
example : name (-1) = "UNKNOWN ERROR CODE" := by decide +kernel

end Status

end CameraControl
